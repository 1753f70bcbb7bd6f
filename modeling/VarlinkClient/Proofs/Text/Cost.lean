/-
What lines at least cost can be like.

A line costs more the further it is from the width, on either side, and the cost is convex in the
columns that the line takes; so the charges only favour later rows to the right
(`isMonge_charge`).  At least cost no line costs more than the two lines that it could be broken
into.  A line that is too wide would be broken where its first part just fits, unless the blanks
that this leaves cost more than the columns beyond the width: that bounds these columns, and below
a width of 28 there are none (`overflow_le`).
-/
import Mathlib.Tactic.Linarith
import VarlinkClient.Proofs.Text.Minima
import VarlinkClient.Text.Wrap

namespace VarlinkClient.Wrap

/-! ### Columns of lines -/

/-- The columns that pieces take, with the blanks after them. -/
def extent (pieces : List Piece) : Nat :=
  (pieces.map fun piece => piece.width + piece.blanks).sum

theorem extent_append (pieces others : List Piece) :
    extent (pieces ++ others) = extent pieces + extent others := by
  simp [extent]

/-- Where a piece begins, when all stand on one line. -/
def begins (pieces : List Piece) (i : Nat) : Nat :=
  extent (pieces.take i)

/-- Where the piece before a place ends, without the blanks after it. -/
def ends (pieces : List Piece) (j : Nat) : Nat :=
  begins pieces j - ((pieces[j - 1]?).map Piece.blanks).getD 0

/-- The columns of a line of the pieces from `i` to before `j`. -/
def lineWidth (pieces : List Piece) (i j : Nat) : Nat :=
  ends pieces j - begins pieces i

theorem begins_succ {pieces : List Piece} {i : Nat} (h : i < pieces.length) :
    begins pieces (i + 1) = begins pieces i + (pieces[i].width + pieces[i].blanks) := by
  rw [begins, List.take_add_one, List.getElem?_eq_getElem h, extent_append]
  simp [begins, extent]

theorem begins_mono (pieces : List Piece) {i j : Nat} (h : i ≤ j) :
    begins pieces i ≤ begins pieces j := by
  have hsplit : pieces.take j = pieces.take i ++ (pieces.take j).drop i := by
    conv_lhs => rw [← List.take_append_drop i (pieces.take j), List.take_take, Nat.min_eq_left h]
  rw [begins, begins, hsplit, extent_append]
  exact Nat.le_add_right _ _

theorem ends_succ {pieces : List Piece} {i : Nat} (h : i < pieces.length) :
    ends pieces (i + 1) = begins pieces i + pieces[i].width := by
  rw [ends, begins_succ h, Nat.add_sub_cancel, List.getElem?_eq_getElem h, Option.map_some,
    Option.getD_some]
  omega

/-- A piece ends where it ends, and the next does not begin before. -/
theorem ends_le_begins (pieces : List Piece) (j : Nat) : ends pieces j ≤ begins pieces j :=
  Nat.sub_le _ _

theorem begins_le_ends (pieces : List Piece) {i j : Nat} (h : i < j) (hj : j ≤ pieces.length) :
    begins pieces i ≤ ends pieces j := by
  obtain ⟨k, rfl⟩ : ∃ k, j = k + 1 := ⟨j - 1, by omega⟩
  rw [ends_succ (by omega)]
  exact Nat.le_add_right_of_le (begins_mono pieces (Nat.le_of_lt_succ h))

/-- A line from an earlier piece on has the columns up to the later one as well. -/
theorem lineWidth_eq_add {pieces : List Piece} {i k j : Nat} (hik : i ≤ k) (hkj : k < j)
    (hj : j ≤ pieces.length) :
    lineWidth pieces i j = (begins pieces k - begins pieces i) + lineWidth pieces k j := by
  have hbegins := begins_mono pieces hik
  have hends := begins_le_ends pieces hkj hj
  rw [lineWidth, lineWidth]
  omega

theorem lineWidth_le (pieces : List Piece) (i k : Nat) :
    lineWidth pieces i k ≤ begins pieces k - begins pieces i :=
  Nat.sub_le_sub_right (ends_le_begins pieces k) _

/-- A line of one piece is as wide as the piece. -/
theorem lineWidth_succ {pieces : List Piece} {i : Nat} (h : i < pieces.length) :
    lineWidth pieces i (i + 1) = pieces[i].width := by
  rw [lineWidth, ends_succ h, Nat.add_sub_cancel_left]

/-! ### Costs -/

theorem offsets_getElem? (pieces : List Piece) : ∀ (start : Nat) {i : Nat}, i ≤ pieces.length →
    (offsets start pieces)[i]? = some (start + begins pieces i) := by
  induction pieces with
  | nil =>
      intro start i hi
      obtain rfl : i = 0 := Nat.le_zero.mp hi
      rfl
  | cons piece rest ih =>
      intro start i hi
      rw [offsets]
      cases i with
      | zero => rfl
      | succ i =>
          rw [List.getElem?_cons_succ, ih _ (by simpa using hi)]
          simp [begins, extent, Nat.add_assoc]

/-- What a line costs besides: the empty columns at its end, or on the last line a piece that is
short. -/
def slackCost (target count i j width : Nat) : Nat :=
  if j < count then (target - width) * (target - width)
  else if i + 1 = j ∧ 4 * width < target then shortLastLineCost
  else 0

/-- A line costs something, and more for columns beyond the width. -/
theorem charge_eq (limit : Nat) {pieces : List Piece} {i j : Nat} (hi : i ≤ pieces.length)
    (hj : j ≤ pieces.length) :
    charge limit pieces.toArray (offsets 0 pieces).toArray i j =
      lineCost + (lineWidth pieces i j - max limit 1) * overflowCost +
        slackCost (max limit 1) pieces.length i j (lineWidth pieces i j) := by
  have hwidth : (offsets 0 pieces).toArray.getD j 0 - (offsets 0 pieces).toArray.getD i 0 -
      ((pieces.toArray[j - 1]?).map Piece.blanks).getD 0 = lineWidth pieces i j := by
    rw [Array.getD_eq_getD_getElem?, Array.getD_eq_getD_getElem?, List.getElem?_toArray,
      List.getElem?_toArray, List.getElem?_toArray, offsets_getElem? pieces 0 hi,
      offsets_getElem? pieces 0 hj, lineWidth, ends, Option.getD_some, Option.getD_some]
    omega
  unfold charge slackCost
  dsimp only
  rw [hwidth, List.size_toArray]
  generalize lineWidth pieces i j = width
  by_cases hover : max limit 1 < width
  · have hslack : max limit 1 - width = 0 := by omega
    have hshort : ¬ (i + 1 = j ∧ 4 * width < max limit 1) := by omega
    rw [if_pos hover, hslack, if_neg hshort]
    split_ifs <;> rfl
  · have hfits : width - max limit 1 = 0 := by omega
    rw [if_neg hover, hfits]
    split_ifs <;> simp

/-! ### Convexity -/

/-- The columns beyond a width are convex in the columns taken. -/
theorem over_convex (target u p q : Nat) :
    (u + p - target) + (u + q - target) ≤ (u + (p + q) - target) + (u - target) := by
  omega

/-- So are the squares of the columns left. -/
theorem gap_convex (target u p q : Nat) :
    (target - (u + p)) * (target - (u + p)) + (target - (u + q)) * (target - (u + q)) ≤
      (target - (u + (p + q))) * (target - (u + (p + q))) + (target - u) * (target - u) := by
  obtain ⟨a, ha⟩ : ∃ a, a = target - u := ⟨_, rfl⟩
  have hp : target - (u + p) = a - p := by omega
  have hq : target - (u + q) = a - q := by omega
  have hpq : target - (u + (p + q)) = a - (p + q) := by omega
  rw [hp, hq, hpq, ← ha]
  by_cases hboth : p + q ≤ a
  · obtain ⟨r, rfl⟩ := Nat.exists_eq_add_of_le hboth
    have hp' : p + q + r - p = q + r := by omega
    have hq' : p + q + r - q = p + r := by omega
    have hpq' : p + q + r - (p + q) = r := by omega
    rw [hp', hq', hpq']
    nlinarith [Nat.zero_le (p * q)]
  · have hsum : a - p + (a - q) ≤ a := by omega
    have hsquare := Nat.mul_le_mul hsum hsum
    nlinarith [Nat.zero_le ((a - p) * (a - q))]

/-- **The charges only favour later rows to the right.** -/
theorem isMonge_charge (limit : Nat) (pieces : List Piece) (last : Nat) :
    Minima.IsMonge (charge limit pieces.toArray (offsets 0 pieces).toArray) last
      (pieces.length + 1) := by
  intro i i' j j' hrow hlast hcol hright hsize
  rw [charge_eq limit (by omega) (by omega), charge_eq limit (by omega) (by omega),
    charge_eq limit (by omega) (by omega), charge_eq limit (by omega) (by omega)]
  have hbegins := begins_mono pieces (Nat.le_of_lt hrow)
  have hinner := begins_le_ends pieces (i := i') (j := j) (by omega) (by omega)
  have hends : ends pieces j ≤ ends pieces j' :=
    Nat.le_trans (ends_le_begins pieces j) (begins_le_ends pieces hright (by omega))
  -- The shortest of the four lines, and what the others have more at either end.
  obtain ⟨p, hp⟩ := Nat.exists_eq_add_of_le hbegins
  obtain ⟨q, hq⟩ := Nat.exists_eq_add_of_le hends
  obtain ⟨u, hu⟩ := Nat.exists_eq_add_of_le hinner
  have h₁ : lineWidth pieces i' j = u := by rw [lineWidth]; omega
  have h₂ : lineWidth pieces i j = u + p := by rw [lineWidth]; omega
  have h₃ : lineWidth pieces i' j' = u + q := by rw [lineWidth]; omega
  have h₄ : lineWidth pieces i j' = u + (p + q) := by rw [lineWidth]; omega
  rw [h₁, h₂, h₃, h₄]
  generalize max limit 1 = target
  have hover := Nat.mul_le_mul_right overflowCost (over_convex target u p q)
  have hslack : slackCost target pieces.length i j (u + p) +
      slackCost target pieces.length i' j' (u + q) ≤
        slackCost target pieces.length i j' (u + (p + q)) +
          slackCost target pieces.length i' j u := by
    unfold slackCost
    rw [if_pos (by omega : j < pieces.length), if_pos (by omega : j < pieces.length)]
    by_cases hfinal : j' < pieces.length
    · rw [if_pos hfinal, if_pos hfinal]
      exact gap_convex target u p q
    · have hgap : target - (u + p) ≤ target - u := by omega
      rw [if_neg hfinal, if_neg hfinal, if_neg (by omega), if_neg (by omega), Nat.zero_add,
        Nat.add_zero]
      exact Nat.mul_le_mul hgap hgap
  rw [Nat.add_mul, Nat.add_mul] at hover
  omega

/-! ### Lines that are too wide -/

/-- A line costs besides no more than an empty line does, or a short last line. -/
theorem slackCost_le (target count i j width : Nat) :
    slackCost target count i j width ≤ target * target ∨
      slackCost target count i j width ≤ shortLastLineCost := by
  unfold slackCost
  split_ifs
  · exact .inl (Nat.mul_le_mul (Nat.sub_le _ _) (Nat.sub_le _ _))
  · exact .inr (Nat.le_refl _)
  · exact .inr (Nat.zero_le _)

theorem slackCost_inner {count j : Nat} (h : j < count) (target i width : Nat) :
    slackCost target count i j width ≤ target * target := by
  rw [slackCost, if_pos h]
  exact Nat.mul_le_mul (Nat.sub_le _ _) (Nat.sub_le _ _)

theorem slackCost_over {target width : Nat} (h : target < width) (count i j : Nat) :
    slackCost target count i j width = 0 := by
  have hshort : ¬ (i + 1 = j ∧ 4 * width < target) := by omega
  rw [slackCost, if_neg hshort, Nat.sub_eq_zero_of_le (Nat.le_of_lt h)]
  split_ifs <;> rfl

/-- The bound on the columns beyond the width, from what a break saves. -/
theorem bound_of_slack {limit beyond slack : Nat} (hbeyond : 0 < beyond)
    (hslack : slack ≤ limit * limit ∨ slack ≤ shortLastLineCost) {first : Nat}
    (hfirst : first ≤ limit * limit)
    (hle : beyond * overflowCost ≤ lineCost + first + slack ∨
      (∃ skipped, skipped * overflowCost ≤ lineCost + first ∧
        beyond * overflowCost ≤ skipped * overflowCost + lineCost + slack)) :
    28 ≤ limit ∧ beyond * overflowCost ≤ 2 * lineCost + 2 * (limit * limit) := by
  have hfour : limit ≤ 4 → limit * limit ≤ 16 := fun h => Nat.mul_le_mul h h
  have hfive : 5 ≤ limit → 25 ≤ limit * limit := fun h => Nat.mul_le_mul h h
  have hsmall : limit ≤ 27 → limit * limit ≤ 729 := fun h => Nat.mul_le_mul h h
  generalize limit * limit = square at *
  simp only [lineCost, overflowCost, shortLastLineCost] at *
  rcases hle with hle | ⟨skipped, hskipped, hle⟩
  · omega
  · omega

/-- A line that is too wide has a first part that just fits. -/
theorem exists_fitting {pieces : List Piece} {limit i j : Nat}
    (hfits : ∀ piece ∈ pieces, piece.width ≤ limit) (hij : i < j) (hj : j ≤ pieces.length)
    (hwide : limit < lineWidth pieces i j) :
    ∃ k, i < k ∧ k < j ∧ lineWidth pieces i k ≤ limit ∧ limit < lineWidth pieces i (k + 1) := by
  induction j with
  | zero => exact absurd hij (Nat.not_lt_zero i)
  | succ k ih =>
      by_cases hfirst : i = k
      · subst hfirst
        have hpiece := hfits pieces[i] (List.getElem_mem (by omega))
        rw [lineWidth_succ (by omega)] at hwide
        omega
      · by_cases hfit : lineWidth pieces i k ≤ limit
        · exact ⟨k, by omega, Nat.lt_succ_self k, hfit, hwide⟩
        · obtain ⟨k', hi, hk, hfound⟩ := ih (by omega) (by omega) (Nat.lt_of_not_le hfit)
          exact ⟨k', hi, Nat.lt_succ_of_lt hk, hfound⟩

/-- **The columns beyond the width are bounded** in a line that is not cheaper when it is broken:
there are none when the width is small. -/
theorem overflow_le {pieces : List Piece} {limit i j : Nat} (hlimit : 1 ≤ limit)
    (hfits : ∀ piece ∈ pieces, piece.width ≤ limit) (hij : i < j) (hj : j ≤ pieces.length)
    (hbreak : ∀ k, i < k → k < j →
      charge limit pieces.toArray (offsets 0 pieces).toArray i j ≤
        charge limit pieces.toArray (offsets 0 pieces).toArray i k +
          charge limit pieces.toArray (offsets 0 pieces).toArray k j)
    (hwide : limit < lineWidth pieces i j) :
    28 ≤ limit ∧ (lineWidth pieces i j - limit) * overflowCost ≤
      2 * lineCost + 2 * (limit * limit) := by
  have htarget : max limit 1 = limit := by omega
  have hcost : ∀ {a b}, a ≤ pieces.length → b ≤ pieces.length →
      charge limit pieces.toArray (offsets 0 pieces).toArray a b =
        lineCost + (lineWidth pieces a b - limit) * overflowCost +
          slackCost limit pieces.length a b (lineWidth pieces a b) := by
    intro a b ha hb
    rw [charge_eq limit ha hb, htarget]
  obtain ⟨k, hik, hkj, hfit, hnext⟩ := exists_fitting hfits hij hj hwide
  have hover : 0 < lineWidth pieces i j - limit := Nat.sub_pos_of_lt hwide
  have hfirst := slackCost_inner (j := k) (by omega : k < pieces.length) limit i
    (lineWidth pieces i k)
  have hk := hbreak k hik hkj
  rw [hcost (by omega) hj, hcost (by omega) (by omega), hcost (by omega) hj,
    Nat.sub_eq_zero_of_le hfit, slackCost_over hwide] at hk
  by_cases hrest : lineWidth pieces k j ≤ limit
  · -- Both parts fit.
    have hslack := slackCost_le limit pieces.length k j (lineWidth pieces k j)
    rw [Nat.sub_eq_zero_of_le hrest] at hk
    exact bound_of_slack hover hslack hfirst (.inl (by omega))
  · -- The second part is too wide as well, so the first is narrow: break behind the next piece.
    have hpiece := hfits pieces[k] (List.getElem_mem (by omega))
    have hsecond : lineWidth pieces k (k + 1) = pieces[k].width := lineWidth_succ (by omega)
    have hbehind : k + 1 < j := by
      by_contra hnot
      obtain rfl : j = k + 1 := by omega
      omega
    have hk' := hbreak (k + 1) (by omega) hbehind
    have hsplit := lineWidth_eq_add (Nat.le_of_lt hik) hkj hj
    have hsplitNext : lineWidth pieces i (k + 1) =
        (begins pieces k - begins pieces i) + lineWidth pieces k (k + 1) :=
      lineWidth_eq_add (Nat.le_of_lt hik) (Nat.lt_add_one k) (by omega)
    have hsplitBehind := lineWidth_eq_add (i := i) (by omega) hbehind hj
    have hle := lineWidth_le pieces i (k + 1)
    rw [slackCost_over (Nat.lt_of_not_le hrest)] at hk
    rw [hcost (by omega) hj, hcost (by omega) (by omega), hcost (by omega) hj,
      slackCost_over hwide, slackCost_over hnext] at hk'
    have hslack := slackCost_le limit pieces.length (k + 1) j (lineWidth pieces (k + 1) j)
    simp only [lineCost, overflowCost] at hk hk'
    have hlast : lineWidth pieces (k + 1) j ≤ limit := by
      by_contra hnot
      rw [slackCost_over (Nat.lt_of_not_le hnot)] at hk'
      omega
    refine bound_of_slack hover hslack hfirst
      (.inr ⟨begins pieces k - begins pieces i, ?_, ?_⟩)
    · simp only [lineCost, overflowCost]
      omega
    · simp only [lineCost, overflowCost]
      omega

end VarlinkClient.Wrap
