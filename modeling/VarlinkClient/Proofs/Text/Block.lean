/-
The minima of a block of rows and columns.

The search relies on charges that only favour later rows to the right: what a later row is ahead
of an earlier one in a column, it is ahead by at least as much in every column further right
(`IsMonge`).  So a row that loses a column to a later one loses all columns to the right, and a
row that loses a column to an earlier one loses all columns to the left.

Hence the rows that are dropped lose every column to one that is kept (`keepRows_spec`), and
between the minima of every second column few rows are left to look at
(`areMinima_fillBetween`).  Both together find the minima of the block (`areMinima_inBlock`).
-/
import Mathlib.Data.List.Forall2
import Mathlib.Data.List.GetD
import Mathlib.Data.List.Induction
import VarlinkClient.Text.Minima

namespace VarlinkClient.Minima

variable {cost : Nat → Nat → Nat} {last size : Nat}

/-- In rows up to `last` and columns after it, of which there are less than `size`, what a later
row is ahead of an earlier one does not shrink to the right. -/
def IsMonge (cost : Nat → Nat → Nat) (last size : Nat) : Prop :=
  ∀ i i' j j', i < i' → i' ≤ last → last < j → j < j' → j' < size →
    cost i j + cost i' j' ≤ cost i j' + cost i' j

namespace IsMonge

variable {i i' j j' : Nat}

/-- A later row that is no worse in a column is no worse to the right. -/
theorem right (h : IsMonge cost last size) (hrow : i < i') (hlast : i' ≤ last) (hcol : last < j)
    (hright : j ≤ j') (hsize : j' < size) (hle : cost i' j ≤ cost i j) :
    cost i' j' ≤ cost i j' := by
  rcases Nat.eq_or_lt_of_le hright with rfl | hlt
  · exact hle
  · have hmonge := h i i' j j' hrow hlast hcol hlt hsize
    omega

/-- An earlier row that is no worse in a column is no worse to the left. -/
theorem left (h : IsMonge cost last size) (hrow : i < i') (hlast : i' ≤ last) (hcol : last < j)
    (hright : j ≤ j') (hsize : j' < size) (hle : cost i j' ≤ cost i' j') :
    cost i j ≤ cost i' j := by
  rcases Nat.eq_or_lt_of_le hright with rfl | hlt
  · exact hle
  · have hmonge := h i i' j j' hrow hlast hcol hlt hsize
    omega

end IsMonge

/-! ### Rows that can hold a minimum -/

/-- In each of the columns, one of the rows that are kept is no worse than the row. -/
def Covers (cost : Nat → Nat → Nat) (cols kept rows : List Nat) : Prop :=
  ∀ row ∈ rows, ∀ col ∈ cols, ∃ best ∈ kept, cost best col ≤ cost row col

theorem Covers.trans {cols kept rows others : List Nat} (h : Covers cost cols kept rows)
    (h' : Covers cost cols others kept) : Covers cost cols others rows := by
  intro row hrow col hcol
  obtain ⟨better, hbetter, hle⟩ := h row hrow col hcol
  obtain ⟨best, hbest, hle'⟩ := h' better hbetter col hcol
  exact ⟨best, hbest, Nat.le_trans hle' hle⟩

/-- Rows that are kept, last first: each is later than the one below it, and does not win that
one's own column from it. -/
inductive IsStack (cost : Nat → Nat → Nat) (cols : List Nat) : List Nat → Prop
  | nil : IsStack cost cols []
  | single (row : Nat) : IsStack cost cols [row]
  | cons {top next : Nat} {kept : List Nat} (hkept : IsStack cost cols (next :: kept))
      (hlt : next < top)
      (hle : cost next (cols.getD kept.length 0) ≤ cost top (cols.getD kept.length 0)) :
      IsStack cost cols (top :: next :: kept)

section Stack

variable {cols kept : List Nat} {row : Nat}

theorem IsStack.tail {top : Nat} (h : IsStack cost cols (top :: kept)) :
    IsStack cost cols kept := by
  cases h with
  | single => exact .nil
  | cons hkept _ _ => exact hkept

theorem IsStack.sorted (h : IsStack cost cols kept) : kept.Pairwise (· > ·) := by
  induction h with
  | nil => exact .nil
  | single row => exact List.pairwise_singleton _ row
  | @cons top next kept hkept hlt hle ih =>
      refine List.pairwise_cons.mpr ⟨fun k hk => ?_, ih⟩
      rcases List.mem_cons.mp hk with rfl | hk
      · exact hlt
      · exact Nat.lt_trans (List.rel_of_pairwise_cons ih hk) hlt

theorem dropLosers_suffix (cost : Nat → Nat → Nat) (cols : List Nat) (row : Nat)
    (kept : List Nat) : dropLosers cost cols row kept <:+ kept := by
  induction kept with
  | nil => exact List.suffix_rfl
  | cons top kept ih =>
      rw [dropLosers]
      split
      · exact ih.trans (List.suffix_cons top kept)
      · exact List.suffix_rfl

theorem isStack_dropLosers (h : IsStack cost cols kept) (row : Nat) :
    IsStack cost cols (dropLosers cost cols row kept) := by
  induction kept with
  | nil => exact h
  | cons top kept ih =>
      rw [dropLosers]
      split
      · exact ih h.tail
      · exact h

/-- The row that stays on top does not lose its own column. -/
theorem not_loser_of_dropLosers {top : Nat} {rest : List Nat}
    (h : dropLosers cost cols row kept = top :: rest) :
    cost top (cols.getD rest.length 0) ≤ cost row (cols.getD rest.length 0) := by
  induction kept with
  | nil => simp [dropLosers] at h
  | cons first kept ih =>
      rw [dropLosers] at h
      split at h
      · exact ih h
      · next hnot =>
          obtain ⟨rfl, rfl⟩ := List.cons.inj h
          exact Nat.le_of_not_lt hnot

/-- Columns that stand in order, after the last row. -/
structure AreColumns (cols : List Nat) (last size : Nat) : Prop where
  sorted : cols.Pairwise (· < ·)
  after : ∀ col ∈ cols, last < col
  bound : ∀ col ∈ cols, col < size

theorem AreColumns.getD_le (h : AreColumns cols last size) {p q : Nat} (hpq : p ≤ q)
    (hq : q < cols.length) : cols.getD p 0 ≤ cols.getD q 0 := by
  rw [List.getD_eq_getElem _ _ (by omega), List.getD_eq_getElem _ _ hq]
  rcases Nat.eq_or_lt_of_le hpq with rfl | hlt
  · exact Nat.le_refl _
  · exact Nat.le_of_lt (List.pairwise_iff_getElem.mp h.sorted p q (by omega) hq hlt)

theorem AreColumns.after_getD (h : AreColumns cols last size) {p : Nat} (hp : p < cols.length) :
    last < cols.getD p 0 := by
  rw [List.getD_eq_getElem _ _ hp]
  exact h.after _ (List.getElem_mem hp)

theorem AreColumns.getD_lt (h : AreColumns cols last size) {p : Nat} (hp : p < cols.length) :
    cols.getD p 0 < size := by
  rw [List.getD_eq_getElem _ _ hp]
  exact h.bound _ (List.getElem_mem hp)

theorem AreColumns.sublist {others : List Nat} (h : AreColumns cols last size)
    (hsublist : others.Sublist cols) : AreColumns others last size :=
  ⟨h.sorted.sublist hsublist, fun c hc => h.after c (hsublist.subset hc),
    fun c hc => h.bound c (hsublist.subset hc)⟩

/-- A column of the list has a place in it. -/
theorem exists_getD {col : Nat} (h : col ∈ cols) : ∃ p < cols.length, cols.getD p 0 = col := by
  obtain ⟨p, hp, hcol⟩ := List.mem_iff_getElem.mp h
  exact ⟨p, hp, by rw [List.getD_eq_getElem _ _ hp, hcol]⟩

/-- **A row that is dropped loses all columns**: those from its own on to the new row, and those
before to the row below it. -/
theorem covers_dropLosers (hcost : IsMonge cost last size) (hcols : AreColumns cols last size)
    (hrow : row ≤ last) (hstack : IsStack cost cols kept) (hbelow : ∀ k ∈ kept, k < row)
    (hlength : kept.length ≤ cols.length) :
    Covers cost cols (row :: dropLosers cost cols row kept) kept := by
  induction kept with
  | nil => exact fun k hk => absurd hk List.not_mem_nil
  | cons top kept ih =>
      have htop : top < row := hbelow top List.mem_cons_self
      rw [List.length_cons] at hlength
      rw [dropLosers]
      split
      case isFalse => exact fun k hk col _ => ⟨k, List.mem_cons_of_mem _ hk, Nat.le_refl _⟩
      case isTrue hloses =>
        have hkept := ih hstack.tail (fun k hk => hbelow k (List.mem_cons_of_mem _ hk)) (by omega)
        intro k hk col hcol
        rcases List.mem_cons.mp hk with rfl | hk
        · obtain ⟨p, hp, rfl⟩ := exists_getD hcol
          by_cases hplace : kept.length ≤ p
          · refine ⟨row, List.mem_cons_self, ?_⟩
            exact hcost.right htop hrow (hcols.after_getD (by omega)) (hcols.getD_le hplace hp)
              (hcols.getD_lt hp) (Nat.le_of_lt hloses)
          · cases hstack with
            | single => simp at hplace
            | @cons _ next rest _ hlt hle =>
                rw [List.length_cons] at hplace hlength
                have hnext : cost next (cols.getD p 0) ≤ cost k (cols.getD p 0) :=
                  hcost.left hlt (by omega) (hcols.after_getD hp)
                    (hcols.getD_le (by omega : p ≤ rest.length) (by omega))
                    (hcols.getD_lt (by omega)) hle
                obtain ⟨best, hbest, hle'⟩ := hkept next List.mem_cons_self _ hcol
                exact ⟨best, hbest, Nat.le_trans hle' hnext⟩
        · exact hkept k hk col hcol

end Stack

/-- The rows that are kept of those that have been looked at. -/
structure Kept (cost : Nat → Nat → Nat) (cols rows kept : List Nat) : Prop where
  stack : IsStack cost cols kept
  length : kept.length ≤ cols.length
  subset : kept ⊆ rows
  covers : Covers cost cols kept rows

namespace Kept

variable {cols rows kept : List Nat}

theorem nil (cost : Nat → Nat → Nat) (cols : List Nat) : Kept cost cols [] [] :=
  ⟨.nil, Nat.zero_le _, List.Subset.refl _, fun _ h => absurd h List.not_mem_nil⟩

/-- **One more row** is kept, or is covered. -/
theorem keepRow (h : Kept cost cols rows kept) (hcost : IsMonge cost last size)
    (hcols : AreColumns cols last size) {row : Nat} (hrow : row ≤ last)
    (hbelow : ∀ r ∈ rows, r < row) :
    Kept cost cols (rows ++ [row]) (keepRow cost cols kept row) := by
  have hsuffix := dropLosers_suffix cost cols row kept
  have hstack := isStack_dropLosers h.stack row
  have hcovers := h.covers.trans (covers_dropLosers hcost hcols hrow h.stack
    (fun k hk => hbelow k (h.subset hk)) h.length)
  have hsubset : dropLosers cost cols row kept ⊆ rows ++ [row] := fun k hk =>
    List.mem_append_left _ (h.subset (hsuffix.subset hk))
  rw [Minima.keepRow]
  split
  case isTrue hfull =>
    -- No row was dropped, and the one on top covers the new one.
    have hsame : dropLosers cost cols row kept = kept :=
      hsuffix.eq_of_length_le (by rw [hfull]; exact h.length)
    refine ⟨hstack, Nat.le_of_eq hfull, hsubset, fun r hr col hcol => ?_⟩
    rw [hsame]
    rcases List.mem_append.mp hr with hr | hr
    · exact h.covers r hr col hcol
    · rw [List.mem_singleton.mp hr]
      obtain ⟨p, hp, rfl⟩ := exists_getD hcol
      cases hkept : kept with
      | nil => rw [hsame, hkept] at hfull; simp at hfull; omega
      | cons top rest =>
          have htop : top ∈ kept := by simp [hkept]
          have hlength : rest.length + 1 = cols.length := by rw [← hfull, hsame, hkept]; rfl
          refine ⟨top, List.mem_cons_self, ?_⟩
          exact hcost.left (hbelow top (h.subset htop)) hrow (hcols.after_getD hp)
            (hcols.getD_le (by omega : p ≤ rest.length) (by omega)) (hcols.getD_lt (by omega))
            (not_loser_of_dropLosers (hsame.trans hkept))
  case isFalse hroom =>
    refine ⟨?_, ?_, ?_, ?_⟩
    · cases hkept : dropLosers cost cols row kept with
      | nil => exact .single row
      | cons top rest =>
          have htop : top ∈ kept := hsuffix.subset (by simp [hkept])
          rw [hkept] at hstack
          exact .cons hstack (hbelow top (h.subset htop)) (not_loser_of_dropLosers hkept)
    · have hle := Nat.le_trans hsuffix.length_le h.length
      rw [List.length_cons]
      omega
    · exact List.cons_subset.mpr ⟨by simp, hsubset⟩
    · intro r hr col hcol
      rcases List.mem_append.mp hr with hr | hr
      · exact hcovers r hr col hcol
      · rw [List.mem_singleton.mp hr]
        exact ⟨row, List.mem_cons_self, Nat.le_refl _⟩

/-- So are all rows. -/
theorem foldl (hcost : IsMonge cost last size) (hcols : AreColumns cols last size)
    {others : List Nat} (h : Kept cost cols rows kept) (hsorted : (rows ++ others).Pairwise (· < ·))
    (hlast : ∀ row ∈ others, row ≤ last) :
    Kept cost cols (rows ++ others) (others.foldl (Minima.keepRow cost cols) kept) := by
  induction others generalizing rows kept with
  | nil => simpa using h
  | cons row others ih =>
      have hnext := h.keepRow hcost hcols (hlast row List.mem_cons_self) fun r hr =>
        (List.pairwise_append.mp hsorted).2.2 r hr row List.mem_cons_self
      have hrest := ih hnext (by simpa using hsorted) fun r hr =>
        hlast r (List.mem_cons_of_mem _ hr)
      simpa using hrest

end Kept

/-- Rows that stand in order, up to the last. -/
structure AreRows (rows : List Nat) (last : Nat) : Prop where
  sorted : rows.Pairwise (· < ·)
  upTo : ∀ row ∈ rows, row ≤ last

/-- **The rows that are kept stand in order and cover all.** -/
theorem keepRows_spec (hcost : IsMonge cost last size) {cols rows : List Nat}
    (hcols : AreColumns cols last size) (hrows : AreRows rows last) :
    AreRows (keepRows cost cols rows) last ∧ keepRows cost cols rows ⊆ rows ∧
      Covers cost cols (keepRows cost cols rows) rows := by
  have hkept : Kept cost cols ([] ++ rows) (rows.foldl (keepRow cost cols) []) :=
    Kept.foldl hcost hcols (Kept.nil cost cols) hrows.sorted hrows.upTo
  rw [List.nil_append] at hkept
  have hsubset : keepRows cost cols rows ⊆ rows := fun r hr =>
    hkept.subset (List.mem_reverse.mp hr)
  refine ⟨⟨List.pairwise_reverse.mpr hkept.stack.sorted, fun r hr => hrows.upTo r (hsubset hr)⟩,
    hsubset, fun r hr col hcol => ?_⟩
  obtain ⟨best, hbest, hle⟩ := hkept.covers r hr col hcol
  exact ⟨best, List.mem_reverse.mpr hbest, hle⟩

/-! ### Minima of a block -/

/-- The rows are those of the minima of the columns, and stand in order. -/
structure AreMinima (cost : Nat → Nat → Nat) (rows cols found : List Nat) : Prop where
  least : List.Forall₂ (fun col row => row ∈ rows ∧ ∀ i ∈ rows, cost row col ≤ cost i col)
    cols found
  sorted : found.Pairwise (· ≤ ·)

/-- The better of two rows. -/
theorem exists_better (cost : Nat → Nat → Nat) (col row best : Nat) :
    ∃ better, (if cost row col < cost best col then row else best) = better ∧
      better ∈ [best, row] ∧ cost better col ≤ cost best col ∧ cost better col ≤ cost row col := by
  by_cases hwins : cost row col < cost best col
  · exact ⟨row, if_pos hwins, by simp, Nat.le_of_lt hwins, Nat.le_refl _⟩
  · exact ⟨best, if_neg hwins, by simp, Nat.le_refl _, Nat.le_of_not_lt hwins⟩

/-- Going along the rows, the row up to which that is done is reached, and the best of all those
rows is found. -/
theorem advance_spec (cost : Nat → Nat → Nat) (col : Nat) {final : Nat} {rows : List Nat}
    (hfinal : final ∈ rows) (best : Nat) :
    ∃ front back, rows = front ++ final :: back ∧
      (advance cost col final best rows).2 = final :: back ∧
      (advance cost col final best rows).1 ∈ best :: (front ++ [final]) ∧
      ∀ row ∈ best :: (front ++ [final]),
        cost (advance cost col final best rows).1 col ≤ cost row col := by
  induction rows generalizing best with
  | nil => exact absurd hfinal List.not_mem_nil
  | cons row rows ih =>
      obtain ⟨better, hbetter, hmem, hbest, hrow⟩ := exists_better cost col row best
      rw [advance, hbetter]
      by_cases hreached : row = final
      · subst hreached
        rw [if_pos rfl]
        exact ⟨[], rows, rfl, rfl, by simpa using hmem, by simpa using ⟨hbest, hrow⟩⟩
      · rw [if_neg hreached]
        obtain ⟨front, back, rfl, hrest, hfound, hleast⟩ :=
          ih (List.mem_of_ne_of_mem (Ne.symm hreached) hfinal) better
        have hself := hleast better List.mem_cons_self
        refine ⟨row :: front, back, rfl, hrest, ?_, fun r hr => ?_⟩
        · rcases List.mem_cons.mp hfound with heq | hfound
          · rw [heq]
            rcases List.mem_pair.mp hmem with rfl | rfl
            · exact List.mem_cons_self
            · simp
          · exact List.mem_cons_of_mem _ (List.mem_cons_of_mem _ hfound)
        · rcases List.mem_cons.mp hr with rfl | hr
          · exact Nat.le_trans hself hbest
          · rcases List.mem_cons.mp hr with rfl | hr
            · exact Nat.le_trans hself hrow
            · exact hleast r (List.mem_cons_of_mem _ hr)

/-- The same when the best of the rows so far is the first of them. -/
theorem advance_first (cost : Nat → Nat → Nat) (col : Nat) {final : Nat} {rows : List Nat}
    (hfinal : final ∈ rows) :
    ∃ front back, rows = front ++ final :: back ∧
      (advance cost col final (rows.headD final) rows).2 = final :: back ∧
      (advance cost col final (rows.headD final) rows).1 ∈ front ++ [final] ∧
      ∀ row ∈ front ++ [final],
        cost (advance cost col final (rows.headD final) rows).1 col ≤ cost row col := by
  obtain ⟨front, back, rfl, hrest, hfound, hleast⟩ :=
    advance_spec cost col hfinal (rows.headD final)
  refine ⟨front, back, rfl, hrest, ?_, fun row hrow => hleast row (List.mem_cons_of_mem _ hrow)⟩
  rcases List.mem_cons.mp hfound with hfirst | hfound
  · rw [hfirst]
    cases front with
    | nil => simp
    | cons first front => simp
  · exact hfound

namespace AreMinima

variable {rows kept cols found : List Nat}

/-- Minima over rows that cover others are minima over these. -/
theorem of_covers (h : AreMinima cost kept cols found) (hsubset : kept ⊆ rows)
    (hcovers : Covers cost cols kept rows) : AreMinima cost rows cols found := by
  have hcols := (List.forall₂_and_left cols found).mpr ⟨fun col hcol => hcol, h.least⟩
  refine ⟨hcols.imp fun col row hrow => ?_, h.sorted⟩
  obtain ⟨hcol, hmem, hleast⟩ := hrow
  refine ⟨hsubset hmem, fun i hi => ?_⟩
  obtain ⟨best, hbest, hle⟩ := hcovers i hi col hcol
  exact Nat.le_trans (hleast best hbest) hle

theorem mem (h : AreMinima cost rows cols found) : ∀ row ∈ found, row ∈ rows := by
  have hleast := h.least
  clear h
  induction hleast with
  | nil => simp
  | cons hrow _ ih =>
      intro r hr
      rcases List.mem_cons.mp hr with rfl | hr
      · exact hrow.1
      · exact ih r hr

/-- The rows from one on hold the minima that are not before it. -/
theorem of_append {front back : List Nat} {first : Nat}
    (h : AreMinima cost (front ++ first :: back) cols found)
    (hsorted : (front ++ first :: back).Pairwise (· < ·)) (hfound : ∀ row ∈ found, first ≤ row) :
    AreMinima cost (first :: back) cols found := by
  refine ⟨?_, h.sorted⟩
  have hleast := h.least
  clear h
  induction hleast with
  | nil => exact .nil
  | @cons col row cols found hrow _ ih =>
      refine .cons ⟨?_, fun i hi => hrow.2 i (List.mem_append_right _ hi)⟩
        (ih fun r hr => hfound r (List.mem_cons_of_mem _ hr))
      rcases List.mem_append.mp hrow.1 with hbefore | hmem
      · have hlt := (List.pairwise_append.mp hsorted).2.2 row hbefore first List.mem_cons_self
        have hle := hfound row List.mem_cons_self
        omega
      · exact hmem

/-- Rows before a minimum are covered further right, rows after it are covered further left. -/
theorem cons_between {front back rest : List Nat} {best found col next : Nat}
    (hcost : IsMonge cost last size) (hrows : AreRows (front ++ found :: back) last)
    (hcols : AreColumns (col :: next :: cols) last size)
    (hnext : ∀ i ∈ front ++ found :: back, cost found next ≤ cost i next)
    (hbest : best ∈ front ++ [found]) (hleast : ∀ i ∈ front ++ [found], cost best col ≤ cost i col)
    (hrest : AreMinima cost (found :: back) cols rest) :
    AreMinima cost (front ++ found :: back) (col :: next :: cols) (best :: found :: rest) := by
  have hfound : found ≤ last := hrows.upTo found (by simp)
  have hbefore : ∀ i ∈ front, i < found := fun i hi =>
    (List.pairwise_append.mp hrows.sorted).2.2 i hi found List.mem_cons_self
  have hafter : ∀ i ∈ back, found < i := fun i hi =>
    List.rel_of_pairwise_cons (List.pairwise_append.mp hrows.sorted).2.1 hi
  have hnextAfter : last < next := hcols.after next (by simp)
  -- To the right of its column, the minimum covers the rows before it.
  have hcovers : Covers cost cols (found :: back) (front ++ found :: back) := by
    intro i hi c hc
    rcases List.mem_append.mp hi with hi' | hi'
    · have hright : next < c := List.rel_of_pairwise_cons (hcols.sorted.tail) hc
      exact ⟨found, List.mem_cons_self, hcost.right (hbefore i hi') hfound hnextAfter
        (Nat.le_of_lt hright) (hcols.bound c (by simp [hc])) (hnext i hi)⟩
    · exact ⟨i, hi', Nat.le_refl _⟩
  have hlift := hrest.of_covers (List.subset_append_right front _) hcovers
  -- To the left, it covers the rows after it.
  have hleft : ∀ i ∈ front ++ found :: back, cost best col ≤ cost i col := by
    intro i hi
    rcases List.mem_append.mp hi with hi' | hi'
    · exact hleast i (List.mem_append_left _ hi')
    · rcases List.mem_cons.mp hi' with rfl | hback
      · exact hleast i (by simp)
      · have hcol : col < next := List.rel_of_pairwise_cons hcols.sorted List.mem_cons_self
        have hcovered := hcost.left (hafter i hback) (hrows.upTo i hi)
          (hcols.after col List.mem_cons_self) (Nat.le_of_lt hcol) (hcols.bound next (by simp))
          (hnext i hi)
        exact Nat.le_trans (hleast found (by simp)) hcovered
  have hmem : best ∈ front ++ found :: back := by
    rcases List.mem_append.mp hbest with h | h
    · exact List.mem_append_left _ h
    · simp [List.mem_singleton.mp h]
  have hbestLe : best ≤ found := by
    rcases List.mem_append.mp hbest with h | h
    · exact Nat.le_of_lt (hbefore best h)
    · exact Nat.le_of_eq (List.mem_singleton.mp h)
  have hrestLe : ∀ row ∈ rest, found ≤ row := by
    intro row hrow
    rcases List.mem_cons.mp (hrest.mem row hrow) with rfl | hback
    · exact Nat.le_refl _
    · exact Nat.le_of_lt (hafter row hback)
  refine ⟨.cons ⟨hmem, hleft⟩ (.cons ⟨by simp, hnext⟩ hlift.least), ?_⟩
  refine List.pairwise_cons.mpr ⟨fun row hrow => ?_, List.pairwise_cons.mpr ⟨hrestLe, hrest.sorted⟩⟩
  rcases List.mem_cons.mp hrow with rfl | hrow
  · exact hbestLe
  · exact Nat.le_trans hbestLe (hrestLe row hrow)

end AreMinima

/-- **The minima in between are found** on the way from each known minimum to the next. -/
theorem areMinima_fillBetween (hcost : IsMonge cost last size) {final : Nat} {rows : List Nat}
    (hrows : AreRows rows last) (hmem : final ∈ rows) (hfinal : ∀ row ∈ rows, row ≤ final)
    {cols found : List Nat} (hcols : AreColumns cols last size)
    (h : AreMinima cost rows (seconds cols) found) :
    AreMinima cost rows cols (fillBetween cost final rows cols found) := by
  induction cols using List.twoStepInduction generalizing rows found with
  | nil => exact ⟨.nil, .nil⟩
  | singleton col =>
      obtain ⟨front, back, rfl, -, hbest, hleast⟩ := advance_first cost col hmem
      have hafter : ∀ row ∈ back, final < row := fun row hrow =>
        List.rel_of_pairwise_cons (List.pairwise_append.mp hrows.sorted).2.1 hrow
      refine ⟨.cons ⟨?_, fun row hrow => ?_⟩ .nil, List.pairwise_singleton _ _⟩
      · rcases List.mem_append.mp hbest with hbefore | hlast
        · exact List.mem_append_left _ hbefore
        · rw [List.mem_singleton.mp hlast]
          exact List.mem_append_right _ List.mem_cons_self
      · refine hleast row ?_
        rcases List.mem_append.mp hrow with hbefore | hrow
        · exact List.mem_append_left _ hbefore
        · rcases List.mem_cons.mp hrow with rfl | hback
          · simp
          · have hlt := hafter row hback
            have hle := hfinal row (by simp [hback])
            omega
  | cons_cons col next cols ih _ =>
      obtain ⟨hleast, hsorted⟩ := h
      cases hleast with
      | @cons _ row _ others hrow hothers =>
          obtain ⟨front, back, rfl, hrest, hbest, hbestLeast⟩ := advance_first cost col hrow.1
          have hfoundAfter : ∀ r ∈ others, row ≤ r := fun r hr =>
            List.rel_of_pairwise_cons hsorted hr
          have hrowsAfter : AreRows (row :: back) last :=
            ⟨(List.pairwise_append.mp hrows.sorted).2.1, fun r hr =>
              hrows.upTo r (List.mem_append_right _ hr)⟩
          have hmemAfter : final ∈ row :: back := by
            rcases List.mem_append.mp hmem with hbefore | hafter
            · have hlt := (List.pairwise_append.mp hrows.sorted).2.2 final hbefore row
                List.mem_cons_self
              have hle := hfinal row (by simp)
              omega
            · exact hafter
          have hcolsAfter : AreColumns cols last size :=
            hcols.sublist (.cons col (List.sublist_cons_self next cols))
          have hknown : AreMinima cost (row :: back) (seconds cols) others :=
            AreMinima.of_append ⟨hothers, hsorted.tail⟩ hrows.sorted hfoundAfter
          have hfilled := ih hrowsAfter hmemAfter
            (fun r hr => hfinal r (List.mem_append_right _ hr)) hcolsAfter hknown
          rw [fillBetween]
          dsimp only
          rw [hrest]
          exact AreMinima.cons_between hcost hrows hcols hrow.2 hbest hbestLeast hfilled

theorem seconds_sublist (cols : List Nat) : (seconds cols).Sublist cols := by
  induction cols using List.twoStepInduction with
  | nil => exact .slnil
  | singleton col => exact List.nil_sublist _
  | cons_cons col next cols ih _ => exact .cons col (.cons_cons next ih)

theorem length_seconds (cols : List Nat) : (seconds cols).length = cols.length / 2 := by
  induction cols using List.twoStepInduction with
  | nil => rfl
  | singleton col => simp [seconds]
  | cons_cons col next cols ih _ =>
      rw [seconds, List.length_cons, List.length_cons, List.length_cons, ih]
      omega

/-- The last of rows that stand in order comes after all. -/
theorem getLastD_spec {rows : List Nat} (hrows : AreRows rows last) (hne : rows ≠ []) :
    rows.getLastD 0 ∈ rows ∧ ∀ row ∈ rows, row ≤ rows.getLastD 0 := by
  obtain ⟨before, final, rfl⟩ : ∃ before final, rows = before ++ [final] :=
    ⟨rows.dropLast, rows.getLast hne, (List.dropLast_append_getLast hne).symm⟩
  rw [List.getLastD_concat]
  refine ⟨by simp, fun row hrow => ?_⟩
  rcases List.mem_append.mp hrow with hbefore | hfinal
  · exact Nat.le_of_lt ((List.pairwise_append.mp hrows.sorted).2.2 row hbefore final (by simp))
  · exact Nat.le_of_eq (List.mem_singleton.mp hfinal)

/-- **The minima of a block are found**, in as many steps as it has columns. -/
theorem areMinima_inBlock (hcost : IsMonge cost last size) {fuel : Nat} {rows cols : List Nat}
    (hfuel : cols.length ≤ fuel) (hrows : AreRows rows last) (hne : rows ≠ [])
    (hcols : AreColumns cols last size) :
    AreMinima cost rows cols (inBlock cost fuel rows cols) := by
  induction fuel generalizing rows cols with
  | zero =>
      obtain rfl := List.length_eq_zero_iff.mp (Nat.le_zero.mp hfuel)
      exact ⟨.nil, .nil⟩
  | succ fuel ih =>
      cases cols with
      | nil => exact ⟨.nil, .nil⟩
      | cons col cols =>
          obtain ⟨hkept, hsubset, hcovers⟩ := keepRows_spec hcost hcols hrows
          have hkeptNe : keepRows cost (col :: cols) rows ≠ [] := by
            intro hnil
            obtain ⟨row, hrow⟩ := List.exists_mem_of_ne_nil rows hne
            obtain ⟨best, hbest, -⟩ := hcovers row hrow col List.mem_cons_self
            rw [hnil] at hbest
            exact absurd hbest List.not_mem_nil
          have hseconds := hcols.sublist (seconds_sublist (col :: cols))
          have hlength : (seconds (col :: cols)).length ≤ fuel := by
            rw [length_seconds]
            rw [List.length_cons] at hfuel ⊢
            omega
          have hknown := ih hlength hkept hkeptNe hseconds
          obtain ⟨hmem, hfinal⟩ := getLastD_spec hkept hkeptNe
          exact (areMinima_fillBetween hcost hkept hmem hfinal hcols hknown).of_covers hsubset
            hcovers

end VarlinkClient.Minima
