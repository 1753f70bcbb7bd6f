/-
How wide the lines are that a text is wrapped to.

The pieces of a line fit when every character does, as wider ones are cut (`fits_of_mem_pieces`).
They are put on lines at least cost, so no line costs more than the two that it could be broken
into (`exists_of_mem_layOut`).  Hence the columns beyond the width are few, and below a width of
28 there are none (`columns_le_of_mem_wrap`).
-/
import Mathlib.Data.List.Chain
import VarlinkClient.Proofs.Text.Cost
import VarlinkClient.Proofs.Text.Width
import VarlinkClient.Proofs.Text.Wrap

namespace VarlinkClient.Wrap

open Width (Glyph columns)

variable {limit : Nat}

/-! ### Pieces -/

/-- The piece is as wide as its characters, and fits. -/
structure Piece.Fits (limit : Nat) (piece : Piece) : Prop where
  measured : piece.width = columns piece.text
  narrow : piece.width ≤ limit

/-- What a row of characters is cut into is measured, and fits when every character does. -/
theorem chop_fits {t : Text} (hchars : ∀ c ∈ t, Width.char c ≤ limit) (taken : Text)
    (htaken : columns taken ≤ limit) :
    ∀ part ∈ chop limit taken (columns taken) (t.map Glyph.shown),
      part.2 = columns part.1 ∧ part.2 ≤ limit := by
  induction t generalizing taken with
  | nil =>
      intro part hpart
      rw [List.map_nil, chop] at hpart
      split at hpart
      · exact absurd hpart List.not_mem_nil
      · rw [List.mem_singleton.mp hpart]
        exact ⟨rfl, htaken⟩
  | cons c t ih =>
      have hc := hchars c List.mem_cons_self
      have hrest : ∀ d ∈ t, Width.char d ≤ limit := fun d hd =>
        hchars d (List.mem_cons_of_mem _ hd)
      have hone : columns [c] = Width.char c := by simp
      intro part hpart
      rw [List.map_cons, chop] at hpart
      rw [← hone, ← Width.columns_append] at hpart
      split at hpart
      · rcases List.mem_cons.mp hpart with rfl | hpart
        · exact ⟨rfl, htaken⟩
        · exact ih hrest [c] (hone ▸ hc) part hpart
      next hroom =>
        refine ih hrest (taken ++ [c]) ?_ part hpart
        rw [Width.columns_append, hone] at hroom ⊢
        omega

/-- The parts of a piece fit. -/
theorem fits_of_mem_narrowed {piece : Piece} (hmeasured : piece.IsMeasured)
    (hfree : '\x1b' ∉ piece.text) (hchars : ∀ c ∈ piece.text, Width.char c ≤ limit) :
    ∀ part ∈ narrowed limit piece, part.Fits limit := by
  have hwidth : piece.width = columns piece.text := by
    rw [← Width.line_of_free hfree]
    exact hmeasured
  intro part hpart
  rw [narrowed] at hpart
  split at hpart
  next hfits =>
    rw [List.mem_singleton.mp hpart]
    exact ⟨hwidth, hfits⟩
  next =>
    rw [Width.glyphs_of_free hfree] at hpart
    have hparts := chop_fits hchars [] (Nat.zero_le _)
    rw [Width.columns_nil] at hparts
    rcases List.mem_append.mp hpart with hpart | hpart
    · obtain ⟨found, hfound, rfl⟩ := List.mem_map.mp hpart
      obtain ⟨hsame, hle⟩ := hparts found (List.dropLast_subset _ hfound)
      exact ⟨hsame, hle⟩
    · obtain ⟨found, hfound, rfl⟩ := Option.map_eq_some_iff.mp (Option.mem_toList.mp hpart)
      obtain ⟨hsame, hle⟩ := hparts found (List.mem_of_getLast? hfound)
      exact ⟨hsame, hle⟩

/-- **The pieces of a line fit** when every character does. -/
theorem fits_of_mem_pieces {line : Text} (hfree : '\x1b' ∉ line)
    (hchars : ∀ c ∈ line, Width.char c ≤ limit) :
    ∀ piece ∈ pieces limit line, piece.Fits limit := by
  intro piece hpiece
  rw [pieces] at hpiece
  obtain ⟨whole, hwhole, hpart⟩ := List.mem_flatMap.mp hpiece
  have htext : ∀ c ∈ whole.text, c ∈ line := by
    intro c hc
    rw [← full_hyphenated_words line]
    exact List.mem_flatMap.mpr ⟨whole, hwhole, List.mem_append_left _ hc⟩
  obtain ⟨word, -, hcut⟩ := List.mem_flatMap.mp hwhole
  exact fits_of_mem_narrowed (isMeasured_of_mem_hyphenated hcut) (fun hmem => hfree (htext _ hmem))
    (fun c hc => hchars c (htext c hc)) piece hpart

/-! ### Columns of lines -/

theorem columns_flatMap_full {found : List Piece}
    (hfits : ∀ piece ∈ found, piece.width = columns piece.text) :
    columns (found.flatMap Piece.full) = extent found := by
  induction found with
  | nil => rfl
  | cons piece found ih =>
      have hrest := ih fun p hp => hfits p (List.mem_cons_of_mem _ hp)
      rw [List.flatMap_cons, Width.columns_append, hrest, Piece.full, Width.columns_append,
        Width.columns_replicate_blank, ← hfits piece List.mem_cons_self]
      simp [extent]

/-- A line is as wide as its pieces and the blanks between them. -/
theorem columns_lineText {found : List Piece}
    (hfits : ∀ piece ∈ found, piece.width = columns piece.text) {i j : Nat} (hij : i < j)
    (hj : j ≤ found.length) :
    columns (lineText ((found.drop i).take (j - i))) = lineWidth found i j := by
  obtain ⟨m, rfl⟩ : ∃ m, j = m + 1 := ⟨j - 1, by omega⟩
  have hm : m < found.length := hj
  have hlines : (found.drop i).take (m + 1 - i) = (found.drop i).take (m - i) ++ [found[m]] := by
    rw [Nat.succ_sub (by omega), List.take_add_one, List.getElem?_drop,
      Nat.add_sub_cancel' (by omega), List.getElem?_eq_getElem hm, Option.toList_some]
  have hbefore : begins found m = begins found i + extent ((found.drop i).take (m - i)) := by
    rw [begins, begins, ← extent_append, ← List.take_append_drop i (found.take m), List.take_take,
      Nat.min_eq_left (by omega), List.drop_take]
  have hfitsBefore : ∀ piece ∈ (found.drop i).take (m - i), piece.width = columns piece.text :=
    fun piece hpiece => hfits piece (List.mem_of_mem_drop (List.mem_of_mem_take hpiece))
  rw [hlines, lineText, List.dropLast_concat, List.getLast?_concat, Width.columns_append,
    columns_flatMap_full hfitsBefore, lineWidth, ends_succ hm, hbefore,
    hfits found[m] (List.getElem_mem hm), Option.map_some, Option.getD_some]
  omega

/-! ### Lines -/

/-- The line that ends at a place begins at one before it. -/
def Leads (previous : Array Nat) (count i j : Nat) : Prop :=
  i < j ∧ j ≤ count ∧ previous.getD j 0 = i

/-- The places are the one that is asked for, those before it, and the beginning. -/
theorem exists_lineEnds_cons (previous : Array Nat) (fuel place : Nat) (h : place ≤ fuel) :
    ∃ rest, lineEnds previous fuel place ++ [0] = place :: rest := by
  cases fuel with
  | zero => exact ⟨[], by rw [Nat.le_zero.mp h]; rfl⟩
  | succ fuel =>
      rw [lineEnds]
      split
      next hzero => exact ⟨[], by rw [hzero]; rfl⟩
      next => exact ⟨_, rfl⟩

/-- The places where lines end lead from one to the next, from the beginning on. -/
theorem isChain_lineEnds {previous : Array Nat} {count : Nat}
    (hprevious : ∀ j ≤ count, 0 < j → previous.getD j 0 < j) {fuel place : Nat}
    (hfuel : place ≤ fuel) (hplace : place ≤ count) :
    List.IsChain (Leads previous count) (0 :: (lineEnds previous fuel place).reverse) := by
  have hback : List.IsChain (fun j i => Leads previous count i j)
      (lineEnds previous fuel place ++ [0]) := by
    induction fuel generalizing place with
    | zero => exact .singleton 0
    | succ fuel ih =>
        rw [lineEnds]
        split
        next => exact .singleton 0
        next hpos =>
          have hbefore := hprevious place hplace (Nat.pos_of_ne_zero hpos)
          obtain ⟨rest, hcons⟩ :=
            exists_lineEnds_cons previous fuel (previous.getD place 0) (by omega)
          have hrest : List.IsChain (fun j i => Leads previous count i j)
              (lineEnds previous fuel (previous.getD place 0) ++ [0]) := ih (by omega) (by omega)
          rw [hcons] at hrest
          rw [List.cons_append, hcons]
          exact List.isChain_cons_cons.mpr ⟨⟨hbefore, hplace, rfl⟩, hrest⟩
  rw [← List.isChain_reverse] at hback
  simpa using hback

/-- Each line that pieces are cut into ends at one of the places. -/
theorem exists_of_mem_cutAt {previous : Array Nat} {found : List Piece} {places : List Nat}
    {start : Nat}
    (hplaces : List.IsChain (Leads previous found.length) (start :: places)) {line : Text}
    (h : line ∈ cutAt start places (found.drop start)) :
    ∃ i j, Leads previous found.length i j ∧ line = lineText ((found.drop i).take (j - i)) := by
  induction places generalizing start with
  | nil => exact absurd h List.not_mem_nil
  | cons place places ih =>
      obtain ⟨hleads, hrest⟩ := List.isChain_cons_cons.mp hplaces
      rw [cutAt, List.drop_drop, Nat.add_sub_cancel' (Nat.le_of_lt hleads.1)] at h
      rcases List.mem_cons.mp h with rfl | h
      · exact ⟨start, place, hleads, rfl⟩
      · exact ih hrest h

/-- **No line costs more than the two that it could be broken into.** -/
theorem exists_of_mem_layOut {found : List Piece} (hne : found ≠ []) {line : Text}
    (h : line ∈ layOut limit found) :
    ∃ i j, i < j ∧ j ≤ found.length ∧ line = lineText ((found.drop i).take (j - i)) ∧
      ∀ k, i < k → k < j →
        charge limit found.toArray (offsets 0 found).toArray i j ≤
          charge limit found.toArray (offsets 0 found).toArray i k +
            charge limit found.toArray (offsets 0 found).toArray k j := by
  obtain ⟨hlength, least, hleast⟩ := Minima.rows_least (isMonge_charge limit found)
    (Nat.succ_pos _)
  have hlines : layOut limit found =
      cutAt 0 (lineEnds (Minima.rows (charge limit found.toArray (offsets 0 found).toArray)
        (found.length + 1)).toArray found.length found.length).reverse found := by
    unfold layOut
    split
    next => exact absurd rfl hne
    next => rfl
  rw [hlines] at h
  generalize Minima.rows _ (found.length + 1) = rows at hlength hleast h
  have hrow : ∀ j ≤ found.length, 0 < j → ∃ i < j, rows.toArray.getD j 0 = i ∧
      least j = least i + charge limit found.toArray (offsets 0 found).toArray i j := by
    intro j hj hpos
    obtain ⟨i, hi, hrow, hvalue, -⟩ := hleast j (by omega) hpos
    refine ⟨i, hi, ?_, hvalue⟩
    rw [Array.getD_eq_getD_getElem?, List.getElem?_toArray, hrow, Option.getD_some]
  have hprevious : ∀ j ≤ found.length, 0 < j → rows.toArray.getD j 0 < j := by
    intro j hj hpos
    obtain ⟨i, hi, hsame, -⟩ := hrow j hj hpos
    rw [hsame]
    exact hi
  obtain ⟨i, j, ⟨hij, hj, hsame⟩, htext⟩ :=
    exists_of_mem_cutAt (isChain_lineEnds hprevious (Nat.le_refl _) (Nat.le_refl _)) h
  refine ⟨i, j, hij, hj, htext, fun k hik hkj => ?_⟩
  -- The line is taken at least cost, and so would the two be.
  obtain ⟨i', -, hsame', hvalue⟩ := hrow j hj (by omega)
  obtain rfl : i = i' := hsame.symm.trans hsame'
  obtain ⟨-, -, -, -, hbest⟩ := hleast j (by omega) (by omega)
  obtain ⟨-, -, -, -, hbestBefore⟩ := hleast k (by omega) (by omega)
  have hsecond := hbest k hkj
  have hfirst := hbestBefore i hik
  omega

/-- **The columns beyond the width are bounded** in every line that a text is wrapped to: there
are none when the width is below 28. -/
theorem columns_le_of_mem_wrap (hlimit : 1 ≤ limit) {t : Text} (hfree : '\x1b' ∉ t)
    (hchars : ∀ c ∈ t, Width.char c ≤ limit) {line : Text} (h : line ∈ wrap limit t)
    (hwide : limit < columns line) :
    28 ≤ limit ∧ (columns line - limit) * overflowCost ≤ 2 * lineCost + 2 * (limit * limit) := by
  obtain ⟨whole, hwhole, hline⟩ := List.mem_flatMap.mp h
  have hmem : ∀ c ∈ whole, c ∈ t := fun c hc => (Text.mem_of_mem_splitOn hwhole c hc).1
  rw [wrapLine] at hline
  split at hline
  next hshort =>
    have hsame := congrArg columns (full_ofText whole)
    rw [Piece.full, Width.columns_append, Piece.ofText] at hsame
    dsimp only at hsame
    have hbytes := Width.columns_le_encode whole
    rw [List.mem_singleton.mp hline] at hwide
    omega
  next =>
    have hfits : ∀ piece ∈ pieces limit whole, piece.Fits limit :=
      fits_of_mem_pieces (fun hesc => hfree (hmem _ hesc)) fun c hc => hchars c (hmem c hc)
    by_cases hne : pieces limit whole = []
    · rw [hne, layOut, List.mem_singleton] at hline
      subst hline
      exact absurd hwide (Nat.not_lt_zero _)
    · obtain ⟨i, j, hij, hj, rfl, hbreak⟩ := exists_of_mem_layOut hne hline
      have hcolumns := columns_lineText (fun piece hpiece => (hfits piece hpiece).measured) hij hj
      rw [hcolumns] at hwide ⊢
      exact overflow_le hlimit (fun piece hpiece => (hfits piece hpiece).narrow) hij hj hbreak
        hwide

end VarlinkClient.Wrap
