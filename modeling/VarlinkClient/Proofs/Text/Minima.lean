/-
The search for column minima finds them all.

An entry of the matrix is the minimum of a column plus a charge, so a row can be searched only
when the minimum of its column is final.  What the search knows at any time is
`Search.IsSound`: the minima up to `finished` are final; those up to `tentative` are over all
rows that were final before; and no row before `base` is needed any more.  Each of the four
things that a step can do keeps that (`Search.IsSound.step`), and after all steps every minimum
is final (`rows_least`).
-/
import VarlinkClient.Proofs.Text.Block

namespace VarlinkClient.Minima

/-! ### Recording minima -/

/-- The entry of a column. -/
def entryAt (entries : Array Entry) (col : Nat) : Entry :=
  entries.getD col ⟨0, 0⟩

theorem entryAt_setIfInBounds_self {entries : Array Entry} {col : Nat} (h : col < entries.size)
    (entry : Entry) : entryAt (entries.setIfInBounds col entry) col = entry := by
  rw [entryAt, Array.getD_eq_getD_getElem?, Array.getElem?_setIfInBounds_self_of_lt h,
    Option.getD_some]

theorem entryAt_setIfInBounds_ne {entries : Array Entry} {col other : Nat} (h : other ≠ col)
    (entry : Entry) : entryAt (entries.setIfInBounds col entry) other = entryAt entries other := by
  rw [entryAt, entryAt, Array.getD_eq_getD_getElem?, Array.getD_eq_getD_getElem?,
    Array.getElem?_setIfInBounds_ne (Ne.symm h)]

/-- What the entries become when rows that were found for columns are recorded. -/
structure Recorded (cost : Nat → Nat → Nat) (entries : Array Entry) (found : List (Nat × Nat))
    (after : Array Entry) : Prop where
  size_le : entries.size ≤ after.size
  lt_size : ∀ pair ∈ found, pair.1 < after.size
  size_bound : ∀ bound, entries.size ≤ bound → (∀ pair ∈ found, pair.1 < bound) →
    after.size ≤ bound
  /-- An entry is as it was, or of a pair. -/
  origin : ∀ col < after.size, (col < entries.size ∧ entryAt after col = entryAt entries col) ∨
    ∃ row, (col, row) ∈ found ∧ entryAt after col = ⟨row, cost row col⟩
  /-- No value grows. -/
  lower : ∀ col < entries.size, (entryAt after col).value ≤ (entryAt entries col).value
  /-- No value is higher than that of its pair. -/
  least : ∀ pair ∈ found, (entryAt after pair.1).value ≤ cost pair.2 pair.1

namespace Recorded

variable {cost : Nat → Nat → Nat} {entries between after : Array Entry}
  {found others : List (Nat × Nat)}

theorem refl (cost : Nat → Nat → Nat) (entries : Array Entry) : Recorded cost entries [] entries :=
  ⟨Nat.le_refl _, by simp, fun _ h _ => h, fun _ h => .inl ⟨h, rfl⟩, fun _ _ => Nat.le_refl _,
    by simp⟩

theorem trans (h : Recorded cost entries found between) (h' : Recorded cost between others after) :
    Recorded cost entries (found ++ others) after := by
  refine ⟨Nat.le_trans h.size_le h'.size_le, fun pair hpair => ?_, fun bound hbound hpairs => ?_,
    fun col hcol => ?_, fun col hcol => ?_, fun pair hpair => ?_⟩
  · rcases List.mem_append.mp hpair with hpair | hpair
    · exact Nat.lt_of_lt_of_le (h.lt_size pair hpair) h'.size_le
    · exact h'.lt_size pair hpair
  · have hbetween := h.size_bound bound hbound fun pair hpair =>
      hpairs pair (List.mem_append_left _ hpair)
    exact h'.size_bound bound hbetween fun pair hpair => hpairs pair (List.mem_append_right _ hpair)
  · rcases h'.origin col hcol with ⟨hlt, heq⟩ | ⟨row, hrow, heq⟩
    · rw [heq]
      rcases h.origin col hlt with hold | ⟨row, hrow, hnew⟩
      · exact .inl hold
      · exact .inr ⟨row, List.mem_append_left _ hrow, hnew⟩
    · exact .inr ⟨row, List.mem_append_right _ hrow, heq⟩
  · exact Nat.le_trans (h'.lower col (Nat.lt_of_lt_of_le hcol h.size_le)) (h.lower col hcol)
  · rcases List.mem_append.mp hpair with hpair | hpair
    · exact Nat.le_trans (h'.lower pair.1 (h.lt_size pair hpair)) (h.least pair hpair)
    · exact h'.least pair hpair

/-- An entry is written over one that is no lower, or behind all. -/
theorem written {col row : Nat} (hsize : after.size = max entries.size (col + 1))
    (hcol : col ≤ entries.size) (hself : entryAt after col = ⟨row, cost row col⟩)
    (hother : ∀ c ≠ col, entryAt after c = entryAt entries c)
    (hlower : col < entries.size → cost row col ≤ (entryAt entries col).value) :
    Recorded cost entries [(col, row)] after := by
  refine ⟨by omega, ?_, fun bound hbound hpair => ?_, fun c hc => ?_, fun c hc => ?_, ?_⟩
  · simp only [List.mem_singleton, forall_eq]
    omega
  · have hlt := hpair (col, row) List.mem_cons_self
    dsimp only at hlt
    omega
  · by_cases heq : c = col
    · subst heq
      exact .inr ⟨row, by simp, hself⟩
    · exact .inl ⟨by omega, hother c heq⟩
  · by_cases heq : c = col
    · subst heq
      rw [hself]
      exact hlower hc
    · exact Nat.le_of_eq (congrArg Entry.value (hother c heq))
  · simp [hself]

/-- One pair is recorded, in a column that has an entry or is the next one. -/
theorem record {col : Nat} (hcol : col ≤ entries.size) (row : Nat) :
    Recorded cost entries [(col, row)] (Search.record entries col row (cost row col)) := by
  rw [Search.record]
  split
  case isTrue hlt =>
    have hat : entries[col] = entryAt entries col := by
      rw [entryAt, Array.getD_eq_getD_getElem?, Array.getElem?_eq_getElem hlt, Option.getD_some]
    rw [hat]
    split
    case isTrue hwins =>
      have hset : entries.set col ⟨row, cost row col⟩ hlt =
          entries.setIfInBounds col ⟨row, cost row col⟩ := by rw [Array.setIfInBounds, dif_pos hlt]
      rw [hset]
      refine written ?_ hcol (entryAt_setIfInBounds_self hlt _)
        (fun c hc => entryAt_setIfInBounds_ne hc _) fun _ => Nat.le_of_lt hwins
      rw [Array.size_setIfInBounds]
      omega
    case isFalse hloses =>
      refine ⟨Nat.le_refl _, by simpa using hlt, fun _ h _ => h, fun _ h => .inl ⟨h, rfl⟩,
        fun _ _ => Nat.le_refl _, by simpa using Nat.le_of_not_lt hloses⟩
  case isFalse hnext =>
    have hsize : col = entries.size := Nat.le_antisymm hcol (Nat.le_of_not_lt hnext)
    refine written ?_ hcol ?_ (fun c hc => ?_) (fun hlt => absurd hlt hnext)
    · rw [Array.size_push]
      omega
    · rw [entryAt, hsize, Array.getD_eq_getD_getElem?, Array.getElem?_push_size, Option.getD_some]
    · rw [entryAt, entryAt, Array.getD_eq_getD_getElem?, Array.getD_eq_getD_getElem?,
        Array.getElem?_push, if_neg (by omega)]

/-- **All pairs are recorded**, when their columns follow one another. -/
theorem foldl (cost : Nat → Nat → Nat) (rows : List Nat) {start count : Nat}
    (hstart : start ≤ entries.size) :
    Recorded cost entries ((List.range' start count).zip rows)
      (((List.range' start count).zip rows).foldl
        (fun entries (col, row) => Search.record entries col row (cost row col)) entries) := by
  induction rows generalizing start count entries with
  | nil =>
      rw [List.zip_nil_right]
      exact refl cost entries
  | cons row rows ih =>
      cases count with
      | zero => exact refl cost entries
      | succ count =>
          have hfirst : Recorded cost entries [(start, row)] _ := record hstart row
          have hnext := hfirst.lt_size (start, row) List.mem_cons_self
          rw [List.range'_succ, List.zip_cons_cons, List.foldl_cons]
          exact hfirst.trans (ih hnext)

end Recorded

/-! ### What the search knows -/

namespace Search

variable {charge : Nat → Nat → Nat} {size : Nat} {s : Search}

/-- The row of a column's minimum. -/
def row (s : Search) (col : Nat) : Nat :=
  (entryAt s.entries col).row

/-- What is known of the minima, and of the rows and columns that have not been searched. -/
structure IsSound (charge : Nat → Nat → Nat) (size : Nat) (s : Search) : Prop where
  base_le : s.base ≤ s.finished
  finished_le : s.finished ≤ s.tentative
  tentative_lt : s.tentative < s.entries.size
  size_le : s.entries.size ≤ size
  /-- Every entry was found in a row whose own minimum was final. -/
  origin : ∀ col < s.entries.size, 0 < col → s.row col < col ∧ s.row col < s.finished ∧
    s.value col = s.cost charge (s.row col) col
  /-- The minima up to `finished` are minima. -/
  least : ∀ col ≤ s.finished, ∀ i < col, s.value col ≤ s.cost charge i col
  /-- Those up to `tentative` are minima over the rows before `finished`. -/
  known : ∀ col ≤ s.tentative, s.finished < col → ∀ i < s.finished,
    s.value col ≤ s.cost charge i col
  /-- A row before `base` is covered by it, or by what is known. -/
  covered : ∀ i < s.base, ∀ col < size, s.finished < col →
    s.cost charge s.base col ≤ s.cost charge i col ∨
      (col < s.entries.size ∧ s.value col ≤ s.cost charge i col)

/-- Whatever the minima are, the entries only favour later rows to the right when the charges
do. -/
theorem isMonge_cost (hcharge : ∀ last, IsMonge charge last size) (s : Search) (last : Nat) :
    IsMonge (s.cost charge) last size := by
  intro i i' j j' hrow hlast hcol hright hsize
  have hmonge := hcharge last i i' j j' hrow hlast hcol hright hsize
  simp only [cost]
  omega

/-- What a row costs is what it did, when its entry is kept. -/
theorem cost_eq_of_entry {s s' : Search} {i : Nat}
    (h : entryAt s'.entries i = entryAt s.entries i) (col : Nat) :
    s'.cost charge i col = s.cost charge i col :=
  congrArg (· + charge i col) (congrArg Entry.value h)

/-- An entry that is written is found in its row, when the entry of the row is kept. -/
theorem origin_of_written {s s' : Search} {row col : Nat}
    (hentry : entryAt s'.entries col = ⟨row, s.cost charge row col⟩)
    (hkept : entryAt s'.entries row = entryAt s.entries row) (hcol : row < col)
    (hrow : row < s'.finished) :
    s'.row col < col ∧ s'.row col < s'.finished ∧
      s'.value col = s'.cost charge (s'.row col) col := by
  have hrowEq : s'.row col = row := congrArg Entry.row hentry
  rw [hrowEq, cost_eq_of_entry hkept]
  exact ⟨hcol, hrow, congrArg Entry.value hentry⟩

theorem isSound_start (hsize : 0 < size) : start.IsSound charge size := by
  refine ⟨Nat.le_refl _, Nat.le_refl _, Nat.zero_lt_one, hsize, fun col hcol hpos => ?_,
    fun col hcol i hi => ?_, fun col hcol hpos => ?_, fun i hi => ?_⟩
  · have hone : col < 1 := hcol
    omega
  · have hzero : col ≤ 0 := hcol
    omega
  · have hzero : col ≤ 0 := hcol
    have hpos' : 0 < col := hpos
    omega
  · exact absurd hi (Nat.not_lt_zero i)

namespace IsSound

/-- An entry that is kept was found in a row whose own minimum was final, and still is. -/
theorem origin_of_kept (h : s.IsSound charge size) {s' : Search}
    (hfinished : s.finished ≤ s'.finished)
    (hkept : ∀ i < s.finished, entryAt s'.entries i = entryAt s.entries i) {col : Nat}
    (hcol : col < s.entries.size) (hpos : 0 < col)
    (hsame : entryAt s'.entries col = entryAt s.entries col) :
    s'.row col < col ∧ s'.row col < s'.finished ∧
      s'.value col = s'.cost charge (s'.row col) col := by
  obtain ⟨hrow, hfinal, hvalue⟩ := h.origin col hcol hpos
  have hrowEq : s'.row col = s.row col := congrArg Entry.row hsame
  have hvalueEq : s'.value col = s.value col := congrArg Entry.value hsame
  rw [hrowEq, cost_eq_of_entry (hkept _ hfinal), hvalueEq]
  exact ⟨hrow, Nat.lt_of_lt_of_le hfinal hfinished, hvalue⟩

/-- The minimum of the next column is final, if it is one over the last row as well. -/
theorem least_next (h : s.IsSound charge size) {next : Nat} (hnext : next = s.finished + 1)
    (hknown : next ≤ s.tentative) (hlast : s.value next ≤ s.cost charge s.finished next) :
    ∀ col ≤ next, ∀ i < col, s.value col ≤ s.cost charge i col := by
  intro col hcol i hi
  by_cases hfinished : col ≤ s.finished
  · exact h.least col hfinished i hi
  · obtain rfl : col = next := by omega
    by_cases hrow : i = s.finished
    · rw [hrow]
      exact hlast
    · exact h.known col hknown (by omega) i (by omega)

/-- The numbers from one on. -/
theorem drop_range (n k : Nat) : (List.range n).drop k = List.range' k (n - k) := by
  rw [List.range_eq_range', List.drop_range', Nat.zero_add, Nat.mul_one]

/-- What comes of a search of the next block. -/
theorem exists_searchBlock (hcharge : ∀ last, IsMonge charge last size)
    (h : s.IsSound charge size) (hmore : s.finished + 1 < size) :
    ∃ tentative pairs after, (s.finished < tentative ∧ tentative < size) ∧
      s.searchBlock charge size = ⟨after, s.finished + 1, s.base, tentative⟩ ∧
      Recorded (s.cost charge) s.entries pairs after ∧
      (∀ pair ∈ pairs, s.finished < pair.1 ∧ pair.1 ≤ tentative ∧ pair.2 ≤ s.finished) ∧
      ∀ col, s.finished < col → col ≤ tentative → ∃ row, (col, row) ∈ pairs ∧
        ∀ i, s.base ≤ i → i ≤ s.finished → s.cost charge row col ≤ s.cost charge i col := by
  have hbase := h.base_le
  have hsize : s.finished + 1 ≤ s.entries.size := by
    have hle := h.finished_le
    have hlt := h.tentative_lt
    omega
  have hrows := drop_range (s.finished + 1) s.base
  rw [searchBlock]
  dsimp only
  rw [hrows, List.length_range']
  generalize hnext : min (s.finished + (s.finished + 1 - s.base)) (size - 1) = tentative
  have hcols : (List.range (tentative + 1)).drop (s.finished + 1) =
      List.range' (s.finished + 1) (tentative - s.finished) := by
    rw [drop_range, Nat.add_sub_add_right]
  rw [hcols, List.length_range']
  -- A block is as wide as it is high, and is cut off at the last column.
  have hareRows : AreRows (List.range' s.base (s.finished + 1 - s.base)) s.finished :=
    ⟨List.pairwise_lt_range', fun row hrow => by
      have hmem := List.mem_range'_1.mp hrow
      omega⟩
  have hareColumns : AreColumns (List.range' (s.finished + 1) (tentative - s.finished)) s.finished
      size :=
    ⟨List.pairwise_lt_range', fun col hcol => by
      have hmem := List.mem_range'_1.mp hcol
      omega, fun col hcol => by
      have hmem := List.mem_range'_1.mp hcol
      omega⟩
  have hne : List.range' s.base (s.finished + 1 - s.base) ≠ [] := by
    rw [Ne, List.range'_eq_nil_iff]
    omega
  have hminima := areMinima_inBlock (isMonge_cost hcharge s s.finished)
    (Nat.le_of_eq List.length_range') hareRows hne hareColumns
  generalize inBlock (s.cost charge) (tentative - s.finished) _ _ = found at hminima ⊢
  obtain ⟨hlength, hleast⟩ := List.forall₂_iff_zip.mp hminima.least
  refine ⟨tentative, (List.range' (s.finished + 1) (tentative - s.finished)).zip found, _,
    by omega, rfl, Recorded.foldl _ _ hsize, fun pair hpair => ?_, fun col hcol hlast => ?_⟩
  · have hcol := List.mem_range'_1.mp (List.of_mem_zip hpair).1
    have hrow := List.mem_range'_1.mp (hleast hpair).1
    omega
  · have hmem : col ∈ List.range' (s.finished + 1) (tentative - s.finished) :=
      List.mem_range'_1.mpr (by omega)
    rw [← List.map_fst_zip (Nat.le_of_eq hlength)] at hmem
    obtain ⟨⟨_, row⟩, hpair, rfl⟩ := List.mem_map.mp hmem
    refine ⟨row, hpair, fun i hi hlast' => (hleast hpair).2 i (List.mem_range'_1.mpr ?_)⟩
    omega

/-- **A search of the next block** makes the minimum of one more column final. -/
theorem searchBlock (hcharge : ∀ last, IsMonge charge last size) (h : s.IsSound charge size)
    (hmore : s.finished + 1 < size) :
    (s.searchBlock charge size).IsSound charge size ∧
      (s.searchBlock charge size).finished = s.finished + 1 := by
  obtain ⟨tentative, pairs, after, htentative, heq, hrecorded, hpairs, hfound⟩ :=
    exists_searchBlock hcharge h hmore
  rw [heq]
  refine ⟨?_, rfl⟩
  have hbase := h.base_le
  have hfinished := h.finished_le
  have hsize := h.tentative_lt
  have hgrows := hrecorded.size_le
  have hkept : ∀ i ≤ s.finished, entryAt after i = entryAt s.entries i := by
    intro i hi
    rcases hrecorded.origin i (by omega) with ⟨-, hsame⟩ | ⟨row, hpair, -⟩
    · exact hsame
    · have hcol := (hpairs _ hpair).1
      dsimp only at hcol
      omega
  -- The minima that the search went by are what they were.
  have hcost : ∀ i ≤ s.finished, ∀ col,
      cost charge ⟨after, s.finished + 1, s.base, tentative⟩ i col = s.cost charge i col :=
    fun i hi => cost_eq_of_entry (hkept i hi)
  have hnew : ∀ col ≤ tentative, s.finished < col → ∀ i ≤ s.finished,
      (entryAt after col).value ≤ s.cost charge i col := by
    intro col hcol hafter i hi
    obtain ⟨row, hpair, hleast⟩ := hfound col hafter hcol
    have hrow := hrecorded.least _ hpair
    by_cases hsearched : s.base ≤ i
    · exact Nat.le_trans hrow (hleast i hsearched hi)
    · rcases h.covered i (by omega) col (by omega) hafter with hcovered | ⟨hlt, hcovered⟩
      · exact Nat.le_trans (Nat.le_trans hrow (hleast s.base (Nat.le_refl _) hbase)) hcovered
      · exact Nat.le_trans (hrecorded.lower col hlt) hcovered
  have hlast : tentative < after.size := by
    obtain ⟨row, hpair, -⟩ := hfound tentative htentative.1 (Nat.le_refl _)
    exact hrecorded.lt_size _ hpair
  refine ⟨by dsimp only; omega, by dsimp only; omega, hlast, ?_, ?_, ?_, ?_, ?_⟩
  · refine hrecorded.size_bound size h.size_le fun pair hpair => ?_
    have hcol := hpairs pair hpair
    omega
  · intro col hcol hpos
    rcases hrecorded.origin col hcol with ⟨hlt, hsame⟩ | ⟨row, hpair, hsame⟩
    · exact h.origin_of_kept (Nat.le_succ _) (fun i hi => hkept i (Nat.le_of_lt hi)) hlt hpos hsame
    · obtain ⟨hpast, -, hrow⟩ := hpairs _ hpair
      exact origin_of_written hsame (hkept row hrow) (Nat.lt_of_le_of_lt hrow hpast)
        (Nat.lt_succ_of_le hrow)
  · intro col hcol i hi
    dsimp only at hcol
    rw [hcost i (by omega)]
    by_cases hold : col ≤ s.finished
    · refine Nat.le_trans (Nat.le_of_eq ?_) (h.least col hold i hi)
      exact congrArg Entry.value (hkept col hold)
    · exact hnew col (by omega) (by omega) i (by omega)
  · intro col hcol hafter i hi
    dsimp only at hcol hafter hi
    rw [hcost i (by omega)]
    exact hnew col hcol (by omega) i (by omega)
  · intro i hi col hcol hafter
    dsimp only at hi hafter
    dsimp only
    rw [hcost i (by omega), hcost s.base hbase]
    rcases h.covered i hi col hcol (by omega) with hcovered | ⟨hlt, hcovered⟩
    · exact .inl hcovered
    · exact .inr ⟨Nat.lt_of_lt_of_le hlt hgrows, Nat.le_trans (hrecorded.lower col hlt) hcovered⟩

/-- The last row wins the next column: it wins all columns to the right from the rows before. -/
theorem diagonal (hcharge : ∀ last, IsMonge charge last size) (h : s.IsSound charge size)
    (hknown : s.finished + 1 ≤ s.tentative)
    (hwins : s.cost charge s.finished (s.finished + 1) < s.value (s.finished + 1)) :
    IsSound charge size
      ⟨s.entries.setIfInBounds (s.finished + 1)
          ⟨s.finished, s.cost charge s.finished (s.finished + 1)⟩,
        s.finished + 1, s.finished, s.finished + 1⟩ := by
  have hfinished := h.finished_le
  have hlt := h.tentative_lt
  have hsize := h.size_le
  generalize hafter : s.entries.setIfInBounds (s.finished + 1)
    ⟨s.finished, s.cost charge s.finished (s.finished + 1)⟩ = after
  have hafterSize : after.size = s.entries.size := by rw [← hafter, Array.size_setIfInBounds]
  have hself : entryAt after (s.finished + 1) =
      ⟨s.finished, s.cost charge s.finished (s.finished + 1)⟩ := by
    rw [← hafter]
    exact entryAt_setIfInBounds_self (by omega) _
  have hother : ∀ col ≠ s.finished + 1, entryAt after col = entryAt s.entries col := by
    intro col hcol
    rw [← hafter]
    exact entryAt_setIfInBounds_ne hcol _
  have hcost : ∀ i ≤ s.finished, ∀ col,
      cost charge ⟨after, s.finished + 1, s.finished, s.finished + 1⟩ i col =
        s.cost charge i col :=
    fun i hi => cost_eq_of_entry (hother i (by omega))
  refine ⟨Nat.le_succ _, Nat.le_refl _, by dsimp only; omega, by dsimp only; omega, ?_, ?_, ?_, ?_⟩
  · intro col hcol hpos
    dsimp only at hcol
    by_cases heq : col = s.finished + 1
    · subst heq
      exact origin_of_written hself (hother _ (by omega)) (Nat.lt_succ_self _) (Nat.lt_succ_self _)
    · exact h.origin_of_kept (Nat.le_succ _) (fun i hi => hother i (by omega)) (by omega) hpos
        (hother col heq)
  · intro col hcol i hi
    dsimp only at hcol
    rw [hcost i (by omega)]
    by_cases heq : col = s.finished + 1
    · subst heq
      refine Nat.le_trans (Nat.le_of_eq (congrArg Entry.value hself)) ?_
      by_cases hrow : i = s.finished
      · subst hrow
        exact Nat.le_refl _
      · exact Nat.le_trans (Nat.le_of_lt hwins)
          (h.known (s.finished + 1) hknown (by omega) i (by omega))
    · refine Nat.le_trans (Nat.le_of_eq (congrArg Entry.value (hother col heq))) ?_
      exact h.least col (by omega) i hi
  · intro col hcol hpast
    dsimp only at hcol hpast
    omega
  · intro i hi col hcol hpast
    dsimp only at hi hpast ⊢
    rw [hcost i (by omega), hcost s.finished (Nat.le_refl _)]
    have hle := h.known (s.finished + 1) hknown (by omega) i hi
    exact .inl ((isMonge_cost hcharge s s.finished).right hi (Nat.le_refl _) (Nat.lt_succ_self _)
      (Nat.le_of_lt hpast) hcol (Nat.le_trans (Nat.le_of_lt hwins) hle))

/-- The last row loses the last column that is known: it loses all columns to the left. -/
theorem goOn (hcharge : ∀ last, IsMonge charge last size) (h : s.IsSound charge size)
    (hknown : s.finished + 1 ≤ s.tentative)
    (hloses : s.value s.tentative ≤ s.cost charge s.finished s.tentative)
    (hnext : s.value (s.finished + 1) ≤ s.cost charge s.finished (s.finished + 1)) :
    IsSound charge size { s with finished := s.finished + 1 } := by
  have hbase := h.base_le
  have hlt := h.tentative_lt
  have hsize := h.size_le
  refine ⟨by dsimp only; omega, hknown, h.tentative_lt, h.size_le, fun col hcol hpos => ?_,
    h.least_next rfl hknown hnext, fun col hcol hpast i hi => ?_, fun i hi col hcol hpast => ?_⟩
  · obtain ⟨hrow, hfinal, hvalue⟩ := h.origin col hcol hpos
    exact ⟨hrow, Nat.lt_succ_of_lt hfinal, hvalue⟩
  · dsimp only at hcol hpast hi
    by_cases hlast : i = s.finished
    · -- The row of the last known column is before, and no worse there, nor to the left.
      obtain ⟨-, hfinal, hvalue⟩ := h.origin s.tentative hlt (by omega)
      rw [hlast]
      refine Nat.le_trans (h.known col hcol (by omega) _ hfinal) ?_
      exact (isMonge_cost hcharge s s.finished).left hfinal (Nat.le_refl _) (by omega) hcol
        (by omega) (by rw [← hvalue]; exact hloses)
    · exact h.known col hcol (by omega) i (by omega)
  · dsimp only at hi hpast
    exact h.covered i hi col hcol (by omega)

/-- The last row wins the last column that is known: it wins all columns to the right. -/
theorem restart (hcharge : ∀ last, IsMonge charge last size) (h : s.IsSound charge size)
    (hknown : s.finished + 1 ≤ s.tentative)
    (hwins : s.cost charge s.finished s.tentative < s.value s.tentative)
    (hnext : s.value (s.finished + 1) ≤ s.cost charge s.finished (s.finished + 1)) :
    IsSound charge size
      { s with finished := s.finished + 1, base := s.finished, tentative := s.finished + 1 } := by
  have hlt := h.tentative_lt
  have hsize := h.size_le
  refine ⟨Nat.le_succ _, Nat.le_refl _, by dsimp only; omega, h.size_le, fun col hcol hpos => ?_,
    h.least_next rfl hknown hnext, fun col hcol hpast => ?_, fun i hi col hcol hpast => ?_⟩
  · obtain ⟨hrow, hfinal, hvalue⟩ := h.origin col hcol hpos
    exact ⟨hrow, Nat.lt_succ_of_lt hfinal, hvalue⟩
  · dsimp only at hcol hpast
    omega
  · dsimp only at hi hpast
    by_cases hright : s.tentative ≤ col
    · have hle := h.known s.tentative (Nat.le_refl _) (by omega) i hi
      exact .inl ((isMonge_cost hcharge s s.finished).right hi (Nat.le_refl _) (by omega) hright
        hcol (Nat.le_trans (Nat.le_of_lt hwins) hle))
    · exact .inr ⟨by dsimp only; omega, h.known col (by omega) (by omega) i hi⟩

/-- **A step** makes the minimum of one more column final. -/
theorem step (hcharge : ∀ last, IsMonge charge last size) (h : s.IsSound charge size)
    (hmore : s.finished + 1 < size) :
    (s.step charge size).IsSound charge size ∧ (s.step charge size).finished = s.finished + 1 := by
  rw [Search.step]
  dsimp only
  split
  case isTrue => exact h.searchBlock hcharge hmore
  case isFalse hknown =>
    have hknown' : s.finished + 1 ≤ s.tentative := Nat.le_of_not_lt hknown
    split
    case isTrue hwins => exact ⟨h.diagonal hcharge hknown' hwins, rfl⟩
    case isFalse hloses =>
      have hnext := Nat.le_of_not_lt hloses
      split
      case isTrue hlast => exact ⟨h.goOn hcharge hknown' hlast hnext, rfl⟩
      case isFalse hlast => exact ⟨h.restart hcharge hknown' (Nat.lt_of_not_le hlast) hnext, rfl⟩

/-- So do as many steps for as many columns. -/
theorem steps (hcharge : ∀ last, IsMonge charge last size) {n : Nat} (h : s.IsSound charge size)
    (hmore : s.finished + n < size) :
    (s.steps charge size n).IsSound charge size ∧
      (s.steps charge size n).finished = s.finished + n := by
  induction n generalizing s with
  | zero => exact ⟨h, rfl⟩
  | succ n ih =>
      obtain ⟨hsound, hfinished⟩ := h.step hcharge (by omega)
      obtain ⟨hlast, hcount⟩ := ih hsound (by rw [hfinished]; omega)
      exact ⟨hlast, by rw [Search.steps, hcount, hfinished]; omega⟩

end IsSound

end Search

/-- **The rows of the minima are found**, when charges only favour later rows to the right: each
column has a least value, which is that of its row and the charge from there on, and no row
before the column makes a lower one. -/
theorem rows_least {charge : Nat → Nat → Nat} {size : Nat}
    (hcharge : ∀ last, IsMonge charge last size) (hsize : 0 < size) :
    (rows charge size).length = size ∧ ∃ least : Nat → Nat, ∀ col < size, 0 < col →
      ∃ row < col, (rows charge size)[col]? = some row ∧ least col = least row + charge row col ∧
        ∀ i < col, least col ≤ least i + charge i col := by
  have hzero : Search.start.finished = 0 := rfl
  have hstart : Search.start.IsSound charge size := Search.isSound_start hsize
  obtain ⟨hsound, hfinished⟩ := hstart.steps hcharge (n := size - 1) (by rw [hzero]; omega)
  rw [rows]
  generalize Search.start.steps charge size (size - 1) = s at hsound hfinished ⊢
  have hfinal := hsound.finished_le
  have hlt := hsound.tentative_lt
  have hle := hsound.size_le
  refine ⟨by rw [List.length_map, Array.length_toList]; omega, s.value, fun col hcol hpos => ?_⟩
  obtain ⟨hrow, -, hvalue⟩ := hsound.origin col (by omega) hpos
  refine ⟨s.row col, hrow, ?_, hvalue, hsound.least col (by omega)⟩
  rw [List.getElem?_map, Array.getElem?_toList, Array.getElem?_eq_getElem (by omega),
    Option.map_some, Search.row, entryAt, Array.getD_eq_getD_getElem?,
    Array.getElem?_eq_getElem (by omega), Option.getD_some]

end VarlinkClient.Minima
