/-
Cutting a text once: at its first or last mark, or what stands at its ends.

Every cut is undone by putting the parts together again, and a mark that does not occur in
the part it has to be looked for in is found where it was put.  Decimal digits are such a
part: there is no mark among them, and they read back as the number they were written for.
-/
import Mathlib.Data.List.Basic
import Mathlib.Data.List.TakeWhile
import Mathlib.Data.Nat.Digits.Defs
import VarlinkClient.Text.Basic

namespace VarlinkClient.Text

/-! ### What a text begins with -/

theorem stripStart_append (start t : Text) : stripStart start (start ++ t) = some t :=
  List.isPrefixOf?_eq_some_iff_append_eq.mpr rfl

theorem eq_of_stripStart {start t rest : Text} (h : stripStart start t = some rest) :
    t = start ++ rest :=
  (List.append_eq_of_isPrefixOf?_eq_some h).symm

/-! ### Up to a mark -/

theorem notMem_upTo (mark : Char) (t : Text) : mark ∉ upTo mark t := by
  intro h
  have hne := List.mem_takeWhile_imp h
  simp at hne

theorem upTo_eq_self {mark : Char} {t : Text} (h : mark ∉ t) : upTo mark t = t := by
  refine List.takeWhile_eq_self_iff.mpr fun c hc => ?_
  have hne : c ≠ mark := fun heq => h (heq ▸ hc)
  simpa using hne

theorem upTo_append_mark {mark : Char} {t : Text} (h : mark ∉ t) (rest : Text) :
    upTo mark (t ++ mark :: rest) = t := by
  rw [upTo, List.takeWhile_append_of_pos]
  · simp
  · intro c hc
    have hne : c ≠ mark := fun heq => h (heq ▸ hc)
    simpa using hne

/-- What stands up to a mark that is there is shorter than the whole. -/
theorem exists_upTo_append {mark : Char} {t : Text} (h : mark ∈ t) :
    ∃ rest, t = upTo mark t ++ mark :: rest := by
  induction t with
  | nil => simp at h
  | cons c t ih =>
      by_cases hc : c = mark
      · subst hc
        exact ⟨t, by simp [upTo]⟩
      · obtain ⟨rest, hrest⟩ := ih (by simpa [Ne.symm hc] using h)
        have hcons : upTo mark (c :: t) = c :: upTo mark t := by simp [upTo, hc]
        exact ⟨rest, by rw [hcons, List.cons_append, ← hrest]⟩

/-! ### The last mark -/

theorem splitLast_eq_none {mark : Char} {t : Text} (h : mark ∉ t) : splitLast mark t = none := by
  induction t with
  | nil => rfl
  | cons c t ih =>
      rw [splitLast, ih fun hc => h (by simp [hc])]
      exact if_neg fun hc => h (by simp [hc])

theorem splitLast_eq_none_iff {mark : Char} {t : Text} : splitLast mark t = none ↔ mark ∉ t := by
  refine ⟨fun h => ?_, splitLast_eq_none⟩
  induction t with
  | nil => exact List.not_mem_nil
  | cons c t ih =>
      rw [splitLast] at h
      split at h
      · cases h
      · rename_i hrest
        split at h
        · cases h
        · rename_i hc
          rw [List.mem_cons, not_or]
          exact ⟨Ne.symm hc, ih hrest⟩

theorem splitLast_append {mark : Char} {after : Text} (h : mark ∉ after) (before : Text) :
    splitLast mark (before ++ mark :: after) = some (before, after) := by
  induction before with
  | nil => simp [splitLast, splitLast_eq_none h]
  | cons c before ih => simp [splitLast, ih]

theorem eq_of_splitLast {mark : Char} {t before after : Text}
    (h : splitLast mark t = some (before, after)) : t = before ++ mark :: after := by
  induction t generalizing before with
  | nil => cases h
  | cons c t ih =>
      rw [splitLast] at h
      split at h
      · rename_i first second hrest
        cases h
        rw [ih hrest, List.cons_append]
      · split at h
        · rename_i hc
          cases h
          rw [hc, List.nil_append]
        · cases h

theorem notMem_of_splitLast {mark : Char} {t before after : Text}
    (h : splitLast mark t = some (before, after)) : mark ∉ after := by
  induction t generalizing before with
  | nil => cases h
  | cons c t ih =>
      rw [splitLast] at h
      split at h
      · rename_i hrest
        cases h
        exact ih hrest
      · rename_i hnone
        split at h
        · cases h
          exact splitLast_eq_none_iff.mp hnone
        · cases h

/-- The last mark is the one behind which there is no other. -/
theorem splitLast_eq_some_iff {mark : Char} {t before after : Text} :
    splitLast mark t = some (before, after) ↔ t = before ++ mark :: after ∧ mark ∉ after := by
  constructor
  · intro h
    exact ⟨eq_of_splitLast h, notMem_of_splitLast h⟩
  · rintro ⟨rfl, hafter⟩
    exact splitLast_append hafter before

/-! ### The ends -/

/-- Nothing that is dropped from the end stands there afterwards. -/
theorem getLast?_trimEnd {drop : Char → Bool} {t : Text} {c : Char}
    (h : (trimEnd drop t).getLast? = some c) : drop c = false := by
  rw [trimEnd, List.getLast?_reverse] at h
  have hc := List.head?_dropWhile_not drop t.reverse
  rw [h] at hc
  simpa using hc

theorem trimEnd_eq_self {drop : Char → Bool} {t : Text}
    (h : ∀ c, t.getLast? = some c → drop c = false) : trimEnd drop t = t := by
  rw [trimEnd]
  cases hrev : t.reverse with
  | nil => simpa using hrev.symm
  | cons c rest =>
      have ht : t = (c :: rest).reverse := by rw [← hrev, List.reverse_reverse]
      have hc : drop c = false := h c (by rw [ht]; simp)
      rw [List.dropWhile_cons_of_neg (by simp [hc]), ht]

theorem trimEnd_append_singleton {drop : Char → Bool} {c : Char} (h : drop c = true) (t : Text) :
    trimEnd drop (t ++ [c]) = trimEnd drop t := by
  simp [trimEnd, h]

/-- Trimming takes nothing away but what is dropped from the end. -/
theorem exists_trimEnd_append (drop : Char → Bool) (t : Text) :
    ∃ dropped, t = trimEnd drop t ++ dropped ∧ ∀ c ∈ dropped, drop c = true := by
  refine ⟨(t.reverse.takeWhile drop).reverse, ?_, ?_⟩
  · rw [trimEnd, ← List.reverse_append, List.takeWhile_append_dropWhile, List.reverse_reverse]
  · intro c hc
    exact List.mem_takeWhile_imp (List.mem_reverse.mp hc)

theorem head?_trimEnd {drop : Char → Bool} {t : Text} (h : trimEnd drop t ≠ []) :
    (trimEnd drop t).head? = t.head? := by
  obtain ⟨dropped, hdropped, -⟩ := exists_trimEnd_append drop t
  obtain ⟨c, rest, hrest⟩ := List.exists_cons_of_ne_nil h
  rw [hrest] at hdropped ⊢
  rw [hdropped]
  rfl

/-! ### Decimal numbers -/

theorem isDigit_of_mem_ofNat {n : Nat} {c : Char} (h : c ∈ ofNat n) : c.isDigit = true :=
  Nat.isDigit_of_mem_toDigits (by decide) (by decide) h

theorem notMem_ofNat {mark : Char} (h : mark.isDigit = false) (n : Nat) : mark ∉ ofNat n := by
  intro hmem
  rw [isDigit_of_mem_ofNat hmem] at h
  cases h

theorem natOfDigits_ofNat (n : Nat) : natOfDigits (ofNat n) = n := by
  have hfold := Nat.ofDigitChars_ten_toDigits (n := n)
  rwa [Nat.ofDigitChars_eq_foldl] at hfold

/-- A row of digits is read as what it is worth in positional notation. -/
theorem natOfDigits_eq_ofDigits (digits : Text) :
    natOfDigits digits = Nat.ofDigits 10 (digits.reverse.map digitValue) := by
  rw [Nat.ofDigits_eq_foldr, List.foldr_map, List.foldr_reverse]
  simp only [natOfDigits, Nat.cast_id, Nat.add_comm]

theorem digits?_eq_some_iff {t : Text} {n : Nat} :
    digits? t = some n ↔ t ≠ [] ∧ (∀ c ∈ t, c.isDigit = true) ∧ natOfDigits t = n := by
  unfold digits?
  split
  · rename_i h
    have hall : ∀ c ∈ t, c.isDigit = true := List.all_eq_true.mp h.2
    rw [Option.some.injEq, and_iff_right h.1, and_iff_right hall]
  · rename_i h
    simp only [reduceCtorEq, false_iff]
    rintro ⟨hne, hall, -⟩
    exact h ⟨hne, List.all_eq_true.mpr hall⟩

/-- A sign in front of the digits is optional. -/
theorem natural?_eq_some_iff {t : Text} {n : Nat} :
    natural? t = some n ↔
      ∃ sign digits, t = sign ++ digits ∧ (sign = [] ∨ sign = ['+']) ∧ digits? digits = some n := by
  constructor
  · intro h
    rw [natural?.eq_def] at h
    split at h
    · exact ⟨['+'], _, rfl, Or.inr rfl, h⟩
    · exact ⟨[], t, rfl, Or.inl rfl, h⟩
  · rintro ⟨sign, digits, rfl, rfl | rfl, h⟩
    · rw [List.nil_append, natural?.eq_def]
      split
      · have hplus := (digits?_eq_some_iff.mp h).2.1 '+' (by simp)
        cases hplus
      · exact h
    · exact h

/-- No number but zero begins with a zero. -/
theorem exists_cons_ofNat {n : Nat} (h : 0 < n) : ∃ c digits, ofNat n = c :: digits ∧ c ≠ '0' := by
  induction n using Nat.strongRecOn with
  | ind n ih =>
      by_cases hsmall : n < 10
      · have hdigit : ∀ k < 10, 0 < k → Nat.digitChar k ≠ '0' := by decide
        exact ⟨Nat.digitChar n, [], Nat.toDigits_of_lt_base hsmall, hdigit n hsmall h⟩
      · obtain ⟨c, digits, hfront, hc⟩ := ih (n / 10) (by omega) (by omega)
        refine ⟨c, digits ++ [Nat.digitChar (n % 10)], ?_, hc⟩
        rw [ofNat] at hfront ⊢
        rw [Nat.toDigits_of_base_le (by decide) (by omega), hfront, List.cons_append]

/-- A number is read as it is written. -/
theorem natural?_ofNat (n : Nat) : natural? (ofNat n) = some n := by
  have hdigits : digits? (ofNat n) = some n := by
    apply digits?_eq_some_iff.mpr
    refine ⟨Nat.toDigits_ne_nil, ?_, natOfDigits_ofNat n⟩
    intro c hc
    exact isDigit_of_mem_ofNat hc
  exact natural?_eq_some_iff.mpr ⟨[], ofNat n, rfl, Or.inl rfl, hdigits⟩

end VarlinkClient.Text
