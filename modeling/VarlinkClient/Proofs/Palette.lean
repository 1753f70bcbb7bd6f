/-
What colour leaves behind when its escape sequences are deleted.

A sequence that is cut off at the end of a text may be completed by what follows, so deleting
does not go with `++`.  `Shows` therefore speaks of a text whatever follows it, and it is
`Shows` that passes from fragments to what is put together from them.
-/
import Mathlib.Data.List.Forall2
import VarlinkClient.Palette

namespace VarlinkClient.Palette

/-! ### Deleting escape sequences -/

/-- What follows an escape sequence in front: the escape character, a bracket, digits and an
`m`. -/
def afterSequence? : Text → Option Text
  | '\x1b' :: '[' :: rest =>
    match rest.takeWhile Char.isDigit, rest.dropWhile Char.isDigit with
    | _ :: _, 'm' :: after => some after
    | _, _ => none
  | _ => none

theorem length_of_afterSequence? {t after : Text} (h : afterSequence? t = some after) :
    after.length < t.length := by
  unfold afterSequence? at h
  split at h
  · rename_i rest
    split at h
    · rename_i hdrop
      cases h
      have hlength := (List.dropWhile_sublist Char.isDigit (l := rest)).length_le
      rw [hdrop] at hlength
      simp only [List.length_cons] at hlength ⊢
      omega
    · cases h
  · cases h

/-- The text without its escape sequences. -/
def strip : Text → Text
  | [] => []
  | c :: rest =>
    match _h : afterSequence? (c :: rest) with
    | some after => strip after
    | none => c :: strip rest
termination_by t => t.length
decreasing_by
  · exact length_of_afterSequence? ‹_›
  · exact Nat.lt_succ_self _

theorem strip_of_afterSequence? {t after : Text} (h : afterSequence? t = some after) :
    strip t = strip after := by
  cases t with
  | nil => cases h
  | cons c rest =>
      rw [strip]
      split
      · rename_i found hfound
        rw [h] at hfound
        cases hfound
        rfl
      · rename_i hnone
        rw [h] at hnone
        cases hnone

theorem strip_cons {c : Char} (h : c ≠ '\x1b') (rest : Text) :
    strip (c :: rest) = c :: strip rest := by
  have hnone : afterSequence? (c :: rest) = none := by
    unfold afterSequence?
    split
    · rename_i heq
      cases heq
      exact absurd rfl h
    · rfl
  rw [strip]
  split
  · rename_i hsome
    rw [hnone] at hsome
    cases hsome
  · rfl

theorem strip_sequence {digits : Text} (hne : digits ≠ [])
    (hdigits : ∀ c ∈ digits, c.isDigit = true) (rest : Text) :
    strip ('\x1b' :: '[' :: (digits ++ 'm' :: rest)) = strip rest := by
  obtain ⟨d, others, rfl⟩ := List.exists_cons_of_ne_nil hne
  have hm : Char.isDigit 'm' = false := by decide
  refine strip_of_afterSequence? ?_
  rw [afterSequence?, List.takeWhile_append_of_pos hdigits, List.dropWhile_append_of_pos hdigits,
    List.takeWhile_cons_of_neg (by simp [hm]), List.dropWhile_cons_of_neg (by simp [hm]),
    List.append_nil]
  rfl

/-! ### What a text shows -/

/-- Without its escape sequences the first text is the second, whatever follows it. -/
def Shows (colored plain : Text) : Prop :=
  ∀ after, strip (colored ++ after) = plain ++ strip after

theorem Shows.strip_eq {t u : Text} (h : Shows t u) : strip t = u := by
  have hend := h []
  rwa [List.append_nil, strip, List.append_nil] at hend

theorem Shows.append {t u t' u' : Text} (h : Shows t u) (h' : Shows t' u') :
    Shows (t ++ t') (u ++ u') := by
  intro after
  rw [List.append_assoc, h, h', List.append_assoc]

theorem shows_nil : Shows [] [] := fun _ => rfl

/-- A text without escape characters shows itself. -/
theorem shows_of_notMem {t : Text} (h : '\x1b' ∉ t) : Shows t t := by
  induction t with
  | nil => exact shows_nil
  | cons c t ih =>
      rw [List.mem_cons, not_or] at h
      intro after
      rw [List.cons_append, strip_cons (Ne.symm h.1), ih h.2 after, List.cons_append]

theorem Shows.join {between : Text} (hbetween : Shows between between) {pieces pieces' : List Text}
    (h : List.Forall₂ Shows pieces pieces') :
    Shows (Text.join between pieces) (Text.join between pieces') := by
  induction h with
  | nil => exact shows_nil
  | @cons piece piece' pieces pieces' hpiece hrest ih =>
      cases hrest with
      | nil => exact hpiece
      | cons _ _ => exact (hpiece.append hbetween).append ih

theorem forall₂_shows_map {α : Type} {f g : α → Text} {as : List α}
    (h : ∀ a ∈ as, Shows (f a) (g a)) : List.Forall₂ Shows (as.map f) (as.map g) := by
  rw [List.forall₂_map_left_iff, List.forall₂_map_right_iff, List.forall₂_same]
  exact h

/-! ### Painting -/

/-- Nothing is to be opened again in a text without escape characters. -/
theorem reopen_of_notMem (start : Text) {t : Text} (h : '\x1b' ∉ t) : reopen start t = t := by
  induction t with
  | nil => rfl
  | cons c t ih =>
      rw [List.mem_cons, not_or] at h
      rw [reopen, ih h.2]
      rintro rest rfl
      exact absurd rfl h.1

theorem shows_opening (style : Style) : Shows (opening style) [] := by
  intro after
  have hdigits : ∀ c ∈ code style, c.isDigit = true :=
    List.all_eq_true.mp (by cases style <;> decide)
  have hne : code style ≠ [] := by cases style <;> decide
  have hsequence := strip_sequence hne hdigits after
  simpa [opening] using hsequence

theorem shows_reset : Shows reset [] := by
  have hzero : ∀ c ∈ ['0'], c.isDigit = true := List.all_eq_true.mp (by decide)
  exact strip_sequence (by decide) hzero

/-- **Painting shows what is painted**, in any style. -/
theorem shows_paint (style : Style) {t : Text} (h : '\x1b' ∉ t) :
    Shows (paint .colored style t) (paint .plain style t) := by
  have hshows := ((shows_opening style).append (shows_of_notMem h)).append shows_reset
  simpa [paint, reopen_of_notMem _ h] using hshows

end VarlinkClient.Palette
