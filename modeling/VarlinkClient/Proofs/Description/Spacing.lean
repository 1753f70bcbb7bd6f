/-
Canonical spacing.

A signature in canonical spacing has a blank after every comma and colon, one on either side of
every arrow, and no other: `IsSpaced`.  Two such signatures that are the same without blanks are
the same, so there is one for every text (`normalise_eq_self_iff`, `normalise_eq_iff_isSpaced`), and
taking it makes no difference between texts but for their blanks (`normalise_canonical`).

An arrow is two characters, and blanks between them make no difference either.  So a text without
blanks is cut from the left into arrows and single characters; a dash in front of an arrow, or
apart from what follows it, is a character like any other.
-/
import VarlinkClient.Proofs.Description.Signature

namespace VarlinkClient.Signature

/-- The signature is in canonical spacing. -/
inductive IsSpaced : Text → Prop
  | nil : IsSpaced []
  | arrow {rest : Text} (h : IsSpaced rest) : IsSpaced (" -> " ++ rest)
  | comma {rest : Text} (h : IsSpaced rest) : IsSpaced (", " ++ rest)
  | colon {rest : Text} (h : IsSpaced rest) : IsSpaced (": " ++ rest)
  | plain {c : Char} {rest : Text} (hblank : isBlank c = false) (hcomma : c ≠ ',') (hcolon : c ≠ ':')
      (harrow : c = '-' → rest.head? ≠ some '>') (h : IsSpaced rest) : IsSpaced (c :: rest)

/-- Spaced out, a text begins with `>` only where it does so itself. -/
theorem head?_of_head?_space {t : Text} (h : (space t).head? = some '>') :
    t.head? = some '>' := by
  unfold space at h
  split at h
  · cases h
  · cases h
  · cases h
  · cases h
  · exact h

/-- Spacing out a text without blanks gives canonical spacing. -/
theorem isSpaced_space {t : Text} (h : ∀ c ∈ t, isBlank c = false) : IsSpaced (space t) := by
  fun_induction space t with
  | case1 => exact .nil
  | case2 rest ih => exact .arrow (ih fun c hc => h c (by simp [hc]))
  | case3 rest ih => exact .comma (ih fun c hc => h c (by simp [hc]))
  | case4 rest ih => exact .colon (ih fun c hc => h c (by simp [hc]))
  | case5 c rest harrow hcomma hcolon ih =>
      refine .plain (h c List.mem_cons_self) hcomma hcolon (fun hdash hhead => ?_)
        (ih fun d hd => h d (by simp [hd]))
      obtain ⟨tail, htail⟩ := List.head?_eq_some_iff.mp (head?_of_head?_space hhead)
      exact harrow tail hdash htail

theorem isSpaced_normalise (t : Text) : IsSpaced (normalise t) :=
  isSpaced_space fun _ hc => not_blank_of_mem_compact hc

theorem IsSpaced.head?_of_head?_compact {t : Text} (h : IsSpaced t)
    (hhead : (compact t).head? = some '>') : t.head? = some '>' := by
  cases h with
  | nil => cases hhead
  | arrow h => cases hhead
  | comma h => cases hhead
  | colon h => cases hhead
  | plain hblank _ _ _ _ =>
      rw [compact_cons hblank] at hhead
      exact hhead

/-- In canonical spacing the blanks are those that spacing out puts in. -/
theorem IsSpaced.space_compact {t : Text} (h : IsSpaced t) : space (compact t) = t := by
  induction h with
  | nil => rfl
  | arrow h ih => exact congrArg (" -> ".toList ++ ·) ih
  | comma h ih => exact congrArg (", ".toList ++ ·) ih
  | colon h ih => exact congrArg (": ".toList ++ ·) ih
  | plain hblank hcomma hcolon harrow h ih =>
      rw [compact_cons hblank, space_cons hcomma hcolon, ih]
      intro hdash hhead
      exact harrow hdash (h.head?_of_head?_compact hhead)

/-- **The texts in canonical spacing are those that are kept as they are.** -/
theorem normalise_eq_self_iff {t : Text} : normalise t = t ↔ IsSpaced t := by
  constructor
  · intro h
    rw [← h]
    exact isSpaced_normalise t
  · exact IsSpaced.space_compact

/-- A text is the same as one text in canonical spacing but for blanks, and this is what it is
normalised to. -/
theorem normalise_eq_iff_isSpaced {s t : Text} :
    normalise s = t ↔ IsSpaced t ∧ compact t = compact s := by
  constructor
  · rintro rfl
    exact ⟨isSpaced_normalise s, compact_normalise s⟩
  · rintro ⟨hspaced, hcompact⟩
    rw [← normalise_eq_self_iff.mpr hspaced, normalise_eq_iff, hcompact]

/-- **Normalising a signature gives a canonical form.**  Texts are normalised to the same one
exactly when they are the same after deleting every blank, and what is normalised is in canonical
spacing and is not changed any further. -/
theorem normalise_canonical (s t : Text) :
    (normalise s = normalise t ↔
        (s.filter fun c => !isBlank c) = t.filter fun c => !isBlank c) ∧
      IsSpaced (normalise t) ∧ normalise (normalise t) = normalise t := by
  have hspaced : IsSpaced (normalise t) := isSpaced_normalise t
  exact ⟨normalise_eq_iff, hspaced, normalise_eq_self_iff.mpr hspaced⟩

example : normalise "( a :string,b : [ ]int )- > ()" = "(a: string, b: []int) -> ()" := by decide

end VarlinkClient.Signature
