/-
What is accepted as parameters.

A text that is given for parameters is blank, or a document of an object, or neither.  Which of
these it is tells what becomes of it: no parameters, the members of the object, or a failure of
one kind.  Both notions of what is blank meet here: a document has blanks of JSON around it, and
holds a brace, which is no blank of any kind.

The text may stand on the standard input as well, as the bytes of it; other bytes fail.
-/
import VarlinkClient.Proofs.Json.Written
import VarlinkClient.Proofs.Refusal

namespace VarlinkClient.ParameterSource

variable {t : Text} {members : Json.Members}

theorem isAllBlank_iff : Text.isAllBlank t = true ↔ ∀ c ∈ t, isBlank c = true :=
  List.all_eq_true

/-- The text of an object has a brace. -/
theorem exists_brace (h : Json.IsDocumentOf (.object members) t) : '\x7b' ∈ t := by
  obtain ⟨before, u, after, rfl, -, -, hwritten⟩ := h
  have hbrace : '\x7b' ∈ u := by
    rcases hwritten with hscalar | hcontainer
    · cases hscalar
    · cases hcontainer
      simp
  simp [hbrace]

theorem not_isAllBlank (h : Json.IsDocumentOf (.object members) t) :
    Text.isAllBlank t = false := by
  rw [← Bool.not_eq_true, isAllBlank_iff]
  intro hall
  have hbrace := hall _ (exists_brace h)
  exact absurd hbrace (by decide)

theorem parse_eq_none_iff : parse t = .ok none ↔ ∀ c ∈ t, isBlank c = true := by
  rw [← isAllBlank_iff]
  constructor
  · intro h
    unfold parse at h
    split at h
    · assumption
    split at h <;> cases h
  · intro h
    rw [parse, if_pos h]

theorem parse_eq_some_iff :
    parse t = .ok (some members) ↔ Json.IsDocumentOf (.object members) t := by
  constructor
  · intro h
    unfold parse at h
    split at h
    · cases h
    split at h
    · rename_i hparse
      cases h
      exact Json.parse_eq_ok_iff.mp hparse
    · cases h
    · cases h
  · intro h
    rw [parse, if_neg (by simp [not_isAllBlank h]), Json.parse_eq_ok_iff.mpr h]

theorem exists_error_iff :
    (∃ failure, parse t = .error failure ∧ failure.kind = .invalidJson) ↔
      (∃ c ∈ t, isBlank c = false) ∧ ∀ members, ¬ Json.IsDocumentOf (.object members) t := by
  have hblank : (∃ c ∈ t, isBlank c = false) ↔ ¬ parse t = .ok none := by
    rw [parse_eq_none_iff]
    simp
  simp only [hblank, ← parse_eq_some_iff]
  constructor
  · rintro ⟨failure, h, -⟩
    rw [h]
    exact ⟨nofun, nofun⟩
  · rintro ⟨hnone, hsome⟩
    cases h : parse t with
    | error failure => exact ⟨failure, rfl, (rejects_parse h).kind_eq⟩
    | ok found =>
        cases found with
        | none => exact absurd h hnone
        | some members => exact absurd h (hsome members)

theorem take_text (t : Text) (stdin : Bytes) : take (some (.text t)) stdin = (parse t, stdin) :=
  rfl

/-- The bytes of a text stand for the text, and all of them are taken. -/
theorem take_encode (t : Text) : take (some .stdin) (Utf8.encode t) = (parse t, []) := by
  rw [take, Utf8.decode?_eq_some_iff.mpr rfl]

/-- **Whatever is given is accepted or refused for what it is**, wherever it stands.  A text that
is given leaves the standard input alone; when it stands there, all of it is taken.  Blanks are no
parameters, a document of an object is this object, and all else fails, as bytes do that are no
text. -/
theorem load_classifies (t : Text) (stdin : Bytes) :
    load (some (.text t)) stdin = load (some .stdin) (Utf8.encode t) ∧
      consumed (some (.text t)) stdin = 0 ∧
      consumed (some .stdin) (Utf8.encode t) = (Utf8.encode t).length ∧
      (load (some (.text t)) stdin = .ok none ↔ ∀ c ∈ t, isBlank c = true) ∧
      (∀ members, load (some (.text t)) stdin = .ok (some members) ↔
        Json.IsDocumentOf (.object members) t) ∧
      ((∃ failure, load (some (.text t)) stdin = .error failure ∧ failure.kind = .invalidJson) ↔
        (∃ c ∈ t, isBlank c = false) ∧ ∀ members, ¬ Json.IsDocumentOf (.object members) t) ∧
      ((∀ u, stdin ≠ Utf8.encode u) →
        ∃ failure, load (some .stdin) stdin = .error failure ∧ failure.kind = .invalidJson) := by
  have htext : load (some (.text t)) stdin = parse t := congrArg Prod.fst (take_text t stdin)
  have hencode : load (some .stdin) (Utf8.encode t) = parse t := congrArg Prod.fst (take_encode t)
  have hleft : consumed (some (.text t)) stdin = 0 := by
    rw [consumed, take_text, Nat.sub_self]
  have htaken : consumed (some .stdin) (Utf8.encode t) = (Utf8.encode t).length := by
    rw [consumed, take_encode, List.length_nil, Nat.sub_zero]
  rw [htext]
  refine ⟨hencode.symm, hleft, htaken, parse_eq_none_iff, fun _ => parse_eq_some_iff,
    exists_error_iff, fun hstdin => ?_⟩
  have hdecode : Utf8.decode? stdin = none := by
    cases h : Utf8.decode? stdin with
    | none => rfl
    | some u => exact absurd (Utf8.decode?_eq_some_iff.mp h) (hstdin u)
  cases h : load (some .stdin) stdin with
  | error failure => exact ⟨failure, rfl, (rejects_load h).kind_eq⟩
  | ok found =>
      rw [load, take, hdecode] at h
      cases h

/-- A key that is written in two ways keeps its place and takes the new value; and a byte that is
no text. -/
theorem load_repeated_key :
    let t : Text := " \x7b\"a\": [1], \"b\": \"\\ud83d\\ude00\", \"\\u0061\": null\x7d\n"
    let stdin : Bytes := [0xFF]
    (∃ members, load (some (.text t)) stdin = .ok (some members) ∧
      (Json.Value.object members).text = "\x7b\"a\":null,\"b\":\"😀\"\x7d" ∧
      Json.IsDocumentOf (.object members) t) ∧
    (∀ u, stdin ≠ Utf8.encode u) ∧
      ∃ failure, load (some .stdin) stdin = .error failure ∧ failure.kind = .invalidJson := by
  intro t stdin
  have hbytes : ∀ u, stdin ≠ Utf8.encode u := by
    intro u hu
    have hdecode : Utf8.decode? stdin = none := rfl
    rw [Utf8.decode?_eq_some_iff.mpr hu] at hdecode
    cases hdecode
  obtain ⟨-, -, -, -, hobject, -, hother⟩ := load_classifies t stdin
  refine ⟨?_, hbytes, hother hbytes⟩
  have htext : (parse t).toOption.join.map (fun members => (Json.Value.object members).text) =
      some "\x7b\"a\":null,\"b\":\"😀\"\x7d".toList := by decide +kernel
  obtain ⟨members, hmembers, htext⟩ := Option.map_eq_some_iff.mp htext
  have hload : load (some (.text t)) stdin = .ok (some members) := by
    rw [load, take_text]
    cases hparse : parse t with
    | error failure =>
        rw [hparse] at hmembers
        cases hmembers
    | ok found =>
        rw [hparse] at hmembers
        exact congrArg Except.ok hmembers
  exact ⟨members, hload, htext, (hobject members).mp hload⟩

end VarlinkClient.ParameterSource
