/-
The parameters of a reply as they are shown, and as they are taken for an answer.

A reply is looked at in one of two ways: its parameters are laid out for people, or their members
are taken for an answer.  Both ask for an object, and both take absent parameters for an empty one,
but of a `null` they think differently: one complains, the other takes it for an empty object as
well.  No reply has such parameters when it has been decoded, whichever form its frame had
(`parameters_ne_null`).  So the two agree, and what is shown is JSON for the members that are taken
(`accepted_iff_shown`).
-/
import VarlinkClient.Answer
import VarlinkClient.Proofs.Json.Written
import VarlinkClient.Proofs.Reply.Members

namespace VarlinkClient

/-! ### Parameters of a reply that has been decoded -/

namespace Reply

open Json.Grammar

variable {frame : Bytes} {reply : Reply} {value : Json.Value}

theorem parametersOf_ne_null (value : Json.Value) : parametersOf value ≠ some .null := by
  cases value <;> simp [parametersOf]

theorem parametersOf_eq_some {found : Json.Value} (h : parametersOf found = some value) :
    found = value := by
  cases found <;> simp_all [parametersOf]

/-- A field has been given by a member, or it is as it was. -/
theorem Fills.cases {α : Type} {read : Written → Option α} {name : Text}
    {members : List Written} {known known' : Option α} (h : Fills read name known members known') :
    known' = known ∨ ∃ member a, read member = some a ∧ known' = some a := by
  unfold Fills at h
  split at h
  · exact Or.inl h
  · obtain ⟨-, a, hread, hknown⟩ := h
    exact Or.inr ⟨_, a, hread, hknown⟩
  · exact h.elim

theorem exists_parameters_of_ofItems? {items : List Json.Value} (h : ofItems? items = some reply) :
    reply.parameters = none ∨ ∃ item ∈ items, parametersOf item = reply.parameters := by
  unfold ofItems? at h
  split at h
  · cases h
    exact Or.inl rfl
  · obtain ⟨error, -, rfl⟩ := Option.map_eq_some_iff.mp h
    exact Or.inl rfl
  · obtain ⟨error, -, rfl⟩ := Option.map_eq_some_iff.mp h
    exact Or.inr ⟨_, by simp, rfl⟩
  · obtain ⟨error, -, rfl⟩ := Option.map_eq_some_iff.mp h
    exact Or.inr ⟨_, by simp, rfl⟩
  · cases h

/-- The parameters of a reply in an array are one of its items. -/
theorem exists_parameters_of_positional? (h : positional? frame = some reply) :
    reply.parameters = none ∨
      ∃ value t, Json.Written parameterDepth value t ∧ parametersOf value = reply.parameters := by
  unfold positional? at h
  split at h
  swap
  · cases h
  rename_i items hread
  rcases exists_parameters_of_ofItems? h with hnone | ⟨item, hitem, hparameters⟩
  · exact Or.inl hnone
  refine Or.inr ⟨item, ?_⟩
  unfold Json.read at hread
  split at hread
  · cases hread
  rename_i found rest hvalue
  split at hread
  swap
  · cases hread
  cases hread
  obtain ⟨t, hwritten, -⟩ := Json.written_of_readValue _ _ _ _ hvalue
  rcases hwritten with hscalar | hcontainer
  · cases hscalar
  · cases hcontainer with
    | array hrow =>
        obtain ⟨u, hu⟩ := hrow.exists_of_mem item hitem
        exact ⟨u, hu, hparameters⟩

/-- The parameters of a reply in an object are the value of a member. -/
theorem exists_parameters_of_isTolerated (h : decode frame = .ok reply)
    (htolerated : IsTolerated frame) : reply.parameters = none ∨
      ∃ value t, Json.Written parameterDepth value t ∧ parametersOf value = reply.parameters := by
  obtain ⟨members, hmembers⟩ := exists_isWritten htolerated
  obtain ⟨fields, hsets, rfl⟩ := (decode_written_iff hmembers).mp h
  rcases hsets.parameters.cases with hnone | ⟨member, parameters, hmember, hsome⟩
  · exact Or.inl (congrArg Option.join hnone)
  obtain ⟨value, hvalue, rfl⟩ := Option.map_eq_some_iff.mp hmember
  obtain ⟨t, ht, -⟩ := Json.written_of_readValue _ _ _ _ (Written.value?_eq_some_iff.mp hvalue)
  exact Or.inr ⟨value, t, ht, (congrArg Option.join hsome).symm⟩

theorem exists_parameters_of_decode (h : decode frame = .ok reply) : reply.parameters = none ∨
    ∃ value t, Json.Written parameterDepth value t ∧ parametersOf value = reply.parameters := by
  have hread := decode_eq_ok_iff.mp h
  rcases readFrame_cases hread with htolerated | ⟨more, hbracket⟩
  · exact exists_parameters_of_isTolerated h htolerated
  · exact exists_parameters_of_positional? ((readFrame_eq_ok_iff hbracket).mp hread)

/-- **Parameters that are decoded are never `null`.** -/
theorem parameters_ne_null (h : decode frame = .ok reply) : reply.parameters ≠ some .null := by
  rcases exists_parameters_of_decode h with hnone | ⟨value, -, -, hparameters⟩
  · rw [hnone]
    exact nofun
  · rw [← hparameters]
    exact parametersOf_ne_null value

theorem written_parameters (h : decode frame = .ok reply) (hvalue : reply.parameters = some value) :
    ∃ t, Json.Written parameterDepth value t := by
  rcases exists_parameters_of_decode h with hnone | ⟨found, t, ht, hparameters⟩
  · cases hnone.symm.trans hvalue
  · obtain rfl := parametersOf_eq_some (hparameters.trans hvalue)
    exact ⟨t, ht⟩

end Reply

/-! ### Both ways of looking at a reply -/

namespace Answer

variable {frame : Bytes} {reply : Reply}

/-- Parameters that are decoded are absent, or an object, or refused both ways. -/
theorem decoded_cases (h : Reply.decode frame = .ok reply) :
    (reply.parameters = none ∧ ofReply reply = .ok ⟨reply.error, []⟩) ∨
      (∃ members, reply.parameters = some (.object members) ∧
        ofReply reply = .ok ⟨reply.error, members⟩) ∨
      (∃ failure, ofReply reply = .error failure) ∧
        ∀ palette, ∃ reason, Json.layoutParameters palette reply.parameters = .error reason := by
  have hnull := Reply.parameters_ne_null h
  unfold ofReply
  cases hparameters : reply.parameters with
  | none => exact Or.inl ⟨rfl, rfl⟩
  | some value =>
      cases value with
      | null => exact absurd hparameters hnull
      | object members => exact Or.inr (Or.inl ⟨members, rfl, rfl⟩)
      | _ => exact Or.inr (Or.inr ⟨⟨_, rfl⟩, fun _ => ⟨_, rfl⟩⟩)

/-- An object that is decoded is JSON as it is laid out. -/
theorem parse_layout_of_decode (h : Reply.decode frame = .ok reply) {members : Json.Members}
    (hmembers : reply.parameters = some (.object members))
    (hwhole : (Json.Value.object members).IsWhole) :
    Json.parse ((Json.Value.object members).layout .plain 0) = .ok (.object members) := by
  obtain ⟨t, hwritten⟩ := Reply.written_parameters h hmembers
  exact Json.parse_eq_ok_iff.mpr (Json.isDocumentOf_layout hwritten.succ hwhole)

/-- **A reply that is decoded has an answer when it can be shown**, in whichever colours.  The
answer has the members of the object that is shown, none when there are no parameters, and without
colours and with whole numbers what is shown is JSON for them. -/
theorem accepted_iff_shown (h : Reply.decode frame = .ok reply) :
    (∀ palette, (∃ t, Json.layoutParameters palette reply.parameters = .ok t) ↔
      ∃ answer, ofReply reply = .ok answer) ∧
    ∀ answer, ofReply reply = .ok answer →
      (reply.parameters = none ∧ answer.parameters = [] ∨
        reply.parameters = some (.object answer.parameters)) ∧
      ((Json.Value.object answer.parameters).IsWhole →
        ∃ t, Json.layoutParameters .plain reply.parameters = .ok t ∧
          Json.parse t = .ok (.object answer.parameters)) := by
  rcases decoded_cases h with ⟨hnone, hanswer⟩ | ⟨members, hobject, hanswer⟩ | ⟨hrefused, hreason⟩
  · rw [hanswer, hnone]
    refine ⟨fun palette => iff_of_true ⟨_, rfl⟩ ⟨_, rfl⟩, ?_⟩
    rintro answer ⟨⟩
    exact ⟨Or.inl ⟨rfl, rfl⟩, fun _ => ⟨_, rfl, rfl⟩⟩
  · rw [hanswer, hobject]
    refine ⟨fun palette => iff_of_true ⟨_, rfl⟩ ⟨_, rfl⟩, ?_⟩
    rintro answer ⟨⟩
    exact ⟨Or.inr rfl, fun hwhole => ⟨_, rfl, parse_layout_of_decode h hobject hwhole⟩⟩
  · obtain ⟨failure, hfailure⟩ := hrefused
    rw [hfailure]
    refine ⟨fun palette => iff_of_false ?_ nofun, nofun⟩
    obtain ⟨reason, hlayout⟩ := hreason palette
    rw [hlayout]
    exact nofun

/-- An array whose second item is an object in which a key comes again. -/
theorem accepted_iff_shown_array :
    let frame : Bytes := Utf8.encode "[null,\x7b\"n\":7,\"l\":[-1],\"n\":null\x7d]"
    let members : Json.Members := [("n", .null), ("l", .array [.number (.negative ⟨0, by decide⟩)])]
    let reply : Reply := ⟨none, some (.object members), false⟩
    Reply.decode frame = .ok reply ∧ ofReply reply = .ok ⟨none, members⟩ ∧
      (Json.Value.object members).IsWhole ∧
      ∃ t, Json.layoutParameters .plain reply.parameters = .ok t ∧
        Json.parse t = .ok (.object members) := by
  intro frame members reply
  have hbytes : frame =
      [91, 110, 117, 108, 108, 44, 123, 34, 110, 34, 58, 55, 44, 34, 108, 34, 58, 91, 45, 49, 93,
        44, 34, 110, 34, 58, 110, 117, 108, 108, 125, 93] := by decide
  have hdecode : Reply.decode frame = .ok reply := by
    rw [hbytes]
    rfl
  have hwhole : (Json.Value.object members).IsWhole := by
    refine .object fun member hmember => ?_
    simp only [members, List.mem_cons, List.not_mem_nil, or_false] at hmember
    rcases hmember with rfl | rfl
    · exact .null
    · refine .array fun item hitem => ?_
      obtain rfl := List.mem_singleton.mp hitem
      exact .number rfl
  obtain ⟨-, hanswers⟩ := accepted_iff_shown hdecode
  obtain ⟨-, hshown⟩ := hanswers ⟨none, members⟩ rfl
  exact ⟨hdecode, rfl, hwhole, hshown hwhole⟩

end Answer

end VarlinkClient
