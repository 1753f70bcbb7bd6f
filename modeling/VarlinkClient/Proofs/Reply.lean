/-
Which frames are replies.

A frame that is the text of a JSON object is read member by member, and members that a reply does
not have are passed over.  Any other frame is an invalid message, with two exceptions
(`decode_of_not_object`).  An array is taken for a reply when its items are the error, the
parameters and whether another reply follows, in this order, as many of them as there are
(`positional?`).  And what is passed over may have strings that are not UTF-8: such a frame is not
JSON, though it has the form of an object (`IsTolerated`).

For the array, readers of an expected kind are compared with the reader of values: they take
what it takes when that is of their kind.  For the object, the reader of members meets the rule
that says which of them are passed over.
-/
import VarlinkClient.Proofs.Connection.Frames
import VarlinkClient.Proofs.Json.Field
import VarlinkClient.Proofs.Json.Skip

namespace VarlinkClient.Reply

open Json (byte skipSpace skipSpace_skipSpace readValue readItems readString nextItem)
open Json.Grammar

/-! ### A reply as an array -/

/-- The name of an error, which may be left away. -/
def nameOf? : Json.Value → Option (Option Text)
  | .null => some none
  | .string t => some (some t)
  | _ => none

/-- Parameters, which may be left away. -/
def parametersOf : Json.Value → Option Json.Value
  | .null => none
  | value => some value

/-- The reply that the items of an array say. -/
def ofItems? : List Json.Value → Option Reply
  | [] => some ⟨none, none, false⟩
  | [error] => (nameOf? error).map fun error => ⟨error, none, false⟩
  | [error, parameters] =>
    (nameOf? error).map fun error => ⟨error, parametersOf parameters, false⟩
  | [error, parameters, .bool continues] =>
    (nameOf? error).map fun error => ⟨error, parametersOf parameters, continues⟩
  | _ => none

/-- The reply that a frame says as an array. -/
def positional? (frame : Bytes) : Option Reply :=
  match Json.read frame with
  | .ok (.array items) => ofItems? items
  | _ => none

section Items

variable {bytes rest : Bytes}

theorem readError_eq_ok_iff (depth : Nat) {error : Option Text} :
    readError bytes = .ok (error, rest) ↔
      ∃ value, readValue depth bytes = .ok (value, rest) ∧ nameOf? value = some error := by
  unfold readError
  by_cases hnull : ∃ more, skipSpace bytes = byte 'n' :: more
  · obtain ⟨more, hspace⟩ := hnull
    rw [Json.readOptional_null _ hspace, Json.readValue_null depth hspace]
    constructor
    · intro h
      obtain ⟨rfl, hrest⟩ := Json.eq_ok_of_readWord h
      exact ⟨.null, by rw [Json.readWord, hrest], rfl⟩
    · rintro ⟨value, hvalue, hname⟩
      obtain ⟨rfl, hrest⟩ := Json.eq_ok_of_readWord hvalue
      cases hname
      rw [Json.readWord, hrest]
  · rw [Json.readOptional_some _ hnull]
    constructor
    · intro h
      obtain ⟨t, htext, rfl⟩ := Json.exists_of_wrap h
      obtain ⟨more, hspace, hstring⟩ := Json.readText_eq_ok_iff.mp htext
      rw [skipSpace_skipSpace] at hspace
      exact ⟨.string t, Json.readValue_string depth hspace hstring, rfl⟩
    · rintro ⟨value, hvalue, hname⟩
      cases Json.reads_of_readValue hvalue with
      | null hspace hrest => exact absurd ⟨_, hspace⟩ hnull
      | string hspace hstring =>
          cases hname
          rw [Json.readText_eq_ok_iff.mpr ⟨_, by rw [skipSpace_skipSpace, hspace], hstring⟩]
          rfl
      | _ => cases hname

theorem readParameters_eq_ok_iff {parameters : Option Json.Value} :
    readParameters bytes = .ok (parameters, rest) ↔
      ∃ value, readValue parameterDepth bytes = .ok (value, rest) ∧
        parametersOf value = parameters := by
  unfold readParameters
  by_cases hnull : ∃ more, skipSpace bytes = byte 'n' :: more
  · obtain ⟨more, hspace⟩ := hnull
    rw [Json.readOptional_null _ hspace, Json.readValue_null _ hspace]
    constructor
    · intro h
      obtain ⟨rfl, hrest⟩ := Json.eq_ok_of_readWord h
      exact ⟨.null, by rw [Json.readWord, hrest], rfl⟩
    · rintro ⟨value, hvalue, rfl⟩
      obtain ⟨rfl, hrest⟩ := Json.eq_ok_of_readWord hvalue
      rw [Json.readWord, hrest]
      rfl
  · rw [Json.readOptional_some _ hnull, Json.readValue_skipSpace]
    have hsome : ∀ value, readValue parameterDepth bytes = .ok (value, rest) →
        parametersOf value = some value := by
      intro value hvalue
      cases Json.reads_of_readValue hvalue with
      | null hspace hrest => exact absurd ⟨_, hspace⟩ hnull
      | _ => rfl
    constructor
    · intro h
      obtain ⟨value, hvalue, rfl⟩ := Json.exists_of_wrap h
      exact ⟨value, hvalue, hsome value hvalue⟩
    · rintro ⟨value, hvalue, rfl⟩
      rw [hvalue, hsome value hvalue]
      rfl

theorem readArrayEnd_eq_ok_iff :
    readArrayEnd bytes = .ok rest ↔ nextItem false bytes = .ok (.done rest) := by
  unfold readArrayEnd nextItem
  cases skipSpace bytes with
  | nil => exact ⟨nofun, nofun⟩
  | cons b after =>
      dsimp only
      by_cases hclose : b = byte ']'
      · rw [if_pos hclose, if_pos hclose]
        constructor <;> (rintro ⟨⟩; rfl)
      · rw [if_neg hclose, if_neg hclose, if_neg Bool.false_ne_true]
        by_cases hcomma : b = byte ','
        · rw [if_pos hcomma, if_pos hcomma]
          cases skipSpace after with
          | nil => exact ⟨nofun, nofun⟩
          | cons c last =>
              refine ⟨nofun, fun h => ?_⟩
              dsimp only at h
              split at h <;> cases h
        · rw [if_neg hcomma, if_neg hcomma]
          exact ⟨nofun, nofun⟩

/-- An array that is read as a reply has the items of one. -/
theorem exists_items_of_readArray {reply : Reply} (h : readArray bytes = .ok (reply, rest)) :
    ∃ items, Json.ReadsItems (readValue parameterDepth) true bytes items rest ∧
      ofItems? items = some reply := by
  unfold readArray at h
  split at h
  · cases h
  · rename_i hend
    cases h
    exact ⟨[], .done hend, rfl⟩
  rename_i start hnext
  split at h
  · cases h
  rename_i error afterError herror
  obtain ⟨first, hfirst, hname⟩ := (readError_eq_ok_iff parameterDepth).mp herror
  split at h
  · cases h
  · rename_i hend
    cases h
    exact ⟨[first], .more hnext hfirst (.done hend), by rw [ofItems?, hname]; rfl⟩
  rename_i start' hnext'
  split at h
  · cases h
  rename_i parameters afterParameters hparameters
  obtain ⟨second, hsecond, rfl⟩ := readParameters_eq_ok_iff.mp hparameters
  split at h
  · cases h
  · rename_i hend
    cases h
    exact ⟨[first, second], .more hnext hfirst (.more hnext' hsecond (.done hend)),
      by rw [ofItems?, hname]; rfl⟩
  rename_i start'' hnext''
  split at h
  · cases h
  rename_i continues afterContinues hcontinues
  have hthird := (Json.readBool_eq_ok_iff parameterDepth).mp hcontinues
  split at h
  · rename_i hend
    cases h
    refine ⟨[first, second, .bool continues], ?_, by rw [ofItems?, hname]; rfl⟩
    exact .more hnext hfirst (.more hnext' hsecond
      (.more hnext'' hthird (.done (readArrayEnd_eq_ok_iff.mp hend))))
  · cases h

/-- Items that are those of a reply are read as it. -/
theorem readArray_of_items {items : List Json.Value} {reply : Reply}
    (hitems : Json.ReadsItems (readValue parameterDepth) true bytes items rest)
    (hreply : ofItems? items = some reply) : readArray bytes = .ok (reply, rest) := by
  unfold ofItems? at hreply
  split at hreply
  · cases hreply
    obtain ⟨hend⟩ := hitems
    simp only [readArray, hend]
  · obtain ⟨error, hname, rfl⟩ := Option.map_eq_some_iff.mp hreply
    obtain _ | ⟨hnext, hfirst, ⟨hend⟩⟩ := hitems
    have herror := (readError_eq_ok_iff parameterDepth).mpr ⟨_, hfirst, hname⟩
    simp only [readArray, hnext, herror, hend]
  · obtain ⟨error, hname, rfl⟩ := Option.map_eq_some_iff.mp hreply
    obtain _ | ⟨hnext, hfirst, _ | ⟨hnext', hsecond, ⟨hend⟩⟩⟩ := hitems
    have herror := (readError_eq_ok_iff parameterDepth).mpr ⟨_, hfirst, hname⟩
    have hparameters := readParameters_eq_ok_iff.mpr ⟨_, hsecond, rfl⟩
    simp only [readArray, hnext, herror, hnext', hparameters, hend]
  · obtain ⟨error, hname, rfl⟩ := Option.map_eq_some_iff.mp hreply
    obtain _ | ⟨hnext, hfirst, _ | ⟨hnext', hsecond, _ | ⟨hnext'', hthird, ⟨hlast⟩⟩⟩⟩ := hitems
    have herror := (readError_eq_ok_iff parameterDepth).mpr ⟨_, hfirst, hname⟩
    have hparameters := readParameters_eq_ok_iff.mpr ⟨_, hsecond, rfl⟩
    have hcontinues := (Json.readBool_eq_ok_iff parameterDepth).mpr hthird
    have hend := readArrayEnd_eq_ok_iff.mpr hlast
    simp only [readArray, hnext, herror, hnext', hparameters, hnext'', hcontinues, hend]
  · cases hreply

/-- **An array is read as a reply when its items are those of one.** -/
theorem readArray_eq_ok_iff {reply : Reply} : readArray bytes = .ok (reply, rest) ↔
    ∃ items, Json.ReadsItems (readValue parameterDepth) true bytes items rest ∧
      ofItems? items = some reply :=
  ⟨exists_items_of_readArray, fun ⟨_, hitems, hreply⟩ => readArray_of_items hitems hreply⟩

end Items

/-- A frame that begins with a bracket is read as a reply when it says one as an array. -/
theorem readFrame_eq_ok_iff {frame more : Bytes} (h : skipSpace frame = byte '[' :: more)
    {reply : Reply} : readFrame frame = .ok reply ↔ positional? frame = some reply := by
  have hread : read frame = readArray more := by
    rw [read, h]
    dsimp only
    rw [if_neg (by decide), if_pos rfl]
  have hitems : ∀ {items rest},
      readItems (readValue parameterDepth) (more.length + 1) true more = .ok (items, rest) ↔
        Json.ReadsItems (readValue parameterDepth) true more items rest :=
    ⟨Json.readsItems_of_readItems, fun hitems => hitems.readItems_eq
      (fun _ _ _ hvalue => (Json.past_of_readValue hvalue).length_lt) (Nat.lt_succ_self _)⟩
  have hvalue : readValue Json.maxDepth frame =
      Json.wrap .array (readItems (readValue parameterDepth) (more.length + 1) true more) :=
    Json.readValue_array parameterDepth h
  rw [readFrame, positional?, Json.read, hread, hvalue]
  constructor
  · intro hok
    split at hok
    · cases hok
    rename_i found rest harray
    obtain ⟨items, hreads, hreply⟩ := readArray_eq_ok_iff.mp harray
    rw [hitems.mpr hreads]
    dsimp only [Json.wrap]
    cases hend : Json.readEnd rest with
    | error fault =>
        rw [hend] at hok
        cases hok
    | ok _ =>
        rw [hend] at hok
        cases hok
        exact hreply
  · intro hsome
    cases hreads : readItems (readValue parameterDepth) (more.length + 1) true more with
    | error fault =>
        rw [hreads] at hsome
        cases hsome
    | ok found =>
        obtain ⟨items, rest⟩ := found
        rw [hreads] at hsome
        dsimp only [Json.wrap] at hsome
        cases hend : Json.readEnd rest with
        | error fault =>
            rw [hend] at hsome
            cases hsome
        | ok _ =>
            rw [hend] at hsome
            rw [readArray_eq_ok_iff.mpr ⟨items, hitems.mp hreads, hsome⟩]
            dsimp only
            rw [hend]

/-- Only a frame that begins with a bracket says a reply as an array. -/
theorem exists_bracket_of_positional? {frame : Bytes} {reply : Reply}
    (h : positional? frame = some reply) : ∃ more, skipSpace frame = byte '[' :: more := by
  unfold positional? at h
  split at h
  · rename_i items hread
    unfold Json.read at hread
    split at hread
    · cases hread
    rename_i value rest hvalue
    split at hread
    · cases hread
      cases Json.reads_of_readValue hvalue with
      | array hdepth hspace hitems => exact ⟨_, hspace⟩
    · cases hread
  · cases h

/-! ### A reply as an object -/

/-- The fields that a reply has. -/
def fieldNames : List Text :=
  ["error", "parameters", "continues"]

/-- A member of a reply.  What is passed over may have strings that are not UTF-8. -/
inductive FieldRule : Rule
  | intro {key : Text} {bytes middle start rest : Bytes}
      (hkey : readString bytes = .ok (key, middle)) (hcolon : skipSpace middle = byte ':' :: start)
      (hvalue : AnyValue (if key ∈ fieldNames then IsEncoded else AreAny) (skipSpace start) rest) :
      FieldRule (byte '"' :: bytes) rest

/-- The frame has the form of an object, but for strings in members that are passed over. -/
def IsTolerated : Bytes → Prop :=
  IsObjectOf FieldRule

section Fields

variable {bytes rest : Bytes}

/-- The key of a member is a string of the grammar. -/
theorem stringTail_of_readString {key : Text} (h : readString bytes = .ok (key, rest)) :
    StringTail IsEncoded bytes rest := by
  have hmeets := Json.meets_readString bytes
  rw [h] at hmeets
  exact hmeets

theorem FieldRule.member (h : FieldRule bytes rest) :
    ∃ test, ObjectMember IsEncoded (AnyValue test) bytes rest := by
  obtain ⟨hkey, hcolon, hvalue⟩ := h
  exact ⟨_, .intro (stringTail_of_readString hkey) hcolon hvalue⟩

theorem anyValue_past {test : Bytes → Prop} (h : AnyValue test bytes rest) : Past bytes rest := by
  obtain ⟨depth, hvalue⟩ := h
  exact hvalue.past

theorem FieldRule.past (h : FieldRule bytes rest) : Past bytes rest := by
  obtain ⟨test, hmember⟩ := h.member
  exact hmember.past fun _ _ => anyValue_past

/-- In bytes that are UTF-8, a member of a reply is a member of a JSON object. -/
theorem FieldRule.encoded (h : FieldRule bytes rest) (hbytes : IsEncoded bytes) :
    ObjectMember IsEncoded (AnyValue IsEncoded) bytes rest := by
  obtain ⟨test, hmember⟩ := h.member
  refine hmember.encoded (fun _ _ hb hvalue => ?_) hbytes
  obtain ⟨depth, hvalue⟩ := hvalue
  exact ⟨depth, hvalue.encoded hb⟩

theorem isObject_of_isTolerated {frame : Bytes} (h : IsTolerated frame) (hframe : IsEncoded frame) :
    IsObject frame := by
  obtain ⟨more, rest, hspace, hentries, hrest⟩ := h
  have hmore := (past_of_skipSpace (by decide) hspace).after.isEncoded hframe
  exact ⟨more, rest, hspace, hentries.encoded (fun _ _ => FieldRule.past)
    (fun _ _ hb h => h.encoded hb) hmore, hrest⟩

theorem anyValue_of_readValue {depth : Nat} {value : Json.Value}
    (h : readValue depth bytes = .ok (value, rest)) :
    AnyValue IsEncoded (skipSpace bytes) rest := by
  have hmeets := Json.meets_readValue depth bytes
  rw [h] at hmeets
  exact ⟨depth, hmeets⟩

theorem colon_of_readColon (h : Json.readColon bytes = .ok rest) :
    skipSpace bytes = byte ':' :: rest := by
  have hmeets := Json.meets_readColon bytes
  rw [h] at hmeets
  exact hmeets

theorem exists_of_readFresh {α β : Type} {name : Text} {known : Option α}
    {read : Bytes → Json.Reading α} {put : α → β} {b : β}
    (h : readFresh name known read put bytes = .ok (b, rest)) :
    ∃ start a, skipSpace bytes = byte ':' :: start ∧ read start = .ok (a, rest) := by
  unfold readFresh at h
  split at h
  · unfold repeated at h
    dsimp only at h
    split at h <;> cases h
  split at h
  · rename_i start hcolon
    obtain ⟨a, hread, -⟩ := Json.exists_of_wrap h
    exact ⟨start, a, colon_of_readColon hcolon, hread⟩
  · cases h

theorem FieldRule.known {key : Text} {middle start : Bytes} {depth : Nat} {value : Json.Value}
    (hkey : readString bytes = .ok (key, middle)) (hname : key ∈ fieldNames)
    (hcolon : skipSpace middle = byte ':' :: start)
    (hvalue : readValue depth start = .ok (value, rest)) : FieldRule (byte '"' :: bytes) rest := by
  refine .intro hkey hcolon ?_
  rw [if_pos hname]
  exact anyValue_of_readValue hvalue

theorem FieldRule.passed {key : Text} {middle start : Bytes}
    (hkey : readString bytes = .ok (key, middle)) (hname : key ∉ fieldNames)
    (hcolon : skipSpace middle = byte ':' :: start) (hskip : Json.skipValue start = .ok rest) :
    FieldRule (byte '"' :: bytes) rest := by
  have hmeets := Json.meets_skipValue start
  rw [hskip] at hmeets
  refine .intro hkey hcolon ?_
  rw [if_neg hname]
  exact ⟨start.length, hmeets⟩

/-- **A member that is read is one of a reply.** -/
theorem fieldRule_of_readField {fields fields' : Fields} {key : Text} {middle : Bytes}
    (hkey : readString bytes = .ok (key, middle))
    (h : readField fields key middle = .ok (fields', rest)) :
    FieldRule (byte '"' :: bytes) rest := by
  unfold readField at h
  split at h
  · rename_i hname
    obtain ⟨start, error, hcolon, herror⟩ := exists_of_readFresh h
    obtain ⟨value, hvalue, -⟩ := (readError_eq_ok_iff 0).mp herror
    exact .known hkey (by simp [hname, fieldNames]) hcolon hvalue
  split at h
  · rename_i hname
    obtain ⟨start, parameters, hcolon, hparameters⟩ := exists_of_readFresh h
    obtain ⟨value, hvalue, -⟩ := readParameters_eq_ok_iff.mp hparameters
    exact .known hkey (by simp [hname, fieldNames]) hcolon hvalue
  split at h
  · rename_i hname
    obtain ⟨start, continues, hcolon, hcontinues⟩ := exists_of_readFresh h
    have hvalue := (Json.readBool_eq_ok_iff 0).mp hcontinues
    exact .known hkey (by simp [hname, fieldNames]) hcolon hvalue
  · rename_i herror hparameters hcontinues
    have hname : key ∉ fieldNames := by
      simpa [fieldNames] using And.intro herror (And.intro hparameters hcontinues)
    split at h
    · cases h
    rename_i start hcolon
    split at h
    · rename_i last hskip
      cases h
      exact .passed hkey hname (colon_of_readColon hcolon) hskip
    · cases h

/-- The members of a reply are read one after another. -/
theorem remaining_of_readFields : ∀ {fuel : Nat} {first : Bool} {fields fields' : Fields}
    {bytes rest : Bytes}, readFields fuel first fields bytes = .ok (fields', rest) →
      Remaining '\x7d' FieldRule first bytes rest := by
  intro fuel
  induction fuel with
  | zero => exact nofun
  | succ fuel ih =>
      intro first fields fields' bytes rest h
      have hmeets := Json.meets_nextMember first bytes
      unfold readFields at h
      split at h
      · cases h
      · rename_i hnext
        rw [hnext] at hmeets
        cases h
        exact remaining_done hmeets
      rename_i start hnext
      rw [hnext] at hmeets
      have hcomes : Comes first bytes (byte '"' :: start) := hmeets
      split at h
      · cases h
      rename_i key middle hkey
      split at h
      · cases h
      rename_i between after hfield
      exact hcomes.remaining (fieldRule_of_readField hkey hfield) (ih h)

end Fields

/-- A frame that is read begins with a brace or a bracket, and one that begins with a brace has
the form of an object. -/
theorem readFrame_cases {frame : Bytes} {reply : Reply} (h : readFrame frame = .ok reply) :
    IsTolerated frame ∨ ∃ more, skipSpace frame = byte '[' :: more := by
  unfold readFrame read at h
  split at h
  · cases h
  rename_i found rest hread
  split at hread
  · cases hread
  rename_i b more hspace
  split at hread
  · rename_i hb
    obtain ⟨fields, hfields, -⟩ := Json.exists_of_wrap hread
    have hend := Json.meets_readEnd rest
    split at h
    · rename_i hok
      rw [hok] at hend
      exact Or.inl ⟨more, rest, hb ▸ hspace, remaining_of_readFields hfields, hend⟩
    · cases h
  split at hread
  · rename_i hb
    exact Or.inr ⟨more, hb ▸ hspace⟩
  · exact absurd hread (Json.complainOfNext_ne_ok _ _ _)

/-! ### Frames -/

theorem decode_eq_ok_iff {frame : Bytes} {reply : Reply} :
    decode frame = .ok reply ↔ readFrame frame = .ok reply := by
  unfold decode
  cases readFrame frame with
  | ok found => simp
  | error fault => simp

/-- **A frame that is no JSON object is an invalid message**, but for an array that says a reply
and for what has the form of an object and is not UTF-8. -/
theorem decode_of_not_object {frame : Bytes} (h : ¬ IsObject frame) :
    (∃ reply, positional? frame = some reply ∧ decode frame = .ok reply) ∨
      (positional? frame = none ∧ ∃ reason, decode frame = .error (.invalidMessage reason)) ∨
      (IsTolerated frame ∧ ¬ IsEncoded frame) := by
  cases hpositional : positional? frame with
  | some reply =>
      obtain ⟨more, hbracket⟩ := exists_bracket_of_positional? hpositional
      have hok := (readFrame_eq_ok_iff hbracket).mpr hpositional
      exact Or.inl ⟨reply, rfl, decode_eq_ok_iff.mpr hok⟩
  | none =>
      refine Or.inr ?_
      cases hdecode : decode frame with
      | error failure =>
          obtain ⟨reason, rfl⟩ := Connection.decode_error hdecode
          exact Or.inl ⟨rfl, reason, rfl⟩
      | ok reply =>
          have hok := decode_eq_ok_iff.mp hdecode
          rcases readFrame_cases hok with htolerated | ⟨more, hbracket⟩
          · exact Or.inr ⟨htolerated, fun hframe => h (isObject_of_isTolerated htolerated hframe)⟩
          · cases hpositional.symm.trans ((readFrame_eq_ok_iff hbracket).mp hok)

/-- A number is not a reply. -/
theorem decode_of_not_object_number :
    ¬ IsObject (Utf8.encode "7") ∧
      ∃ reason, decode (Utf8.encode "7") = .error (.invalidMessage reason) := by
  have hobject : ¬ IsObject (Utf8.encode "7") := by
    rintro ⟨_, _, hspace, -⟩
    cases hspace
  refine ⟨hobject, ?_⟩
  rcases decode_of_not_object hobject with
    ⟨reply, hpositional, -⟩ | ⟨-, hreason⟩ | ⟨⟨_, _, hspace, -⟩, -⟩
  · cases hpositional
  · exact hreason
  · cases hspace

/-- Not every frame that is no object is an invalid message: an empty array is a reply. -/
theorem exists_array_reply : ¬ ∀ frame : Bytes, ¬ IsObject frame →
    ∃ reason, decode frame = .error (.invalidMessage reason) := by
  intro h
  have hobject : ¬ IsObject (Utf8.encode "[]") := by
    rintro ⟨_, _, hspace, -⟩
    cases hspace
  obtain ⟨reason, hdecode⟩ := h _ hobject
  have hok : decode (Utf8.encode "[]") = .ok ⟨none, none, false⟩ := rfl
  cases hok.symm.trans hdecode

/-- The value of a member that is passed over, a string of one byte that is not UTF-8. -/
example :
    (decode (Utf8.encode "\x7b\"x\":\"" ++ 0xFF :: Utf8.encode "\"\x7d")).toOption.isSome := by
  decide +kernel

end VarlinkClient.Reply
