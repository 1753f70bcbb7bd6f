/-
The members of a reply.

The text of an object is its members, as they are written (`Written`), in a row (`IsRow`).  A
member sets the field that it names, when that has not been set and the value is of its kind, and
is passed over when it names none.  This can be said one field at a time, and then it does not
matter where a member stands: there is at most one of each name, and it says what the field is
(`Fills`, `Sets`).

So a reply stays the same when its members change places, and when members come or go that it has
no field for (`SameFields`, `decode_members`).
-/
import VarlinkClient.Proofs.Json.Reread
import VarlinkClient.Proofs.Reply

namespace VarlinkClient.Reply

open Json (byte skipSpace skipSpace_skipSpace readValue readString Follows Moves)
open Json.Grammar

/-! ### Members as they are written -/

/-- A member of an object: its key, behind the opening quote and up to the closing one, and its
value.  The value may be nested however deep, and have strings that are not UTF-8. -/
structure Written where
  /-- What the key says. -/
  name : Text
  /-- The bytes of the key. -/
  key : Bytes
  /-- The bytes of the value. -/
  value : Bytes
  named : readString key = .ok (name, [])
  isValue : AnyValue AreAny value []

/-- The members up to the end of the object, with blanks between the parts of them. -/
inductive IsRow : Bool → List Written → Rule
  | done {first : Bool} {bytes rest : Bytes} (h : skipSpace bytes = byte '\x7d' :: rest) :
      IsRow first [] bytes rest
  | more {first : Bool} {member : Written} {members : List Written}
      {bytes middle start later rest : Bytes}
      (hkey : Comes first bytes (byte '"' :: (member.key ++ middle)))
      (hcolon : skipSpace middle = byte ':' :: start)
      (hvalue : skipSpace start = member.value ++ later) (hmore : IsRow false members later rest) :
      IsRow first (member :: members) bytes rest

/-- The frame is the text of an object with these members. -/
def IsWritten (members : List Written) (frame : Bytes) : Prop :=
  ∃ more rest, skipSpace frame = byte '\x7b' :: more ∧ IsRow true members more rest ∧
    skipSpace rest = []

theorem IsRow.follows {members : List Written} {bytes rest : Bytes}
    (h : IsRow false members bytes rest) : Follows bytes := by
  cases h with
  | done h => exact Json.follows_of_skipSpace h (by decide)
  | more hkey _ _ _ =>
      obtain ⟨after, hcomma, -⟩ := hkey
      exact Json.follows_of_skipSpace hcomma (by decide)

/-! ### Reading a member -/

section Member

variable {member : Written} {bytes middle start later rest : Bytes}

theorem Written.readString_key (member : Written) (hmiddle : Follows middle) :
    readString (member.key ++ middle) = .ok (member.name, middle) :=
  (Json.moves_readString member.named).inFront hmiddle

theorem Written.anyValue (member : Written) (hlater : Follows later) :
    AnyValue AreAny (member.value ++ later) later :=
  (movable_anyValue _ _ _ member.isValue).inFront hlater

/-- The value, when it can be one of a reply. -/
def Written.value? (member : Written) : Option Json.Value :=
  match readValue parameterDepth member.value with
  | .ok (value, []) => some value
  | _ => none

theorem Written.value?_eq_some_iff {value : Json.Value} :
    member.value? = some value ↔ readValue parameterDepth member.value = .ok (value, []) := by
  unfold Written.value?
  constructor
  · intro h
    split at h
    · rename_i hread
      cases h
      exact hread
    · cases h
  · intro h
    rw [h]

/-- The value is read where it stands as it is read alone. -/
theorem Written.readValue_iff (hvalue : skipSpace start = member.value ++ later)
    (hlater : Follows later) (hrest : Follows rest) {value : Json.Value} :
    readValue parameterDepth start = .ok (value, rest) ↔
      rest = later ∧ member.value? = some value := by
  rw [← Json.readValue_skipSpace, hvalue, Written.value?_eq_some_iff]
  constructor
  · intro h
    have hread := anyValue_of_readValue h
    rw [← hvalue, skipSpace_skipSpace, hvalue] at hread
    obtain rfl := Json.value_unique (member.anyValue hlater) hread hlater hrest
    exact ⟨rfl, (Json.moves_readValue _ h).alone⟩
  · rintro ⟨rfl, h⟩
    exact (Json.moves_readValue _ h).inFront hlater

end Member

/-- A truth value. -/
def boolOf? : Json.Value → Option Bool
  | .bool b => some b
  | _ => none

/-- The name of an error that the member gives. -/
def Written.error? (member : Written) : Option (Option Text) :=
  member.value?.bind nameOf?

/-- The parameters that the member gives. -/
def Written.parameters? (member : Written) : Option (Option Json.Value) :=
  member.value?.map parametersOf

/-- The truth value that the member gives. -/
def Written.continues? (member : Written) : Option Bool :=
  member.value?.bind boolOf?

section Kinds

variable {member : Written} {start later rest : Bytes}
  (hvalue : skipSpace start = member.value ++ later) (hlater : Follows later)
  (hrest : Follows rest)
include hvalue hlater hrest

theorem Written.readError_iff (error : Option Text) :
    readError start = .ok (error, rest) ↔ rest = later ∧ member.error? = some error := by
  simp only [readError_eq_ok_iff parameterDepth, member.readValue_iff hvalue hlater hrest,
    Written.error?, Option.bind_eq_some_iff, and_assoc, exists_and_left]

theorem Written.readParameters_iff (parameters : Option Json.Value) :
    readParameters start = .ok (parameters, rest) ↔
      rest = later ∧ member.parameters? = some parameters := by
  simp only [readParameters_eq_ok_iff, member.readValue_iff hvalue hlater hrest,
    Written.parameters?, Option.map_eq_some_iff, and_assoc, exists_and_left]

theorem Written.readBool_iff (b : Bool) :
    Json.readBool start = .ok (b, rest) ↔ rest = later ∧ member.continues? = some b := by
  have hbool : member.continues? = some b ↔ member.value? = some (.bool b) := by
    unfold Written.continues?
    cases member.value? with
    | none => exact ⟨nofun, nofun⟩
    | some value => cases value <;> simp [boolOf?]
  rw [Json.readBool_eq_ok_iff parameterDepth, member.readValue_iff hvalue hlater hrest, hbool]

end Kinds

/-! ### Setting fields -/

/-- What the members of a name make of a field: there is one such member at most, and only when the
field has not been set. -/
def Fills {α : Type} (read : Written → Option α) (name : Text) (known : Option α)
    (members : List Written) (known' : Option α) : Prop :=
  match members.filter (·.name = name) with
  | [] => known' = known
  | [member] => known = none ∧ ∃ a, read member = some a ∧ known' = some a
  | _ => False

section Fills

variable {α : Type} {read : Written → Option α} {name : Text} {known known' : Option α}
  {member : Written} {members : List Written}

theorem fills_nil : Fills read name known [] known' ↔ known' = known :=
  Iff.rfl

theorem fills_cons_other (h : member.name ≠ name) :
    Fills read name known (member :: members) known' ↔ Fills read name known members known' := by
  unfold Fills
  rw [List.filter_cons_of_neg (by simpa using h)]

theorem fills_cons (h : member.name = name) :
    Fills read name known (member :: members) known' ↔
      known = none ∧ ∃ a, read member = some a ∧ Fills read name (some a) members known' := by
  unfold Fills
  rw [List.filter_cons_of_pos (by simpa using h)]
  cases members.filter (·.name = name) with
  | nil => rfl
  | cons other others =>
      cases others <;> simp

/-- The first member, and then the others. -/
theorem fills_cons_iff : Fills read name known (member :: members) known' ↔
    ∃ between, Fills read name known [member] between ∧
      Fills read name between members known' := by
  by_cases h : member.name = name
  · rw [fills_cons h]
    constructor
    · rintro ⟨hnone, a, ha, hmore⟩
      exact ⟨some a, (fills_cons h).mpr ⟨hnone, a, ha, rfl⟩, hmore⟩
    · rintro ⟨between, hfirst, hmore⟩
      obtain ⟨hnone, a, ha, rfl⟩ := (fills_cons h).mp hfirst
      exact ⟨hnone, a, ha, hmore⟩
  · rw [fills_cons_other h]
    constructor
    · exact fun hmore => ⟨known, (fills_cons_other h).mpr rfl, hmore⟩
    · rintro ⟨between, hfirst, hmore⟩
      obtain rfl := (fills_cons_other h).mp hfirst
      exact hmore

/-- Only the members of the name count, and not their order. -/
theorem Fills.perm {members' : List Written}
    (h : (members.filter (·.name = name)).Perm (members'.filter (·.name = name)))
    (hfills : Fills read name known members known') : Fills read name known members' known' := by
  unfold Fills at hfills ⊢
  split at hfills
  · rename_i hnil
    rw [hnil] at h
    rw [h.nil_eq.symm]
    exact hfills
  · rename_i only hone
    rw [hone] at h
    rw [List.perm_singleton.mp h.symm]
    exact hfills
  · exact hfills.elim

/-- A field that two members name is not filled. -/
theorem not_fills_of_repeated (h : member.name = name) (hother : name ∈ members.map Written.name) :
    ¬ Fills read name known (member :: members) known' := by
  obtain ⟨other, hmem, hname⟩ := List.mem_map.mp hother
  have hfilter : other ∈ members.filter (·.name = name) :=
    List.mem_filter.mpr ⟨hmem, by simpa using hname⟩
  obtain ⟨first, others, hothers⟩ := List.exists_cons_of_ne_nil (List.ne_nil_of_mem hfilter)
  unfold Fills
  rw [List.filter_cons_of_pos (by simpa using h), hothers]
  exact id

end Fills

/-- What the members make of the fields. -/
structure Sets (fields : Fields) (members : List Written) (fields' : Fields) : Prop where
  error : Fills Written.error? "error" fields.error members fields'.error
  parameters : Fills Written.parameters? "parameters" fields.parameters members fields'.parameters
  continues : Fills Written.continues? "continues" fields.continues members fields'.continues

theorem readFresh_eq_ok_iff {α β : Type} {name : Text} {known : Option α}
    {read : Bytes → Json.Reading α} {put : α → β} {b : β} {middle start rest : Bytes}
    (hcolon : skipSpace middle = byte ':' :: start) :
    readFresh name known read put middle = .ok (b, rest) ↔
      known = none ∧ ∃ a, read start = .ok (a, rest) ∧ put a = b := by
  cases known with
  | some a =>
      have hrepeated : readFresh name (some a) read put middle = repeated name middle := rfl
      rw [hrepeated]
      unfold repeated
      constructor
      · intro h
        dsimp only at h
        split at h <;> cases h
      · exact nofun
  | none =>
      have hfresh : readFresh name none read put middle = Json.wrap put (read start) := by
        rw [readFresh, Json.readColon_of_skipSpace hcolon]
      rw [hfresh]
      constructor
      · intro h
        exact ⟨rfl, Json.exists_of_wrap h⟩
      · rintro ⟨-, a, hread, rfl⟩
        rw [hread]
        rfl

section Member

variable {member : Written} {fields fields' : Fields} {middle start later rest : Bytes}

theorem readFresh_fills_iff {α : Type} {name : Text} {known : Option α}
    {read : Bytes → Json.Reading α} {value? : Written → Option α} {put : α → Fields}
    (hname : member.name = name) (hcolon : skipSpace middle = byte ':' :: start)
    (hread : ∀ a, read start = .ok (a, rest) ↔ rest = later ∧ value? member = some a) :
    readFresh name known read put middle = .ok (fields', rest) ↔
      rest = later ∧ ∃ a, Fills value? name known [member] (some a) ∧ put a = fields' := by
  rw [readFresh_eq_ok_iff hcolon]
  simp only [hread, fills_cons hname, fills_nil]
  constructor
  · rintro ⟨hnone, a, ⟨hrest, ha⟩, hput⟩
    exact ⟨hrest, a, ⟨hnone, a, ha, rfl⟩, hput⟩
  · rintro ⟨hrest, a, ⟨hnone, _, ha, ⟨⟩⟩, hput⟩
    exact ⟨hnone, a, ⟨hrest, ha⟩, hput⟩

/-- A field that a member fills has something in it. -/
theorem Fills.exists_some {α : Type} {read : Written → Option α} {name : Text}
    {known known' : Option α} (h : Fills read name known [member] known')
    (hname : member.name = name) : ∃ a, known' = some a := by
  obtain ⟨-, a, -, ha⟩ := (fills_cons hname).mp h
  exact ⟨a, ha⟩

/-- **A member sets the field that it names**, and leaves the others. -/
theorem readField_iff (hcolon : skipSpace middle = byte ':' :: start)
    (hvalue : skipSpace start = member.value ++ later) (hlater : Follows later)
    (hrest : Follows rest) :
    readField fields member.name middle = .ok (fields', rest) ↔
      rest = later ∧ Sets fields [member] fields' := by
  obtain ⟨error, parameters, continues⟩ := fields
  obtain ⟨error', parameters', continues'⟩ := fields'
  unfold readField
  split
  · rename_i hname
    have hparameters : member.name ≠ "parameters" := by rw [hname]; decide
    have hcontinues : member.name ≠ "continues" := by rw [hname]; decide
    rw [hname, readFresh_fills_iff hname hcolon (member.readError_iff hvalue hlater hrest)]
    refine and_congr_right fun _ => ⟨?_, fun hsets => ?_⟩
    · rintro ⟨a, hfills, ⟨⟩⟩
      exact ⟨hfills, (fills_cons_other hparameters).mpr rfl, (fills_cons_other hcontinues).mpr rfl⟩
    · obtain ⟨a, rfl⟩ := hsets.error.exists_some hname
      obtain rfl := (fills_cons_other hparameters).mp hsets.parameters
      obtain rfl := (fills_cons_other hcontinues).mp hsets.continues
      exact ⟨a, hsets.error, rfl⟩
  split
  · rename_i herror hname
    have hcontinues : member.name ≠ "continues" := by rw [hname]; decide
    rw [hname, readFresh_fills_iff hname hcolon (member.readParameters_iff hvalue hlater hrest)]
    refine and_congr_right fun _ => ⟨?_, fun hsets => ?_⟩
    · rintro ⟨a, hfills, ⟨⟩⟩
      exact ⟨(fills_cons_other herror).mpr rfl, hfills, (fills_cons_other hcontinues).mpr rfl⟩
    · obtain ⟨a, rfl⟩ := hsets.parameters.exists_some hname
      obtain rfl := (fills_cons_other herror).mp hsets.error
      obtain rfl := (fills_cons_other hcontinues).mp hsets.continues
      exact ⟨a, hsets.parameters, rfl⟩
  split
  · rename_i herror hparameters hname
    rw [hname, readFresh_fills_iff hname hcolon (member.readBool_iff hvalue hlater hrest)]
    refine and_congr_right fun _ => ⟨?_, fun hsets => ?_⟩
    · rintro ⟨a, hfills, ⟨⟩⟩
      exact ⟨(fills_cons_other herror).mpr rfl, (fills_cons_other hparameters).mpr rfl, hfills⟩
    · obtain ⟨a, rfl⟩ := hsets.continues.exists_some hname
      obtain rfl := (fills_cons_other herror).mp hsets.error
      obtain rfl := (fills_cons_other hparameters).mp hsets.parameters
      exact ⟨a, hsets.continues, rfl⟩
  · rename_i herror hparameters hcontinues
    have hany := member.anyValue hlater
    rw [← hvalue] at hany
    have hskip := Json.skipValue_of_anyValue hany hlater
    rw [Json.readColon_of_skipSpace hcolon]
    dsimp only
    rw [hskip]
    constructor
    · rintro ⟨⟩
      exact ⟨rfl, (fills_cons_other herror).mpr rfl, (fills_cons_other hparameters).mpr rfl,
        (fills_cons_other hcontinues).mpr rfl⟩
    · rintro ⟨rfl, hsets⟩
      obtain rfl := (fills_cons_other herror).mp hsets.error
      obtain rfl := (fills_cons_other hparameters).mp hsets.parameters
      obtain rfl := (fills_cons_other hcontinues).mp hsets.continues
      rfl

end Member

/-! ### Reading all members -/

section Rows

variable {member : Written} {members : List Written} {fields fields' : Fields}
  {bytes middle start later rest rest' : Bytes}

theorem sets_nil : Sets fields [] fields' ↔ fields' = fields := by
  constructor
  · rintro ⟨herror, hparameters, hcontinues⟩
    obtain ⟨error, parameters, continues⟩ := fields
    obtain ⟨error', parameters', continues'⟩ := fields'
    obtain rfl := fills_nil.mp herror
    obtain rfl := fills_nil.mp hparameters
    obtain rfl := fills_nil.mp hcontinues
    rfl
  · rintro rfl
    exact ⟨rfl, rfl, rfl⟩

theorem sets_cons_iff : Sets fields (member :: members) fields' ↔
    ∃ between, Sets fields [member] between ∧ Sets between members fields' := by
  constructor
  · rintro ⟨herror, hparameters, hcontinues⟩
    obtain ⟨error, herror, herrors⟩ := fills_cons_iff.mp herror
    obtain ⟨parameters, hparameters, hmore⟩ := fills_cons_iff.mp hparameters
    obtain ⟨continues, hcontinues, hothers⟩ := fills_cons_iff.mp hcontinues
    exact ⟨⟨error, parameters, continues⟩, ⟨herror, hparameters, hcontinues⟩,
      ⟨herrors, hmore, hothers⟩⟩
  · rintro ⟨between, hfirst, hmore⟩
    exact ⟨fills_cons_iff.mpr ⟨_, hfirst.error, hmore.error⟩,
      fills_cons_iff.mpr ⟨_, hfirst.parameters, hmore.parameters⟩,
      fills_cons_iff.mpr ⟨_, hfirst.continues, hmore.continues⟩⟩

/-- What is read after a member begins with what cannot continue a number. -/
theorem follows_of_readFields {fuel : Nat}
    (h : readFields fuel false fields bytes = .ok (fields', rest)) : Follows bytes :=
  Json.follows_of_afterEntry (by decide) (remaining_of_readFields h)

/-- **The members of a row are read one after another**, and set the fields together. -/
theorem readFields_row_iff {first : Bool} (h : IsRow first members bytes rest) :
    ∀ {fuel : Nat} {fields : Fields}, bytes.length < fuel →
      (readFields fuel first fields bytes = .ok (fields', rest') ↔
        rest' = rest ∧ Sets fields members fields') := by
  induction h with
  | done h =>
      intro fuel fields hfuel
      obtain ⟨fuel, rfl⟩ : ∃ k, fuel = k + 1 := ⟨fuel - 1, by omega⟩
      rw [readFields, Json.nextMember_eq_done_iff.mpr h, sets_nil]
      dsimp only
      constructor
      · rintro ⟨⟩
        exact ⟨rfl, rfl⟩
      · rintro ⟨rfl, rfl⟩
        rfl
  | @more first member members bytes middle start later rest hkey hcolon hvalue hmore ih =>
      intro fuel fields hfuel
      obtain ⟨fuel, rfl⟩ : ∃ k, fuel = k + 1 := ⟨fuel - 1, by omega⟩
      have hlength : later.length < bytes.length := by
        obtain ⟨front, rfl, -⟩ := Json.Grammar.exists_front_of_comes hkey
        have hstart := (past_of_skipSpace (by decide) hcolon).length_lt
        have hspace := (after_skipSpace start).length_le
        rw [hvalue] at hspace
        simp at hspace ⊢
        omega
      have hmiddle := Json.follows_of_skipSpace hcolon (by decide)
      rw [readFields, Json.nextMember_eq_more_iff.mpr hkey]
      dsimp only
      rw [member.readString_key hmiddle]
      dsimp only
      rw [sets_cons_iff]
      constructor
      · intro h
        split at h
        · cases h
        rename_i between after hfield
        obtain ⟨rfl, hfirst⟩ :=
          (readField_iff hcolon hvalue hmore.follows (follows_of_readFields h)).mp hfield
        obtain ⟨hrest, hothers⟩ := (ih (by omega)).mp h
        exact ⟨hrest, between, hfirst, hothers⟩
      · rintro ⟨hrest, between, hfirst, hothers⟩
        rw [(readField_iff hcolon hvalue hmore.follows hmore.follows).mpr ⟨rfl, hfirst⟩]
        exact (ih (by omega)).mpr ⟨hrest, hothers⟩

/-- **A frame is read as the reply that its members make.** -/
theorem decode_written_iff {frame : Bytes} {reply : Reply} (h : IsWritten members frame) :
    decode frame = .ok reply ↔ ∃ fields, Sets .none members fields ∧ fields.toReply = reply := by
  obtain ⟨more, rest, hspace, hrow, hrest⟩ := h
  have hread : read frame =
      Json.wrap Fields.toReply (readFields (more.length + 1) true .none more) := by
    rw [read, hspace]
    dsimp only
    rw [if_pos rfl]
  have hend : Json.readEnd rest = .ok () := by
    rw [Json.readEnd, hrest]
  rw [decode_eq_ok_iff, readFrame, hread]
  constructor
  · intro h
    split at h
    · cases h
    rename_i found after hwrap
    obtain ⟨fields, hfields, rfl⟩ := Json.exists_of_wrap hwrap
    obtain ⟨-, hsets⟩ := (readFields_row_iff hrow (Nat.lt_succ_self _)).mp hfields
    split at h
    · cases h
      exact ⟨fields, hsets, rfl⟩
    · cases h
  · rintro ⟨fields, hsets, rfl⟩
    rw [(readFields_row_iff hrow (Nat.lt_succ_self _)).mpr ⟨rfl, hsets⟩]
    dsimp only [Json.wrap]
    rw [hend]

end Rows

/-! ### Which frames have members -/

/-- A member that keeps to the rule is one as it is written. -/
theorem exists_written {bytes later : Bytes} (h : FieldRule bytes later) (hlater : Follows later) :
    ∃ (member : Written) (middle start : Bytes), bytes = byte '"' :: (member.key ++ middle) ∧
      skipSpace middle = byte ':' :: start ∧ skipSpace start = member.value ++ later := by
  obtain @⟨name, _, middle, start, _, hkey, hcolon, hvalue⟩ := h
  have hskip := Json.skipValue_of_anyValue hvalue hlater
  have hmeets := Json.meets_skipValue start
  rw [hskip] at hmeets
  obtain ⟨key, rfl, hnamed⟩ := (Json.moves_readString hkey).exists_alone
  obtain ⟨value, hbytes, hany⟩ := (movable_anyValue AreAny _ _ ⟨_, hmeets⟩).exists_alone
  exact ⟨⟨name, key, value, hnamed, hany⟩, middle, start, rfl, hcolon, hbytes⟩

theorem exists_row_of_afterEntry {bytes rest : Bytes} (h : AfterEntry '\x7d' FieldRule bytes rest) :
    ∃ members, IsRow false members bytes rest := by
  induction h with
  | done h => exact ⟨[], .done h⟩
  | more hcomma hentry hmore ih =>
      obtain ⟨members, hrow⟩ := ih
      obtain ⟨member, middle, start, hbytes, hcolon, hvalue⟩ := exists_written hentry hrow.follows
      exact ⟨member :: members, .more ⟨_, hcomma, hbytes.symm⟩ hcolon hvalue hrow⟩

/-- What has the form of an object has members. -/
theorem exists_isWritten {frame : Bytes} (h : IsTolerated frame) :
    ∃ members, IsWritten members frame := by
  obtain ⟨more, rest, hspace, hentries, hrest⟩ := h
  cases hentries with
  | none h => exact ⟨[], more, rest, hspace, .done h, hrest⟩
  | some hentry hmore =>
      obtain ⟨members, hrow⟩ := exists_row_of_afterEntry hmore
      obtain ⟨member, middle, start, hbytes, hcolon, hvalue⟩ := exists_written hentry hrow.follows
      exact ⟨member :: members, more, rest, hspace,
        .more (hbytes.symm : _ = skipSpace more) hcolon hvalue hrow, hrest⟩

/-- The members from the first or from another one on, without blanks. -/
def compactRow : Bool → List Written → Bytes
  | _, [] => [byte '\x7d']
  | first, member :: members =>
    (if first then [] else [byte ',']) ++ byte '"' :: (member.key ++ byte ':' ::
      (member.value ++ compactRow false members))

/-- The text of an object with these members, without blanks. -/
def compact (members : List Written) : Bytes :=
  byte '\x7b' :: compactRow true members

theorem isRow_compactRow (members : List Written) :
    ∀ first, IsRow first members (compactRow first members) [] := by
  induction members with
  | nil => exact fun first => .done rfl
  | cons member members ih =>
      intro first
      have hcolon : ∀ rest, skipSpace (byte ':' :: rest) = byte ':' :: rest := fun rest =>
        Json.skipSpace_cons (by decide) rest
      have hquote : ∀ rest, skipSpace (byte '"' :: rest) = byte '"' :: rest := fun rest =>
        Json.skipSpace_cons (by decide) rest
      have hvalue : skipSpace (member.value ++ compactRow false members) =
          member.value ++ compactRow false members := by
        obtain ⟨depth, hvalue⟩ := member.anyValue (ih false).follows
        exact (Json.begins_value hvalue).skipSpace_eq
      refine .more ?_ (hcolon _) hvalue (ih false)
      cases first with
      | true => exact (hquote _).symm
      | false => exact ⟨_, Json.skipSpace_cons (by decide) _, (hquote _).symm⟩

/-- Any members at all are those of some frame. -/
theorem isWritten_compact (members : List Written) : IsWritten members (compact members) :=
  ⟨_, [], Json.skipSpace_cons (by decide) _, isRow_compactRow members true, rfl⟩

/-! ### The same fields -/

/-- The members are the same, but for their order and for those that a reply has no field for. -/
inductive SameFields : List Written → List Written → Prop
  | reorder {members members' : List Written} (h : members.Perm members') :
      SameFields members members'
  | insert {front back : List Written} {member : Written} (hname : member.name ∉ fieldNames) :
      SameFields (front ++ back) (front ++ member :: back)
  | remove {front back : List Written} {member : Written} (hname : member.name ∉ fieldNames) :
      SameFields (front ++ member :: back) (front ++ back)
  | trans {members between members' : List Written} (h : SameFields members between)
      (hmore : SameFields between members') : SameFields members members'

section SameFields

variable {members members' : List Written} {fields fields' : Fields}

theorem SameFields.perm_filter (h : SameFields members members') {name : Text}
    (hname : name ∈ fieldNames) :
    (members.filter (·.name = name)).Perm (members'.filter (·.name = name)) := by
  have hother : ∀ {member : Written} {front back : List Written}, member.name ∉ fieldNames →
      (front ++ member :: back).filter (·.name = name) =
        (front ++ back).filter (·.name = name) := by
    intro member front back hmember
    have hne : member.name ≠ name := fun heq => hmember (heq ▸ hname)
    rw [List.filter_append, List.filter_append, List.filter_cons_of_neg (by simpa using hne)]
  induction h with
  | reorder h => exact h.filter _
  | insert hmember => rw [hother hmember]
  | remove hmember => rw [hother hmember]
  | trans _ _ ih ihmore => exact ih.trans ihmore

theorem SameFields.sets (h : SameFields members members') (hsets : Sets fields members fields') :
    Sets fields members' fields' :=
  ⟨hsets.error.perm (h.perm_filter (by decide)),
    hsets.parameters.perm (h.perm_filter (by decide)),
    hsets.continues.perm (h.perm_filter (by decide))⟩

theorem SameFields.symm (h : SameFields members members') : SameFields members' members := by
  induction h with
  | reorder h => exact .reorder h.symm
  | insert hname => exact .remove hname
  | remove hname => exact .insert hname
  | trans _ _ ih ihmore => exact ihmore.trans ih

/-- Members of which two name the same field do not make a reply. -/
theorem not_sets_of_repeated {member : Written} (hname : member.name ∈ fieldNames)
    (hother : member.name ∈ members.map Written.name) :
    ¬ Sets fields (member :: members) fields' := by
  intro hsets
  simp only [fieldNames, List.mem_cons, List.not_mem_nil, or_false] at hname
  rcases hname with hname | hname | hname
  · exact not_fills_of_repeated hname (hname ▸ hother) hsets.error
  · exact not_fills_of_repeated hname (hname ▸ hother) hsets.parameters
  · exact not_fills_of_repeated hname (hname ▸ hother) hsets.continues

end SameFields

/-- **A reply is what its fields say**, in whatever order its members come and whatever others are
among them; a second member for a field makes an invalid message. -/
theorem decode_members {frame more : Bytes} {reply : Reply} (h : decode frame = .ok reply)
    (hobject : skipSpace frame = byte '\x7b' :: more) :
    (∃ members, IsWritten members frame) ∧ ∀ members, IsWritten members frame →
      (∀ members' frame', SameFields members members' → IsWritten members' frame' →
        decode frame' = .ok reply) ∧
      ∀ (member : Written) members' frame', member.name ∈ fieldNames →
        member.name ∈ members.map Written.name → SameFields (member :: members) members' →
          IsWritten members' frame' →
            ∃ reason, decode frame' = .error (.invalidMessage reason) := by
  refine ⟨?_, fun members hwritten => ⟨?_, ?_⟩⟩
  · rcases readFrame_cases (decode_eq_ok_iff.mp h) with htolerated | ⟨after, hbracket⟩
    · exact exists_isWritten htolerated
    · cases hobject.symm.trans hbracket
  · intro members' frame' hsame hwritten'
    obtain ⟨fields, hsets, hreply⟩ := (decode_written_iff hwritten).mp h
    exact (decode_written_iff hwritten').mpr ⟨fields, hsame.sets hsets, hreply⟩
  · intro member members' frame' hname hother hsame hwritten'
    cases hdecode : decode frame' with
    | ok found =>
        obtain ⟨fields, hsets, -⟩ := (decode_written_iff hwritten').mp hdecode
        exact absurd (hsame.symm.sets hsets) (not_sets_of_repeated hname hother)
    | error failure =>
        obtain ⟨reason, rfl⟩ := Connection.decode_error hdecode
        exact ⟨reason, rfl⟩

/-- Two fields change places, and others of one name come between them; or one of them comes
twice. -/
theorem decode_members_reordered :
    decode (Utf8.encode "\x7b\"x\":[[0]],\"continues\":true,\"x\":-1,\"parameters\":\x7b\x7d\x7d") =
        .ok ⟨none, some (.object []), true⟩ ∧
      ∃ reason, decode (Utf8.encode
        "\x7b\"parameters\":\x7b\x7d,\"continues\":true,\"continues\":true\x7d") =
          .error (.invalidMessage reason) := by
  have hvalue : ∀ value, Json.skipValue value = .ok [] → skipSpace value = value →
      AnyValue AreAny value [] := by
    intro value hskip hspace
    have hmeets := Json.meets_skipValue value
    rw [hskip, hspace] at hmeets
    exact ⟨_, hmeets⟩
  let parameters : Written := ⟨"parameters", Utf8.encode "parameters\"", Utf8.encode "\x7b\x7d",
    rfl, hvalue _ rfl rfl⟩
  let continues : Written := ⟨"continues", Utf8.encode "continues\"", Utf8.encode "true",
    rfl, hvalue _ rfl rfl⟩
  let list : Written := ⟨"x", Utf8.encode "x\"", Utf8.encode "[[0]]", rfl, hvalue _ rfl rfl⟩
  let number : Written := ⟨"x", Utf8.encode "x\"", Utf8.encode "-1", rfl, hvalue _ rfl rfl⟩
  have hdecode : decode (compact [parameters, continues]) =
      .ok ⟨none, some (.object []), true⟩ := rfl
  obtain ⟨-, hmembers⟩ := decode_members hdecode rfl
  obtain ⟨hsame, hrepeated⟩ := hmembers _ (isWritten_compact [parameters, continues])
  have hx : ("x" : Text) ∉ fieldNames := by decide
  have hcontinues : ("continues" : Text) ∈ fieldNames := by decide
  refine ⟨hsame [list, continues, number, parameters] _ ?_ (isWritten_compact _),
    hrepeated continues [parameters, continues, continues] _ hcontinues (by simp [continues]) ?_
      (isWritten_compact _)⟩
  · have hswap : SameFields [parameters, continues] [continues, parameters] :=
      .reorder (List.Perm.swap _ _ [])
    have hnumber : SameFields ([continues] ++ [parameters])
        ([continues] ++ number :: [parameters]) := .insert hx
    have hlist : SameFields ([] ++ [continues, number, parameters])
        ([] ++ list :: [continues, number, parameters]) := .insert hx
    exact hswap.trans (hnumber.trans hlist)
  · exact .reorder (List.Perm.swap _ _ [continues])

end VarlinkClient.Reply
