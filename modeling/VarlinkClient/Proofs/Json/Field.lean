/-
Readers of an expected kind.

A reader that expects a text, a truth value or something that may be `null` takes what the reader of
values takes, when that is of its kind, and stops where it stops.  So what has been read field
by field can be compared with what is read as one value: `Reads` says what a value begins with,
and `ReadsItems` goes along the items of an array without counting fuel.
-/
import VarlinkClient.Json.Field
import VarlinkClient.Proofs.Json.Encoding

namespace VarlinkClient.Json

open Grammar (Comes Past after_skipSpace)

/-! ### What the reader of values takes -/

/-- What a value begins with, and what the reader makes of the rest of it. -/
inductive Reads (depth : Nat) (bytes : Bytes) : Value → Bytes → Prop
  | null {more rest : Bytes} (h : skipSpace bytes = byte 'n' :: more)
      (hrest : readRest "ull" more = .ok rest) : Reads depth bytes .null rest
  | true {more rest : Bytes} (h : skipSpace bytes = byte 't' :: more)
      (hrest : readRest "rue" more = .ok rest) : Reads depth bytes (.bool true) rest
  | false {more rest : Bytes} (h : skipSpace bytes = byte 'f' :: more)
      (hrest : readRest "alse" more = .ok rest) : Reads depth bytes (.bool false) rest
  | number (n : Number) (rest : Bytes) : Reads depth bytes (.number n) rest
  | string {more rest : Bytes} {t : Text} (h : skipSpace bytes = byte '"' :: more)
      (hstring : readString more = .ok (t, rest)) : Reads depth bytes (.string t) rest
  | array {inner : Nat} {more rest : Bytes} {items : List Value} (hdepth : depth = inner + 1)
      (h : skipSpace bytes = byte '[' :: more)
      (hitems : readItems (readValue inner) (more.length + 1) Bool.true more = .ok (items, rest)) :
      Reads depth bytes (.array items) rest
  | object (members : Members) (rest : Bytes) : Reads depth bytes (.object members) rest

theorem eq_ok_of_readWord {α : Type} {value a : α} {letters : Text} {bytes rest : Bytes}
    (h : readWord value letters bytes = .ok (a, rest)) :
    a = value ∧ readRest letters bytes = .ok rest := by
  unfold readWord at h
  split at h
  · rename_i hrest
    cases h
    exact ⟨rfl, hrest⟩
  · cases h

theorem exists_of_wrap {α β : Type} {f : α → β} {result : Reading α} {b : β} {rest : Bytes}
    (h : wrap f result = .ok (b, rest)) : ∃ a, result = .ok (a, rest) ∧ f a = b := by
  unfold wrap at h
  split at h
  · cases h
    exact ⟨_, rfl, rfl⟩
  · cases h

theorem reads_of_readValue {depth : Nat} {bytes rest : Bytes} {value : Value}
    (h : readValue depth bytes = .ok (value, rest)) : Reads depth bytes value rest := by
  rw [readValue.eq_def] at h
  split at h
  · cases h
  rename_i b more hspace
  split at h
  · rename_i hb
    obtain ⟨rfl, hrest⟩ := eq_ok_of_readWord h
    exact .null (hb ▸ hspace) hrest
  split at h
  · rename_i hb
    obtain ⟨rfl, hrest⟩ := eq_ok_of_readWord h
    exact .true (hb ▸ hspace) hrest
  split at h
  · rename_i hb
    obtain ⟨rfl, hrest⟩ := eq_ok_of_readWord h
    exact .false (hb ▸ hspace) hrest
  split at h
  · obtain ⟨n, -, rfl⟩ := exists_of_wrap h
    exact .number n rest
  split at h
  · obtain ⟨n, -, rfl⟩ := exists_of_wrap h
    exact .number n rest
  split at h
  · rename_i hb
    obtain ⟨t, hstring, rfl⟩ := exists_of_wrap h
    exact .string (hb ▸ hspace) hstring
  split at h
  · rename_i hb
    split at h
    · cases h
    · obtain ⟨items, hitems, rfl⟩ := exists_of_wrap h
      exact .array rfl (hb ▸ hspace) hitems
  split at h
  · split at h
    · cases h
    · obtain ⟨members, -, rfl⟩ := exists_of_wrap h
      exact .object _ rest
  · cases h

section Values

variable {bytes more rest : Bytes} (depth : Nat)

theorem readValue_null (h : skipSpace bytes = byte 'n' :: more) :
    readValue depth bytes = readWord .null "ull" more := by
  rw [readValue.eq_def, h]
  dsimp only
  rw [if_pos rfl]

theorem readValue_true (h : skipSpace bytes = byte 't' :: more)
    (hrest : readRest "rue" more = .ok rest) : readValue depth bytes = .ok (.bool true, rest) := by
  rw [readValue.eq_def, h]
  dsimp only
  rw [if_neg (by decide), if_pos rfl, readWord, hrest]

theorem readValue_false (h : skipSpace bytes = byte 'f' :: more)
    (hrest : readRest "alse" more = .ok rest) :
    readValue depth bytes = .ok (.bool false, rest) := by
  rw [readValue.eq_def, h]
  dsimp only
  rw [if_neg (by decide), if_neg (by decide), if_pos rfl, readWord, hrest]

theorem readValue_string {t : Text} (h : skipSpace bytes = byte '"' :: more)
    (hstring : readString more = .ok (t, rest)) :
    readValue depth bytes = .ok (.string t, rest) := by
  rw [readValue.eq_def, h]
  dsimp only
  rw [if_neg (by decide), if_neg (by decide), if_neg (by decide), if_neg (by decide),
    if_neg (by decide), if_pos rfl, hstring]
  rfl

theorem readValue_array (h : skipSpace bytes = byte '[' :: more) :
    readValue (depth + 1) bytes =
      wrap .array (readItems (readValue depth) (more.length + 1) true more) := by
  rw [readValue.eq_def, h]
  dsimp only
  rw [if_neg (by decide), if_neg (by decide), if_neg (by decide), if_neg (by decide),
    if_neg (by decide), if_neg (by decide), if_pos rfl]

theorem readValue_object (h : skipSpace bytes = byte '\x7b' :: more) :
    readValue (depth + 1) bytes =
      wrap (fun pairs => .object (Members.ofPairs pairs))
        (readMembers (readValue depth) (more.length + 1) true more) := by
  rw [readValue.eq_def, h]
  dsimp only
  rw [if_neg (by decide), if_neg (by decide), if_neg (by decide), if_neg (by decide),
    if_neg (by decide), if_neg (by decide), if_neg (by decide), if_pos rfl]

/-- Blanks in front of a value make no difference. -/
theorem readValue_skipSpace : readValue depth (skipSpace bytes) = readValue depth bytes := by
  rw [readValue.eq_def, readValue.eq_def depth bytes, skipSpace_skipSpace]

end Values

/-- What is read lies behind an ASCII byte. -/
theorem past_of_readValue {depth : Nat} {bytes rest : Bytes} {value : Value}
    (h : readValue depth bytes = .ok (value, rest)) : Past bytes rest := by
  have hmeets := meets_readValue depth bytes
  rw [h] at hmeets
  exact (after_skipSpace bytes).trans_past (Grammar.Value.past hmeets)

/-! ### Readers of an expected kind -/

section Kinds

variable {α : Type} {bytes more rest : Bytes}

theorem complain_ne_ok (expected : Text) (found : Reading Text) (a : α) :
    complain expected found ≠ .ok a := by
  unfold complain
  split <;> exact nofun

theorem complainOfNext_ne_ok (expected : Text) (bytes : Bytes) (a : α) :
    complainOfNext expected bytes ≠ .ok a := by
  unfold complainOfNext
  split
  · exact nofun
  repeat' split
  all_goals first | exact complain_ne_ok _ _ _ | exact nofun

theorem readOptional_null (read : Bytes → Reading α) (h : skipSpace bytes = byte 'n' :: more) :
    readOptional read bytes = readWord none "ull" more := by
  rw [readOptional, h]
  dsimp only
  rw [if_pos rfl]

theorem readOptional_some (read : Bytes → Reading α)
    (h : ¬ ∃ more, skipSpace bytes = byte 'n' :: more) :
    readOptional read bytes = wrap some (read (skipSpace bytes)) := by
  unfold readOptional
  split
  · rename_i hspace
    rw [hspace]
  · rename_i b after hspace
    have hb : b ≠ byte 'n' := fun heq => h ⟨after, by rw [hspace, heq]⟩
    rw [if_neg hb, hspace]

theorem readText_eq_ok_iff {t : Text} : readText bytes = .ok (t, rest) ↔
    ∃ more, skipSpace bytes = byte '"' :: more ∧ readString more = .ok (t, rest) := by
  constructor
  · intro h
    unfold readText at h
    split at h
    · cases h
    rename_i b more hspace
    split at h
    · rename_i hb
      exact ⟨more, hb ▸ hspace, h⟩
    · exact absurd h (complainOfNext_ne_ok _ _ _)
  · rintro ⟨more, hspace, hstring⟩
    rw [readText, hspace]
    dsimp only
    rw [if_pos rfl, hstring]

/-- A truth value is read when that is what stands there. -/
theorem readBool_eq_ok_iff (depth : Nat) {b : Bool} : readBool bytes = .ok (b, rest) ↔
    readValue depth bytes = .ok (.bool b, rest) := by
  constructor
  · intro h
    unfold readBool at h
    split at h
    · cases h
    rename_i c more hspace
    split at h
    · rename_i hc
      obtain ⟨rfl, hrest⟩ := eq_ok_of_readWord h
      exact readValue_true depth (hc ▸ hspace) hrest
    split at h
    · rename_i hc
      obtain ⟨rfl, hrest⟩ := eq_ok_of_readWord h
      exact readValue_false depth (hc ▸ hspace) hrest
    · exact absurd h (complainOfNext_ne_ok _ _ _)
  · intro h
    unfold readBool
    cases reads_of_readValue h with
    | true hspace hrest =>
        rw [hspace]
        dsimp only
        rw [if_pos rfl, readWord, hrest]
    | false hspace hrest =>
        rw [hspace]
        dsimp only
        rw [if_neg (by decide), if_pos rfl, readWord, hrest]

end Kinds

/-! ### Items -/

/-- How the items of an array are read one after another. -/
inductive ReadsItems (read : Bytes → Reading Value) : Bool → Bytes → List Value → Bytes → Prop
  | done {first : Bool} {bytes rest : Bytes} (h : nextItem first bytes = .ok (.done rest)) :
      ReadsItems read first bytes [] rest
  | more {first : Bool} {bytes start middle rest : Bytes} {item : Value} {items : List Value}
      (h : nextItem first bytes = .ok (.more start)) (hitem : read start = .ok (item, middle))
      (hmore : ReadsItems read false middle items rest) :
      ReadsItems read first bytes (item :: items) rest

theorem length_le_of_nextItem {first : Bool} {bytes start : Bytes}
    (h : nextItem first bytes = .ok (.more start)) : start.length ≤ bytes.length := by
  have hmeets := meets_nextItem first bytes
  rw [h] at hmeets
  exact Comes.length_le hmeets

theorem readsItems_of_readItems {read : Bytes → Reading Value} {rest : Bytes} :
    ∀ {fuel : Nat} {first : Bool} {bytes : Bytes} {items : List Value},
      readItems read fuel first bytes = .ok (items, rest) →
        ReadsItems read first bytes items rest := by
  intro fuel
  induction fuel with
  | zero =>
      intro first bytes items h
      cases h
  | succ fuel ih =>
      intro first bytes items h
      rw [readItems] at h
      split at h
      · cases h
      · rename_i hnext
        cases h
        exact .done hnext
      rename_i start hnext
      split at h
      · cases h
      rename_i item middle hitem
      split at h
      · cases h
      rename_i others last hothers
      cases h
      exact .more hnext hitem (ih hothers)

/-- There is fuel enough for all items when there is more of it than bytes. -/
theorem ReadsItems.readItems_eq {read : Bytes → Reading Value}
    (hread : ∀ bytes value rest, read bytes = .ok (value, rest) → rest.length < bytes.length)
    {first : Bool} {bytes rest : Bytes} {items : List Value}
    (h : ReadsItems read first bytes items rest) : ∀ {fuel : Nat}, bytes.length < fuel →
      readItems read fuel first bytes = .ok (items, rest) := by
  induction h with
  | done hnext =>
      intro fuel hfuel
      cases fuel with
      | zero => exact absurd hfuel (Nat.not_lt_zero _)
      | succ fuel => rw [readItems, hnext]
  | more hnext hitem _ ih =>
      intro fuel hfuel
      cases fuel with
      | zero => exact absurd hfuel (Nat.not_lt_zero _)
      | succ fuel =>
          have hstart := length_le_of_nextItem hnext
          have hshorter := hread _ _ _ hitem
          rw [readItems, hnext]
          dsimp only
          rw [hitem]
          dsimp only
          rw [ih (by omega)]

end VarlinkClient.Json
