/-
What the reader of flags accepts.

The reader holds what it has read until the next argument, which makes for many states.
Between two flags they come down to one: whatever is held is looked at first, so a reader
that is ready for a flag does what the reader does that holds nothing.  From there
`finish_cons` says once what an argument that is accepted can be, and proofs about whole
command lines go by the cases of `Takes`.
-/
import VarlinkClient.CommandLine.Flags
import VarlinkClient.Proofs.Text.Utf8

namespace VarlinkClient

namespace Flag

theorem eq_of_ofName? {t : Text} {flag : Flag} (h : ofName? t = some flag) : flag.name = t := by
  have hfound := List.find?_some h
  simpa using hfound

end Flag

namespace FlagReader

/-! ### States between flags -/

/-- Nothing is held and no command was read. -/
def IsFree (reader : FlagReader) : Prop :=
  reader.held = .nothing ∧ reader.given.command = false

/-- The next argument is no value, and no command was read. -/
def IsReady (reader : FlagReader) : Prop :=
  reader.awaits? = none ∧ reader.hasCommand = false

theorem IsFree.isReady {reader : FlagReader} (h : reader.IsFree) : reader.IsReady := by
  obtain ⟨flags, given, held⟩ := reader
  obtain ⟨hheld, hcommand⟩ := h
  cases hheld
  exact ⟨rfl, hcommand⟩

theorem isFree_start : start.IsFree :=
  ⟨rfl, rfl⟩

/-- Reads the arguments that are left, and looks at what is held then. -/
def finish (reader : FlagReader) (arguments : List Bytes) : Except FlagStop Flags :=
  match reader.takeAll arguments with
  | .error stop => .error stop
  | .ok reader => reader.settleThen fun reader => .ok reader.flags

theorem settle_of_nothing {reader : FlagReader} (h : reader.held = .nothing) :
    reader.settle = (reader, none) := by
  obtain ⟨flags, given, held⟩ := reader
  cases h
  rfl

theorem settleThen_of_settle {α : Type} {reader free : FlagReader}
    {next : FlagReader → Except FlagStop α} (h : reader.settle = (free, none)) :
    reader.settleThen next = next free := by
  rw [settleThen, h]

theorem settleThen_eq_ok {α : Type} {reader : FlagReader}
    {next : FlagReader → Except FlagStop α} {a : α} (h : reader.settleThen next = .ok a) :
    ∃ free, reader.settle = (free, none) ∧ next free = .ok a := by
  unfold settleThen at h
  split at h
  · cases h
  · rename_i free hsettle
    exact ⟨free, hsettle, h⟩

theorem accept_eq_ok_iff {reader next : FlagReader} {flag : Flag} {value : Bytes} :
    reader.accept flag value = (next, none) ↔
      flag ∉ reader.given.flags ∧ ∃ flags, reader.flags.put flag value = .ok flags ∧
        next = { reader with flags, given := reader.given.withFlag flag } := by
  unfold accept
  dsimp only
  by_cases hgiven : flag ∈ reader.given.flags
  · simp [hgiven]
  rw [if_neg hgiven]
  cases reader.flags.put flag value with
  | error error => simp
  | ok flags => simp [hgiven, eq_comm]

theorem given_withFlag_command (given : Given) (flag : Flag) :
    (given.withFlag flag).command = given.command := by
  unfold Given.withFlag
  split <;> rfl

theorem IsFree.accept {reader next : FlagReader} (h : reader.IsFree) {flag : Flag} {value : Bytes}
    (haccept : reader.accept flag value = (next, none)) : next.IsFree := by
  obtain ⟨-, flags, -, rfl⟩ := accept_eq_ok_iff.mp haccept
  exact ⟨h.1, (given_withFlag_command _ _).trans h.2⟩

/-- What is held is looked at without a command in it. -/
theorem IsReady.isFree_of_settle {reader free : FlagReader} (h : reader.IsReady)
    (hsettle : reader.settle = (free, none)) : free.IsFree := by
  obtain ⟨flags, given, held⟩ := reader
  obtain ⟨hawaits, hcommand⟩ := h
  cases held with
  | nothing =>
      cases hsettle
      exact ⟨rfl, hcommand⟩
  | command argument => cases hcommand
  | flag flag value =>
      cases value with
      | none => cases hawaits
      | some value =>
          have hfree : IsFree ⟨flags, given, .nothing⟩ := ⟨rfl, hcommand⟩
          exact hfree.accept hsettle

/-! ### Single arguments -/

/-- A value behind `=`. -/
def attached : Option Bytes → Bytes
  | none => []
  | some value => 0x3D :: value

/-- A word that is accepted is that of a flag, with a value attached or without. -/
theorem takeWord_eq_ok {reader next : FlagReader} {word : Bytes}
    (h : reader.takeWord word = .ok next) :
    ∃ flag value, word = Utf8.encode flag.name ++ attached value ∧
      reader.takeFlag flag value = .ok next := by
  have hparts : word.takeWhile (· ≠ 0x3D) ++ word.dropWhile (· ≠ 0x3D) = word :=
    List.takeWhile_append_dropWhile
  unfold takeWord at h
  dsimp only at h
  split at h
  · rename_i flag hflag
    obtain ⟨t, hdecode, hname⟩ := Option.bind_eq_some_iff.mp hflag
    refine ⟨flag, _, ?_, h⟩
    rw [Flag.eq_of_ofName? hname, ← Utf8.decode?_eq_some_iff.mp hdecode]
    cases hrest : word.dropWhile (· ≠ 0x3D) with
    | nil => rwa [hrest, eq_comm] at hparts
    | cons b value =>
        have hb : b = 0x3D := by
          have hnot := List.head?_dropWhile_not (· ≠ 0x3D) word
          rw [hrest] at hnot
          simpa using hnot
        rwa [hrest, hb, eq_comm] at hparts
  · cases h

theorem takeFlag_eq_ok {reader next : FlagReader} (hheld : reader.held = .nothing) {flag : Flag}
    {value : Option Bytes} (h : reader.takeFlag flag value = .ok next) :
    flag.takesValue = true ∧
      ((value = none ∧ next = { reader with held := .flag flag none }) ∨
        ∃ v, value = some v ∧ reader.accept flag v = (next, none)) := by
  have hsettle := settle_of_nothing hheld
  unfold takeFlag at h
  split at h
  · obtain ⟨free, -, hnext⟩ := settleThen_eq_ok h
    cases hnext
  · obtain ⟨free, -, hnext⟩ := settleThen_eq_ok h
    cases hnext
  · cases h
  · cases h
  · rename_i hhelp hversion
    rw [settleThen_of_settle hsettle] at h
    cases h
    refine ⟨?_, Or.inl ⟨rfl, rfl⟩⟩
    cases flag <;> simp_all [Flag.takesValue, Flag.valueName?]
  · rename_i v hhelp hversion
    rw [settleThen_of_settle hsettle] at h
    split at h
    · rename_i next' haccept
      cases h
      refine ⟨?_, Or.inr ⟨v, rfl, haccept⟩⟩
      cases flag <;> simp_all [Flag.takesValue, Flag.valueName?]
    · cases h

/-- Letters are never accepted. -/
theorem takeLetters_ne_ok {reader next : FlagReader} {b : UInt8} {letters : Bytes} :
    reader.takeLetters (b :: letters) ≠ .ok next := by
  intro h
  unfold takeLetters at h
  split at h
  · rename_i heq
    cases heq
  · rename_i heq
    cases heq
    split at h
    · cases h
    · split at h
      · obtain ⟨free, -, hnext⟩ := settleThen_eq_ok h
        cases hnext
      · obtain ⟨free, -, hnext⟩ := settleThen_eq_ok h
        cases hnext
      · cases h

theorem takeFlagLike_eq_ok {reader next : FlagReader} {argument : Bytes}
    (hflag : looksLikeFlag argument = true)
    (h : take.takeFlagLike reader argument = .ok next) :
    ∃ word, argument = 0x2D :: 0x2D :: word ∧ reader.takeWord word = .ok next := by
  unfold looksLikeFlag at hflag
  split at hflag
  · rename_i b rest
    unfold take.takeFlagLike at h
    split at h
    · rename_i heq
      cases heq
      exact ⟨rest, rfl, h⟩
    · rename_i heq
      cases heq
      exact absurd h takeLetters_ne_ok
    · rename_i hno
      exact absurd rfl (hno (b :: rest))
  · cases hflag

/-! ### What is held is looked at first -/

theorem takeFlag_settle {reader next : FlagReader} {flag : Flag} {value : Option Bytes}
    (h : reader.takeFlag flag value = .ok next) :
    ∃ free, reader.settle = (free, none) ∧
      (free.held = .nothing → free.takeFlag flag value = .ok next) := by
  unfold takeFlag at h ⊢
  split at h
  · obtain ⟨free, hsettle, hnext⟩ := settleThen_eq_ok h
    cases hnext
  · obtain ⟨free, hsettle, hnext⟩ := settleThen_eq_ok h
    cases hnext
  · cases h
  · cases h
  all_goals
    obtain ⟨free, hsettle, hnext⟩ := settleThen_eq_ok h
    exact ⟨free, hsettle, fun hheld => (settleThen_of_settle (settle_of_nothing hheld)).trans hnext⟩

/-- An argument that looks like a flag is one, with a value attached or without. -/
theorem takeFlagLike_settle {reader next : FlagReader} {argument : Bytes}
    (hflag : looksLikeFlag argument = true)
    (h : take.takeFlagLike reader argument = .ok next) :
    ∃ free flag value, reader.settle = (free, none) ∧
      argument = Utf8.encode flag.spelling ++ attached value ∧
      (free.held = .nothing → free.takeFlag flag value = .ok next) := by
  obtain ⟨word, rfl, hword⟩ := takeFlagLike_eq_ok hflag h
  obtain ⟨flag, value, rfl, htake⟩ := takeWord_eq_ok hword
  obtain ⟨free, hsettle, hfree⟩ := takeFlag_settle htake
  exact ⟨free, flag, value, hsettle, rfl, hfree⟩

theorem takeCommand_settle {reader next : FlagReader} {argument : Bytes}
    (h : reader.takeCommand argument = .ok next) :
    ∃ free, reader.settle = (free, none) ∧ next = { free with held := .command argument } := by
  unfold takeCommand at h
  split at h
  · cases h
  · obtain ⟨free, hsettle, hnext⟩ := settleThen_eq_ok h
    cases hnext
    exact ⟨free, hsettle, rfl⟩

/-! ### All arguments -/

theorem finish_nil {reader : FlagReader} {flags : Flags} (h : reader.finish [] = .ok flags) :
    ∃ free, reader.settle = (free, none) ∧ flags = free.flags := by
  obtain ⟨free, hsettle, hflags⟩ := settleThen_eq_ok (show reader.settleThen _ = .ok flags from h)
  cases hflags
  exact ⟨free, hsettle, rfl⟩

theorem finish_cons_of_take {reader next : FlagReader} {argument : Bytes} (rest : List Bytes)
    (hends : reader.endsFlags argument = false) (htake : reader.take argument = .ok next) :
    reader.finish (argument :: rest) = next.finish rest := by
  unfold finish
  rw [takeAll, hends, if_neg (by decide), htake]

theorem finish_of_take {reader : FlagReader} {argument : Bytes} {rest : List Bytes} {flags : Flags}
    (hends : reader.endsFlags argument = false) (h : reader.finish (argument :: rest) = .ok flags) :
    ∃ next, reader.take argument = .ok next ∧ next.finish rest = .ok flags := by
  cases htake : reader.take argument with
  | error stop =>
      unfold finish at h
      rw [takeAll, hends, if_neg (by decide), htake] at h
      cases h
  | ok next =>
      rw [finish_cons_of_take rest hends htake] at h
      exact ⟨next, rfl, h⟩

/-- A command is held to the end. -/
theorem finish_command {reader : FlagReader} {argument : Bytes} {flags : Flags}
    (h : ({ reader with held := .command argument } : FlagReader).finish [] = .ok flags) :
    ∃ t, argument = Utf8.encode t ∧ flags = { reader.flags with command := some t } := by
  obtain ⟨free, hsettle, rfl⟩ := finish_nil h
  unfold settle at hsettle
  dsimp only at hsettle
  unfold Flags.readText at hsettle
  cases hdecode : Utf8.decode? argument with
  | none => simp [hdecode] at hsettle
  | some t =>
      rw [hdecode] at hsettle
      cases hsettle
      exact ⟨t, Utf8.decode?_eq_some_iff.mp hdecode, rfl⟩

theorem eq_of_endsFlags {reader : FlagReader} {argument : Bytes}
    (h : reader.endsFlags argument = true) : argument = [0x2D, 0x2D] := by
  simp only [endsFlags, Bool.and_eq_true, decide_eq_true_eq] at h
  exact h.1

/-- After `--` there is a command or nothing. -/
theorem finish_ended {reader : FlagReader} {rest : List Bytes} {flags : Flags}
    (h : reader.finish ([0x2D, 0x2D] :: rest) = .ok flags)
    (hends : reader.endsFlags [0x2D, 0x2D] = true) :
    ∃ free, reader.settle = (free, none) ∧
      ((rest = [] ∧ flags = free.flags) ∨
        ∃ t, rest = [Utf8.encode t] ∧ flags = { free.flags with command := some t }) := by
  unfold finish takeAll at h
  rw [hends] at h
  cases rest with
  | nil =>
      obtain ⟨free, hsettle, hflags⟩ := finish_nil h
      exact ⟨free, hsettle, Or.inl ⟨rfl, hflags⟩⟩
  | cons argument rest =>
      rw [if_pos rfl, takeCommands] at h
      cases htake : reader.takeCommand argument with
      | error stop => simp [htake] at h
      | ok next =>
          obtain ⟨free, hsettle, rfl⟩ := takeCommand_settle htake
          rw [htake] at h
          dsimp only at h
          cases rest with
          | nil =>
              obtain ⟨t, rfl, hflags⟩ := finish_command h
              exact ⟨free, hsettle, Or.inr ⟨t, rfl, hflags⟩⟩
          | cons second rest =>
              -- There is a command already.
              cases h

/-- How a free reader that is to accept all arguments takes the first of them. -/
inductive Takes (free : FlagReader) : Bytes → List Bytes → Flags → Prop
  /-- A flag has its value attached. -/
  | inline {flag : Flag} {value : Bytes} {next : FlagReader} {rest : List Bytes} {flags : Flags}
      (htakes : flag.takesValue = true) (haccept : free.accept flag value = (next, none))
      (hrest : next.finish rest = .ok flags) :
      Takes free (Utf8.encode flag.spelling ++ 0x3D :: value) rest flags
  /-- The value of a flag is the next argument. -/
  | spaced {flag : Flag} {value : Bytes} {rest : List Bytes} {flags : Flags}
      (htakes : flag.takesValue = true)
      (hvalue : flag.allowsHyphen = true ∨ looksLikeFlag value = false)
      (hrest : ({ free with held := .flag flag (some value) } : FlagReader).finish rest =
        .ok flags) :
      Takes free (Utf8.encode flag.spelling) (value :: rest) flags
  /-- No flags follow, and no command. -/
  | ended : Takes free [0x2D, 0x2D] [] free.flags
  /-- No flags follow, but a command. -/
  | endedBy {t : Text} :
      Takes free [0x2D, 0x2D] [Utf8.encode t] { free.flags with command := some t }
  /-- The command comes. -/
  | command {argument : Bytes} {rest : List Bytes} {flags : Flags}
      (hflag : looksLikeFlag argument = false)
      (hrest : ({ free with held := .command argument } : FlagReader).finish rest = .ok flags) :
      Takes free argument rest flags

/-- A flag that waits for its value gets it from the next argument. -/
theorem finish_awaiting {free : FlagReader} {flag : Flag} {arguments : List Bytes} {flags : Flags}
    (h : ({ free with held := .flag flag none } : FlagReader).finish arguments = .ok flags) :
    ∃ value rest, arguments = value :: rest ∧
      (flag.allowsHyphen = true ∨ looksLikeFlag value = false) ∧
      ({ free with held := .flag flag (some value) } : FlagReader).finish rest = .ok flags := by
  have hnever : ∀ next, ({ free with held := .flag flag none } : FlagReader).settle ≠
      (next, none) := by
    intro next hsettle
    cases hsettle
  cases arguments with
  | nil =>
      obtain ⟨next, hsettle, -⟩ := finish_nil h
      exact absurd hsettle (hnever next)
  | cons value rest =>
      refine ⟨value, rest, rfl, ?_⟩
      cases hends : ({ free with held := .flag flag none } : FlagReader).endsFlags value with
      | true =>
          have hvalue := eq_of_endsFlags hends
          rw [hvalue] at h hends
          obtain ⟨next, hsettle, -⟩ := finish_ended h hends
          exact absurd hsettle (hnever next)
      | false =>
          obtain ⟨next, htake, hrest⟩ := finish_of_take hends h
          simp only [take, awaits?] at htake
          split at htake
          · rename_i hvalue
            cases htake
            exact ⟨by simpa using hvalue, hrest⟩
          · rename_i hvalue
            have hflag : looksLikeFlag value = true := by simp at hvalue; exact hvalue.2
            obtain ⟨next', flag', value', hsettle, -⟩ := takeFlagLike_settle hflag htake
            exact absurd hsettle (hnever next')

/-- What an argument is that a ready reader accepts, with all that follow it. -/
theorem finish_cons {reader : FlagReader} (hready : reader.IsReady) {argument : Bytes}
    {rest : List Bytes} {flags : Flags} (h : reader.finish (argument :: rest) = .ok flags) :
    ∃ free, reader.settle = (free, none) ∧ Takes free argument rest flags := by
  cases hends : reader.endsFlags argument with
  | true =>
      obtain rfl := eq_of_endsFlags hends
      obtain ⟨free, hsettle, ⟨rfl, rfl⟩ | ⟨t, rfl, rfl⟩⟩ := finish_ended h hends
      · exact ⟨free, hsettle, .ended⟩
      · exact ⟨free, hsettle, .endedBy⟩
  | false =>
      obtain ⟨next, htake, hrest⟩ := finish_of_take hends h
      unfold take at htake
      rw [hready.1] at htake
      dsimp only at htake
      split at htake
      · rename_i hflag
        obtain ⟨free, flag, value, hsettle, rfl, hfree⟩ := takeFlagLike_settle hflag htake
        have hheld := (hready.isFree_of_settle hsettle).1
        obtain ⟨htakes, ⟨rfl, rfl⟩ | ⟨v, rfl, haccept⟩⟩ := takeFlag_eq_ok hheld (hfree hheld)
        · obtain ⟨v, rest, rfl, hvalue, hrest⟩ := finish_awaiting hrest
          rw [attached, List.append_nil]
          exact ⟨free, hsettle, .spaced htakes hvalue hrest⟩
        · exact ⟨free, hsettle, .inline htakes haccept hrest⟩
      · rename_i hflag
        obtain ⟨free, hsettle, rfl⟩ := takeCommand_settle htake
        exact ⟨free, hsettle, .command (by simpa using hflag) hrest⟩

/-! ### One flag -/

theorem take_spelling {flag : Flag} (htakes : flag.takesValue = true) :
    start.endsFlags (Utf8.encode flag.spelling) = false ∧
      start.take (Utf8.encode flag.spelling) = .ok { start with held := .flag flag none } := by
  cases flag <;> first | exact ⟨by decide, by decide⟩ | exact absurd htakes (by decide)

theorem take_value (reader : FlagReader) (flag : Flag) {value : Bytes}
    (hvalue : looksLikeFlag value = false) :
    ({ reader with held := .flag flag none } : FlagReader).endsFlags value = false ∧
      ({ reader with held := .flag flag none } : FlagReader).take value =
        .ok { reader with held := .flag flag (some value) } := by
  have hne : value ≠ [0x2D, 0x2D] := by
    rintro rfl
    cases hvalue
  constructor
  · simp [endsFlags, hne]
  · simp [take, awaits?, hvalue]

end FlagReader

open FlagReader in
/-- A flag alone is read as its value says. -/
theorem Flags.read_spaced {flag : Flag} {value : Bytes} {flags : Flags}
    (htakes : flag.takesValue = true) (hvalue : looksLikeFlag value = false)
    (hput : Flags.none.put flag value = .ok flags) :
    Flags.read [Utf8.encode flag.spelling, value] = .ok flags := by
  obtain ⟨hflagEnds, hflag⟩ := take_spelling htakes
  obtain ⟨hvalueEnds, hheld⟩ := take_value start flag hvalue
  have haccept : start.accept flag value =
      ({ start with flags, given := start.given.withFlag flag }, .none) :=
    accept_eq_ok_iff.mpr ⟨List.not_mem_nil, flags, hput, rfl⟩
  have hsettle : ({ start with held := .flag flag (some value) } : FlagReader).settle =
      ({ start with flags, given := start.given.withFlag flag }, .none) := haccept
  calc Flags.read [Utf8.encode flag.spelling, value]
      = start.finish [Utf8.encode flag.spelling, value] := rfl
    _ = ({ start with held := .flag flag .none } : FlagReader).finish [value] :=
        finish_cons_of_take [value] hflagEnds hflag
    _ = ({ start with held := .flag flag (some value) } : FlagReader).finish [] :=
        finish_cons_of_take [] hvalueEnds hheld
    _ = .ok flags := settleThen_of_settle hsettle

end VarlinkClient
