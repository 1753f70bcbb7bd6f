/-
The two readers of the command line agree on the settings.

The splitter passes on to the configuration what it takes for a setting with its value;
the reader of flags looks at all flags and the command.  A command line that the reader
accepts gives both the same settings, with one exception: after `--` the reader takes the
next argument for the command, whatever it looks like, and the splitter, to which `--` is
a flag like others, passes it on if it looks like a setting.

`Reads` says how one share of settings leads from some flags to others.  A flag that is
accepted adds one step in front (`Reads.accept`); the recursion is that of the splitter.
-/
import VarlinkClient.Proofs.CommandLine.Split

namespace VarlinkClient

/-! ### Settings and their values -/

/-- What a setting is set to. -/
inductive Setting
  | text (t : Text)
  | number (n : Nat)
  deriving DecidableEq, Repr

/-- What the value of a flag sets it to. -/
def Flag.denotes? (flag : Flag) (value : Bytes) : Option Setting :=
  match flag with
  | .timeout => (Utf8.decode? value).bind fun t => (Text.whole t).toOption.map .number
  | _ => (Utf8.decode? value).map .text

namespace Flags

/-- What flags say about a setting. -/
def setting? (flags : Flags) : Flag → Option Setting
  | .configPath => flags.configPath.map .text
  | .resolver => flags.resolver.map .text
  | .timeout => flags.timeout.map .number
  | .logFilter => flags.logFilter.map .text
  | .logFormat => flags.logFormat.map .text
  | _ => .none

theorem isSetting_of_setting? {flags : Flags} {flag : Flag} {s : Setting}
    (h : flags.setting? flag = some s) : flag.isSetting = true := by
  cases flag <;> first | rfl | cases h

theorem readText_eq_ok {value : Bytes} {t : Text} (h : readText value = .ok t) :
    Utf8.decode? value = some t := by
  unfold readText at h
  split at h
  · rename_i u hdecode
    cases h
    exact hdecode
  · cases h

theorem map_readText_eq_ok {value : Bytes} {f : Text → Flags} {next : Flags}
    (h : (readText value).map f = .ok next) :
    ∃ t, Utf8.decode? value = some t ∧ next = f t := by
  cases hread : readText value with
  | error error => simp [hread, Except.map] at h
  | ok t =>
      rw [hread] at h
      cases h
      exact ⟨t, readText_eq_ok hread, rfl⟩

/-- What a flag adds to others: its own setting, if it is one. -/
structure Puts (flags : Flags) (flag : Flag) (value : Bytes) (next : Flags) : Prop where
  /-- The flag is set to what its value denotes, and no other is. -/
  setting {f : Flag} (hf : f.isSetting = true) :
    next.setting? f = if f = flag then flag.denotes? value else flags.setting? f
  /-- The value denotes something. -/
  denotes (h : flag.isSetting = true) : (flag.denotes? value).isSome = true
  /-- The command is left alone. -/
  command : next.command = flags.command

theorem puts_of_put {flags next : Flags} {flag : Flag} {value : Bytes}
    (h : flags.put flag value = .ok next) : Puts flags flag value next := by
  unfold put at h
  cases flag with
  | configPath | resolver | logFilter | logFormat | complete =>
      obtain ⟨t, ht, rfl⟩ := map_readText_eq_ok h
      refine ⟨fun {f} hf => ?_, fun hflag => ?_, rfl⟩
      · cases f <;> simp_all [setting?, Flag.denotes?, Flag.isSetting]
      · simp_all [Flag.denotes?, Flag.isSetting]
  | timeout =>
      dsimp only at h
      split at h
      · cases h
      rename_i t hread
      have ht := readText_eq_ok hread
      split at h
      · rename_i n hn
        cases h
        have hdenotes : Flag.denotes? .timeout value = some (.number n) := by
          rw [Flag.denotes?, ht, Option.bind_some, hn]
          rfl
        refine ⟨fun {f} hf => ?_, fun _ => by rw [hdenotes]; rfl, rfl⟩
        rw [hdenotes]
        cases f <;> simp_all [setting?, Flag.isSetting]
      · cases h
  | color =>
      dsimp only at h
      split at h
      · cases h
        refine ⟨fun {f} hf => ?_, fun hflag => absurd hflag (by decide), rfl⟩
        cases f <;> simp_all [setting?, Flag.isSetting]
      · cases h
  | help | version =>
      cases h
      refine ⟨fun {f} hf => ?_, fun hflag => absurd hflag (by decide), rfl⟩
      cases f <;> simp_all [Flag.isSetting]

end Flags

/-! ### Settings among arguments -/

/-- Among the arguments the flag has this value, attached or as the next argument. -/
def Gives (arguments : List Bytes) (flag : Flag) (value : Bytes) : Prop :=
  Utf8.encode flag.spelling ++ 0x3D :: value ∈ arguments ∨
    [Utf8.encode flag.spelling, value] <:+: arguments

theorem encode_spelling_inj {flag other : Flag}
    (h : Utf8.encode flag.spelling = Utf8.encode other.spelling) : flag = other :=
  Flag.spelling_injective (Utf8.encode_injective h)

theorem notMem_encode_spelling (flag : Flag) : 0x3D ∉ Utf8.encode flag.spelling := by
  cases flag <;> decide

/-- A flag and the value attached to it are found at the first `=`. -/
theorem attached_inj {flag other : Flag} {value v : Bytes}
    (h : Utf8.encode flag.spelling ++ 0x3D :: value = Utf8.encode other.spelling ++ 0x3D :: v) :
    flag = other ∧ value = v := by
  have hname : ∀ (flag : Flag) (value : Bytes),
      (Utf8.encode flag.spelling ++ 0x3D :: value).takeWhile (· ≠ 0x3D) =
        Utf8.encode flag.spelling := by
    intro flag value
    rw [List.takeWhile_append_of_pos]
    · simp
    · intro b hb
      have hne : b ≠ 0x3D := fun heq => notMem_encode_spelling flag (heq ▸ hb)
      simpa using hne
  have hflag : flag = other := by
    have hcut := congrArg (List.takeWhile (· ≠ 0x3D)) h
    rw [hname, hname] at hcut
    exact encode_spelling_inj hcut
  subst hflag
  refine ⟨rfl, ?_⟩
  have hrest := List.append_cancel_left h
  cases hrest
  rfl

theorem gives_attached_cons {flag f : Flag} {value v : Bytes} {rest : List Bytes} :
    Gives ((Utf8.encode flag.spelling ++ 0x3D :: value) :: rest) f v ↔
      (f = flag ∧ v = value) ∨ Gives rest f v := by
  have hhead : Utf8.encode f.spelling ++ 0x3D :: v = Utf8.encode flag.spelling ++ 0x3D :: value ↔
      f = flag ∧ v = value := by
    constructor
    · exact attached_inj
    · rintro ⟨rfl, rfl⟩
      rfl
  have hno : Utf8.encode f.spelling ≠ Utf8.encode flag.spelling ++ 0x3D :: value := by
    intro heq
    exact notMem_encode_spelling f (by rw [heq]; simp)
  unfold Gives
  rw [List.mem_cons, hhead, List.infix_cons_iff, List.cons_prefix_cons]
  simp [hno, or_assoc]

theorem gives_spaced_cons {flag f : Flag} {value v : Bytes} {rest : List Bytes}
    (hvalue : FlagReader.looksLikeFlag value = false) :
    Gives (Utf8.encode flag.spelling :: value :: rest) f v ↔
      (f = flag ∧ v = value) ∨ Gives rest f v := by
  have hflag : Utf8.encode f.spelling ++ 0x3D :: v ≠ Utf8.encode flag.spelling := by
    intro heq
    exact notMem_encode_spelling flag (by rw [← heq]; simp)
  have hlooks : ∀ tail, Utf8.encode f.spelling ++ tail ≠ value := by
    rintro tail rfl
    cases hvalue
  have hspelling : Utf8.encode f.spelling = Utf8.encode flag.spelling ↔ f = flag :=
    ⟨encode_spelling_inj, fun h => by rw [h]⟩
  have hspaced : Utf8.encode f.spelling ≠ value := by
    have h := hlooks []
    rwa [List.append_nil] at h
  unfold Gives
  rw [List.mem_cons, List.mem_cons, List.infix_cons_iff, List.infix_cons_iff,
    List.cons_prefix_cons, List.cons_prefix_cons, List.cons_prefix_cons]
  simp [hflag, hlooks, hspelling, hspaced]
  tauto

/-- Only a flag that is a setting is passed on, and only settings are asked for. -/
theorem gives_if {flag f : Flag} {value v : Bytes} {arguments rest : List Bytes}
    (h : flag.isSetting = true →
      (Gives (arguments ++ rest) f v ↔ (f = flag ∧ v = value) ∨ Gives rest f v))
    (hf : f.isSetting = true) :
    Gives ((if flag.isSetting = true then arguments else []) ++ rest) f v ↔
      (f = flag ∧ v = value) ∨ Gives rest f v := by
  by_cases hflag : flag.isSetting = true
  · rw [if_pos hflag]
    exact h hflag
  · have hne : f ≠ flag := fun heq => hflag (heq ▸ hf)
    simp [hflag, hne]

theorem not_gives_nil {flag : Flag} {value : Bytes} : ¬ Gives [] flag value := by
  simp [Gives]

/-! ### From flags to flags -/

/-- How settings among arguments lead from the flags before them to those after them. -/
structure Reads (before after : Flags) (arguments : List Bytes) : Prop where
  /-- What is given is set. -/
  given {f : Flag} {v : Bytes} (hf : f.isSetting = true) (h : Gives arguments f v) :
    ∃ s, f.denotes? v = some s ∧ after.setting? f = some s
  /-- What was set stays set. -/
  kept {f : Flag} {s : Setting} (h : before.setting? f = some s) : after.setting? f = some s
  /-- What is set was set or is given. -/
  found {f : Flag} {s : Setting} (h : after.setting? f = some s) :
    before.setting? f = some s ∨ ∃ v, Gives arguments f v ∧ f.denotes? v = some s

theorem Reads.nil {before after : Flags} (h : after.setting? = before.setting?) :
    Reads before after [] where
  given _ hgives := absurd hgives not_gives_nil
  kept hs := by rwa [h]
  found hs := Or.inl (by rwa [h] at hs)

namespace FlagReader

/-- What is set was given, and a command was not. -/
structure Tracks (reader : FlagReader) : Prop where
  marked {f : Flag} {s : Setting} (h : reader.flags.setting? f = some s) : f ∈ reader.given.flags
  command : reader.flags.command = none

theorem tracks_start : start.Tracks where
  marked {f} _ h := by cases f <;> cases h
  command := rfl

theorem mem_withFlag {given : Given} {flag f : Flag} :
    f ∈ (given.withFlag flag).flags ↔ f ∈ given.flags ∨ f = flag := by
  unfold Given.withFlag
  split
  · constructor
    · exact Or.inl
    · rintro (h | rfl)
      · exact h
      · assumption
  · simp

variable {free next : FlagReader} {flag : Flag} {value : Bytes}

theorem Tracks.accept (h : free.Tracks) (haccept : free.accept flag value = (next, none)) :
    next.Tracks := by
  obtain ⟨-, flags, hput, rfl⟩ := accept_eq_ok_iff.mp haccept
  have hputs := Flags.puts_of_put hput
  refine ⟨fun {f s} hs => mem_withFlag.mpr ?_, hputs.command.trans h.command⟩
  rw [hputs.setting (Flags.isSetting_of_setting? hs)] at hs
  split at hs
  · exact Or.inr ‹_›
  · exact Or.inl (h.marked hs)

/-- A flag that is accepted is one more step in front.  It cannot undo what was set before, as it
would come again. -/
theorem Tracks.reads_accept (h : free.Tracks) (haccept : free.accept flag value = (next, none))
    {after : Flags} {arguments rest : List Bytes} (hread : Reads next.flags after rest)
    (hgives : ∀ f v, f.isSetting = true →
      (Gives arguments f v ↔ (f = flag ∧ v = value) ∨ Gives rest f v)) :
    Reads free.flags after arguments := by
  obtain ⟨hnew, flags, hput, rfl⟩ := accept_eq_ok_iff.mp haccept
  have hputs := Flags.puts_of_put hput
  constructor
  case given =>
    intro f v hf hgive
    rcases (hgives f v hf).mp hgive with ⟨rfl, rfl⟩ | hrest
    · obtain ⟨s, hs⟩ := Option.isSome_iff_exists.mp (hputs.denotes hf)
      refine ⟨s, hs, hread.kept ?_⟩
      rw [hputs.setting hf, if_pos rfl, hs]
    · exact hread.given hf hrest
  case kept =>
    intro f s hs
    -- What is set was given, and a flag that was given is not accepted again.
    have hne : f ≠ flag := fun heq => hnew (heq ▸ h.marked hs)
    refine hread.kept ?_
    rw [hputs.setting (Flags.isSetting_of_setting? hs), if_neg hne, hs]
  case found =>
    intro f s hs
    have hf := Flags.isSetting_of_setting? hs
    rcases hread.found hs with hnext | ⟨v, hrest, hdenotes⟩
    · rw [hputs.setting hf] at hnext
      split at hnext
      · rename_i heq
        subst heq
        exact Or.inr ⟨value, (hgives f value hf).mpr (Or.inl ⟨rfl, rfl⟩), hnext⟩
      · exact Or.inl hnext
    · exact Or.inr ⟨v, (hgives f v hf).mpr (Or.inr hrest), hdenotes⟩

end FlagReader

/-! ### The splitter and the reader -/

/-- The text is that of a setting, with a value attached or without. -/
def isSettingLike (t : Text) : Bool :=
  (Flag.all.find? fun flag => flag.spelling = Text.upTo '=' t).any Flag.isSetting

/-- A command that the splitter takes for a setting. -/
def Flags.stray (flags : Flags) : List Bytes :=
  ((flags.command.filter isSettingLike).map Utf8.encode).toList

theorem Flags.stray_of_command {flags : Flags} (h : flags.command = .none) : flags.stray = [] := by
  rw [stray, h]
  rfl

theorem Flags.stray_some (flags : Flags) (t : Text) :
    Flags.stray { flags with command := some t } =
      if isSettingLike t = true then [Utf8.encode t] else [] := by
  unfold stray
  by_cases h : isSettingLike t = true <;> simp [Option.filter, h]

theorem isSettingLike_of_flag {t : Text} {isSetting wantsNext : Bool}
    (h : ArgumentRole.of (Utf8.encode t) = .flag isSetting wantsNext) :
    isSettingLike t = isSetting := by
  unfold ArgumentRole.of at h
  rw [Utf8.decodeLossy_encode] at h
  dsimp only at h
  split at h
  · cases h
  unfold isSettingLike
  split at h
  · rename_i known hknown
    cases h
    rw [hknown]
    rfl
  · rename_i hnone
    cases h
    rw [hnone]
    rfl

/-- Every spelling begins with two `-`. -/
theorem isSettingLike_of_command {t : Text}
    (h : ArgumentRole.of (Utf8.encode t) = .command) : isSettingLike t = false := by
  unfold ArgumentRole.of at h
  rw [Utf8.decodeLossy_encode] at h
  dsimp only at h
  split at h
  · rename_i hcommand
    have hnone : Flag.all.find? (fun flag => flag.spelling = Text.upTo '=' t) = none := by
      refine List.find?_eq_none.mpr fun flag _ => ?_
      rw [decide_eq_true_eq]
      intro heq
      obtain ⟨rest, hrest⟩ : ∃ rest, t = flag.spelling ++ rest :=
        ⟨t.dropWhile (· ≠ '='), by rw [heq]; exact List.takeWhile_append_dropWhile.symm⟩
      rcases hcommand with hhead | hlone
      · exact hhead (by rw [hrest]; rfl)
      · rw [hrest] at hlone
        cases hlone
    rw [isSettingLike, hnone]
    rfl
  · split at h <;> cases h

namespace FlagReader

/-! What the role of an argument says about how it is taken. -/

variable {free : FlagReader} {argument : Bytes} {rest : List Bytes} {flags : Flags}

theorem Takes.of_command (h : Takes free argument rest flags)
    (hrole : ArgumentRole.of argument = .command) :
    ({ free with held := .command argument } : FlagReader).finish rest = .ok flags := by
  cases h with
  | inline htakes haccept hrest =>
      rw [ArgumentRole.of_attached] at hrole
      cases hrole
  | spaced htakes hvalue hrest =>
      rw [ArgumentRole.of_spelling] at hrole
      cases hrole
  | ended => cases hrole
  | endedBy => cases hrole
  | command hflag hrest => exact hrest

theorem Takes.of_wanting {isSetting : Bool} (h : Takes free argument rest flags)
    (hrole : ArgumentRole.of argument = .flag isSetting true) :
    ∃ (flag : Flag) (value : Bytes) (later : List Bytes), argument = Utf8.encode flag.spelling ∧
      isSetting = flag.isSetting ∧ rest = value :: later ∧
      (flag.allowsHyphen = true ∨ looksLikeFlag value = false) ∧
      ({ free with held := .flag flag (some value) } : FlagReader).finish later = .ok flags := by
  cases h with
  | inline htakes haccept hrest =>
      rw [ArgumentRole.of_attached] at hrole
      cases hrole
  | @spaced flag value later _ htakes hvalue hrest =>
      rw [ArgumentRole.of_spelling, htakes] at hrole
      cases hrole
      exact ⟨flag, value, later, rfl, rfl, rfl, hvalue, hrest⟩
  | ended => cases hrole
  | endedBy => cases hrole
  | command hflag hrest =>
      rw [ArgumentRole.of_command hflag] at hrole
      cases hrole

theorem Takes.of_alone {isSetting : Bool} (h : Takes free argument rest flags)
    (hrole : ArgumentRole.of argument = .flag isSetting false) :
    (∃ (flag : Flag) (value : Bytes) (next : FlagReader),
      argument = Utf8.encode flag.spelling ++ 0x3D :: value ∧ isSetting = flag.isSetting ∧
        free.accept flag value = (next, none) ∧ next.finish rest = .ok flags) ∨
      (isSetting = false ∧ ((rest = [] ∧ flags = free.flags) ∨
        ∃ t, rest = [Utf8.encode t] ∧ flags = { free.flags with command := some t })) := by
  cases h with
  | @inline flag value next _ _ htakes haccept hrest =>
      rw [ArgumentRole.of_attached] at hrole
      cases hrole
      exact Or.inl ⟨flag, value, next, rfl, rfl, haccept, hrest⟩
  | spaced htakes hvalue hrest =>
      rw [ArgumentRole.of_spelling, htakes] at hrole
      cases hrole
  | ended =>
      cases hrole
      exact Or.inr ⟨rfl, Or.inl ⟨rfl, rfl⟩⟩
  | @endedBy t =>
      cases hrole
      exact Or.inr ⟨rfl, Or.inr ⟨t, rfl, rfl⟩⟩
  | command hflag hrest =>
      rw [ArgumentRole.of_command hflag] at hrole
      cases hrole

end FlagReader

namespace Split

theorem settings_addFlag (isSetting : Bool) (arguments : List Bytes) (split : Split) :
    (split.addFlag isSetting arguments).settings =
      (if isSetting = true then arguments else []) ++ split.settings := by
  cases isSetting <;> rfl

theorem globals_eq_nil {arguments : List Bytes} (h : (ofArguments arguments).globals = []) :
    arguments = [] := by
  revert h
  fun_cases ofArguments arguments <;> simp [addFlag]

/-- A last argument is passed on if it looks like a setting. -/
theorem settings_of_globals {arguments : List Bytes} {t : Text}
    (h : (ofArguments arguments).globals = [Utf8.encode t]) :
    (ofArguments arguments).settings = if isSettingLike t = true then [Utf8.encode t] else [] := by
  revert h
  fun_cases ofArguments arguments with
  | case1 => simp
  | case2 argument rest hrole =>
      intro h
      obtain rfl : argument = Utf8.encode t := by simpa using h
      rw [isSettingLike_of_command hrole]
      rfl
  | case3 argument isSetting value rest hrole =>
      intro h
      simp [addFlag] at h
  | case4 argument isSetting wantsNext rest hvalue hrole =>
      intro h
      obtain ⟨rfl, hrest⟩ : argument = Utf8.encode t ∧ (ofArguments rest).globals = [] := by
        simpa [addFlag] using h
      rw [globals_eq_nil hrest, isSettingLike_of_flag hrole]
      rfl

open FlagReader in
/-- What is accepted leads from the flags that are there to those that come out by what the
splitter passes on, but for a command that it takes for a setting. -/
theorem settings_of_finish (arguments : List Bytes) {reader : FlagReader} {flags : Flags}
    (hready : reader.IsReady) (h : reader.finish (ofArguments arguments).globals = .ok flags) :
    ∃ free, reader.settle = (free, none) ∧ (free.Tracks →
      ∃ read, (ofArguments arguments).settings = read ++ flags.stray ∧
        Reads free.flags flags read) := by
  fun_induction ofArguments arguments generalizing reader with
  | case1 =>
      obtain ⟨free, hsettle, rfl⟩ := finish_nil h
      refine ⟨free, hsettle, fun htracks => ⟨[], ?_, .nil rfl⟩⟩
      rw [Flags.stray_of_command htracks.command]
      rfl
  | case2 argument rest hrole =>
      obtain ⟨free, hsettle, htakes⟩ := finish_cons hready h
      obtain ⟨t, rfl, rfl⟩ := finish_command (htakes.of_command hrole)
      refine ⟨free, hsettle, fun _ => ⟨[], ?_, .nil rfl⟩⟩
      rw [Flags.stray_some, isSettingLike_of_command hrole]
      rfl
  | case3 argument isSetting value rest hrole ih =>
      obtain ⟨free, hsettle, htakes⟩ := finish_cons hready h
      obtain ⟨hheld, hcommand⟩ := hready.isFree_of_settle hsettle
      obtain ⟨flag, _, _, rfl, rfl, heq, hvalue, hrest⟩ := htakes.of_wanting hrole
      cases heq
      have hheldReady : ({ free with held := .flag flag (some value) } : FlagReader).IsReady :=
        ⟨rfl, hcommand⟩
      obtain ⟨next, hnext, hreads⟩ := ih hheldReady hrest
      -- The value that is held is looked at next.
      have haccept : free.accept flag value = (next, none) := by
        obtain ⟨flags, given, held⟩ := free
        cases hheld
        exact hnext
      refine ⟨free, hsettle, fun htracks => ?_⟩
      obtain ⟨read, hread, hreads⟩ := hreads (htracks.accept haccept)
      refine ⟨(if flag.isSetting = true then [Utf8.encode flag.spelling, value] else []) ++ read,
        ?_, htracks.reads_accept haccept hreads fun f v hf => gives_if (fun hset => ?_) hf⟩
      · rw [settings_addFlag, hread, List.append_assoc]
      · have hhyphen := flag.allowsHyphen_of_isSetting hset
        exact gives_spaced_cons (hvalue.resolve_left (by simp [hhyphen]))
  | case4 argument isSetting wantsNext rest hvalue hrole ih =>
      obtain ⟨free, hsettle, htakes⟩ := finish_cons hready h
      have hfree := hready.isFree_of_settle hsettle
      refine ⟨free, hsettle, fun htracks => ?_⟩
      cases wantsNext with
      | true =>
          obtain ⟨flag, value, later, -, -, heq, -⟩ := htakes.of_wanting hrole
          cases rest with
          | nil => cases heq
          | cons value rest => exact (hvalue value rest rfl rfl).elim
      | false =>
          rw [settings_addFlag]
          rcases htakes.of_alone hrole with ⟨flag, value, next, rfl, rfl, haccept, hrest⟩ |
            ⟨rfl, ⟨hnil, rfl⟩ | ⟨t, hglobals, rfl⟩⟩
          · have hnext := hfree.accept haccept
            obtain ⟨_, hsettled, hreads⟩ := ih hnext.isReady hrest
            rw [settle_of_nothing hnext.1] at hsettled
            cases hsettled
            obtain ⟨read, hread, hreads⟩ := hreads (htracks.accept haccept)
            refine ⟨_, by rw [hread, ← List.append_assoc],
              htracks.reads_accept haccept hreads fun f v hf => gives_if (fun _ => ?_) hf⟩
            exact gives_attached_cons
          · refine ⟨[], ?_, .nil rfl⟩
            rw [globals_eq_nil hnil, Flags.stray_of_command htracks.command]
            rfl
          · refine ⟨[], ?_, .nil rfl⟩
            rw [settings_of_globals hglobals, Flags.stray_some]
            rfl

end Split

/-- Flags and arguments say the same about every setting: what a setting is set to is what a value
denotes that the arguments give it, and every value that they give it denotes something. -/
def Flags.Agrees (flags : Flags) (arguments : List Bytes) : Prop :=
  ∀ flag : Flag, flag.isSetting = true →
    (∀ s, flags.setting? flag = some s ↔
      ∃ value, Gives arguments flag value ∧ flag.denotes? value = some s) ∧
    ∀ value, Gives arguments flag value → (flag.denotes? value).isSome = true

/-- **The two readers agree.**  When the reader of flags accepts its share of a command line, the
share of the configuration is what says the same, and after it the command if the splitter takes
it for a setting. -/
theorem settings_agree {arguments : List Bytes} {flags : Flags}
    (h : Flags.read (Split.ofCommandLine arguments).globals.tail = .ok flags) :
    ∃ read, (Split.ofCommandLine arguments).settings.tail = read ++ flags.stray ∧
      flags.Agrees read := by
  obtain ⟨later, hglobals, hsettings⟩ : ∃ later,
      (Split.ofCommandLine arguments).globals.tail = (Split.ofArguments later).globals ∧
        (Split.ofCommandLine arguments).settings.tail = (Split.ofArguments later).settings := by
    cases arguments with
    | nil => exact ⟨[], rfl, rfl⟩
    | cons program arguments => exact ⟨arguments, rfl, rfl⟩
  rw [hglobals] at h
  rw [hsettings]
  obtain ⟨free, hsettle, hreads⟩ :=
    Split.settings_of_finish later FlagReader.isFree_start.isReady h
  rw [FlagReader.settle_of_nothing FlagReader.isFree_start.1] at hsettle
  cases hsettle
  obtain ⟨read, hread, hreads⟩ := hreads FlagReader.tracks_start
  refine ⟨read, hread, fun flag hflag => ⟨fun s => ⟨fun hs => ?_, ?_⟩, fun value hvalue => ?_⟩⟩
  · -- Nothing is set before the first argument.
    rcases hreads.found hs with hstart | hgives
    · cases flag <;> cases hstart
    · exact hgives
  · rintro ⟨value, hvalue, hdenotes⟩
    obtain ⟨s', hs', hset⟩ := hreads.given hflag hvalue
    rw [hs'] at hdenotes
    cases hdenotes
    exact hset
  · obtain ⟨s, hs, -⟩ := hreads.given hflag hvalue
    rw [hs]
    rfl

/-- A setting and a command. -/
theorem settings_agree_timeout :
    Flags.read (Split.ofCommandLine (["varlink", "--timeout", "3", "call"].map fun t : String =>
        Utf8.encode t)).globals.tail =
      .ok { Flags.none with timeout := some 3, command := some "call" } ∧
    ∃ read, (Split.ofCommandLine (["varlink", "--timeout", "3", "call"].map fun t : String =>
        Utf8.encode t)).settings.tail = read ++ [] ∧
      Flags.Agrees { Flags.none with timeout := some 3, command := some "call" } read := by
  have hread : Flags.read (Split.ofCommandLine (["varlink", "--timeout", "3", "call"].map
      fun t : String => Utf8.encode t)).globals.tail =
      .ok { Flags.none with timeout := some 3, command := some "call" } := by decide
  exact ⟨hread, settings_agree hread⟩

/-- Without what follows the settings they do not agree: here a setting is passed on that the
reader of flags takes for the command. -/
theorem exists_not_agrees :
    ¬ ∀ (arguments : List Bytes) (flags : Flags),
      Flags.read (Split.ofCommandLine arguments).globals.tail = .ok flags →
        flags.Agrees (Split.ofCommandLine arguments).settings.tail := by
  intro h
  have hagrees := h (["varlink", "--", "--timeout=3"].map fun t : String => Utf8.encode t)
    { Flags.none with command := some "--timeout=3" } (by decide)
  have hset := ((hagrees .timeout rfl).1 (.number 3)).mpr
    ⟨Utf8.encode "3", Or.inl (by decide), by decide⟩
  cases hset

end VarlinkClient
