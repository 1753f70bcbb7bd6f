/-
The shares of a command line.

Behind the name of the program stand pieces, each a flag with the value that it takes along, then
perhaps the command, and then what belongs to it (`IsCut`).  Every command line can be cut like
this (`exists_isCut`), and a cut settles the shares (`ofArguments_of_isCut`): settings are the
pieces whose flag is one, flags and command stand in front as they are, and the rest is the
command's.  So nothing is lost or made up (`ofCommandLine_shares`), and as what follows a command
has no part in the cut, nothing of it is seen by the other two readers.

What a flag is, and what it wants, is said here of the text of an argument, in which broken
bytes stand as replacement characters.
-/
import VarlinkClient.Proofs.CommandLine.Split
import Mathlib.Data.List.Flatten

namespace VarlinkClient.Split

/-! ### Arguments -/

/-- The argument is a flag: it begins with `-`, and that is not all. -/
def IsFlag (argument : Bytes) : Prop :=
  (Utf8.decodeLossy argument).head? = some '-' ∧ Utf8.decodeLossy argument ≠ ['-']

/-- The argument is this flag, with a value after `=` or without. -/
def Names (argument : Bytes) (flag : Flag) : Prop :=
  Text.upTo '=' (Utf8.decodeLossy argument) = flag.spelling

/-- The argument is a flag that sets a part of the configuration. -/
def IsSetting (argument : Bytes) : Prop :=
  ∃ flag ∈ Flag.all, Names argument flag ∧ flag.isSetting = true

/-- The argument is a flag that takes a value and has none after `=`. -/
def WantsNext (argument : Bytes) : Prop :=
  '=' ∉ Utf8.decodeLossy argument ∧ ∃ flag ∈ Flag.all, Names argument flag ∧ flag.takesValue = true

instance (argument : Bytes) (flag : Flag) : Decidable (Names argument flag) :=
  inferInstanceAs (Decidable (_ = _))

instance (argument : Bytes) : Decidable (IsSetting argument) :=
  inferInstanceAs (Decidable (∃ flag ∈ Flag.all, _))

instance (argument : Bytes) : Decidable (WantsNext argument) :=
  inferInstanceAs (Decidable (_ ∧ ∃ flag ∈ Flag.all, _))

theorem role_of_not_isFlag {argument : Bytes} (h : ¬ IsFlag argument) :
    ArgumentRole.of argument = .command := by
  have hcommand : (Utf8.decodeLossy argument).head? ≠ some '-' ∨
      Utf8.decodeLossy argument = ['-'] := by
    by_contra hneither
    rw [not_or, not_not] at hneither
    exact h hneither
  unfold ArgumentRole.of
  dsimp only
  rw [if_pos hcommand]

/-- There is one flag at most that an argument names. -/
theorem exists_names_iff {argument : Bytes} {known : Flag} (h : Names argument known)
    {p : Flag → Prop} : (∃ flag ∈ Flag.all, Names argument flag ∧ p flag) ↔ p known := by
  constructor
  · rintro ⟨flag, -, hflag, hp⟩
    rwa [← Flag.spelling_injective (hflag.symm.trans h)]
  · exact fun hp => ⟨known, by cases known <;> decide, h, hp⟩

theorem role_of_isFlag {argument : Bytes} (h : IsFlag argument) :
    ArgumentRole.of argument = .flag (IsSetting argument) (WantsNext argument) := by
  have hcommand : ¬ ((Utf8.decodeLossy argument).head? ≠ some '-' ∨
      Utf8.decodeLossy argument = ['-']) := by
    rintro (hhead | hlone)
    · exact hhead h.1
    · exact h.2 hlone
  unfold ArgumentRole.of
  dsimp only
  rw [if_neg hcommand]
  split
  · rename_i known hknown
    have hspelling := List.find?_some hknown
    have hnames : Names argument known := (of_decide_eq_true hspelling).symm
    unfold IsSetting WantsNext
    simp only [exists_names_iff hnames]
    simp [and_comm]
  · rename_i hnone
    have hno : ∀ flag ∈ Flag.all, ¬ Names argument flag := by
      intro flag hflag hnames
      exact List.find?_eq_none.mp hnone flag hflag (by simpa using hnames.symm)
    have hneither : ∀ {p : Flag → Prop}, ¬ ∃ flag ∈ Flag.all, Names argument flag ∧ p flag := by
      rintro p ⟨flag, hflag, hnames, -⟩
      exact hno flag hflag hnames
    unfold IsSetting WantsNext
    simp only [hneither, and_false, decide_false]

theorem isFlag_of_role {argument : Bytes} {isSetting wantsNext : Bool}
    (h : ArgumentRole.of argument = .flag isSetting wantsNext) :
    IsFlag argument ∧ wantsNext = decide (WantsNext argument) := by
  by_cases hflag : IsFlag argument
  · rw [role_of_isFlag hflag] at h
    cases h
    exact ⟨hflag, rfl⟩
  · rw [role_of_not_isFlag hflag] at h
    cases h

/-- Every setting takes a value. -/
theorem wantsNext_of_isSetting {argument : Bytes} (h : IsSetting argument)
    (hattached : '=' ∉ Utf8.decodeLossy argument) : WantsNext argument := by
  obtain ⟨flag, hflag, hnames, hsetting⟩ := h
  have htakes : flag.takesValue = true := by
    revert hsetting
    cases flag <;> decide
  exact ⟨hattached, flag, hflag, hnames, htakes⟩

/-! ### Cutting -/

/-- A flag, and the value that it takes along. -/
structure Piece where
  /-- The flag. -/
  flag : Bytes
  /-- The argument after it, if that is its value. -/
  value? : Option Bytes
  isFlag : IsFlag flag
  wants : value?.isSome → WantsNext flag

namespace Piece

/-- The arguments of a piece. -/
def arguments (piece : Piece) : List Bytes :=
  piece.flag :: piece.value?.toList

/-- The piece has no value, though its flag wants one. -/
def LacksValue (piece : Piece) : Prop :=
  WantsNext piece.flag ∧ piece.value? = none

end Piece

/-- The arguments after the name of the program are these pieces, the command, if there is one,
and what belongs to it. -/
structure IsCut (arguments : List Bytes) (pieces : List Piece) (command? : Option Bytes)
    (rest : List Bytes) : Prop where
  /-- Every argument stands somewhere, in order. -/
  whole : arguments = pieces.flatMap Piece.arguments ++ (command?.toList ++ rest)
  /-- A value is lacking only where there is no next argument. -/
  lacks : ∀ front piece after, pieces = front ++ piece :: after → piece.LacksValue →
    after = [] ∧ command? = none
  /-- The command is no flag. -/
  command : ∀ word ∈ command?, ¬ IsFlag word
  /-- Nothing follows but a command. -/
  rest : command? = none → rest = []

namespace IsCut

variable {arguments rest : List Bytes} {pieces : List Piece} {command? : Option Bytes}

theorem tail {piece : Piece} (h : IsCut arguments (piece :: pieces) command? rest) :
    IsCut (pieces.flatMap Piece.arguments ++ (command?.toList ++ rest)) pieces command? rest where
  whole := rfl
  lacks front other after hpieces := h.lacks (piece :: front) other after (by rw [hpieces]; rfl)
  command := h.command
  rest := h.rest

theorem cons (h : IsCut arguments pieces command? rest) (piece : Piece)
    (hpiece : ¬ piece.LacksValue) :
    IsCut (piece.arguments ++ arguments) (piece :: pieces) command? rest where
  whole := by rw [h.whole, List.flatMap_cons, List.append_assoc]
  lacks front other after hpieces hother := by
    cases front with
    | nil =>
        cases hpieces
        exact absurd hother hpiece
    | cons first front =>
        cases hpieces
        exact h.lacks front other after rfl hother
  command := h.command
  rest := h.rest

/-- A setting has its value after `=` or in the next argument, when there is one. -/
theorem isSome_of_isSetting (h : IsCut arguments pieces command? rest) {front after : List Piece}
    {piece : Piece} (hpieces : pieces = front ++ piece :: after) (hsetting : IsSetting piece.flag)
    (hattached : '=' ∉ Utf8.decodeLossy piece.flag) :
    piece.value?.isSome ∨ (after = [] ∧ command? = none) := by
  cases hvalue : piece.value? with
  | some value => exact Or.inl rfl
  | none => exact Or.inr (h.lacks front piece after hpieces
      ⟨wantsNext_of_isSetting hsetting hattached, hvalue⟩)

/-- What belongs to a command may be anything. -/
theorem replace (h : IsCut arguments pieces command? rest) (hcommand : command?.isSome)
    (others : List Bytes) :
    IsCut (pieces.flatMap Piece.arguments ++ (command?.toList ++ others)) pieces command?
      others where
  whole := rfl
  lacks := h.lacks
  command := h.command
  rest hnone := by
    rw [hnone] at hcommand
    cases hcommand

end IsCut

/-- The shares that pieces, a command and the rest make. -/
def shares (pieces : List Piece) (command? : Option Bytes) (rest : List Bytes) : Split where
  settings := (pieces.filter fun piece => IsSetting piece.flag).flatMap Piece.arguments
  globals := pieces.flatMap Piece.arguments ++ command?.toList
  command := rest.map Utf8.decodeLossy

theorem shares_cons (piece : Piece) (pieces : List Piece) (command? : Option Bytes)
    (rest : List Bytes) : shares (piece :: pieces) command? rest =
      (shares pieces command? rest).addFlag (IsSetting piece.flag) piece.arguments := by
  by_cases h : IsSetting piece.flag <;> simp [shares, addFlag, h]

/-- **A cut settles the shares.** -/
theorem ofArguments_of_isCut {pieces : List Piece} {command? : Option Bytes}
    {rest : List Bytes} : ∀ {arguments : List Bytes}, IsCut arguments pieces command? rest →
      ofArguments arguments = shares pieces command? rest := by
  induction pieces with
  | nil =>
      intro arguments h
      rw [h.whole]
      cases hcommand : command? with
      | none =>
          rw [h.rest hcommand]
          rfl
      | some word => exact ofArguments_command (role_of_not_isFlag (h.command word hcommand)) rest
  | cons piece pieces ih =>
      intro arguments h
      obtain ⟨flag, value?, hflag, hwants⟩ := piece
      have hrole := role_of_isFlag hflag
      have hrest := ih h.tail
      rw [h.whole, shares_cons, ← hrest, List.flatMap_cons, List.append_assoc]
      cases value? with
      | some value =>
          rw [decide_eq_true (hwants rfl)] at hrole
          exact ofArguments_valued hrole value _
      | none =>
          by_cases hnext : WantsNext flag
          · -- The value is lacking, so this is the last argument.
            obtain ⟨rfl, rfl⟩ := h.lacks [] _ pieces rfl ⟨hnext, rfl⟩
            rw [h.rest rfl]
            rw [decide_eq_true hnext] at hrole
            show ofArguments [flag] = _
            rw [ofArguments.eq_def]
            simp only [hrole]
            rfl
          · rw [decide_eq_false hnext] at hrole
            exact ofArguments_bare hrole _

/-- **Every row of arguments can be cut.** -/
theorem exists_isCut (arguments : List Bytes) :
    ∃ pieces command? rest, IsCut arguments pieces command? rest := by
  induction arguments using ofArguments.induct with
  | case1 => exact ⟨[], none, [], rfl, by simp, by simp, by simp⟩
  | case2 argument rest hrole =>
      have hflag : ¬ IsFlag argument := by
        intro hflag
        rw [role_of_isFlag hflag] at hrole
        cases hrole
      exact ⟨[], some argument, rest, rfl, by simp, by simpa using hflag, by simp⟩
  | case3 argument isSetting value rest hrole ih =>
      obtain ⟨pieces, command?, last, hcut⟩ := ih
      obtain ⟨hflag, hwants⟩ := isFlag_of_role hrole
      exact ⟨_, command?, last,
        hcut.cons ⟨argument, some value, hflag, fun _ => of_decide_eq_true hwants.symm⟩
          fun hlacks => by cases hlacks.2⟩
  | case4 argument isSetting wantsNext rest hlast hrole ih =>
      obtain ⟨hflag, hwants⟩ := isFlag_of_role hrole
      cases wantsNext with
      | true =>
          -- The flag wants a value and none follows.
          cases rest with
          | cons value rest => exact (hlast value rest rfl rfl).elim
          | nil =>
              refine ⟨[⟨argument, none, hflag, by simp⟩], none, [], rfl, ?_, by simp, by simp⟩
              intro front other after hpieces _
              have hlength := congrArg List.length hpieces
              simp at hlength
              exact ⟨List.eq_nil_of_length_eq_zero (by omega), rfl⟩
      | false =>
          obtain ⟨pieces, command?, last, hcut⟩ := ih
          exact ⟨_, command?, last, hcut.cons ⟨argument, none, hflag, by simp⟩
            fun hlacks => of_decide_eq_false hwants.symm hlacks.1⟩

/-- What follows the command goes to it as it stands, and nothing else depends on it. -/
theorem exists_front {arguments : List Bytes} (h : (ofArguments arguments).command ≠ []) :
    ∃ front rest, arguments = front ++ rest ∧ ∀ others, ofArguments (front ++ others) =
      { ofArguments arguments with command := others.map Utf8.decodeLossy } := by
  obtain ⟨pieces, command?, rest, hcut⟩ := exists_isCut arguments
  rw [ofArguments_of_isCut hcut] at h ⊢
  have hcommand : command?.isSome := by
    cases command? with
    | some word => rfl
    | none =>
        rw [hcut.rest rfl] at h
        exact absurd rfl h
  refine ⟨pieces.flatMap Piece.arguments ++ command?.toList, rest, ?_, fun others => ?_⟩
  · rw [hcut.whole, List.append_assoc]
  · rw [List.append_assoc, ofArguments_of_isCut (hcut.replace hcommand others)]
    rfl

/-! ### Command lines -/

theorem ofCommandLine_of_isCut {arguments rest : List Bytes} {pieces : List Piece}
    {command? : Option Bytes} (h : IsCut arguments pieces command? rest) (program : Bytes) :
    ofCommandLine (program :: arguments) =
      (shares pieces command? rest).addFlag true [program] := by
  rw [ofCommandLine, ofArguments_of_isCut h]

theorem settings_sublist_shares (pieces : List Piece) (command? : Option Bytes)
    (rest : List Bytes) :
    (shares pieces command? rest).settings.Sublist (shares pieces command? rest).globals := by
  have hfilter := pieces.filter_sublist (p := fun piece => IsSetting piece.flag)
  exact (hfilter.flatMap Piece.arguments).trans (List.sublist_append_left _ _)

/-- **Splitting loses nothing and makes nothing up.**  The flags and the command are the front of
the command line and the command has all that follows; the settings are some of the flags, each
with its value; and what follows a command is the command's alone. -/
theorem ofCommandLine_shares (program : Bytes) (arguments : List Bytes) :
    ∃ (pieces : List Piece) (command? : Option Bytes) (rest : List Bytes),
      IsCut arguments pieces command? rest ∧
      program :: arguments = (ofCommandLine (program :: arguments)).globals ++ rest ∧
      (ofCommandLine (program :: arguments)).command = rest.map Utf8.decodeLossy ∧
      (ofCommandLine (program :: arguments)).globals =
        program :: (pieces.flatMap Piece.arguments ++ command?.toList) ∧
      (ofCommandLine (program :: arguments)).settings =
        program :: (pieces.filter fun piece => IsSetting piece.flag).flatMap Piece.arguments ∧
      (∀ front piece after, pieces = front ++ piece :: after → IsSetting piece.flag →
        '=' ∉ Utf8.decodeLossy piece.flag →
          piece.value?.isSome ∨ (after = [] ∧ command? = none)) ∧
      (ofCommandLine (program :: arguments)).settings.Sublist
        (ofCommandLine (program :: arguments)).globals ∧
      (command?.isSome → ∀ others,
        ofCommandLine ((ofCommandLine (program :: arguments)).globals ++ others) =
          { ofCommandLine (program :: arguments) with
            command := others.map Utf8.decodeLossy }) := by
  obtain ⟨pieces, command?, rest, hcut⟩ := exists_isCut arguments
  refine ⟨pieces, command?, rest, hcut, ?_⟩
  rw [ofCommandLine_of_isCut hcut program]
  refine ⟨?_, rfl, rfl, rfl, ?_, (settings_sublist_shares pieces command? rest).cons_cons program,
    ?_⟩
  · rw [hcut.whole, ← List.append_assoc]
    rfl
  · exact fun _ _ _ => hcut.isSome_of_isSetting
  · intro hcommand others
    have hothers := ofCommandLine_of_isCut (hcut.replace hcommand others) program
    rw [← List.append_assoc] at hothers
    exact hothers

end VarlinkClient.Split
