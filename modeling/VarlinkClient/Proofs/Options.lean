/-
Options and positionals are read apart.

A token that is no option takes its place among the positionals and changes nothing else.  A
token that is one stands for a row of options, looked up one by one, and has no say in the
positionals.  So what is asked for, or what is wrong, is a matter of the option tokens alone
(`parse_filter`), and without a question for help the positionals are all the other tokens
(`positionals_of_parse`).  How the two kinds of tokens are mixed is lost.
-/
import VarlinkClient.Command.Arguments

namespace VarlinkClient.Options

/-! ### Kinds of tokens -/

/-- The token is read as an option, or as several. -/
def IsOption (token : Text) : Prop :=
  token.head? = some '-' ∧ token ≠ ['-']

instance (token : Text) : Decidable (IsOption token) :=
  inferInstanceAs (Decidable (_ ∧ _))

theorem isOption_iff {token : Text} : IsOption token ↔ ∃ c rest, token = '-' :: c :: rest := by
  match token with
  | [] => simp [IsOption]
  | [c] => simp [IsOption]
  | c :: d :: rest => simp [IsOption]

/-- The options that a token stands for, each looked up in the schema. -/
def found (schema : Schema) : Text → List (Except ArgumentError OptionSpec)
  | '-' :: '-' :: word => [findLong schema word]
  | '-' :: letters => letters.map (findShort schema)
  | _ => []

/-! ### One token -/

theorem parse_positional (schema : Schema) {token : Text} (h : ¬ IsOption token)
    (tokens : List Text) :
    parse schema (token :: tokens) = (parse schema tokens).map (addPositional token) := by
  rw [isOption_iff] at h
  match token, h with
  | [], _ => rfl
  | [c], _ =>
      rw [parse.eq_def]
      simp
  | c :: d :: rest, h =>
      have hc : c ≠ '-' := by
        rintro rfl
        exact h ⟨d, rest, rfl⟩
      rw [parse.eq_def]
      simp [hc]

/-- A token of options puts them in front of what follows, one after another. -/
theorem parse_option (schema : Schema) {token : Text} (h : IsOption token)
    (hdashes : token ≠ "--") (tokens : List Text) :
    parse schema (token :: tokens) =
      (found schema token).foldr applyOption (parse schema tokens) := by
  obtain ⟨c, rest, rfl⟩ := isOption_iff.mp h
  by_cases hc : c = '-'
  · subst hc
    cases rest with
    | nil => exact absurd rfl hdashes
    | cons d word => rfl
  · have hletters : found schema ('-' :: c :: rest) = (c :: rest).map (findShort schema) := by
      rw [found]
      simp [hc]
    rw [hletters, List.foldr_map, parse.eq_def]
    simp [hc, applyLetters]

theorem map_eq_ok_iff {ε α β : Type} {f : α → β} {x : Except ε α} {b : β} :
    x.map f = .ok b ↔ ∃ a, x = .ok a ∧ f a = b := by
  cases x with
  | error e => simp [Except.map]
  | ok a => simp [Except.map]

/-! ### A row of options

An option changes nothing of what follows but the effects, and help takes the place of all of it.
-/

/-- What an option can do: fail, ask for help, or add its effect to what follows. -/
theorem applyOption_eq_ok_iff {looked : Except ArgumentError OptionSpec}
    {following : Except ArgumentError Options} {options : Options} :
    applyOption looked following = .ok options ↔ ∃ spec, looked = .ok spec ∧
      (spec.effect = .showHelp ∧ options = ⟨true, [], []⟩ ∨
        spec.effect ≠ .showHelp ∧ ∃ rest, following = .ok rest ∧
          options = addEffect spec.effect rest) := by
  unfold applyOption
  constructor
  · intro h
    split at h
    · cases h
    rename_i spec
    split at h
    · rename_i hspec
      cases h
      exact ⟨spec, rfl, Or.inl ⟨hspec, rfl⟩⟩
    · rename_i hspec
      obtain ⟨rest, hrest, rfl⟩ := map_eq_ok_iff.mp h
      exact ⟨spec, rfl, Or.inr ⟨hspec, rest, hrest, rfl⟩⟩
  · rintro ⟨spec, rfl, ⟨hspec, rfl⟩ | ⟨hspec, rest, rfl, rfl⟩⟩
    · exact if_pos hspec
    · exact if_neg hspec

/-- What an option does commutes with what leaves effects and help alone. -/
theorem applyOption_map {g : Options → Options} (hhelp : g ⟨true, [], []⟩ = ⟨true, [], []⟩)
    (heffect : ∀ effect options, g (addEffect effect options) = addEffect effect (g options))
    (looked : Except ArgumentError OptionSpec) (following : Except ArgumentError Options) :
    applyOption looked (following.map g) = (applyOption looked following).map g := by
  unfold applyOption
  cases looked with
  | error error => rfl
  | ok spec =>
      dsimp only
      split
      · rw [Except.map, hhelp]
      · cases following with
        | error error => rfl
        | ok options => rw [Except.map, Except.map, Except.map, Except.map, heffect]

theorem foldr_applyOption_map {g : Options → Options}
    (hhelp : g ⟨true, [], []⟩ = ⟨true, [], []⟩)
    (heffect : ∀ effect options, g (addEffect effect options) = addEffect effect (g options))
    (row : List (Except ArgumentError OptionSpec)) (following : Except ArgumentError Options) :
    row.foldr applyOption (following.map g) = (row.foldr applyOption following).map g := by
  induction row with
  | nil => rfl
  | cons looked row ih =>
      rw [List.foldr_cons, List.foldr_cons, ih, applyOption_map hhelp heffect]

/-- Without a question for help the positionals are those of what follows. -/
theorem positionals_of_foldr {row : List (Except ArgumentError OptionSpec)}
    {following : Except ArgumentError Options} {options : Options}
    (h : row.foldr applyOption following = .ok options) (hhelp : options.showHelp = false) :
    ∃ rest, following = .ok rest ∧ rest.showHelp = false ∧
      rest.positionals = options.positionals := by
  induction row generalizing options with
  | nil => exact ⟨options, h, hhelp, rfl⟩
  | cons looked row ih =>
      obtain ⟨spec, -, ⟨-, rfl⟩ | ⟨-, rest, hrest, rfl⟩⟩ := applyOption_eq_ok_iff.mp h
      · cases hhelp
      · show ∃ last, following = .ok last ∧ last.showHelp = false ∧
          last.positionals = rest.positionals
        exact ih hrest hhelp

/-! ### All tokens -/

/-- The options without the positionals. -/
def asked (options : Options) : Options :=
  { options with positionals := [] }

theorem notMem_of_cons {token : Text} {tokens : List Text} (h : ("--" : Text) ∉ token :: tokens) :
    token ≠ "--" ∧ ("--" : Text) ∉ tokens := by
  rw [List.mem_cons, not_or] at h
  exact ⟨Ne.symm h.1, h.2⟩

/-- **What is asked for is what the option tokens alone ask for**, and they alone make mistakes. -/
theorem parse_filter (schema : Schema) {tokens : List Text} (h : ("--" : Text) ∉ tokens) :
    (parse schema tokens).map asked = (parse schema (tokens.filter IsOption)).map asked := by
  induction tokens with
  | nil => rfl
  | cons token tokens ih =>
      obtain ⟨hdashes, hrest⟩ := notMem_of_cons h
      by_cases htoken : IsOption token
      · -- The token puts the same row in front of both rests, and no option looks at positionals.
        have hrow := foldr_applyOption_map (g := asked) rfl (fun _ _ => rfl) (found schema token)
        rw [List.filter_cons_of_pos (by simpa using htoken), parse_option schema htoken hdashes,
          parse_option schema htoken hdashes, ← hrow, ih hrest, hrow]
      · rw [List.filter_cons_of_neg (by simpa using htoken), parse_positional schema htoken,
          ← ih hrest]
        cases parse schema tokens with
        | error error => rfl
        | ok options => rfl

/-- **Without a question for help the positionals are all tokens that are no options.** -/
theorem positionals_of_parse {schema : Schema} {tokens : List Text} {options : Options}
    (h : ("--" : Text) ∉ tokens) (hparse : parse schema tokens = .ok options)
    (hhelp : options.showHelp = false) :
    options.positionals = tokens.filter (¬ IsOption ·) := by
  induction tokens generalizing options with
  | nil =>
      cases hparse
      rfl
  | cons token tokens ih =>
      obtain ⟨hdashes, hrest⟩ := notMem_of_cons h
      by_cases htoken : IsOption token
      · rw [parse_option schema htoken hdashes] at hparse
        obtain ⟨others, hothers, hnone, hsame⟩ := positionals_of_foldr hparse hhelp
        rw [List.filter_cons_of_neg (by simpa using htoken), ← hsame]
        exact ih hrest hothers hnone
      · rw [parse_positional schema htoken] at hparse
        obtain ⟨others, hothers, rfl⟩ := map_eq_ok_iff.mp hparse
        rw [List.filter_cons_of_pos (by simpa using htoken)]
        exact congrArg (token :: ·) (ih hrest hothers hhelp)

/-- **Options and positionals permute.**  Two rows of tokens with the same options in the same
order, and the same other tokens in the same order, are refused for the same reason, or ask for
the same; and unless that is help, they have the same positionals. -/
theorem parse_permuted (schema : Schema) {tokens tokens' : List Text}
    (h : ("--" : Text) ∉ tokens) (h' : ("--" : Text) ∉ tokens')
    (hoptions : tokens.filter IsOption = tokens'.filter IsOption)
    (hothers : tokens.filter (¬ IsOption ·) = tokens'.filter (¬ IsOption ·)) :
    (∃ error, parse schema tokens = .error error ∧ parse schema tokens' = .error error) ∨
      ∃ options options', parse schema tokens = .ok options ∧
        parse schema tokens' = .ok options' ∧ options.showHelp = options'.showHelp ∧
        options.effects = options'.effects ∧
        (options.showHelp = false → options.positionals = options'.positionals) := by
  have hasked : (parse schema tokens).map asked = (parse schema tokens').map asked := by
    rw [parse_filter schema h, parse_filter schema h', hoptions]
  cases hparse : parse schema tokens with
  | error error =>
      rw [hparse] at hasked
      cases hparse' : parse schema tokens' with
      | error error' =>
          rw [hparse'] at hasked
          cases hasked
          exact Or.inl ⟨error, rfl, rfl⟩
      | ok options' =>
          rw [hparse'] at hasked
          cases hasked
  | ok options =>
      rw [hparse] at hasked
      obtain ⟨options', hparse', hsame⟩ := map_eq_ok_iff.mp hasked.symm
      obtain ⟨hhelp, heffects, -⟩ := Options.mk.inj hsame
      refine Or.inr ⟨options, options', rfl, hparse', hhelp.symm, heffects.symm, fun hnone => ?_⟩
      rw [positionals_of_parse h hparse hnone, hothers,
        positionals_of_parse h' hparse' (hhelp.trans hnone)]

/-- What one order gives, another one gives as well. -/
theorem parse_permuted_front :
    parse Command.call.schema ["org.example.Ping", "-m", "-", "--more"] =
        .ok ⟨false, [.wantMore, .wantMore], ["org.example.Ping", "-"]⟩ ∧
      parse Command.call.schema ["-m", "--more", "org.example.Ping", "-"] =
        .ok ⟨false, [.wantMore, .wantMore], ["org.example.Ping", "-"]⟩ := by
  have hfirst : parse Command.call.schema ["org.example.Ping", "-m", "-", "--more"] =
      .ok ⟨false, [.wantMore, .wantMore], ["org.example.Ping", "-"]⟩ := rfl
  have hoptions : (["org.example.Ping", "-m", "-", "--more"] : List Text).filter IsOption =
      (["-m", "--more", "org.example.Ping", "-"] : List Text).filter IsOption := by decide
  refine ⟨hfirst, ?_⟩
  rcases parse_permuted Command.call.schema (by decide) (by decide) hoptions (by decide) with
    ⟨error, herror, -⟩ | ⟨options, options', h, h', hhelp, heffects, hpositionals⟩
  · rw [hfirst] at herror
    cases herror
  · rw [hfirst] at h
    cases h
    obtain ⟨showHelp, effects, positionals⟩ := options'
    cases hhelp
    cases heffects
    cases hpositionals rfl
    exact h'

end VarlinkClient.Options

/-! ### Requests -/

namespace VarlinkClient.Request

/-- What it takes for tokens to ask for something. -/
theorem parse_eq_run_iff {α β : Type} {command : Command} {name : Text}
    {read : Text → Except TargetError α} {hasSecond : Bool}
    {make : Options → α → Option Text → β} {tokens : List Text} {details : β} :
    parse command name read hasSecond make tokens = .ok (.run details) ↔
      ∃ options first second a, Options.parse command.schema tokens = .ok options ∧
        options.showHelp = false ∧ options.positionals = first :: second.toList ∧
        (second.isSome = true → hasSecond = true) ∧ read first = .ok a ∧
        details = make options a second := by
  unfold parse
  constructor
  · intro h
    split at h
    · cases h
    rename_i options hoptions
    split at h
    · cases h
    rename_i hhelp
    split at h
    · cases h
    rename_i first others hpositionals
    split at h
    · cases h
    rename_i a hread
    split at h
    · cases h
      exact ⟨options, first, none, a, hoptions, by simpa using hhelp, hpositionals, by simp, hread,
        rfl⟩
    · rename_i second
      cases h
      exact ⟨options, first, some second, a, hoptions, by simpa using hhelp, hpositionals,
        by simp, hread, rfl⟩
    · cases h
    · cases h
  · rintro ⟨options, first, second, a, hoptions, hhelp, hpositionals, hsecond, hread, rfl⟩
    rw [hoptions]
    dsimp only
    rw [if_neg (by simp [hhelp]), hpositionals]
    dsimp only
    rw [hread]
    cases second with
    | none => rfl
    | some second => rw [hsecond rfl]; rfl

end VarlinkClient.Request
