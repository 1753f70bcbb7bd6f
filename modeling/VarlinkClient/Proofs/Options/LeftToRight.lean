/-
Tokens are read from left to right.

In front of `--` every token does something to what the tokens after it say, and knows nothing of
them (`step`).  So tokens in front are steps taken one after another (`parse_append`), and two
rows of tokens that take the same steps are the same in front of any others: a cluster is its
letters (`parse_cluster`).

Help is a step that does not look at what follows.  It is asked for when, and only when, some
token asks for it and every token before that passes, as a positional or as options that are
known and do not ask for help (`showHelp_iff`).  What a command makes of its positionals comes
later: a call is not read any further (`CallRequest.parse_help`).
-/
import VarlinkClient.Command.Arguments
import VarlinkClient.Proofs.Options

namespace VarlinkClient

namespace Options

variable {schema : Schema}

/-! ### Steps -/

/-- What a token other than `--` does to what the tokens after it say. -/
def step (schema : Schema) (token : Text) (following : Except ArgumentError Options) :
    Except ArgumentError Options :=
  if IsOption token then (found schema token).foldr applyOption following
  else following.map (addPositional token)

theorem parse_cons {token : Text} (h : token ≠ "--") (tokens : List Text) :
    parse schema (token :: tokens) = step schema token (parse schema tokens) := by
  unfold step
  split
  · rename_i htoken
    exact parse_option schema htoken h tokens
  · rename_i htoken
    exact parse_positional schema htoken tokens

/-- Tokens in front of others are steps, of which the last is taken first. -/
theorem parse_append {front : List Text} (h : ("--" : Text) ∉ front) (rest : List Text) :
    parse schema (front ++ rest) = front.foldr (step schema) (parse schema rest) := by
  induction front with
  | nil => rfl
  | cons token front ih =>
      obtain ⟨hdashes, hfront⟩ := notMem_of_cons h
      rw [List.cons_append, parse_cons hdashes, ih hfront, List.foldr_cons]

/-! ### A positional behind the others -/

/-- The options with one more positional at the end, which is not read when help ends the
reading before. -/
def addLast (token : Text) (options : Options) : Options :=
  if options.showHelp then options
  else { options with positionals := options.positionals ++ [token] }

theorem addLast_of_not {options : Options} (h : options.showHelp = false) (token : Text) :
    addLast token options = { options with positionals := options.positionals ++ [token] } :=
  if_neg (by simp [h])

@[simp] theorem showHelp_addLast (token : Text) (options : Options) :
    (addLast token options).showHelp = options.showHelp := by
  unfold addLast
  split <;> rfl

theorem addLast_addEffect (token : Text) (effect : Effect) (options : Options) :
    addLast token (addEffect effect options) = addEffect effect (addLast token options) := by
  unfold addLast
  by_cases h : options.showHelp = true
  · rw [if_pos h, if_pos (show (addEffect effect options).showHelp = true from h)]
  · rw [if_neg h, if_neg (show ¬ (addEffect effect options).showHelp = true from h)]
    rfl

theorem addLast_addPositional (token other : Text) (options : Options) :
    addLast token (addPositional other options) = addPositional other (addLast token options) := by
  unfold addLast
  by_cases h : options.showHelp = true
  · rw [if_pos h, if_pos (show (addPositional other options).showHelp = true from h)]
  · rw [if_neg h, if_neg (show ¬ (addPositional other options).showHelp = true from h)]
    rfl

theorem step_addLast (token other : Text) (following : Except ArgumentError Options) :
    step schema other (following.map (addLast token)) =
      (step schema other following).map (addLast token) := by
  unfold step
  split
  · exact foldr_applyOption_map rfl (addLast_addEffect token) _ _
  · cases following with
    | error error => rfl
    | ok options => exact congrArg Except.ok (addLast_addPositional token other options).symm

/-- A positional behind the tokens is the last of their positionals. -/
theorem parse_concat {token : Text} (h : ¬ IsOption token) (tokens : List Text) :
    parse schema (tokens ++ [token]) = (parse schema tokens).map (addLast token) := by
  induction tokens with
  | nil => exact parse_positional schema h []
  | cons first tokens ih =>
      by_cases hdashes : first = "--"
      · subst hdashes
        rfl
      · rw [List.cons_append, parse_cons hdashes, parse_cons hdashes, ih, step_addLast]

/-! ### Clusters -/

/-- A cluster looks up its letters one after another. -/
theorem found_cluster {letters : Text} (h : letters.head? ≠ some '-') :
    found schema ('-' :: letters) = letters.map (findShort schema) := by
  cases letters with
  | nil => rfl
  | cons c letters =>
      have hc : c ≠ '-' := by simpa using h
      rw [found]
      simp [hc]

theorem step_cluster {letters : Text} (hne : letters ≠ []) (h : '-' ∉ letters)
    (following : Except ArgumentError Options) :
    step schema ('-' :: letters) following = applyLetters schema letters following := by
  obtain ⟨c, others, rfl⟩ := List.exists_cons_of_ne_nil hne
  have hoption : IsOption ('-' :: c :: others) := isOption_iff.mpr ⟨c, others, rfl⟩
  have hhead : (c :: others).head? ≠ some '-' := by
    rintro hc
    cases hc
    exact h (by simp)
  rw [step, if_pos hoption, found_cluster hhead, List.foldr_map, applyLetters]

/-- The letters of a cluster, each as a token of its own. -/
def separate (letters : Text) : List Text :=
  letters.map fun letter => ['-', letter]

theorem notMem_separate {letters : Text} (h : '-' ∉ letters) :
    ("--" : Text) ∉ separate letters := by
  intro hmem
  obtain ⟨letter, hletter, hdashes⟩ := List.mem_map.mp hmem
  cases hdashes
  exact h hletter

theorem notMem_cluster {letters : Text} (h : '-' ∉ letters) :
    ("--" : Text) ∉ ['-' :: letters] := by
  intro hmem
  have hletters : letters = ['-'] := (List.cons.inj (List.mem_singleton.mp hmem)).2.symm
  exact h (by simp [hletters])

/-- Separate letters take the steps that the cluster takes at once. -/
theorem foldr_separate {letters : Text} (h : '-' ∉ letters)
    (following : Except ArgumentError Options) :
    (separate letters).foldr (step schema) following = applyLetters schema letters following := by
  induction letters with
  | nil => rfl
  | cons c letters ih =>
      have hc : '-' ∉ [c] := fun hmem => h (by simp_all)
      have hletters : '-' ∉ letters := fun hmem => h (by simp [hmem])
      have hrest := ih hletters
      rw [separate] at hrest
      rw [separate, List.map_cons, List.foldr_cons, hrest, step_cluster (by simp) hc]
      rfl

/-- **A cluster is its letters**, wherever it stands in front of `--`: the same is asked for, and
the same is wrong. -/
theorem parse_cluster (schema : Schema) {front : List Text} (hfront : ("--" : Text) ∉ front)
    {letters : Text} (hne : letters ≠ []) (h : '-' ∉ letters) (rest : List Text) :
    parse schema (front ++ ('-' :: letters) :: rest) =
      parse schema (front ++ (letters.map fun letter => ['-', letter]) ++ rest) := by
  have hcluster : parse schema (('-' :: letters) :: rest) =
      parse schema (separate letters ++ rest) := by
    rw [parse_append (notMem_separate h), foldr_separate h, ← List.singleton_append,
      parse_append (notMem_cluster h), List.foldr_cons, List.foldr_nil, step_cluster hne h]
  rw [parse_append hfront, hcluster, List.append_assoc, parse_append hfront]
  rfl

/-- Help in a cluster hides the unknown letter and the mistakes after it. -/
theorem parse_cluster_help :
    ("--" : Text) ∉ (["a.B"] : List Text) ∧ ("mhx" : Text) ≠ [] ∧ '-' ∉ ("mhx" : Text) ∧
      parse Command.call.schema ["a.B", "-mhx", "--bogus"] =
        parse Command.call.schema ["a.B", "-m", "-h", "-x", "--bogus"] := by
  have hfront : ("--" : Text) ∉ (["a.B"] : List Text) := by decide
  have hletters : '-' ∉ ("mhx" : Text) := by decide
  exact ⟨hfront, by decide, hletters,
    parse_cluster Command.call.schema hfront (by decide) hletters ["--bogus"]⟩

/-! ### Help -/

/-- The option is known. -/
def IsKnown (looked : Except ArgumentError OptionSpec) : Prop :=
  ∃ spec, looked = .ok spec

/-- The option is known and asks for help. -/
def AsksForHelp (looked : Except ArgumentError OptionSpec) : Prop :=
  ∃ spec, looked = .ok spec ∧ spec.effect = .showHelp

/-- Help is what is said. -/
def ShowsHelp (said : Except ArgumentError Options) : Prop :=
  ∃ options, said = .ok options ∧ options.showHelp = true

/-- The token is no `--`, and if it stands for options they are known and none asks for help. -/
def Passes (schema : Schema) (token : Text) : Prop :=
  token ≠ "--" ∧ (IsOption token →
    ∀ looked ∈ found schema token, IsKnown looked ∧ ¬ AsksForHelp looked)

/-- The token stands for options of which one asks for help, after others that are known. -/
def LeadsToHelp (schema : Schema) (token : Text) : Prop :=
  token ≠ "--" ∧ IsOption token ∧ ∃ known looked others,
    found schema token = known ++ looked :: others ∧ AsksForHelp looked ∧
      ∀ other ∈ known, IsKnown other

theorem showsHelp_map {following : Except ArgumentError Options} {g : Options → Options}
    (h : ∀ options, (g options).showHelp = options.showHelp) :
    ShowsHelp (following.map g) ↔ ShowsHelp following := by
  constructor
  · rintro ⟨options, hmap, hhelp⟩
    obtain ⟨rest, rfl, rfl⟩ := map_eq_ok_iff.mp hmap
    exact ⟨rest, rfl, (h rest).symm.trans hhelp⟩
  · rintro ⟨rest, rfl, hhelp⟩
    exact ⟨g rest, rfl, (h rest).trans hhelp⟩

/-- A known option shows help if it asks for it, or else if what follows shows it. -/
theorem showsHelp_applyOption {looked : Except ArgumentError OptionSpec}
    {following : Except ArgumentError Options} :
    ShowsHelp (applyOption looked following) ↔
      IsKnown looked ∧ (AsksForHelp looked ∨ ShowsHelp following) := by
  cases looked with
  | error error =>
      constructor
      · rintro ⟨options, hoptions, -⟩
        cases hoptions
      · rintro ⟨⟨spec, hspec⟩, -⟩
        cases hspec
  | ok spec =>
      by_cases hspec : spec.effect = .showHelp
      · rw [applyOption, if_pos hspec]
        exact ⟨fun _ => ⟨⟨spec, rfl⟩, Or.inl ⟨spec, rfl, hspec⟩⟩, fun _ => ⟨_, rfl, rfl⟩⟩
      · have hasks : ¬ AsksForHelp (.ok spec) := by
          rintro ⟨other, hother, heffect⟩
          cases hother
          exact hspec heffect
        rw [applyOption, if_neg hspec, showsHelp_map (g := addEffect spec.effect) fun _ => rfl]
        exact ⟨fun h => ⟨⟨spec, rfl⟩, Or.inr h⟩, fun h => h.2.resolve_left hasks⟩

/-- A row of options shows help if one of them asks for it after others that are known, or else,
when all are known, if what follows shows it. -/
theorem showsHelp_row {row : List (Except ArgumentError OptionSpec)}
    {following : Except ArgumentError Options} :
    ShowsHelp (row.foldr applyOption following) ↔
      (∃ known looked others, row = known ++ looked :: others ∧ AsksForHelp looked ∧
          ∀ other ∈ known, IsKnown other) ∨
        (∀ looked ∈ row, IsKnown looked ∧ ¬ AsksForHelp looked) ∧ ShowsHelp following := by
  induction row with
  | nil =>
      refine ⟨fun h => Or.inr ⟨nofun, h⟩, ?_⟩
      rintro (⟨known, looked, others, hrow, -⟩ | ⟨-, h⟩)
      · simp at hrow
      · exact h
  | cons first row ih =>
      rw [List.foldr_cons, showsHelp_applyOption, ih]
      constructor
      · rintro ⟨hknown, hasks | ⟨known, looked, others, rfl, hasks, hall⟩ | ⟨hall, h⟩⟩
        · exact Or.inl ⟨[], first, row, rfl, hasks, nofun⟩
        · exact Or.inl ⟨first :: known, looked, others, rfl, hasks, by simp_all⟩
        · by_cases hasks : AsksForHelp first
          · exact Or.inl ⟨[], first, row, rfl, hasks, nofun⟩
          · exact Or.inr ⟨by simp_all, h⟩
      · rintro (⟨known, looked, others, hrow, hasks, hall⟩ | ⟨hall, h⟩)
        · cases known with
          | nil =>
              cases hrow
              obtain ⟨spec, hspec, -⟩ := id hasks
              exact ⟨⟨spec, hspec⟩, Or.inl hasks⟩
          | cons other known =>
              cases hrow
              exact ⟨hall first (by simp),
                Or.inr (Or.inl ⟨known, looked, others, rfl, hasks, by simp_all⟩)⟩
        · exact ⟨(hall first (by simp)).1, Or.inr (Or.inr ⟨by simp_all, h⟩)⟩

theorem showsHelp_step {token : Text} (hdashes : token ≠ "--")
    {following : Except ArgumentError Options} :
    ShowsHelp (step schema token following) ↔
      LeadsToHelp schema token ∨ Passes schema token ∧ ShowsHelp following := by
  unfold LeadsToHelp Passes
  by_cases htoken : IsOption token
  · rw [step, if_pos htoken, showsHelp_row]
    simp only [ne_eq, hdashes, not_false_eq_true, htoken, true_and, forall_const]
  · rw [step, if_neg htoken, showsHelp_map (g := addPositional token) fun _ => rfl]
    simp only [ne_eq, hdashes, not_false_eq_true, htoken, true_and, false_and, false_or,
      false_implies]

/-- **Help is asked for by the first token that does not pass.** -/
theorem showHelp_iff (schema : Schema) {tokens : List Text} :
    ShowsHelp (parse schema tokens) ↔ ∃ front token after, tokens = front ++ token :: after ∧
      (∀ other ∈ front, Passes schema other) ∧ LeadsToHelp schema token := by
  induction tokens with
  | nil =>
      constructor
      · rintro ⟨options, hparse, hhelp⟩
        cases hparse
        cases hhelp
      · rintro ⟨front, token, after, htokens, -⟩
        simp at htokens
  | cons first tokens ih =>
      by_cases hdashes : first = "--"
      · -- Nothing after `--` is read as an option.
        subst hdashes
        constructor
        · rintro ⟨options, hparse, hhelp⟩
          cases hparse
          cases hhelp
        · rintro ⟨front, token, after, htokens, hfront, htoken⟩
          cases front with
          | nil =>
              cases htokens
              exact absurd rfl htoken.1
          | cons other front =>
              cases htokens
              exact absurd rfl (hfront _ (by simp)).1
      · rw [parse_cons hdashes, showsHelp_step hdashes, ih]
        constructor
        · rintro (htoken | ⟨hfirst, front, token, after, rfl, hfront, htoken⟩)
          · exact ⟨[], first, tokens, rfl, nofun, htoken⟩
          · exact ⟨first :: front, token, after, rfl, by simp_all, htoken⟩
        · rintro ⟨front, token, after, htokens, hfront, htoken⟩
          cases front with
          | nil =>
              cases htokens
              exact Or.inl htoken
          | cons other front =>
              cases htokens
              exact Or.inr ⟨hfront first (by simp), front, token, after, rfl, by simp_all, htoken⟩

theorem isKnown_findShort {c : Char} (h : c ∈ schema.map OptionSpec.short) :
    IsKnown (findShort schema c) := by
  obtain ⟨spec, hspec, hshort⟩ := List.mem_map.mp h
  unfold findShort
  split
  · exact ⟨_, rfl⟩
  · rename_i hnone
    exact absurd (List.find?_eq_none.mp hnone spec hspec) (by simp [hshort])

/-- A token passes when, read alone, it is accepted and does not show help. -/
theorem passes_of_parse {token : Text} (hdashes : token ≠ "--")
    (h : IsOption token → ∃ options, parse schema [token] = .ok options ∧
      options.showHelp = false) : Passes schema token := by
  refine ⟨hdashes, fun htoken => ?_⟩
  obtain ⟨options, hparse, hhelp⟩ := h htoken
  rw [parse_option schema htoken hdashes] at hparse
  generalize found schema token = row at hparse ⊢
  induction row generalizing options with
  | nil => exact nofun
  | cons looked row ih =>
      obtain ⟨spec, rfl, ⟨-, rfl⟩ | ⟨hspec, rest, hrest, rfl⟩⟩ := applyOption_eq_ok_iff.mp hparse
      · cases hhelp
      · have hfirst : IsKnown (.ok spec) ∧ ¬ AsksForHelp (.ok spec) := by
          refine ⟨⟨spec, rfl⟩, ?_⟩
          rintro ⟨other, hother, heffect⟩
          cases hother
          exact hspec heffect
        have hrow := ih rest hhelp hrest
        simp_all

end Options

/-! ### Help about calls -/

namespace CallRequest

open Options

/-- `--help`, or a cluster in which the letters before some `h` are known. -/
inductive IsHelp : Text → Prop
  | long : IsHelp "--help"
  | cluster (known others : Text)
      (h : ∀ letter ∈ known, letter ∈ Command.call.schema.map OptionSpec.short) :
      IsHelp ('-' :: (known ++ 'h' :: others))

theorem IsHelp.leadsToHelp {token : Text} (h : IsHelp token) :
    LeadsToHelp Command.call.schema token := by
  cases h with
  | long => exact ⟨by decide, by decide, [], .ok .help, [], rfl, ⟨.help, rfl, rfl⟩, nofun⟩
  | cluster known others hknown =>
      -- No letter that is known is a dash, so the token is a cluster and no word.
      have hcluster : ∃ c letters, known ++ 'h' :: others = c :: letters ∧ c ≠ '-' := by
        cases known with
        | nil => exact ⟨'h', others, rfl, by decide⟩
        | cons c known =>
            refine ⟨c, known ++ 'h' :: others, rfl, ?_⟩
            rintro rfl
            exact absurd (hknown '-' (by simp)) (by decide)
      obtain ⟨c, letters, hletters, hc⟩ := hcluster
      have hfound : found Command.call.schema ('-' :: (known ++ 'h' :: others)) =
          known.map (findShort Command.call.schema) ++ .ok .help ::
            others.map (findShort Command.call.schema) := by
        have hhelp : findShort Command.call.schema 'h' = .ok .help := rfl
        rw [found_cluster (by rw [hletters]; simpa using hc), List.map_append,
          List.map_cons, hhelp]
      refine ⟨?_, ?_, _, _, _, hfound, ⟨.help, rfl, rfl⟩, ?_⟩
      · rw [hletters]
        intro hdashes
        exact hc (List.cons.inj (List.cons.inj hdashes).2).1
      · rw [hletters]
        exact isOption_iff.mpr ⟨c, letters, rfl⟩
      · intro other hother
        obtain ⟨letter, hletter, rfl⟩ := List.mem_map.mp hother
        exact isKnown_findShort (hknown letter hletter)

theorem parse_of_showsHelp {tokens : List Text}
    (h : ShowsHelp (Options.parse Command.call.schema tokens)) : parse tokens = .ok .help := by
  obtain ⟨options, hparse, hhelp⟩ := h
  unfold parse Request.parse
  rw [hparse]
  dsimp only
  rw [if_pos hhelp]

/-- **Help wins**, over mistakes after it and over the positionals, which are not looked at. -/
theorem parse_help {front after : List Text} {token : Text} (hdashes : ("--" : Text) ∉ front)
    (hfront : ∀ other ∈ front, IsOption other → ∃ options,
      Options.parse Command.call.schema [other] = .ok options ∧ options.showHelp = false)
    (htoken : IsHelp token) : parse (front ++ token :: after) = .ok .help := by
  have hpasses : ∀ other ∈ front, Passes Command.call.schema other := by
    intro other hother
    have hother' : other ≠ "--" := by
      rintro rfl
      exact hdashes hother
    exact passes_of_parse hother' (hfront other hother)
  exact parse_of_showsHelp ((showHelp_iff Command.call.schema).mpr
    ⟨front, token, after, rfl, hpasses, htoken.leadsToHelp⟩)

/-- Three positionals of which the first is no target, and an unknown option after the help. -/
theorem parse_help_cluster :
    ("--" : Text) ∉ (["a", "-m", "b", "c"] : List Text) ∧
      (∀ other ∈ (["a", "-m", "b", "c"] : List Text), IsOption other → ∃ options,
        Options.parse Command.call.schema [other] = .ok options ∧ options.showHelp = false) ∧
      IsHelp "-mhx" ∧ parse ["a", "-m", "b", "c", "-mhx", "--bogus"] = .ok .help := by
  have hdashes : ("--" : Text) ∉ (["a", "-m", "b", "c"] : List Text) := by decide
  have hfront : ∀ other ∈ (["a", "-m", "b", "c"] : List Text), IsOption other → ∃ options,
      Options.parse Command.call.schema [other] = .ok options ∧ options.showHelp = false := by
    intro other hother hoption
    simp only [List.mem_cons, List.not_mem_nil, or_false] at hother
    rcases hother with rfl | rfl | rfl | rfl
    · exact absurd hoption (by decide)
    · exact ⟨_, rfl, rfl⟩
    · exact absurd hoption (by decide)
    · exact absurd hoption (by decide)
  have htoken : IsHelp "-mhx" := .cluster ['m'] ['x'] (by decide)
  exact ⟨hdashes, hfront, htoken, parse_help hdashes hfront htoken⟩

end CallRequest

end VarlinkClient
