/-
What is offered can be called.

Completion takes a word apart at its last slash and its last dot, and so does the reader of
targets.  Both cuts are those of the parts of a target (`MethodTarget.Parts`), so a word with an
interface in it is cut where the candidates for it will be, and a candidate is the word's parts
with a method that was looked up (`ofMembers_parts`).  Such a method is a name, so the parts are
sound, and behind the tokens of a call they are its target (`offered_methods`).  That methods are
names is guaranteed by the descriptions they come from (`Session.isProper_catalog`).

The placeholder stands for one more positional.  The tokens with a positional behind them are
read as the tokens are, but for that positional (`Options.parse_concat`), and it is the parameters
of a request exactly where the tokens ask for a call without any (`offered_placeholder_iff`).
-/
import VarlinkClient.CommandLine.Run
import VarlinkClient.Proofs.Description.Parser
import VarlinkClient.Proofs.Options.LeftToRight
import VarlinkClient.Proofs.Target

namespace VarlinkClient

/-! ### The names that are looked up -/

/-- The methods that can be looked up have names as they can stand in a description. -/
def Catalog.IsProper (catalog : Catalog) : Prop :=
  ∀ address interface names, catalog (.methods address interface) = some names →
    ∀ name ∈ names, name ≠ [] ∧ ∀ c ∈ name, Description.isNameChar c = true

theorem Exchange.isProper_of_introspection {answer : Answer} {description : Description}
    (h : introspection answer = .ok (.description description)) : description.IsProper := by
  unfold introspection at h
  split at h
  · cases h
  split at h
  · cases h
  split at h
  · rename_i hparse
    cases h
    exact Description.isProper_of_parse hparse
  · cases h

theorem Description.IsProper.methodNames {description : Description} (h : description.IsProper) :
    ∀ name ∈ description.methodNames, name ≠ [] ∧ ∀ c ∈ name, isNameChar c = true := by
  intro name hname
  obtain ⟨member, hmember, rfl⟩ := List.mem_map.mp hname
  have hproper := h.members member (List.mem_filter.mp hmember).1
  exact ⟨hproper.named, hproper.name⟩

namespace Session

variable {session : Session}

theorem isProper_of_describeAt {address : Address} {interface : Text} {description : Description}
    (h : (session.describeAt address interface).1 = .ok (.description description)) :
    description.IsProper := by
  rw [describeAt, visit] at h
  cases hreach : session.world.reach address with
  | error reason =>
      rw [hreach] at h
      cases h
  | ok service =>
      rw [hreach] at h
      dsimp only at h
      unfold Exchange.describe at h
      split at h
      · cases h
      · exact Exchange.isProper_of_introspection (Address.mapError_eq_ok_iff.mp h)

theorem isProper_of_describe {address : Option Address} {interface : Text}
    {description : Description}
    (h : (session.describe address interface).1 = .ok (.description description)) :
    description.IsProper := by
  unfold describe at h
  split at h
  · cases h
  · exact isProper_of_describeAt h

/-- **What is looked up at services are names**, since it comes from descriptions. -/
theorem isProper_catalog (session : Session) : session.catalog.IsProper := by
  intro address interface names hnames
  have hmethods : (session.methods address interface).1 = .ok names := by
    show (session.lookUp (.methods address interface)).1 = .ok names
    unfold catalog at hnames
    cases hlooked : (session.lookUp (.methods address interface)).1 with
    | error stop =>
        rw [hlooked] at hnames
        cases hnames
    | ok found =>
        rw [hlooked] at hnames
        cases hnames
        rfl
  unfold methods at hmethods
  split at hmethods
  · cases hmethods
  · rename_i description visits hdescribe
    cases hmethods
    exact (isProper_of_describe (congrArg Prod.fst hdescribe)).methodNames
  · cases hmethods

end Session

/-! ### A word and its candidates -/

namespace Completion

open MethodTarget

/-- The word is cut where its address ends. -/
theorem Word.split?_inFront {name : Text} (h : '/' ∉ name) {written : Option Text}
    {address : Option Address} (haddress : ReadsAs written address) :
    Word.split? (inFront written ++ name) = some ⟨inFront written, address, name⟩ := by
  rw [split?, splitLast_inFront h]
  cases haddress with
  | none => rfl
  | some ht =>
      dsimp only [Option.map_some]
      rw [ht]
      rfl

variable {parts : Parts} {address : Option Address} {catalog : Catalog} {names : List Text}

/-- The methods that were looked up take the place of the method in the word. -/
theorem ofMembers_parts (hparts : parts.IsBegun) (haddress : ReadsAs parts.address address)
    (hnames : catalog (.methods address parts.interface) = some names) (hsome : names ≠ []) :
    ofMembers catalog parts.text =
      (names.map fun method => { parts with method }.text, [.methods address parts.interface]) := by
  have hinterface : interfaceOf? parts.member = some parts.interface := by
    rw [interfaceOf?, hparts.splitLast_member]
    rfl
  obtain ⟨name, others, rfl⟩ := List.exists_cons_of_ne_nil hsome
  rw [ofMembers, Parts.text, Word.split?_inFront hparts.notMem_member haddress]
  dsimp only
  rw [hinterface]
  dsimp only
  rw [hnames]
  simp [Parts.text, Parts.member]

theorem text_ne_nil : parts.text ≠ [] := by
  simp [Parts.text, Parts.member]

/-- A method that is a name makes a target of the parts. -/
theorem parse_text_of_isName (hparts : parts.IsBegun) (haddress : ReadsAs parts.address address)
    {method : Text} (hne : method ≠ [])
    (hname : ∀ c ∈ method, Description.isNameChar c = true) :
    MethodTarget.parse { parts with method }.text =
      .ok ⟨address, parts.interface, method⟩ := by
  have hfree : ∀ mark, Description.isNameChar mark = false → mark ∉ method := by
    intro mark hmark hmem
    rw [hname mark hmem] at hmark
    cases hmark
  have hsound : Parts.IsSound { parts with method } :=
    ⟨hparts.interface, hne, hfree '/' (by decide), hfree '.' (by decide)⟩
  exact MethodTarget.parse_eq_ok_iff.mpr ⟨_, hsound, rfl, haddress, rfl, rfl⟩

/-! ### The tokens of a call -/

variable {tokens : List Text} {options : Options}

theorem candidates_call {word : Text} (hword : word.head? ≠ some '-') :
    candidates catalog (some Command.call.name) tokens word =
      match CallRequest.parse tokens with
      | .ok (.run request) => (if request.parameters = none then [placeholder] else [], [])
      | _ => ofMembers catalog word := by
  have hcall : Command.ofName? Command.call.name = some .call := by decide
  rw [candidates, hcall]
  dsimp only
  unfold afterCall
  exact if_neg (by simpa [isOption] using hword)

/-- Without positionals there is no call yet, so its target is completed. -/
theorem candidates_target {word : Text} (hword : word.head? ≠ some '-')
    (hoptions : Options.parse Command.call.schema tokens = .ok options)
    (hhelp : options.showHelp = false) (hnone : options.positionals = []) :
    candidates catalog (some Command.call.name) tokens word = ofMembers catalog word := by
  have hmissing : CallRequest.parse tokens = .error (.missingPositional "INTERFACE.METHOD") := by
    unfold CallRequest.parse Request.parse
    rw [hoptions]
    dsimp only
    rw [if_neg (by simp [hhelp]), hnone]
  rw [candidates_call hword, hmissing]

/-- What extends a word that is no option is none either. -/
theorem not_isOption_of_isPrefix {word candidate : Text} (hne : word ≠ [])
    (hword : word.head? ≠ some '-') (h : word <+: candidate) : ¬ Options.IsOption candidate := by
  obtain ⟨rest, rfl⟩ := h
  obtain ⟨c, others, rfl⟩ := List.exists_cons_of_ne_nil hne
  intro hoption
  exact hword hoption.1

/-- A target behind the options of a call is called. -/
theorem parse_target {token : Text} {target : MethodTarget} (htoken : ¬ Options.IsOption token)
    (hoptions : Options.parse Command.call.schema tokens = .ok options)
    (hhelp : options.showHelp = false) (hnone : options.positionals = [])
    (htarget : MethodTarget.parse token = .ok target) :
    CallRequest.parse (tokens ++ [token]) =
      .ok (.run ⟨options.has .wantMore, target, none⟩) := by
  have hlast : Options.parse Command.call.schema (tokens ++ [token]) =
      .ok { options with positionals := [token] } := by
    rw [Options.parse_concat htoken, hoptions, Except.map, Options.addLast_of_not hhelp, hnone]
    rfl
  exact Request.parse_eq_run_iff.mpr
    ⟨_, token, none, target, hlast, hhelp, rfl, nofun, htarget, rfl⟩

/-- **What is offered for a method can be called.**  Behind the options of a call stands a word
that names an interface, and the methods of this interface are looked up at the address in the
word.  Then those that extend the word are offered, and each of them is the target of a call
without parameters. -/
theorem offered_methods (hcatalog : catalog.IsProper)
    (hoptions : Options.parse Command.call.schema tokens = .ok options)
    (hhelp : options.showHelp = false) (hnone : options.positionals = [])
    {word : Text} (hword : word.head? ≠ some '-')
    (hparts : parts.IsBegun) (htext : parts.text = word)
    (haddress : ReadsAs parts.address address)
    (hnames : catalog (.methods address parts.interface) = some names) (hsome : names ≠ []) :
    (offered catalog (some Command.call.name) tokens word).2 =
        [.methods address parts.interface] ∧
      (∀ candidate, candidate ∈ (offered catalog (some Command.call.name) tokens word).1 ↔
        word <+: candidate ∧ ∃ method ∈ names, { parts with method }.text = candidate) ∧
      ∀ candidate ∈ (offered catalog (some Command.call.name) tokens word).1,
        word <+: candidate ∧ ∃ method ∈ names,
          CallRequest.parse (tokens ++ [candidate]) =
            .ok (.run ⟨options.has .wantMore, ⟨address, parts.interface, method⟩, none⟩) := by
  subst htext
  rw [offered, candidates_target hword hoptions hhelp hnone,
    ofMembers_parts hparts haddress hnames hsome]
  dsimp only
  have hoffered : ∀ candidate, candidate ∈ (names.map fun method =>
        { parts with method }.text).filter parts.text.isPrefixOf ↔
      parts.text <+: candidate ∧ ∃ method ∈ names, { parts with method }.text = candidate := by
    intro candidate
    rw [List.mem_filter, List.isPrefixOf_iff_prefix, and_comm, List.mem_map]
  refine ⟨rfl, hoffered, fun candidate hcandidate => ?_⟩
  obtain ⟨hbegun, method, hmethod, rfl⟩ := (hoffered candidate).mp hcandidate
  obtain ⟨hne, hname⟩ := hcatalog _ _ _ hnames method hmethod
  refine ⟨hbegun, method, hmethod, ?_⟩
  exact parse_target (not_isOption_of_isPrefix text_ne_nil hword hbegun) hoptions hhelp hnone
    (parse_text_of_isName hparts haddress hne hname)

/-- Slashes, colons and dots before the last of each, and of two methods one extends the word. -/
theorem offered_methods_addressed :
    let names : List Text := ["Ping_2", "Quit"]
    let catalog : Catalog := fun _ => some names
    let tokens : List Text := ["--more"]
    let word : Text := "unix:/run/a.b:c/org.example.P"
    let candidate : Text := "unix:/run/a.b:c/org.example.Ping_2"
    candidate ∈ (offered catalog (some Command.call.name) tokens word).1 ∧
      word <+: candidate ∧ ∃ method ∈ names, CallRequest.parse (tokens ++ [candidate]) =
        .ok (.run ⟨true, ⟨some (.unix "/run/a.b:c"), "org.example", method⟩, none⟩) := by
  intro names catalog tokens word candidate
  have hcatalog : catalog.IsProper := by
    intro address interface found hfound
    cases hfound
    decide
  have hoptions : Options.parse Command.call.schema tokens = .ok ⟨false, [.wantMore], []⟩ := rfl
  have hparts : Parts.IsBegun ⟨some "unix:/run/a.b:c", "org.example", "P"⟩ :=
    ⟨by decide, by decide⟩
  have haddress : ReadsAs (some "unix:/run/a.b:c") (some (.unix "/run/a.b:c")) :=
    .some (by decide)
  have hword : word.head? ≠ some '-' := by decide
  obtain ⟨-, -, hcalled⟩ :=
    offered_methods hcatalog hoptions rfl rfl hword hparts rfl haddress rfl (by decide)
  have hoffered : candidate ∈ (offered catalog (some Command.call.name) tokens word).1 := by decide
  exact ⟨hoffered, hcalled candidate hoffered⟩

/-! ### The placeholder -/

/-- Behind tokens a text that is no target is the parameters of a call, if they ask for a call
without parameters; else it is not accepted. -/
theorem parse_concat_eq_run_iff {token : Text} (htoken : ¬ Options.IsOption token)
    (htarget : ∀ target, MethodTarget.parse token ≠ .ok target) {request : CallRequest} :
    CallRequest.parse (tokens ++ [token]) = .ok (.run request) ↔
      ∃ before, CallRequest.parse tokens = .ok (.run before) ∧ before.parameters = none ∧
        request = { before with parameters := some (.ofArgument token) } := by
  constructor
  · intro h
    obtain ⟨last, first, second, target, hlast, hhelp, hpositionals, -, hread, rfl⟩ :=
      Request.parse_eq_run_iff.mp h
    rw [Options.parse_concat htoken] at hlast
    obtain ⟨options, hoptions, rfl⟩ := Options.map_eq_ok_iff.mp hlast
    rw [Options.showHelp_addLast] at hhelp
    rw [Options.addLast_of_not hhelp] at hpositionals ⊢
    -- The token cannot be the first positional, for that is a target.
    cases second with
    | none =>
        have hlist : options.positionals ++ [token] = [] ++ [first] := hpositionals
        obtain ⟨-, hone⟩ := List.append_inj' hlist rfl
        cases hone
        exact absurd hread (htarget target)
    | some second =>
        have hlist : options.positionals ++ [token] = [first] ++ [second] := hpositionals
        obtain ⟨hone, htwo⟩ := List.append_inj' hlist rfl
        cases htwo
        exact ⟨⟨options.has .wantMore, target, none⟩, Request.parse_eq_run_iff.mpr
          ⟨options, first, none, target, hoptions, hhelp, hone, nofun, hread, rfl⟩, rfl, rfl⟩
  · rintro ⟨before, hbefore, hparameters, rfl⟩
    obtain ⟨options, first, second, target, hoptions, hhelp, hpositionals, -, hread, rfl⟩ :=
      Request.parse_eq_run_iff.mp hbefore
    cases Option.map_eq_none_iff.mp hparameters
    have hlast : Options.parse Command.call.schema (tokens ++ [token]) =
        .ok { options with positionals := [first, token] } := by
      rw [Options.parse_concat htoken, hoptions, Except.map, Options.addLast_of_not hhelp,
        hpositionals]
      rfl
    exact Request.parse_eq_run_iff.mpr
      ⟨_, first, some token, target, hlast, hhelp, rfl, fun _ => rfl, hread, rfl⟩

/-- What stands on the lines that are printed for candidates. -/
def printed (candidates : List Text) : Text :=
  candidates.flatMap fun candidate => candidate ++ ['\n']

/-- An object without members, as an argument. -/
def emptyObject : Text :=
  "\x7b\x7d"

/-- For a target of which nothing is there, interfaces are looked up. -/
theorem lookups_ofMembers_nil (catalog : Catalog) :
    (ofMembers catalog []).2 = [.interfaces none] :=
  rfl

theorem prints_placeholder_iff :
    (printed (offered catalog (some Command.call.name) tokens []).1 = placeholder ++ ['\n'] ∧
      (offered catalog (some Command.call.name) tokens []).2 = []) ↔
    ∃ request, CallRequest.parse tokens = .ok (.run request) ∧ request.parameters = none := by
  rw [offered, candidates_call (by simp)]
  cases CallRequest.parse tokens with
  | error error => simp [lookups_ofMembers_nil]
  | ok asked =>
      cases asked with
      | help => simp [lookups_ofMembers_nil]
      | run request =>
          by_cases hnone : request.parameters = none
          · simp [hnone, printed]
          · simp [hnone, printed, placeholder]

/-- **The placeholder is offered where parameters are accepted**, and nowhere else: behind the
tokens of a call it is all that completes the empty word, without a look-up, exactly when behind
them an empty object is the parameters of a request. -/
theorem offered_placeholder_iff (catalog : Catalog) (tokens : List Text) :
    ((printed (offered catalog (some Command.call.name) tokens []).1 = "'\x7b\x7d'\n" ∧
        (offered catalog (some Command.call.name) tokens []).2 = []) ↔
      ∃ request, CallRequest.parse (tokens ++ [emptyObject]) = .ok (.run request)) ∧
    ∀ request, CallRequest.parse (tokens ++ [emptyObject]) = .ok (.run request) →
      request.parameters = some (.text emptyObject) := by
  have hrequest : ∀ request, CallRequest.parse (tokens ++ [emptyObject]) = .ok (.run request) ↔
      ∃ before, CallRequest.parse tokens = .ok (.run before) ∧ before.parameters = none ∧
        request = { before with parameters := some (.text emptyObject) } := by
    intro request
    have htarget : ∀ target, MethodTarget.parse emptyObject ≠ .ok target := by
      intro target h
      cases h
    exact parse_concat_eq_run_iff (by decide) htarget
  constructor
  · refine prints_placeholder_iff.trans ⟨?_, ?_⟩
    · rintro ⟨before, hbefore, hnone⟩
      exact ⟨_, (hrequest _).mpr ⟨before, hbefore, hnone, rfl⟩⟩
    · rintro ⟨request, h⟩
      obtain ⟨before, hbefore, hnone, -⟩ := (hrequest request).mp h
      exact ⟨before, hbefore, hnone⟩
  · intro request h
    obtain ⟨before, -, -, rfl⟩ := (hrequest request).mp h
    rfl

/-- Behind `--` a word with a dash is a target, and so its parameters can follow. -/
theorem offered_placeholder_behind_dashes :
    let tokens : List Text := ["-m", "--", "-a.b.C"]
    let request : CallRequest := ⟨true, ⟨none, "-a.b", "C"⟩, some (.text emptyObject)⟩
    CallRequest.parse (tokens ++ [emptyObject]) = .ok (.run request) ∧
      request.parameters = some (.text emptyObject) ∧
      printed (offered (fun _ => none) (some Command.call.name) tokens []).1 =
        "'\x7b\x7d'\n" := by
  intro tokens request
  have hparse : CallRequest.parse (tokens ++ [emptyObject]) = .ok (.run request) := by decide
  obtain ⟨hoffered, hparameters⟩ := offered_placeholder_iff (fun _ => none) tokens
  exact ⟨hparse, hparameters request hparse, (hoffered.mpr ⟨request, hparse⟩).1⟩

end Completion

end VarlinkClient
