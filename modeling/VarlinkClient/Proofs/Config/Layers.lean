/-
The layers of the configuration do not interfere.

A flag, a variable and a file may each give a value to a part of the configuration, and
the strongest that does is heard; what a weaker one says is not even looked at.  So two
runs whose surroundings differ in nothing but an overridden value (`Overridden`) load the
same configuration, or fail in the same words.

The overridden value is a key in a layer.  Reading the variables and the files carries
the difference along: whatever is read from both sides is read alike (`Alike`), off the
key of that part (`Layer.SameBut`), down a whole chain of files that extend one another.
At the key itself the layer above has the word.
-/
import VarlinkClient.Config.Load
import VarlinkClient.Proofs.Address
import Mathlib.Data.List.Forall2

namespace VarlinkClient

namespace Config

open Toml (Value)

/-! ### Parts -/

/-- A part of the configuration. -/
inductive Part
  | resolver
  | timeout
  | logFilter
  | logFormat
  deriving DecidableEq, Repr

namespace Part

/-- The key under which layers give a part its value. -/
def key : Part → Text
  | resolver => "resolver"
  | timeout => "timeout"
  | logFilter => "log_filter"
  | logFormat => "log_format"

theorem key_inj {part other : Part} : part.key = other.key ↔ part = other := by
  cases part <;> cases other <;> decide

/-- A flag gives the part a value. -/
def isSetBy (flags : Flags) : Part → Bool
  | resolver => flags.resolver.isSome
  | timeout => flags.timeout.isSome
  | logFilter => flags.logFilter.isSome
  | logFormat => flags.logFormat.isSome

/-- The variable of this name gives the part a value. -/
def isGivenBy (part : Part) (name : Text) : Bool :=
  (Environment.key? name).any fun key => key.1 = part.key

/-- A configuration has in this part what the value means, or the default without a value. -/
def Means (config : Config) : Part → Option Value → Prop
  | resolver, none => config.resolver = Config.default.resolver
  | resolver, some (.text t) => Address.parse t = .ok config.resolver
  | timeout, none => config.timeout = Config.default.timeout
  | timeout, some (.whole n) => 0 ≤ n ∧ n < UInt64.size ∧ config.timeout = some n.toNat
  | logFilter, none => config.logFilter = Config.default.logFilter
  | logFilter, some (.text t) => config.logFilter = t
  | logFormat, none => config.logFormat = Config.default.logFormat
  | logFormat, some (.text t) => config.logFormat.text = t
  | _, some _ => False

end Part

/-! ### Values that count -/

theorem resolverIn_eq_ok_iff {layer : Layer} {config : Config} :
    resolverIn layer = .ok config.resolver ↔
      Part.resolver.Means config (layer Part.resolver.key) := by
  have hdefault : Address.parse Config.default.resolver.text = .ok Config.default.resolver := rfl
  unfold resolverIn text
  show _ ↔ Part.resolver.Means config (layer "resolver")
  cases layer "resolver" with
  | none => simp [hdefault, Except.mapError, Part.Means, eq_comm]
  | some v =>
    cases v with
    | text t =>
      exact Address.mapError_eq_ok_iff
    | whole n => simp [Part.Means]
    | other => simp [Part.Means]

theorem timeoutIn_eq_ok_iff {layer : Layer} {config : Config} :
    timeoutIn layer = .ok config.timeout ↔
      Part.timeout.Means config (layer Part.timeout.key) := by
  unfold timeoutIn
  show _ ↔ Part.timeout.Means config (layer "timeout")
  cases layer "timeout" with
  | none => simp [Part.Means, Config.default, eq_comm]
  | some v =>
    cases v with
    | whole n =>
      show (if _ then _ else _) = _ ↔ _ ∧ _ ∧ _
      by_cases hn : 0 ≤ n ∧ n < UInt64.size
      · rw [if_pos hn]
        simp only [hn.1, hn.2, true_and, Except.ok.injEq, eq_comm]
      · rw [if_neg hn]
        constructor
        · intro h
          cases h
        · rintro ⟨hpos, hlt, -⟩
          exact absurd ⟨hpos, hlt⟩ hn
    | text t => simp [Part.Means]
    | other => simp [Part.Means]

theorem logFilterIn_eq_ok_iff {layer : Layer} {config : Config} :
    logFilterIn layer = .ok config.logFilter ↔
      Part.logFilter.Means config (layer Part.logFilter.key) := by
  unfold logFilterIn text
  show _ ↔ Part.logFilter.Means config (layer "log_filter")
  cases layer "log_filter" with
  | none => simp [Part.Means, eq_comm]
  | some v => cases v <;> simp [Part.Means, eq_comm]

theorem ofName?_eq_some_iff {t : Text} {format : LogFormat} :
    LogFormat.ofName? t = some format ↔ format.text = t := by
  constructor
  · intro h
    unfold LogFormat.ofName? at h
    simpa using List.find?_some h
  · rintro rfl
    cases format <;> rfl

theorem logFormatIn_eq_ok_iff {layer : Layer} {config : Config} :
    logFormatIn layer = .ok config.logFormat ↔
      Part.logFormat.Means config (layer Part.logFormat.key) := by
  have hdefault : LogFormat.ofName? Config.default.logFormat.text =
      some Config.default.logFormat := rfl
  unfold logFormatIn text
  show _ ↔ Part.logFormat.Means config (layer "log_format")
  cases layer "log_format" with
  | none => simp [hdefault, Part.Means, eq_comm]
  | some v =>
    cases v with
    | text t =>
      show _ ↔ config.logFormat.text = t
      rw [← ofName?_eq_some_iff]
      cases hname : LogFormat.ofName? t <;> simp [hname]
    | whole n => simp [Part.Means]
    | other => simp [Part.Means]

/-- A layer amounts to the configuration each part of which its value means. -/
theorem ofLayer_eq_ok_iff {layer : Layer} {config : Config} :
    ofLayer layer = .ok config ↔ ∀ part : Part, part.Means config (layer part.key) := by
  have hparts : ofLayer layer = .ok config ↔
      resolverIn layer = .ok config.resolver ∧ timeoutIn layer = .ok config.timeout ∧
        logFilterIn layer = .ok config.logFilter ∧ logFormatIn layer = .ok config.logFormat := by
    unfold ofLayer
    cases config
    cases resolverIn layer <;> cases timeoutIn layer <;> cases logFilterIn layer <;>
      cases logFormatIn layer <;> simp
  rw [hparts, resolverIn_eq_ok_iff, timeoutIn_eq_ok_iff, logFilterIn_eq_ok_iff,
    logFormatIn_eq_ok_iff]
  constructor
  · rintro ⟨hresolver, htimeout, hfilter, hformat⟩ part
    cases part with
    | resolver => exact hresolver
    | timeout => exact htimeout
    | logFilter => exact hfilter
    | logFormat => exact hformat
  · intro h
    exact ⟨h .resolver, h .timeout, h .logFilter, h .logFormat⟩

/-! ### Sources -/

/-- What the flags, the environment and the files say. -/
structure Sources where
  flags : Layer
  environment : Layer
  /-- The configuration file, and behind it those it extends. -/
  files : Layer

namespace Sources

/-- The values that count: of a key, that of the strongest source that has one. -/
def counting (sources : Sources) : Layer :=
  fun key => (sources.flags key).or ((sources.environment key).or (sources.files key))

/-- What a table says. -/
def ofTable (table : Toml.Table) : Layer :=
  fun key => table.get? key

/-- Reads the sources of a configuration. -/
def read (around : Surroundings) (arguments : List Bytes) : Except Text Sources :=
  match readFlags arguments with
  | .error reason => .error reason
  | .ok flags =>
    match flagLayer flags, readFile around flags.configPath with
    | .error reason, _ | _, .error reason => .error reason
    | .ok flags, .ok tables =>
      .ok ⟨flags, .ofPairs around.environment.values, strongest (tables.map ofTable)⟩

end Sources

/-- Of the sources only the values that count make a difference. -/
theorem load_eq (around : Surroundings) (arguments : List Bytes) :
    load around arguments =
      (Sources.read around arguments).bind fun sources => ofLayer sources.counting := by
  unfold load Sources.read
  cases readFlags arguments with
  | error reason => rfl
  | ok flags =>
    dsimp only
    cases flagLayer flags with
    | error reason => cases readFile around flags.configPath <;> rfl
    | ok layer =>
      cases readFile around flags.configPath with
      | error reason => rfl
      | ok tables =>
        refine congrArg ofLayer (funext fun key => ?_)
        rw [strongest, List.findSome?_cons, List.findSome?_cons]
        simp only [Sources.counting]
        cases layer key <;> cases Layer.ofPairs around.environment.values key <;> rfl

/-! ### Layers that differ in one part -/

variable {part : Part}

/-- Two layers say the same of every key but that of the part. -/
def Layer.SameBut (part : Part) (layer other : Layer) : Prop :=
  ∀ key, key ≠ part.key → layer key = other key

namespace Sources

variable {sources others : Sources}

/-- What the sources say of a part does not count below one that has a value for it. -/
theorem counting_eq (hflags : sources.flags = others.flags)
    (henvironment : Layer.SameBut part sources.environment others.environment)
    (hfiles : Layer.SameBut part sources.files others.files)
    (hstronger : (sources.flags part.key).isSome ∨
      sources.environment = others.environment ∧ (sources.environment part.key).isSome) :
    sources.counting = others.counting := by
  funext key
  unfold counting
  rw [← hflags]
  by_cases hkey : key = part.key
  · subst hkey
    rcases hstronger with h | ⟨heq, h⟩
    · obtain ⟨v, hv⟩ := Option.isSome_iff_exists.mp h
      rw [hv, Option.some_or, Option.some_or]
    · obtain ⟨v, hv⟩ := Option.isSome_iff_exists.mp h
      rw [← heq, hv, Option.some_or, Option.some_or]
  · rw [henvironment key hkey, hfiles key hkey]

end Sources

/-! ### Flags -/

theorem isSome_ofPairs {pairs : List (Text × Value)} {key : Text} :
    (Layer.ofPairs pairs key).isSome = pairs.any fun pair => pair.1 = key := by
  unfold Layer.ofPairs
  rw [Option.isSome_map, Bool.eq_iff_iff, List.find?_isSome, List.any_eq_true]
  simp

theorem any_of_setting (other : Part) {α : Type} {flag : Option α} {value : α → Except Text Value}
    {pairs : List (Text × Value)} (h : setting other.key flag value = .ok pairs) :
    (pairs.any fun pair => pair.1 = part.key) = (decide (other = part) && flag.isSome) := by
  unfold setting at h
  cases flag with
  | none =>
    cases h
    simp
  | some a =>
    dsimp only at h
    cases hvalue : value a with
    | error reason => simp [hvalue, Except.map] at h
    | ok v =>
      rw [hvalue] at h
      cases h
      simp [Part.key_inj]

/-- The layer of the flags has a value for a part where a flag gives it one. -/
theorem isSome_flagLayer {flags : Flags} {layer : Layer} (h : flagLayer flags = .ok layer) :
    (layer part.key).isSome = part.isSetBy flags := by
  unfold flagLayer at h
  split at h
  · rename_i resolver timeout filter format hresolver htimeout hfilter hformat
    cases h
    rw [isSome_ofPairs, List.any_append, List.any_append, List.any_append,
      any_of_setting .resolver hresolver, any_of_setting .timeout htimeout,
      any_of_setting .logFilter hfilter, any_of_setting .logFormat hformat]
    cases part <;> simp [Part.isSetBy]
  all_goals cases h

/-! ### Variables -/

/-- The variables that do not give the part a value. -/
def Part.otherVariables (part : Part) (environment : Environment) : Environment :=
  environment.filter fun entry => !part.isGivenBy entry.1

theorem find?_otherVariables {environment : Environment} {p : Text × Text → Bool}
    (h : ∀ entry, p entry = true → part.isGivenBy entry.1 = false) :
    (part.otherVariables environment).find? p = environment.find? p := by
  unfold Part.otherVariables
  rw [List.find?_filter]
  refine congrArg (List.find? · environment) (funext fun entry => ?_)
  cases hp : p entry with
  | false => simp
  | true => simp [h entry hp]

/-- What a variable says. -/
def said? (entry : Text × Text) : Option (Text × Value) :=
  (Environment.key? entry.1).map fun key =>
    (key.1, if key.2 then .other else Environment.value entry.2)

theorem values_eq (environment : Environment) :
    environment.values = environment.filterMap said? :=
  rfl

theorem ofPairs_values (environment : Environment) (key : Text) :
    Layer.ofPairs environment.values key =
      ((environment.reverse.find? fun entry => (said? entry).any fun pair => pair.1 = key).bind
        said?).map Prod.snd := by
  unfold Layer.ofPairs
  rw [values_eq, ← List.filterMap_reverse, List.find?_filterMap]

theorem ofPairs_otherVariables {environment : Environment} {key : Text} (hkey : key ≠ part.key) :
    Layer.ofPairs (Environment.values (part.otherVariables environment)) key =
      Layer.ofPairs environment.values key := by
  have hreverse : (part.otherVariables environment).reverse =
      part.otherVariables environment.reverse := List.filter_reverse.symm
  rw [ofPairs_values, ofPairs_values, hreverse, find?_otherVariables]
  intro entry hentry
  unfold Part.isGivenBy
  cases hname : Environment.key? entry.1 with
  | none => rfl
  | some named =>
    have hnamed : named.1 = key := by simpa [said?, hname] using hentry
    simpa [hnamed] using hkey

theorem usualPaths_otherVariables (part : Part) (environment : Environment) :
    usualPaths (part.otherVariables environment) = usualPaths environment := by
  unfold usualPaths
  rw [find?_otherVariables]
  -- The variable that names a file gives no part a value.
  intro entry hentry
  rw [of_decide_eq_true hentry]
  cases part <;> decide

/-- The layer of the environment has a value for a part where a variable gives it one. -/
theorem isSome_ofPairs_values {environment : Environment}
    (h : ∃ entry ∈ environment, part.isGivenBy entry.1 = true) :
    (Layer.ofPairs environment.values part.key).isSome = true := by
  obtain ⟨entry, hentry, hgiven⟩ := h
  obtain ⟨named, hname, hkey⟩ := (Option.any_eq_true ..).mp hgiven
  obtain ⟨v, hsays⟩ : ∃ v, said? entry = some (named.1, v) :=
    ⟨_, by rw [said?, hname, Option.map_some]⟩
  rw [isSome_ofPairs, values_eq, List.any_eq_true]
  exact ⟨(named.1, v), List.mem_filterMap.mpr ⟨entry, hentry, hsays⟩, hkey⟩

/-! ### Files -/

/-- What is read from both sides stands in a relation, or both fail for the same reason. -/
inductive Alike {α β : Type} (R : α → β → Prop) : Except Text α → Except Text β → Prop
  | error (reason : Text) : Alike R (.error reason) (.error reason)
  | ok {a : α} {b : β} (h : R a b) : Alike R (.ok a) (.ok b)

/-- Two tables say the same of every key but that of the part. -/
def SameTable (part : Part) (table other : Toml.Table) : Prop :=
  Layer.SameBut part (Sources.ofTable table) (Sources.ofTable other)

/-- Tables that differ in the node of the part. -/
theorem SameTable.cons {table other : Toml.Table} (node changed : Toml.Node)
    (h : SameTable part table other) :
    SameTable part ((part.key, node) :: table) ((part.key, changed) :: other) := by
  intro key hkey
  have hne : ¬ part.key = key := fun heq => hkey heq.symm
  have hget : table.get? key = other.get? key := h key hkey
  simpa [Sources.ofTable, Toml.Table.get?, hne] using hget

/-- Two contents of a file are the same, or they are documents whose tables are, but for the
part. -/
inductive SameContent (part : Part) : Bytes → Bytes → Prop
  | same (content : Bytes) : SameContent part content content
  | document {content other : Bytes} {table changed : Toml.Table}
      (hread : (Utf8.decode? content).bind Toml.read = some table)
      (hchanged : (Utf8.decode? other).bind Toml.read = some changed)
      (hsame : SameTable part table changed) : SameContent part content other

/-- The same files are there, and their contents are the same but for the part. -/
def SameFiles (part : Part) (files others : Files) : Prop :=
  List.Forall₂ (fun file other => file.1 = other.1 ∧ SameContent part file.2 other.2) files others

variable {files others : Files}

theorem SameFiles.content? (h : SameFiles part files others) (path : Text) :
    Option.Rel (SameContent part) (files.content? path) (others.content? path) := by
  unfold Files.content?
  cases Files.Place.ofPath? path with
  | none => exact .none
  | some place =>
    dsimp only
    induction h with
    | nil => exact .none
    | cons hfile _ ih =>
      obtain ⟨hpath, hcontent⟩ := hfile
      rw [List.find?_cons, List.find?_cons, hpath]
      split
      · exact .some hcontent
      · exact ih

theorem SameContent.parse {content other : Bytes} (h : SameContent part content other)
    (path : Text) :
    Alike (SameTable part) (Files.parse path content) (Files.parse path other) := by
  cases h with
  | same =>
    cases Files.parse path content with
    | error reason => exact .error reason
    | ok table => exact .ok fun _ _ => rfl
  | document hread hchanged hsame =>
    unfold Files.parse
    rw [hread, hchanged]
    split
    · exact .error _
    · exact .ok hsame

/-- No part decides which file comes next. -/
theorem SameTable.extended? {table other : Toml.Table} (h : SameTable part table other)
    (path : Text) : Files.extended? path table = Files.extended? path other := by
  have hkey : Files.extendsKey ≠ part.key := by cases part <;> decide
  have hget : table.get? Files.extendsKey = other.get? Files.extendsKey := h _ hkey
  unfold Files.extended?
  rw [hget]

/-- One more file is read alike; so is the whole chain. -/
theorem SameFiles.readChain (h : SameFiles part files others) (fuel : Nat) (path : Text) :
    Alike (List.Forall₂ (SameTable part)) (files.readChain fuel path)
      (others.readChain fuel path) := by
  induction fuel generalizing path with
  | zero => exact .error _
  | succ fuel ih =>
    unfold Files.readChain
    have hcontent := h.content? path
    generalize files.content? path = content?, others.content? path = other? at hcontent ⊢
    cases hcontent with
    | none => exact .error _
    | @some content other hcontent =>
      have htable := hcontent.parse path
      dsimp only
      generalize Files.parse path content = table?, Files.parse path other = changed? at htable ⊢
      cases htable with
      | error reason => exact .error reason
      | ok htable =>
        dsimp only
        rw [htable.extended?]
        rcases Files.extended? path _ with reason | next | next
        · exact .error reason
        · exact .ok (.cons htable .nil)
        · have hrest := ih next
          dsimp only
          generalize files.readChain fuel next = rest?, others.readChain fuel next = tail? at hrest ⊢
          cases hrest with
          | error reason => exact .error reason
          | ok hrest => exact .ok (.cons htable hrest)

theorem SameFiles.read (h : SameFiles part files others) (path : Text) :
    Alike (List.Forall₂ (SameTable part)) (files.read path) (others.read path) := by
  unfold Files.read
  -- There are as many files on both sides, so a circle is noticed after as many steps.
  rw [← List.Forall₂.length_eq h]
  exact h.readChain _ path

theorem SameFiles.readFirst (h : SameFiles part files others) (paths : List Text) :
    Alike (List.Forall₂ (SameTable part)) (files.readFirst paths) (others.readFirst paths) := by
  induction paths with
  | nil => exact .ok .nil
  | cons path paths ih =>
    unfold Files.readFirst
    have hcontent := h.content? path
    generalize files.content? path = content?, others.content? path = other? at hcontent ⊢
    cases hcontent with
    | none => exact ih
    | some _ =>
      have hread := h.read path
      dsimp only
      generalize files.read path = tables?, others.read path = changed? at hread ⊢
      cases hread with
      | ok htables => exact .ok htables
      | error reason =>
        generalize files.readFirst paths = rest?, others.readFirst paths = tail? at ih ⊢
        cases ih with
        | error => exact .error reason
        | ok hrest =>
          -- The failure is passed over where another file was read, and was so on both sides.
          cases hrest with
          | nil => exact .error reason
          | cons htable hrest => exact .ok (.cons htable hrest)

/-- What the strongest of the tables says is the same but for the part. -/
theorem strongest_tables {tables changed : List Toml.Table}
    (h : List.Forall₂ (SameTable part) tables changed) :
    Layer.SameBut part (strongest (tables.map Sources.ofTable))
      (strongest (changed.map Sources.ofTable)) := by
  intro key hkey
  unfold strongest
  induction h with
  | nil => rfl
  | cons htable _ ih =>
    rw [List.map_cons, List.map_cons, List.findSome?_cons, List.findSome?_cons, htable key hkey, ih]

/-! ### What is overridden -/

/-- Two surroundings differ only in what is said of the part, and only below a source that gives
the part a value. -/
structure Overridden (part : Part) (arguments : List Bytes) (around other : Surroundings) :
    Prop where
  /-- The variables for everything else are the same. -/
  environment : part.otherVariables around.environment = part.otherVariables other.environment
  /-- The files are the same but for the part. -/
  files : SameFiles part around.files other.files
  /-- A flag gives the part a value, or a variable does and only files differ. -/
  stronger : (∀ flags, readFlags arguments = .ok flags → part.isSetBy flags = true) ∨
    around.environment = other.environment ∧
      ∃ entry ∈ around.environment, part.isGivenBy entry.1 = true

namespace Overridden

variable {around other : Surroundings} {arguments : List Bytes}

theorem readFile (h : Overridden part arguments around other) (flag : Option Text) :
    Alike (List.Forall₂ (SameTable part)) (readFile around flag) (readFile other flag) := by
  have hpaths : usualPaths around.environment = usualPaths other.environment := by
    rw [← usualPaths_otherVariables part, h.environment, usualPaths_otherVariables]
  cases flag with
  | some path => exact h.files.read path
  | none =>
    show Alike _ (around.files.readFirst _) (other.files.readFirst _)
    rw [hpaths]
    exact h.files.readFirst _

theorem sameBut_environment (h : Overridden part arguments around other) :
    Layer.SameBut part (.ofPairs around.environment.values) (.ofPairs other.environment.values) := by
  intro key hkey
  rw [← ofPairs_otherVariables hkey, h.environment, ofPairs_otherVariables hkey]

/-- What is overridden makes no difference. -/
theorem load_eq (h : Overridden part arguments around other) :
    load other arguments = load around arguments := by
  rw [Config.load_eq, Config.load_eq]
  unfold Sources.read
  cases hread : readFlags arguments with
  | error reason => rfl
  | ok flags =>
    have hfile := h.readFile flags.configPath
    dsimp only
    generalize Config.readFile around flags.configPath = tables?,
      Config.readFile other flags.configPath = changed? at hfile ⊢
    cases hfile with
    | error reason => cases flagLayer flags <;> rfl
    | @ok tables changed htables =>
      cases hlayer : flagLayer flags with
      | error reason => rfl
      | ok layer =>
        have hstronger : (layer part.key).isSome ∨
            Layer.ofPairs around.environment.values = .ofPairs other.environment.values ∧
              (Layer.ofPairs around.environment.values part.key).isSome := by
          rcases h.stronger with hflag | ⟨hsame, hgiven⟩
          · exact Or.inl ((isSome_flagLayer hlayer).trans (hflag flags hread))
          · exact Or.inr ⟨by rw [hsame], isSome_ofPairs_values hgiven⟩
        have hcounting : Sources.counting ⟨layer, _, strongest (tables.map Sources.ofTable)⟩ =
            Sources.counting ⟨layer, _, strongest (changed.map Sources.ofTable)⟩ :=
          Sources.counting_eq rfl h.sameBut_environment (strongest_tables htables) hstronger
        exact congrArg ofLayer hcounting.symm

end Overridden

/-- **The layers do not interfere.**  What one of them says of a part below a stronger one makes
no difference to the configuration or to the failure; and every part is what the strongest value
for it means, whatever is said of the others. -/
theorem load_layered (around : Surroundings) (arguments : List Bytes) :
    (∀ (part : Part) (other : Surroundings), Overridden part arguments around other →
      load other arguments = load around arguments) ∧
    ∀ config, load around arguments = .ok config ↔
      ∃ sources, Sources.read around arguments = .ok sources ∧
        ∀ part : Part, part.Means config (sources.counting part.key) := by
  refine ⟨fun part other h => h.load_eq, fun config => ?_⟩
  rw [load_eq]
  cases Sources.read around arguments with
  | error reason => simp [Except.bind]
  | ok sources =>
    show ofLayer sources.counting = .ok config ↔ _
    rw [ofLayer_eq_ok_iff]
    simp

/-- A file that says `soon` for a time does no harm where a variable says how long to wait. -/
theorem load_layered_timeout :
    Overridden .timeout [[]]
        ⟨[("VARLINK_TIMEOUT", "7")], [(".varlink.toml", Utf8.encode "timeout = 3")]⟩
        ⟨[("VARLINK_TIMEOUT", "7")], [(".varlink.toml", Utf8.encode "timeout = 'soon'")]⟩ ∧
      load ⟨[("VARLINK_TIMEOUT", "7")], [(".varlink.toml", Utf8.encode "timeout = 'soon'")]⟩ [[]] =
        .ok { Config.default with timeout := some 7 } := by
  have hthree : (Utf8.decode? (Utf8.encode "timeout = 3")).bind Toml.read =
      some [(Part.timeout.key, .value (.whole 3))] := rfl
  have hsoon : (Utf8.decode? (Utf8.encode "timeout = 'soon'")).bind Toml.read =
      some [(Part.timeout.key, .value (.text "soon"))] := rfl
  have hfile : SameContent .timeout (Utf8.encode "timeout = 3") (Utf8.encode "timeout = 'soon'") :=
    .document hthree hsoon (.cons _ _ fun _ _ => rfl)
  have hoverridden : Overridden .timeout [[]]
      ⟨[("VARLINK_TIMEOUT", "7")], [(".varlink.toml", Utf8.encode "timeout = 3")]⟩
      ⟨[("VARLINK_TIMEOUT", "7")], [(".varlink.toml", Utf8.encode "timeout = 'soon'")]⟩ :=
    { environment := rfl
      files := .cons ⟨rfl, hfile⟩ .nil
      stronger := Or.inr ⟨rfl, _, List.mem_singleton_self _, by decide⟩ }
  refine ⟨hoverridden, ?_⟩
  rw [(load_layered _ _).1 _ _ hoverridden]
  rfl

end Config

end VarlinkClient
