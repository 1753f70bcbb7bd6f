/-
The lines that are printed for a word.

Candidates are texts of the program, or names that were looked up between a beginning of the word
and a dot (`Origin`).  So a line feed in a candidate comes from a name, and what is printed for
names without line feeds is one line for each candidate, each beginning with the word.

The word is looked for at the start of a candidate and not at the start of each of its lines.  Of a
name with line feeds the first line begins with the word and the others are not looked at, so all
lines begin with it exactly when it stands behind each line feed of what is offered
(`complete_lines`).  The methods of an interface never have line feeds; the names of interfaces are
what a service says (`run_lines`).
-/
import VarlinkClient.Proofs.Completion
import VarlinkClient.Proofs.ReplyStream.Overflow

namespace VarlinkClient

theorem Run.print_unlimited {outputs : Outputs} (hroom : outputs.stdout.room = none) (t : Text)
    (visits : List Visit) :
    Run.print t outputs visits =
      .exit 0 { outputs with stdout := ⟨outputs.stdout.written ++ Utf8.encode t, none⟩ } visits := by
  rw [print, Sink.writeText, Sink.write_unlimited hroom]

/-- What these look-ups find are names without line feeds. -/
def Catalog.IsOnLines (catalog : Catalog) (lookups : List Lookup) : Prop :=
  ∀ lookup ∈ lookups, ∀ names, catalog lookup = some names → ∀ name ∈ names, '\n' ∉ name

namespace Completion

variable {catalog : Catalog} {word : Text} {lookups : List Lookup}

/-! ### Where candidates come from -/

/-- The candidates that are not looked up. -/
def fixedTexts : List Text :=
  globalFlags ++ Command.all.map Command.name ++ ofOptions .call ++ ofOptions .help ++
    [placeholder]

/-- A candidate is a text of the program, or a name that was found, behind a beginning of the word
and perhaps before a dot. -/
inductive Origin (catalog : Catalog) (word : Text) (lookups : List Lookup) : Text → Prop
  | fixed {candidate : Text} (h : candidate ∈ fixedTexts) : Origin catalog word lookups candidate
  | found {front name back : Text} {lookup : Lookup} {names : List Text} (hfront : front <+: word)
      (hlookup : lookup ∈ lookups) (hnames : catalog lookup = some names) (hname : name ∈ names)
      (hback : back = [] ∨ back = ".") : Origin catalog word lookups (front ++ name ++ back)

theorem Word.text_of_split? {w : Word} (h : Word.split? word = some w) :
    w.front ++ w.name = word := by
  unfold split? at h
  split at h
  · cases h
    rfl
  · rename_i before name hsplit
    split at h
    · cases h
      simp [Text.eq_of_splitLast hsplit]
    · cases h

/-- An interface in a word stands at its beginning, with a dot behind it. -/
theorem isPrefix_of_interfaceOf? {w : Word} (hw : Word.split? word = some w) {interface : Text}
    (h : interfaceOf? w.name = some interface) :
    (w.front ++ interface ++ "." : Text) <+: word := by
  obtain ⟨⟨before, method⟩, hsplit, rfl⟩ := Option.map_eq_some_iff.mp h
  refine ⟨method, ?_⟩
  rw [← Word.text_of_split? hw, Text.eq_of_splitLast hsplit]
  simp

/-- What a look-up finds is a candidate in its place. -/
theorem origin_of_mem_getD {lookup : Lookup} (hlookup : lookup ∈ lookups) {front back name : Text}
    (hfront : front <+: word) (hback : back = [] ∨ back = ".")
    (hname : name ∈ (catalog lookup).getD []) :
    Origin catalog word lookups (front ++ name ++ back) := by
  cases hnames : catalog lookup with
  | none => simp [hnames] at hname
  | some names => exact .found hfront hlookup hnames (by simpa [hnames] using hname) hback

theorem origin_of_mem_ofInterfaces {w : Word} (hw : Word.split? word = some w) {back : Text}
    (hback : back = [] ∨ back = ".") (hlookup : Lookup.interfaces w.address ∈ lookups) :
    ∀ candidate ∈ (ofInterfaces catalog w back).1, Origin catalog word lookups candidate := by
  intro candidate hcandidate
  obtain ⟨name, hname, rfl⟩ := List.mem_map.mp hcandidate
  have hfront : w.front <+: word := ⟨w.name, Word.text_of_split? hw⟩
  exact origin_of_mem_getD hlookup hfront hback hname

theorem origin_of_mem_ofMembers :
    ∀ candidate ∈ (ofMembers catalog word).1,
      Origin catalog word (ofMembers catalog word).2 candidate := by
  cases hw : Word.split? word with
  | none => simp [ofMembers, hw]
  | some w =>
      cases hinterface : interfaceOf? w.name with
      | none =>
          simp only [ofMembers, hw, hinterface]
          exact origin_of_mem_ofInterfaces hw (.inr rfl) (by simp [ofInterfaces])
      | some interface =>
          simp only [ofMembers, hw, hinterface]
          -- Without methods the interfaces are candidates, as they are without an interface.
          cases hmethods : (catalog (.methods w.address interface)).getD [] with
          | nil => exact origin_of_mem_ofInterfaces hw (.inr rfl) (by simp [ofInterfaces])
          | cons first others =>
              intro candidate hcandidate
              obtain ⟨method, hmethod, rfl⟩ := List.mem_map.mp hcandidate
              rw [← hmethods] at hmethod
              have hfound := origin_of_mem_getD (List.mem_singleton_self _)
                (isPrefix_of_interfaceOf? hw hinterface) (.inl rfl) hmethod
              simpa using hfound

theorem origin_of_mem_topLevel :
    ∀ candidate ∈ topLevel word, Origin catalog word lookups candidate := by
  intro candidate hcandidate
  refine .fixed ?_
  unfold topLevel at hcandidate
  split at hcandidate
  · simp [fixedTexts, hcandidate]
  · simp only [fixedTexts, List.mem_append]
    simp [hcandidate]

theorem origin_of_mem_afterCall (tokens : List Text) :
    ∀ candidate ∈ (afterCall catalog tokens word).1,
      Origin catalog word (afterCall catalog tokens word).2 candidate := by
  unfold afterCall
  split
  · exact fun candidate h => .fixed (by simp [fixedTexts, h])
  split
  · rename_i request _
    split
    · exact fun candidate h => .fixed (by simp [fixedTexts, List.mem_singleton.mp h])
    · exact nofun
  · exact origin_of_mem_ofMembers

theorem origin_of_mem_afterHelp (tokens : List Text) :
    ∀ candidate ∈ (afterHelp catalog tokens word).1,
      Origin catalog word (afterHelp catalog tokens word).2 candidate := by
  unfold afterHelp
  split
  · exact fun candidate h => .fixed (by simp [fixedTexts, h])
  split
  · split
    · split
      · rename_i w hw
        exact origin_of_mem_ofInterfaces hw (.inl rfl) (by simp [ofInterfaces])
      · exact nofun
    · exact nofun
  · exact nofun

/-- **Nothing else is ever a candidate.** -/
theorem origin_of_mem_candidates (command : Option Text) (tokens : List Text) :
    ∀ candidate ∈ (candidates catalog command tokens word).1,
      Origin catalog word (candidates catalog command tokens word).2 candidate := by
  unfold candidates
  split
  · exact origin_of_mem_topLevel
  split
  · exact origin_of_mem_afterCall tokens
  · exact origin_of_mem_afterHelp tokens
  · exact nofun
  · exact nofun

theorem lineFeed_notMem_fixedTexts : ∀ candidate ∈ fixedTexts, '\n' ∉ candidate := by
  decide

/-- A line feed in a candidate comes from a name. -/
theorem Origin.lineFeed_notMem (hword : '\n' ∉ word) (hnames : catalog.IsOnLines lookups)
    {candidate : Text} (h : Origin catalog word lookups candidate) : '\n' ∉ candidate := by
  cases h with
  | fixed h => exact lineFeed_notMem_fixedTexts candidate h
  | @found front name back lookup names hfront hlookup hfound hname hback =>
      have hstart : '\n' ∉ front := fun h => hword (hfront.mem h)
      have hmiddle : '\n' ∉ name := hnames lookup hlookup names hfound name hname
      have hend : '\n' ∉ back := by
        rcases hback with rfl | rfl <;> decide
      simp [hstart, hmiddle, hend]

/-! ### What is offered -/

variable {command : Option Text} {tokens : List Text}

theorem mem_offered_iff {candidate : Text} :
    candidate ∈ (offered catalog command tokens word).1 ↔
      candidate ∈ (candidates catalog command tokens word).1 ∧ word <+: candidate := by
  rw [offered, List.mem_filter, List.isPrefixOf_iff_prefix]

theorem lineFeed_notMem_offered (hword : '\n' ∉ word)
    (hnames : catalog.IsOnLines (offered catalog command tokens word).2) :
    ∀ candidate ∈ (offered catalog command tokens word).1, '\n' ∉ candidate := by
  intro candidate hcandidate
  have horigin := origin_of_mem_candidates command tokens candidate (mem_offered_iff.mp hcandidate).1
  exact horigin.lineFeed_notMem hword hnames

/-! ### What is printed -/

/-- The lines of a text that ends with a line feed or is empty. -/
def printedLines (t : Text) : List Text :=
  (Text.splitOn (· = '\n') t).dropLast

/-- The lines of candidates, one after another. -/
theorem printedLines_printed (found : List Text) :
    printedLines (printed found) = found.flatMap (Text.splitOn (· = '\n')) := by
  rw [printedLines, printed, Text.splitOn_ended, List.dropLast_concat]

/-- Prints what completes a word, with names from a catalog. -/
def complete (catalog : Catalog) (command : Option Text) (tokens : List Text) (word : Text)
    (outputs : Outputs) (visits : List Visit) : Run :=
  .print (printed (offered catalog command tokens word).1) outputs visits

/-- When all look-ups come to an end, a session is a catalog. -/
theorem run_eq_complete {desk : Desk}
    (hends : ∀ lookup ∈ (offered desk.session.catalog command tokens word).2,
      desk.session.hangsOn lookup = false) :
    run desk command tokens word =
      complete desk.session.catalog command tokens word desk.outputs
        ((offered desk.session.catalog command tokens word).2.flatMap fun lookup =>
          (desk.session.lookUp lookup).2) := by
  have hany : (offered desk.session.catalog command tokens word).2.any desk.session.hangsOn =
      false := by
    rw [List.any_eq_false]
    intro lookup hlookup
    simp [hends lookup hlookup]
  rw [run]
  dsimp only
  rw [hany]
  rfl

theorem complete_unlimited {outputs : Outputs} (hroom : outputs.stdout.room = none)
    (visits : List Visit) :
    complete catalog command tokens word outputs visits =
      let shown := Utf8.encode (printed (offered catalog command tokens word).1)
      .exit 0 { outputs with stdout := ⟨outputs.stdout.written ++ shown, none⟩ } visits :=
  Run.print_unlimited hroom _ visits

/-- Names without line feeds make one line for each candidate. -/
theorem printedLines_offered (hword : '\n' ∉ word)
    (hnames : catalog.IsOnLines (offered catalog command tokens word).2) :
    printedLines (printed (offered catalog command tokens word).1) =
      (offered catalog command tokens word).1 := by
  rw [printedLines_printed]
  exact Text.flatMap_splitOn_lines (lineFeed_notMem_offered hword hnames)

/-- The word begins every line when it stands behind each line feed of the candidates. -/
theorem printedLines_begin_iff (hword : '\n' ∉ word) {found : List Text}
    (hbegin : ∀ candidate ∈ found, word <+: candidate) :
    (∀ line ∈ printedLines (printed found), word <+: line) ↔
      ∀ candidate ∈ found, ∀ before after, candidate = before ++ '\n' :: after →
        word <+: after := by
  have hlines : (∀ line ∈ printedLines (printed found), word <+: line) ↔
      ∀ candidate ∈ found, ∀ line ∈ Text.splitOn (· = '\n') candidate, word <+: line := by
    rw [printedLines_printed, List.forall_mem_flatMap]
  rw [hlines]
  refine forall₂_congr fun candidate hcandidate => ?_
  rw [Text.lines_begin_iff hword, and_iff_right (hbegin candidate hcandidate)]

/-- **Completing a word never fails, and offers the candidates that begin with the word.**  The
lines that are printed begin with the word exactly when it stands behind each line feed of what is
offered; when the names that were looked up have no line feeds, the lines are what is offered. -/
theorem complete_lines (catalog : Catalog) (command : Option Text) (tokens : List Text)
    {word : Text} (hword : '\n' ∉ word) {outputs : Outputs} (hroom : outputs.stdout.room = none)
    (visits : List Visit) :
    let found := (offered catalog command tokens word).1
    let stdout : Sink := ⟨outputs.stdout.written ++ Utf8.encode (printed found), none⟩
    complete catalog command tokens word outputs visits =
        .exit 0 { outputs with stdout } visits ∧
      (∀ candidate, candidate ∈ found ↔
        candidate ∈ (candidates catalog command tokens word).1 ∧ word <+: candidate) ∧
      ((∀ line ∈ printedLines (printed found), word <+: line) ↔
        ∀ candidate ∈ found, ∀ before after, candidate = before ++ '\n' :: after →
          word <+: after) ∧
      (catalog.IsOnLines (offered catalog command tokens word).2 →
        printedLines (printed found) = found) := by
  intro found stdout
  have hbegin : ∀ candidate ∈ found, word <+: candidate :=
    fun candidate hcandidate => (mem_offered_iff.mp hcandidate).2
  refine ⟨complete_unlimited hroom visits, fun _ => mem_offered_iff, ?_, ?_⟩
  · exact printedLines_begin_iff hword hbegin
  · exact printedLines_offered hword

/-- An interface is offered where the look-up of methods fails. -/
theorem complete_lines_failed_lookup :
    let catalog : Catalog := fun lookup =>
      if lookup = .interfaces none then some ["org.example.ping", "org.other"] else none
    let word : Text := "org.example.p"
    let outputs : Outputs := ⟨.empty none, .empty (some 0)⟩
    let found := (offered catalog (some Command.call.name) [] word).1
    '\n' ∉ word ∧ outputs.stdout.room = none ∧
      (complete catalog (some Command.call.name) [] word outputs []).result = .ok 0 ∧
      printedLines (printed found) = ["org.example.ping."] ∧
      ∀ line ∈ printedLines (printed found), word <+: line := by
  intro catalog word outputs found
  have hword : '\n' ∉ word := by decide
  have hroom : outputs.stdout.room = none := rfl
  have hnames : catalog.IsOnLines (offered catalog (some Command.call.name) [] word).2 := by
    intro lookup _ names hfound
    obtain ⟨-, hsome⟩ := Option.ite_none_right_eq_some.mp hfound
    cases hsome
    decide
  obtain ⟨hexit, hoffered, -, hlines⟩ :=
    complete_lines catalog (some Command.call.name) [] hword hroom []
  have hfound : found = ["org.example.ping."] := by decide
  refine ⟨hword, hroom, by rw [hexit]; rfl, (hlines hnames).trans hfound, ?_⟩
  rw [hlines hnames]
  exact fun candidate hcandidate => ((hoffered candidate).mp hcandidate).2

/-- Not every line begins with the word: behind a line feed a name goes on as it likes. -/
theorem exists_foreign_line :
    ¬ ∀ (catalog : Catalog) (command : Option Text) (tokens : List Text) (word : Text),
      '\n' ∉ word → ∀ (outputs : Outputs) (visits : List Visit), outputs.stdout.room = none →
        (complete catalog command tokens word outputs visits).result = .ok 0 ∧
          ∀ line ∈ printedLines (printed (offered catalog command tokens word).1),
            word <+: line := by
  intro h
  obtain ⟨-, hlines⟩ := h (fun _ => some ["a\nb"]) (some Command.call.name) [] "a" (by decide)
    (.unlimited [] []) [] rfl
  exact absurd (hlines "b." (by decide)) (by decide)

/-! ### Names from services -/

/-- Methods have no line feeds in them, so it is interfaces that can have any. -/
theorem isOnLines_catalog {session : Session}
    (hinterfaces : ∀ address names, Lookup.interfaces address ∈ lookups →
      session.catalog (.interfaces address) = some names → ∀ name ∈ names, '\n' ∉ name) :
    session.catalog.IsOnLines lookups := by
  intro lookup hlookup names hnames name hname
  cases lookup with
  | interfaces address => exact hinterfaces address names hlookup hnames name hname
  | methods address interface =>
      intro hfeed
      obtain ⟨-, hchars⟩ := session.isProper_catalog address interface names hnames name hname
      exact absurd (hchars '\n' hfeed) (by decide)

/-- **A run prints one candidate on a line**, and each begins with the word, when the service that
is asked for interfaces names none with a line feed. -/
theorem run_lines {desk : Desk} (hroom : desk.outputs.stdout.room = none) (hword : '\n' ∉ word)
    (hends : ∀ lookup ∈ (offered desk.session.catalog command tokens word).2,
      desk.session.hangsOn lookup = false)
    (hinterfaces : ∀ address names,
      Lookup.interfaces address ∈ (offered desk.session.catalog command tokens word).2 →
        desk.session.catalog (.interfaces address) = some names → ∀ name ∈ names, '\n' ∉ name) :
    let found := (offered desk.session.catalog command tokens word).1
    (run desk command tokens word).result = .ok 0 ∧
      (run desk command tokens word).outputs.stdout.written =
        desk.outputs.stdout.written ++ Utf8.encode (printed found) ∧
      printedLines (printed found) = found ∧ ∀ line ∈ found, word <+: line := by
  intro found
  rw [run_eq_complete hends, complete_unlimited hroom]
  refine ⟨rfl, rfl, ?_, ?_⟩
  · exact printedLines_offered hword (isOnLines_catalog hinterfaces)
  · exact fun candidate hcandidate => (mem_offered_iff.mp hcandidate).2

end Completion

end VarlinkClient
