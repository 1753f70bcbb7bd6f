/-
Descriptions that somebody has written.

A source has documentation in front of the interface and of each member, and signatures as they
were typed, over as many lines as they may take (`Source`).  When it is well formed it is read as
the description that it says (`parse_text`).

What has to stay in step is the depth: a line feed inside of parentheses joins lines, and one
outside ends a declaration.  So the line feeds of a signature have to stand inside of parentheses
(`BreaksInside`), and then its lines lead from one depth to the next and back to zero, by one
induction along the characters of the signature (`leads_of_breaksInside`).
-/
import VarlinkClient.Proofs.Description.Declarations
import VarlinkClient.Proofs.Text.Cuts

namespace VarlinkClient.Description

open Signature (Balanced compact depthAfter)

/-! ### Sources -/

/-- Every line feed of a text stands inside of parentheses, and no comment begins after it; the
text begins at this depth. -/
def BreaksInside (depth : Nat) (t : Text) : Prop :=
  ∀ before after, t = before ++ '\n' :: after →
    (∃ outer, depthAfter depth before = some (outer + 1)) ∧
      (Text.trimLeft after).head? ≠ some '#'

theorem breaksInside_iff {depth : Nat} {t : Text} : BreaksInside depth t ↔
    ∀ i < t.length, t[i]? = some '\n' → 0 < (depthAfter depth (t.take i)).getD 0 ∧
      (Text.trimLeft (t.drop (i + 1))).head? ≠ some '#' := by
  constructor
  · intro h i hi hfeed
    obtain ⟨_, hget⟩ := List.getElem?_eq_some_iff.mp hfeed
    have hsplit : t = t.take i ++ '\n' :: t.drop (i + 1) := by
      rw [← hget, List.getElem_cons_drop, List.take_append_drop]
    obtain ⟨⟨outer, houter⟩, hcomment⟩ := h _ _ hsplit
    refine ⟨?_, hcomment⟩
    rw [houter]
    exact Nat.succ_pos outer
  · rintro h before after rfl
    obtain ⟨hdeep, hcomment⟩ := h before.length (by simp) (by simp)
    rw [List.take_left] at hdeep
    have hafter : (before ++ '\n' :: after).drop (before.length + 1) = after := by simp
    rw [hafter] at hcomment
    refine ⟨?_, hcomment⟩
    cases hdepth : depthAfter depth before with
    | none => simp [hdepth] at hdeep
    | some inner =>
        rw [hdepth, Option.getD_some] at hdeep
        exact ⟨inner - 1, by rw [Nat.sub_add_cancel hdeep]⟩

instance (depth : Nat) (t : Text) : Decidable (BreaksInside depth t) :=
  decidable_of_iff _ breaksInside_iff.symm

/-- A line of documentation. -/
structure IsDocLine (line : Text) : Prop where
  feedless : '\n' ∉ line
  trimmed : Text.trimRight line = line

/-- A member as it is written: its signature may be in any spacing. -/
structure Entry extends Member where
  /-- A blank stands before the signature. -/
  spaced : Bool

namespace Entry

/-- What makes an entry a member. -/
structure IsWellFormed (entry : Entry) : Prop where
  doc : ∀ line ∈ entry.doc, IsDocLine line
  named : entry.name ≠ []
  name : ∀ c ∈ entry.name, isNameChar c = true
  opens : entry.signature.head? = some '('
  balanced : Balanced entry.signature
  breaks : BreaksInside 0 entry.signature

/-- What stands between the name and the signature. -/
def gap (entry : Entry) : Text :=
  if entry.spaced then " " else ""

/-- The text of an entry, without its documentation. -/
def text (entry : Entry) : Text :=
  entry.kind.keyword ++ ' ' :: (entry.name ++ (entry.gap ++ entry.signature))

/-- The member that an entry says. -/
def member (entry : Entry) : Member :=
  { entry.toMember with signature := Signature.normalise entry.signature }

end Entry

/-- An interface as it is written. -/
structure Source where
  doc : List Text
  name : Text
  entries : List Entry

/-- Documentation as it is written. -/
def comments (doc : List Text) : List Text :=
  doc.map ("# ".toList ++ ·)

namespace Source

/-- What makes a source a description. -/
structure IsWellFormed (source : Source) : Prop where
  doc : ∀ line ∈ source.doc, IsDocLine line
  named : source.name ≠ []
  trimmed : Text.trim source.name = source.name
  feedless : '\n' ∉ source.name
  bare : ∀ c ∈ source.name, Signature.isParenthesis c = false
  entries : ∀ entry ∈ source.entries, entry.IsWellFormed

/-- The parts of a source; a signature may have more lines than one. -/
def parts (source : Source) : List Text :=
  comments source.doc ++ [Keyword.interface.text ++ ' ' :: source.name] ++
    source.entries.flatMap fun entry => comments entry.doc ++ [entry.text]

/-- The text of a source. -/
def text (source : Source) : Text :=
  Text.join "\n" source.parts

/-- The description that a source says. -/
def description (source : Source) : Description :=
  ⟨source.doc, source.name, source.entries.map Entry.member⟩

end Source

/-! ### Documentation -/

/-- A comment is read as it was written. -/
theorem commentText_comment {line : Text} (h : IsDocLine line) :
    commentText (Text.trim ("# ".toList ++ line)).tail = line := by
  have hcomment : Text.trim ("# ".toList ++ line) = '#' :: Text.trimRight (' ' :: line) :=
    trim_comment (' ' :: line)
  rw [hcomment, List.tail_cons]
  by_cases hline : line = []
  · rw [hline]
    rfl
  · have hlast : ∀ c, (' ' :: line).getLast? = some c → isBlank c = false := by
      intro c hc
      have htrimmed : Text.trimEnd isBlank line = line := h.trimmed
      rw [List.getLast?_cons_of_ne_nil hline, ← htrimmed] at hc
      exact Text.getLast?_trimEnd hc
    have hsame : Text.trimRight (' ' :: line) = ' ' :: line := Text.trimEnd_eq_self hlast
    rw [hsame]
    rfl

theorem lineFeed_notMem_comments {doc : List Text} (h : ∀ line ∈ doc, IsDocLine line) :
    ∀ line ∈ comments doc, '\n' ∉ line := by
  intro line hline
  obtain ⟨said, hsaid, rfl⟩ := List.mem_map.mp hline
  simp [(h said hsaid).feedless]

/-- Documentation is read as it was written. -/
theorem Scan.readLines_docComments {doc : List Text} (h : ∀ line ∈ doc, IsDocLine line)
    (declarations : List Declaration) :
    (⟨declarations, [], 0⟩ : Scan).readLines
        ((comments doc).flatMap (Text.splitOn (· = '\n'))) = .ok ⟨declarations, doc, 0⟩ := by
  have hmark : ∀ line ∈ comments doc, ∃ rest, line = '#' :: rest := by
    intro line hline
    obtain ⟨said, -, rfl⟩ := List.mem_map.mp hline
    exact ⟨' ' :: said, rfl⟩
  have hread : (comments doc).map (fun line => commentText (Text.trim line).tail) = doc := by
    rw [comments, List.map_map]
    exact (List.map_congr_left fun line hline => commentText_comment (h line hline)).trans
      (List.map_id doc)
  rw [Text.flatMap_splitOn_lines (lineFeed_notMem_comments h), Scan.readLines_comments hmark, hread]
  rfl

/-! ### Signatures -/

/-- The lines of a text lead from this depth to that one, and nothing is lost of it but blanks. -/
def Leads (depth last : Nat) (t : Text) : Prop :=
  ∃ first others next, Text.splitOn (· = '\n') t = first :: others ∧ first <+: t ∧
    depthAfter depth first = some next ∧ Continues next others last ∧
    compact (first ++ joined others) = compact t

/-- A line feed inside of parentheses, with no comment after it, joins two lines. -/
theorem Leads.cons_feed {depth last : Nat} {t : Text} (hinside : 0 < depth)
    (hcomment : (Text.trimLeft t).head? ≠ some '#') (h : Leads depth last t) :
    Leads depth last ('\n' :: t) := by
  obtain ⟨first, others, next, hlines, hprefix, hfirst, hothers, hcompact⟩ := h
  have hnone : (Text.trim first).head? ≠ some '#' := by
    by_cases hblank : Text.trim first = []
    · simp [hblank]
    · rw [Text.head?_trim_of_front hprefix hblank]
      exact hcomment
  obtain ⟨hcontinues, hjoined⟩ := Continues.cons hinside hnone hfirst hothers
  refine ⟨[], first :: others, depth, ?_, List.nil_prefix, rfl, hcontinues, ?_⟩
  · rw [Text.splitOn_cons_mark (by simp), hlines]
  · rw [List.nil_append, hjoined, hcompact, Signature.compact_cons_blank (by decide)]

/-- Any other character belongs to the first line. -/
theorem Leads.cons {depth inner last : Nat} {c : Char} {t : Text} (hfeed : c ≠ '\n')
    (hc : depthAfter depth [c] = some inner) (h : Leads inner last t) :
    Leads depth last (c :: t) := by
  obtain ⟨first, others, next, hlines, hprefix, hfirst, hothers, hcompact⟩ := h
  refine ⟨c :: first, others, next, ?_, List.cons_prefix_cons.mpr ⟨rfl, hprefix⟩, ?_, hothers, ?_⟩
  · have happend := Text.splitOn_append_line (s := [c]) (by simpa using Ne.symm hfeed) t
    rw [hlines] at happend
    exact happend
  · have happend := Signature.depthAfter_append [c] depth first
    rw [hc, Option.bind_some, hfirst] at happend
    exact happend
  · have hleft := Signature.compact_append [c] (first ++ joined others)
    rw [hcompact, ← Signature.compact_append] at hleft
    exact hleft

theorem BreaksInside.tail {depth inner : Nat} {c : Char} {t : Text}
    (h : BreaksInside depth (c :: t)) (hc : depthAfter depth [c] = some inner) :
    BreaksInside inner t := by
  intro before after heq
  obtain ⟨hdeep, hcomment⟩ := h (c :: before) after (by rw [heq]; rfl)
  have happend := Signature.depthAfter_append [c] depth before
  rw [hc, Option.bind_some, List.singleton_append] at happend
  exact ⟨happend ▸ hdeep, hcomment⟩

/-- **The lines of a text lead from depth to depth as the text does.** -/
theorem leads_of_breaksInside (t : Text) : ∀ depth last, depthAfter depth t = some last →
    BreaksInside depth t → Leads depth last t := by
  induction t with
  | nil =>
      intro depth last hdepth _
      obtain rfl : depth = last := Option.some.inj hdepth
      exact ⟨[], [], depth, rfl, List.prefix_refl [], rfl, .nil depth, rfl⟩
  | cons c t ih =>
      intro depth last hdepth hbreaks
      obtain ⟨inner, hc, ht⟩ : ∃ inner, depthAfter depth [c] = some inner ∧
          depthAfter inner t = some last := by
        have happend := Signature.depthAfter_append [c] depth t
        rw [List.singleton_append, hdepth] at happend
        exact Option.bind_eq_some_iff.mp happend.symm
      have hleads : Leads inner last t := ih inner last ht (hbreaks.tail hc)
      by_cases hfeed : c = '\n'
      · subst hfeed
        obtain rfl : depth = inner := Option.some.inj hc
        obtain ⟨⟨outer, houter⟩, hcomment⟩ := hbreaks [] t rfl
        obtain rfl : depth = outer + 1 := Option.some.inj houter
        exact hleads.cons_feed (Nat.succ_pos outer) hcomment
      · exact hleads.cons hfeed hc

/-! ### Members -/

/-- What begins with a parenthesis, blanks apart, does not go on with a name. -/
theorem takeWhile_of_compact {rest more : Text} (h : compact rest = '(' :: more) :
    rest.takeWhile isNameChar = [] ∧ rest.dropWhile isNameChar = rest := by
  cases rest with
  | nil => cases h
  | cons c rest =>
      have hc : isNameChar c = false := by
        by_cases hblank : isBlank c = true
        · by_contra hname
          rw [isBlank_of_isNameChar (by simpa using hname)] at hblank
          cases hblank
        · rw [Signature.compact_cons (by simpa using hblank)] at h
          rw [(List.cons.inj h).1]
          decide
      exact ⟨List.takeWhile_cons_of_neg (by simp [hc]), List.dropWhile_cons_of_neg (by simp [hc])⟩

/-- **An entry is read as one declaration**, and the declaration as the member that it says. -/
theorem Entry.IsWellFormed.exists_declaration {entry : Entry} (h : entry.IsWellFormed) :
    ∃ declaration, readMember declaration = .ok entry.member ∧
      keyword? declaration.text = some (.member entry.kind) ∧
      ∀ declarations, (⟨declarations, entry.doc, 0⟩ : Scan).readLines
          (Text.splitOn (· = '\n') entry.text) = .ok ⟨declarations ++ [declaration], [], 0⟩ := by
  obtain ⟨first, others, depth, hlines, -, hdepth, hothers, hcompact⟩ :=
    leads_of_breaksInside entry.signature 0 0 (h.balanced.depthAfter 0) h.breaks
  have hgap : '\n' ∉ entry.gap ∧ compact entry.gap = [] ∧
      ∀ c ∈ entry.gap, Signature.isParenthesis c = false := by
    unfold Entry.gap
    cases entry.spaced <;> decide
  obtain ⟨hfeed, hblank, hfree⟩ := hgap
  have hsplit : Text.splitOn (· = '\n') (entry.gap ++ entry.signature) =
      (entry.gap ++ first) :: others := by
    rw [Text.splitOn_append_line hfeed, hlines, List.modifyHead_cons]
  have hcount : depthAfter 0 (entry.gap ++ first) = some depth := by
    rw [Signature.depthAfter_append_free hfree, hdepth]
  have hrest : compact (Text.trimRight (entry.gap ++ first) ++ joined others) =
      compact entry.signature := by
    rw [← hcompact, Signature.compact_append, Signature.compact_trimRight,
      Signature.compact_append, hblank, List.nil_append, Signature.compact_append]
  obtain ⟨more, hopens⟩ : ∃ more, compact entry.signature = '(' :: more := by
    obtain ⟨rest, hsignature⟩ := List.head?_eq_some_iff.mp h.opens
    exact ⟨compact rest, by rw [hsignature, Signature.compact_cons (by decide)]⟩
  obtain ⟨htake, hdrop⟩ := takeWhile_of_compact (hrest.trans hopens)
  refine ⟨memberDeclaration entry.doc entry.kind entry.name
    (Text.trimRight (entry.gap ++ first) ++ joined others), ?_,
    keyword?_memberDeclaration _ _ _ _, fun declarations => ?_⟩
  · rw [readMember_memberDeclaration h.named h.name, htake, hdrop, List.append_nil,
      Signature.normalise_eq_iff.mpr hrest]
    rfl
  · exact Scan.readLines_memberLines h.named h.name entry.kind hsplit hcount hothers
      declarations entry.doc

theorem exists_declarations {entries : List Entry} (h : ∀ entry ∈ entries, entry.IsWellFormed) :
    ∃ ds, readMembers ds = .ok (entries.map Entry.member) ∧
      (∀ d ∈ ds, ∃ kind, keyword? d.text = some (.member kind)) ∧
      ∀ declarations, (⟨declarations, [], 0⟩ : Scan).readLines
          ((entries.flatMap fun entry => comments entry.doc ++ [entry.text]).flatMap
            (Text.splitOn (· = '\n'))) = .ok ⟨declarations ++ ds, [], 0⟩ := by
  induction entries with
  | nil => exact ⟨[], rfl, by simp, fun declarations => by simp [Scan.readLines]⟩
  | cons entry entries ih =>
      have hentry : entry.IsWellFormed := h entry (by simp)
      obtain ⟨d, hmember, hkeyword, hread⟩ := hentry.exists_declaration
      obtain ⟨ds, hmembers, hkeywords, hreads⟩ := ih fun e he => h e (by simp [he])
      refine ⟨d :: ds, ?_, ?_, fun declarations => ?_⟩
      · rw [readMembers, hmember]
        dsimp only
        rw [hmembers]
        rfl
      · intro e he
        rcases List.mem_cons.mp he with rfl | he
        · exact ⟨entry.kind, hkeyword⟩
        · exact hkeywords e he
      · rw [List.flatMap_cons, List.flatMap_append, List.flatMap_append, List.append_assoc,
          Scan.readLines_append (Scan.readLines_docComments hentry.doc declarations),
          List.flatMap_singleton, Scan.readLines_append (hread declarations), hreads]
        simp

/-! ### Descriptions -/

namespace Source

variable {source : Source}

theorem IsWellFormed.readLines_parts (h : source.IsWellFormed) :
    ∃ ds, readMembers ds = .ok (source.entries.map Entry.member) ∧
      (∀ d ∈ ds, ∃ kind, keyword? d.text = some (.member kind)) ∧
      Scan.start.readLines (source.parts.flatMap (Text.splitOn (· = '\n'))) =
        .ok ⟨⟨source.doc, Keyword.interface.text ++ ' ' :: source.name⟩ :: ds, [], 0⟩ := by
  obtain ⟨ds, hmembers, hkeywords, hreads⟩ := exists_declarations h.entries
  have hbalanced : Balanced source.name :=
    Signature.balanced_iff.mpr (Signature.depthAfter_free h.bare 0)
  have hline : '\n' ∉ Keyword.interface.text ++ ' ' :: source.name := by
    have hkeyword : '\n' ∉ Keyword.interface.text := by decide
    simp [hkeyword, h.feedless]
  refine ⟨ds, hmembers, hkeywords, ?_⟩
  rw [parts, List.flatMap_append, List.flatMap_append, List.append_assoc, Scan.start,
    Scan.readLines_append (Scan.readLines_docComments h.doc []), List.flatMap_singleton,
    Text.splitOn_line hline,
    Scan.readLines_append (Scan.readLines_interface h.named h.trimmed hbalanced source.doc),
    hreads]
  rfl

/-- The lines of a text are read as the description, when they are those of the parts. -/
theorem IsWellFormed.parse_eq (h : source.IsWellFormed) {t : Text}
    (hlines : Scan.start.readLines (Text.splitOn (· = '\n') t) =
      Scan.start.readLines (source.parts.flatMap (Text.splitOn (· = '\n')))) :
    parse t = .ok source.description := by
  obtain ⟨ds, hmembers, hkeywords, hread⟩ := h.readLines_parts
  exact parse_eq_ok_iff.mpr ⟨_, ds, declarations_of_readLines (hlines.trans hread) hkeywords,
    interfaceName?_keyword h.named h.trimmed, hmembers, rfl⟩

/-- **A well-formed source is read as the description that it says**, whether or not its last
line ends with a line feed. -/
theorem parse_text (h : source.IsWellFormed) :
    parse source.text = .ok source.description ∧
      parse (source.text ++ ['\n']) = .ok source.description := by
  have hne : source.parts ≠ [] := by simp [parts]
  have hended := Text.splitOn_join hne []
  have hopen : Text.splitOn (· = '\n') source.text =
      source.parts.flatMap (Text.splitOn (· = '\n')) := by
    rw [Text.splitOn_append_mark (by simp)] at hended
    exact List.append_cancel_right hended
  refine ⟨h.parse_eq (by rw [hopen]), h.parse_eq ?_⟩
  rw [text, hended]
  exact Scan.readLines_append_blank _ _

/-- A field that begins with a keyword, in a signature over several lines. -/
theorem parse_text_nested :
    let entry : Entry :=
      ⟨⟨["Pings.", ""], .method, "Ping", "(\n  method: int,\n\n  at: (x: int)\n)->()"⟩, false⟩
    let source : Source := ⟨["A service."], "org.example.ping", [entry]⟩
    source.IsWellFormed ∧ parse source.text = .ok ⟨["A service."], "org.example.ping",
      [⟨["Pings.", ""], .method, "Ping", "(method: int, at: (x: int)) -> ()"⟩]⟩ := by
  intro entry source
  have hentry : entry.IsWellFormed := by
    refine ⟨?_, by decide, by decide, rfl, Signature.balanced_iff.mpr rfl, by decide⟩
    intro line hline
    have hlines : line = "Pings." ∨ line = "" := by simpa [entry] using hline
    rcases hlines with rfl | rfl <;> exact ⟨by decide, by decide⟩
  have hsource : source.IsWellFormed := by
    refine ⟨?_, by decide, by decide, by decide, by decide, ?_⟩
    · intro line hline
      rw [List.mem_singleton.mp hline]
      exact ⟨by decide, by decide⟩
    · intro e he
      rw [List.mem_singleton.mp he]
      exact hentry
  exact ⟨hsource, (parse_text hsource).1⟩

end Source

end VarlinkClient.Description
