/-
The layout of a description does not matter.

Blanks at the ends of lines, blank lines, comments inside of parentheses, and line feeds in place
of blanks inside of parentheses: none of them changes what is read (`parse_relaid`).

The first three do not even change the declarations.  A line feed does: the text of a declaration
gets blanks that it did not have, behind a parenthesis that the member has opened.  Declarations
that differ in such blanks only are alike, lines that are read afterwards keep them alike, and
alike declarations are read as the same member, because its name stands before the parenthesis
and its signature is put into canonical spacing.
-/
import Mathlib.Logic.Relation
import VarlinkClient.Proofs.Description.Sections

namespace VarlinkClient.Description

open Signature (compact depthAfter)

/-! ### Edits -/

/-- The keyword of the last declaration that begins on these lines. -/
def lastKeyword? (lines : List Text) : Option Keyword :=
  ((outer 0 lines).filter declares).getLast?.bind keyword?

/-- A change to the layout of lines. -/
inductive Edit : List Text → List Text → Prop
  /-- Blanks are put at the ends of a line. -/
  | pad (before after : List Text) (front line back : Text)
      (hfront : ∀ c ∈ front, isBlank c = true) (hback : ∀ c ∈ back, isBlank c = true) :
      Edit (before ++ line :: after) (before ++ (front ++ line ++ back) :: after)
  /-- A blank line is put in. -/
  | blank (before after : List Text) (line : Text) (hblank : ∀ c ∈ line, isBlank c = true) :
      Edit (before ++ after) (before ++ line :: after)
  /-- A comment is put in, inside of parentheses. -/
  | comment (before after : List Text) (line : Text) (hcomment : isComment line = true)
      (hinside : 0 < depthOf before) : Edit (before ++ after) (before ++ line :: after)
  /-- A line that is no comment is broken at a blank, inside of the parentheses of a member, and
  no comment begins after the blank. -/
  | broken (before after : List Text) (left right : Text) {c : Char} (hc : isBlank c = true)
      (hcomment : isComment (left ++ c :: right) = false)
      (hmember : ∃ kind, lastKeyword? (before ++ [left ++ c :: right]) = some (.member kind))
      (hinside : 0 < (depthAfter (depthOf before) left).getD 0)
      (hrest : isComment right = false) :
      Edit (before ++ (left ++ c :: right) :: after) (before ++ left :: right :: after)

/-- A text is changed in its layout. -/
def Relaid (t t' : Text) : Prop :=
  Edit (rows t) (rows t')

/-! ### What stands before a parenthesis -/

/-- The keyword of a text is found before its first parenthesis, or not at all. -/
theorem keyword?_front (front s s' : Text) :
    keyword? (front ++ '(' :: s) = keyword? (front ++ '(' :: s') := by
  have hopen : isBlank '(' = false := by decide
  have hnone : ∀ {t : Text}, '(' ∈ firstWord t → keyword? t = none := by
    intro t hmem
    cases hfound : keyword? t with
    | none => rfl
    | some keyword =>
        have hword : keyword.text = firstWord t := by simpa using List.find?_some hfound
        rw [← hword] at hmem
        exact absurd (keyword.isNameChar_of_mem _ hmem) (by decide)
  by_cases hall : ∀ c ∈ Text.trimLeft front, (!isBlank c) = true
  · have hmem : ∀ s : Text, '(' ∈ firstWord (front ++ '(' :: s) := by
      intro s
      rw [firstWord, Text.trimLeft_append_bare hopen, List.takeWhile_append_of_pos hall,
        List.takeWhile_cons_of_pos (by decide)]
      simp
    rw [hnone (hmem s), hnone (hmem s')]
  · have hword : ∀ s : Text, firstWord (front ++ '(' :: s) =
        (Text.trimLeft front).takeWhile fun c => !isBlank c := by
      intro s
      rw [firstWord, Text.trimLeft_append_bare hopen, List.takeWhile_append, if_neg]
      intro hlength
      have hself := List.IsPrefix.eq_of_length (List.takeWhile_prefix fun c => !isBlank c) hlength
      exact hall (List.takeWhile_eq_self_iff.mp hself)
    rw [keyword?, keyword?, hword, hword]

/-- A keyword that is found stands before the parenthesis as a whole. -/
theorem length_keyword_le {front s : Text} {keyword : Keyword}
    (h : keyword? (front ++ '(' :: s) = some keyword) : keyword.text.length ≤ front.length := by
  have hopen : isBlank '(' = false := by decide
  have hword : keyword.text = firstWord (front ++ '(' :: s) := by simpa using List.find?_some h
  rw [firstWord, Text.trimLeft_append_bare hopen, List.takeWhile_append] at hword
  split at hword
  · have hmem : '(' ∈ keyword.text := by
      rw [hword, List.takeWhile_cons_of_pos (by decide)]
      simp
    exact absurd (keyword.isNameChar_of_mem _ hmem) (by decide)
  · rw [hword]
    have htake := (List.takeWhile_prefix (fun c => !isBlank c) (l := Text.trimLeft front)).length_le
    have htrim := (List.dropWhile_suffix isBlank (l := front)).length_le
    exact htake.trans htrim

/-- A member whose parenthesis has been opened: its name stands before it. -/
theorem readMember_front_iff {doc : List Text} {front s : Text} {kind : MemberKind}
    (h : keyword? (front ++ '(' :: s) = some (.member kind)) {member : Member} :
    readMember ⟨doc, front ++ '(' :: s⟩ = .ok member ↔
      let rest := Text.trimLeft (front.drop kind.keyword.length)
      rest.takeWhile isNameChar ≠ [] ∧ member = ⟨doc, kind, rest.takeWhile isNameChar,
        Signature.normalise (rest.dropWhile isNameChar ++ '(' :: s)⟩ := by
  have hlength : kind.keyword.length ≤ front.length := length_keyword_le h
  have hopen : isBlank '(' = false := by decide
  have hfree : isNameChar '(' = false := by decide
  rw [readMember, h]
  dsimp only
  rw [List.drop_append_of_le_length hlength, Text.trimLeft_append_bare hopen,
    Text.takeWhile_append_stop hfree, Text.dropWhile_append_stop hfree]
  split
  next hnil =>
    exact ⟨fun hread => absurd hread (by simp), fun hmember => absurd hnil hmember.1⟩
  next hnamed =>
    exact ⟨fun hread => ⟨hnamed, (Except.ok.inj hread).symm⟩, fun hmember => by rw [hmember.2]⟩

/-! ### Declarations that differ in blanks -/

/-- The declarations are the same, or are of one member and differ in blanks behind a
parenthesis. -/
inductive Declaration.Alike : Declaration → Declaration → Prop
  | same (declaration : Declaration) : Alike declaration declaration
  | spaced (doc : List Text) {front s s' : Text} {kind : MemberKind}
      (hkeyword : keyword? (front ++ '(' :: s) = some (.member kind))
      (hcompact : compact s = compact s') :
      Alike ⟨doc, front ++ '(' :: s⟩ ⟨doc, front ++ '(' :: s'⟩

namespace Declaration.Alike

variable {d d' : Declaration}

theorem keyword?_eq (h : d.Alike d') : keyword? d'.text = keyword? d.text := by
  cases h with
  | same => rfl
  | spaced => exact keyword?_front _ _ _

/-- Alike declarations are read as the same member. -/
theorem readMember_eq (h : d.Alike d') {member : Member} (hread : readMember d = .ok member) :
    readMember d' = .ok member := by
  cases h with
  | same => exact hread
  | @spaced doc front s s' kind hkeyword hcompact =>
      have hsignature : ∀ t : Text,
          Signature.normalise (t ++ '(' :: s) = Signature.normalise (t ++ '(' :: s') := by
        intro t
        rw [Signature.normalise_eq_iff, Signature.compact_append, Signature.compact_append,
          Signature.compact_cons (by decide), Signature.compact_cons (by decide), hcompact]
      obtain ⟨hnamed, hmember⟩ := (readMember_front_iff hkeyword).mp hread
      refine (readMember_front_iff ((keyword?_front front s' s).trans hkeyword)).mpr ⟨hnamed, ?_⟩
      rw [hmember, hsignature]

/-- What names an interface is the same. -/
theorem eq_of_interfaceName? (h : d.Alike d') (hbare : Text.StartsBare d.text) {name : Text}
    (hname : interfaceName? d.text = some name) : d = d' := by
  cases h with
  | same => rfl
  | spaced _ hkeyword _ => exact absurd (keyword?_of_interfaceName? hname hkeyword hbare) (by simp)

/-- A line that is joined to both keeps them alike. -/
theorem append (h : d.Alike d') (line : Text) :
    Declaration.Alike { d with text := d.text ++ ' ' :: line }
      { d' with text := d'.text ++ ' ' :: line } := by
  cases h with
  | same => exact .same _
  | @spaced doc front s s' kind hkeyword hcompact =>
      have hkept : keyword? (front ++ '(' :: (s ++ ' ' :: line)) = some (.member kind) :=
        (keyword?_front front _ s).trans hkeyword
      have hline : compact (s ++ ' ' :: line) = compact (s' ++ ' ' :: line) := by
        rw [Signature.compact_append, Signature.compact_append, hcompact]
      have halike := Declaration.Alike.spaced doc hkept hline
      simpa using halike

end Declaration.Alike

theorem forall₂_continueLast {ds ds' : List Declaration}
    (h : List.Forall₂ Declaration.Alike ds ds') (line : Text) :
    List.Forall₂ Declaration.Alike (continueLast line ds) (continueLast line ds') := by
  induction h with
  | nil => exact .nil
  | cons hd hds ih =>
      cases hds with
      | nil => exact .cons (hd.append line) .nil
      | cons he hes => exact .cons hd ih

/-! ### Scans that differ in blanks -/

/-- The scans have come equally far, through declarations that are alike. -/
structure Scan.Alike (scan scan' : Scan) : Prop where
  declarations : List.Forall₂ Declaration.Alike scan.declarations scan'.declarations
  doc : scan'.doc = scan.doc
  depth : scan'.depth = scan.depth

namespace Scan

theorem Alike.refl (scan : Scan) : scan.Alike scan :=
  ⟨List.forall₂_same.mpr fun d _ => .same d, rfl, rfl⟩

variable {scan scan' next : Scan}

/-- A line that is placed in one of them is placed in the other. -/
theorem Alike.place (h : scan.Alike scan') {line : Text} {placed : Scan}
    (hplaced : scan.place line = .ok placed) :
    ∃ placed', scan'.place line = .ok placed' ∧ placed.Alike placed' := by
  rcases place_cases hplaced with ⟨hdepth, hdeclares, rfl⟩ | ⟨hdepth, rfl⟩
  · refine ⟨⟨scan'.declarations ++ [⟨scan'.doc, line⟩], [], scan'.depth⟩, ?_, ?_⟩
    · have hkeyword : (keyword? line).isSome = true := hdeclares
      rw [Scan.place, if_pos (h.depth.trans hdepth), if_pos hkeyword]
    · refine ⟨forall₂_concat h.declarations ?_, rfl, h.depth⟩
      rw [h.doc]
      exact .same _
  · refine ⟨{ scan' with declarations := continueLast line scan'.declarations }, ?_,
      forall₂_continueLast h.declarations line, h.doc, h.depth⟩
    rw [Scan.place, if_neg (by rw [h.depth]; exact hdepth)]

/-- **A line keeps scans alike.** -/
theorem Alike.readLine (h : scan.Alike scan') {line : Text}
    (hread : scan.readLine (Text.trim line) = .ok next) :
    ∃ next', scan'.readLine (Text.trim line) = .ok next' ∧ next.Alike next' := by
  rcases readLine_cases hread with ⟨hblank, rfl⟩ | ⟨hcomment, rfl⟩ | ⟨htext, placed, depth, hplaced,
    hdepth, rfl⟩
  · rw [hblank]
    exact ⟨scan', rfl, h⟩
  · obtain ⟨rest, hrest⟩ := List.head?_eq_some_iff.mp (of_decide_eq_true hcomment)
    by_cases hzero : scan.depth = 0
    · refine ⟨{ scan' with doc := scan'.doc ++ [said line] }, ?_, ?_⟩
      · rw [said, hrest, List.tail_cons, Scan.readLine, if_pos (h.depth.trans hzero)]
      · rw [if_pos hzero]
        exact ⟨h.declarations, by rw [h.doc], h.depth⟩
    · refine ⟨scan', ?_, ?_⟩
      · rw [hrest, Scan.readLine, if_neg (by rw [h.depth]; exact hzero)]
      · rw [if_neg hzero]
        exact h
  · obtain ⟨placed', hplaced', halike⟩ := h.place hplaced
    have hdepth' : depthAfter scan'.depth (Text.trim line) = some depth := by
      rw [h.depth, hdepth]
    exact ⟨{ placed' with depth }, readLine_text htext hplaced' hdepth',
      halike.declarations, halike.doc, rfl⟩

/-- **So do all lines.** -/
theorem Alike.readLines {lines : List Text} (h : scan.Alike scan')
    (hread : scan.readLines lines = .ok next) :
    ∃ next', scan'.readLines lines = .ok next' ∧ next.Alike next' := by
  induction lines generalizing scan scan' with
  | nil =>
      rw [← Except.ok.inj hread]
      exact ⟨scan', rfl, h⟩
  | cons line lines ih =>
      rw [Scan.readLines] at hread
      cases hline : scan.readLine (Text.trim line) with
      | error error => rw [hline] at hread; exact absurd hread (by simp)
      | ok middle =>
          rw [hline] at hread
          obtain ⟨middle', hline', hmiddle⟩ := h.readLine hline
          obtain ⟨next', hread', hnext⟩ := ih hmiddle hread
          exact ⟨next', by rw [readLines_cons hline', hread'], hnext⟩

/-- What is read of some lines and others is read of the ones and then of the others. -/
theorem exists_of_readLines_append {before after : List Text}
    (h : scan.readLines (before ++ after) = .ok next) :
    ∃ middle, scan.readLines before = .ok middle ∧ middle.readLines after = .ok next := by
  induction before generalizing scan with
  | nil => exact ⟨scan, rfl, h⟩
  | cons line before ih =>
      rw [List.cons_append, Scan.readLines] at h
      cases hline : scan.readLine (Text.trim line) with
      | error error => rw [hline] at h; exact absurd h (by simp)
      | ok middle =>
          rw [hline] at h
          obtain ⟨last, hbefore, hafter⟩ := ih h
          exact ⟨last, by rw [readLines_cons hline, hbefore], hafter⟩

end Scan

/-! ### Broken lines -/

/-- A line inside of parentheses that is no comment is joined to the last declaration, but for
blanks. -/
theorem Continues.single {depth next : Nat} {line : Text} (hinside : 0 < depth)
    (hcomment : isComment line = false) (hdepth : depthAfter depth line = some next) :
    Continues depth [line] next ∧ compact (joined [line]) = compact line := by
  have hhead : (Text.trim line).head? ≠ some '#' := by simpa [isComment] using hcomment
  obtain ⟨hcontinues, hjoined⟩ := Continues.cons hinside hhead hdepth (.nil next)
  refine ⟨hcontinues, hjoined.trans ?_⟩
  simp [joined]

/-- What is broken off at a blank is no more of a comment than the whole. -/
theorem isComment_of_append {left rest : Text} (h : isComment (left ++ rest) = false) :
    isComment left = false := by
  by_cases hblank : Text.trim left = []
  · simp [isComment, hblank]
  · rw [isComment, Text.head?_trim_of_front (List.prefix_append left rest) hblank,
      ← Text.head?_trim]
    exact h

/-- The depth of a line broken at a blank is counted through its two parts. -/
theorem exists_depth_broken {depth last : Nat} {left right : Text} {c : Char}
    (hc : isBlank c = true) (hinside : 0 < (depthAfter depth left).getD 0)
    (h : depthAfter depth (left ++ c :: right) = some last) :
    ∃ middle, 0 < middle ∧ depthAfter depth left = some middle ∧
      depthAfter middle right = some last := by
  rw [Signature.depthAfter_append] at h
  obtain ⟨middle, hleft, hrest⟩ := Option.bind_eq_some_iff.mp h
  rw [Signature.depthAfter_cons_plain (Signature.isParenthesis_of_blank hc)] at hrest
  rw [hleft, Option.getD_some] at hinside
  exact ⟨middle, hinside, hleft, hrest⟩

namespace Scan

variable {scan next : Scan} {left right : Text} {c : Char}

/-- A line that was read has a depth at its end. -/
theorem exists_depth_of_readLine {line : Text} (hcomment : isComment line = false)
    (hread : scan.readLine (Text.trim line) = .ok next) :
    ∃ depth, depthAfter scan.depth line = some depth := by
  rcases readLine_cases hread with ⟨hblank, -⟩ | ⟨hmark, -⟩ | ⟨-, placed, depth, -, hdepth, -⟩
  · exact ⟨scan.depth, depthAfter_blank hblank _⟩
  · rw [hcomment] at hmark
    cases hmark
  · exact ⟨depth, by rw [← depthAfter_trim]; exact hdepth⟩

/-- A line outside of parentheses that is broken inside of them: the declaration that it begins
differs in blanks only. -/
theorem exists_broken_outside (hc : isBlank c = true) (hdepth : scan.depth = 0)
    (hcomment : isComment (left ++ c :: right) = false) (hrest : isComment right = false)
    {kind : MemberKind} (hkeyword : keyword? (left ++ c :: right) = some (.member kind))
    (hinside : 0 < (depthAfter scan.depth left).getD 0)
    (hread : scan.readLine (Text.trim (left ++ c :: right)) = .ok next) :
    ∃ next', scan.readLines [left, right] = .ok next' ∧ next.Alike next' := by
  obtain ⟨last, hwhole⟩ := exists_depth_of_readLine hcomment hread
  obtain ⟨middle, hpos, hleft, hright⟩ := exists_depth_broken hc hinside hwhole
  rw [hdepth] at hleft
  obtain ⟨front, back, rfl⟩ := List.append_of_mem (mem_of_depthAfter hleft (Nat.ne_of_gt hpos))
  have hopen : isBlank '(' = false := by decide
  -- Both lines begin with the same text up to the parenthesis.
  have htrim : Text.trim (front ++ '(' :: back ++ c :: right) =
      Text.trimLeft front ++ '(' :: Text.trimRight (back ++ c :: right) := by
    rw [List.append_assoc, List.cons_append, Text.trim_append_bare hopen]
  have htrimLeft : Text.trim (front ++ '(' :: back) =
      Text.trimLeft front ++ '(' :: Text.trimRight back := Text.trim_append_bare hopen front back
  rw [← keyword?_trim, htrim] at hkeyword
  have hkeywordLeft : keyword? (Text.trim (front ++ '(' :: back)) = some (.member kind) := by
    rw [htrimLeft]
    exact (keyword?_front _ _ _).trans hkeyword
  have htext : isText (Text.trim (front ++ '(' :: back)) = true := by
    refine isText_iff.mpr ⟨by rw [htrimLeft]; simp, ?_⟩
    simpa [isComment] using isComment_of_append hcomment
  have hplacedLeft : scan.place (Text.trim (front ++ '(' :: back)) =
      .ok ⟨scan.declarations ++ [⟨scan.doc, Text.trim (front ++ '(' :: back)⟩], [],
        scan.depth⟩ := by
    rw [Scan.place, if_pos hdepth, hkeywordLeft, if_pos (by simp)]
  have hreadLeft := readLine_text htext hplacedLeft
    (by rw [depthAfter_trim, hdepth]; exact hleft)
  obtain ⟨hcontinues, hjoined⟩ := Continues.single hpos hrest hright
  refine ⟨_, by rw [readLines_cons hreadLeft]; exact readLines_continues hcontinues _ _ _, ?_⟩
  -- The line as it was: it is placed, as it is neither blank nor a comment.
  rcases readLine_cases hread with ⟨hblank, -⟩ | ⟨hmark, -⟩ | ⟨-, placed, depth, hplaced, hend, rfl⟩
  · rw [htrim] at hblank
    simp at hblank
  · rw [hcomment] at hmark
    cases hmark
  · rw [depthAfter_trim, hwhole] at hend
    obtain rfl : last = depth := Option.some.inj hend
    rcases place_cases hplaced with ⟨-, -, rfl⟩ | ⟨hnot, -⟩
    · have hcompact : compact (Text.trimRight (back ++ c :: right)) =
          compact (Text.trimRight back ++ joined [right]) := by
        rw [Signature.compact_trimRight, Signature.compact_append, Signature.compact_append,
          Signature.compact_cons_blank hc, Signature.compact_trimRight, hjoined]
      have halike := Declaration.Alike.spaced scan.doc hkeyword hcompact
      refine ⟨forall₂_concat (Scan.Alike.refl scan).declarations ?_, rfl, rfl⟩
      dsimp only
      rw [htrim, htrimLeft, List.append_assoc, List.cons_append]
      exact halike
    · exact absurd hdepth hnot

/-- A line inside of parentheses that is broken there: the declaration that it continues differs
in blanks only. -/
theorem exists_broken_inside (hc : isBlank c = true) (hsound : scan.IsSound)
    (hdepth : scan.depth ≠ 0) (hcomment : isComment (left ++ c :: right) = false)
    (hrest : isComment right = false) {kind : MemberKind}
    (hkeyword : ∀ d, scan.declarations.getLast? = some d → keyword? d.text = some (.member kind))
    (hinside : 0 < (depthAfter scan.depth left).getD 0)
    (hread : scan.readLine (Text.trim (left ++ c :: right)) = .ok next) :
    ∃ next', scan.readLines [left, right] = .ok next' ∧ next.Alike next' := by
  obtain ⟨last, hwhole⟩ := exists_depth_of_readLine hcomment hread
  obtain ⟨middle, hpos, hleft, hright⟩ := exists_depth_broken hc hinside hwhole
  cases hsound with
  | start => exact absurd rfl hdepth
  | @going before declaration doc depth hbefore hlast hlastDepth =>
      have hbelow : 0 < depth := Nat.pos_of_ne_zero hdepth
      obtain ⟨hone, hjoined⟩ := Continues.single hbelow hcomment hwhole
      obtain ⟨hfirst, hjoinedLeft⟩ :=
        Continues.single hbelow (isComment_of_append hcomment) hleft
      obtain ⟨hsecond, hjoinedRight⟩ := Continues.single hpos hrest hright
      have hbroken := readLines_continues (hfirst.append hsecond) before declaration doc
      refine ⟨_, hbroken, ?_⟩
      have hnext := readLines_continues hone before declaration doc
      rw [readLines_cons hread] at hnext
      obtain rfl := Except.ok.inj hnext
      obtain ⟨front, back, htext⟩ :=
        List.append_of_mem (mem_of_depthAfter hlastDepth hdepth)
      have hcompact : compact (back ++ joined [left ++ c :: right]) =
          compact (back ++ joined ([left] ++ [right])) := by
        rw [joined_append, Signature.compact_append, Signature.compact_append,
          Signature.compact_append, hjoined, hjoinedLeft, hjoinedRight, Signature.compact_append,
          Signature.compact_cons_blank hc]
      have hmember : keyword? (front ++ '(' :: (back ++ joined [left ++ c :: right])) =
          some (.member kind) := by
        have hfound := hkeyword declaration (by simp)
        rw [htext] at hfound
        exact (keyword?_front _ _ _).trans hfound
      have halike := Declaration.Alike.spaced declaration.doc hmember hcompact
      refine ⟨forall₂_concat (List.forall₂_same.mpr fun d _ => .same d) ?_, rfl, rfl⟩
      rw [htext, List.append_assoc, List.cons_append, List.append_assoc, List.cons_append]
      exact halike

end Scan

/-! ### All edits -/

/-- The last declaration is that of the last line with a keyword. -/
theorem Scan.IsAfter.keyword?_getLast? {scan : Scan} {lines : List Text}
    (h : scan.IsAfter lines) {d : Declaration} (hd : scan.declarations.getLast? = some d) :
    lastKeyword? lines = keyword? d.text := by
  obtain ⟨-, parts, after, hcut, -, hparts⟩ := h
  obtain ⟨front, hfront⟩ := List.getLast?_eq_some_iff.mp hd
  rw [hfront] at hparts
  obtain ⟨parts', part, rfl, -, hpart⟩ := exists_concat_of_forall₂ hparts
  rw [lastKeyword?, hcut.filter_declares, hpart.keyword?_eq (hcut.sound part (by simp))]
  simp

/-- The scan of lines that are read before others. -/
theorem Scan.exists_isAfter {before after : List Text}
    (hlines : ∀ line ∈ before, '\n' ∉ line) {scan : Scan}
    (hread : Scan.start.readLines (before ++ after) = .ok scan) :
    ∃ middle, Scan.start.readLines before = .ok middle ∧ middle.readLines after = .ok scan ∧
      middle.IsAfter before ∧ middle.IsSound := by
  obtain ⟨middle, hbefore, hafter⟩ := exists_of_readLines_append hread
  exact ⟨middle, hbefore, hafter, isAfter_of_readLines hlines hbefore,
    Scan.IsSound.readLines hlines (.start []) hbefore⟩

/-- A line of a member that is broken inside of parentheses. -/
theorem Scan.exists_broken {scan next : Scan} {before : List Text} {left right : Text} {c : Char}
    (hafter : scan.IsAfter before) (hsound : scan.IsSound) (hc : isBlank c = true)
    (hcomment : isComment (left ++ c :: right) = false) {kind : MemberKind}
    (hmember : lastKeyword? (before ++ [left ++ c :: right]) = some (.member kind))
    (hinside : 0 < (depthAfter (depthOf before) left).getD 0) (hrest : isComment right = false)
    (hread : scan.readLine (Text.trim (left ++ c :: right)) = .ok next) :
    ∃ next', scan.readLines [left, right] = .ok next' ∧ next.Alike next' := by
  rw [← hafter.depth] at hinside
  by_cases hdepth : scan.depth = 0
  · -- The line begins a declaration, so it has a keyword, and that is the last one.
    have hkeyword : keyword? (left ++ c :: right) = some (.member kind) := by
      rcases readLine_cases hread with ⟨hblank, -⟩ | ⟨hmark, -⟩ | ⟨-, placed, depth, hplaced, -⟩
      · have hnil := Text.trim_eq_nil_iff.mp hblank
        rw [List.filter_append] at hnil
        have hleft := Text.trim_eq_nil_iff.mpr (List.append_eq_nil_iff.mp hnil).1
        rw [depthAfter_blank hleft, hdepth] at hinside
        exact absurd hinside (by simp)
      · rw [hcomment] at hmark
        cases hmark
      · rcases place_cases hplaced with ⟨-, hdeclares, -⟩ | ⟨hnot, -⟩
        · have hfound : declares (left ++ c :: right) = true := by
            rw [declares, ← keyword?_trim]
            exact hdeclares
          rw [lastKeyword?, outer_concat_outside (by rw [← hafter.depth, hdepth]),
            List.filter_append, List.filter_cons_of_pos hfound] at hmember
          simpa using hmember
        · exact absurd hdepth hnot
    exact exists_broken_outside hc hdepth hcomment hrest hkeyword hinside hread
  · have hlast : ∀ d, scan.declarations.getLast? = some d →
        keyword? d.text = some (.member kind) := by
      intro d hd
      rw [← hafter.keyword?_getLast? hd, ← hmember, lastKeyword?, lastKeyword?,
        outer_concat_inside (by rw [← hafter.depth]; exact hdepth)]
    exact exists_broken_inside hc hsound hdepth hcomment hrest hlast hinside hread

/-- **After an edit the lines are read alike.** -/
theorem Edit.exists_alike {lines lines' : List Text} (hedit : Edit lines lines')
    (hlines : ∀ line ∈ lines, '\n' ∉ line) {scan : Scan}
    (hread : Scan.start.readLines lines = .ok scan) :
    ∃ scan', Scan.start.readLines lines' = .ok scan' ∧ scan.Alike scan' := by
  cases hedit with
  | pad before after front line back hfront hback =>
      refine ⟨scan, ?_, Scan.Alike.refl scan⟩
      rw [← hread]
      refine Scan.readLines_congr ?_ Scan.start
      rw [List.map_append, List.map_append, List.map_cons, List.map_cons,
        Text.trim_append_blanks hfront hback]
  | blank before after line hblank =>
      obtain ⟨middle, hbefore, hafter, -⟩ :=
        Scan.exists_isAfter (fun l hl => hlines l (List.mem_append_left _ hl)) hread
      refine ⟨scan, ?_, Scan.Alike.refl scan⟩
      rw [Scan.readLines_append hbefore,
        Scan.readLines_cons (by rw [Text.trim_blanks hblank]; rfl), hafter]
  | comment before after line hcomment hinside =>
      obtain ⟨middle, hbefore, hafter, hisAfter, -⟩ :=
        Scan.exists_isAfter (fun l hl => hlines l (List.mem_append_left _ hl)) hread
      refine ⟨scan, ?_, Scan.Alike.refl scan⟩
      rw [Scan.readLines_append hbefore, Scan.readLines_cons, hafter]
      refine Scan.readLine_skip (by rw [hisAfter.depth]; exact hinside) ?_
      rw [← Bool.not_eq_true, isText_iff]
      exact fun htext => htext.2 (of_decide_eq_true hcomment)
  | broken before after left right hc hcomment hmember hinside hrest =>
      obtain ⟨kind, hkind⟩ := hmember
      obtain ⟨middle, hbefore, hafter, hisAfter, hsound⟩ :=
        Scan.exists_isAfter (fun l hl => hlines l (List.mem_append_left _ hl)) hread
      rw [Scan.readLines] at hafter
      cases hline : middle.readLine (Text.trim _) with
      | error error => rw [hline] at hafter; exact absurd hafter (by simp)
      | ok next =>
          rw [hline] at hafter
          obtain ⟨next', hparts, halike⟩ :=
            Scan.exists_broken hisAfter hsound hc hcomment hkind hinside hrest hline
          obtain ⟨scan', hlast, hscan⟩ := halike.readLines hafter
          refine ⟨scan', ?_, hscan⟩
          rw [Scan.readLines_append hbefore, ← hlast]
          exact Scan.readLines_append hparts after

/-! ### What is read -/

/-- Alike declarations are read as the same members. -/
theorem readMembers_of_alike {ds ds' : List Declaration}
    (h : List.Forall₂ Declaration.Alike ds ds') {members : List Member}
    (hread : readMembers ds = .ok members) : readMembers ds' = .ok members := by
  induction h generalizing members with
  | nil => exact hread
  | @cons d d' ds ds' hd hds ih =>
      unfold readMembers at hread ⊢
      cases hmember : readMember d with
      | error error => rw [hmember] at hread; exact absurd hread (by simp)
      | ok member =>
          rw [hmember] at hread
          rw [hd.readMember_eq hmember]
          cases hmembers : readMembers ds with
          | error error => simp [hmembers] at hread
          | ok others =>
              rw [hmembers] at hread
              rw [ih hmembers]
              exact hread

/-- No declaration becomes that of an interface. -/
theorem forall_keyword?_of_alike {ds ds' : List Declaration} {keyword : Keyword}
    (h : List.Forall₂ Declaration.Alike ds ds')
    (hds : ∀ d ∈ ds, keyword? d.text ≠ some keyword) :
    ∀ d ∈ ds', keyword? d.text ≠ some keyword := by
  induction h with
  | nil => exact hds
  | cons hd _ ih =>
      intro e he
      rcases List.mem_cons.mp he with rfl | he
      · rw [hd.keyword?_eq]
        exact hds _ List.mem_cons_self
      · exact ih (fun d hmem => hds d (List.mem_cons_of_mem _ hmem)) e he

/-- **One edit** makes no difference to what is read. -/
theorem parse_of_relaid {t t' : Text} {description : Description} (hedit : Relaid t t')
    (h : parse t = .ok description) : parse t' = .ok description := by
  obtain ⟨d, ds, hds, hname, hmembers, hdoc⟩ := parse_eq_ok_iff.mp h
  have hbare : Text.StartsBare d.text := (declarations_sound hds d List.mem_cons_self).1.bare
  obtain ⟨doc, hread, hunique⟩ := declarations_eq_ok_iff.mp hds
  obtain ⟨⟨ds', doc', depth'⟩, hread', halike⟩ :=
    hedit.exists_alike (fun line hline => lineFeed_notMem_of_mem_rows hline) hread
  obtain ⟨hdeclarations, -, hdepth⟩ := halike
  obtain rfl : depth' = 0 := hdepth
  cases hdeclarations with
  | @cons _ d' _ ds' hfirst hothers =>
      obtain rfl := hfirst.eq_of_interfaceName? hbare hname
      refine parse_eq_ok_iff.mpr ⟨d, ds', declarations_eq_ok_iff.mpr ⟨doc', hread', ?_⟩, hname,
        readMembers_of_alike hothers hmembers, hdoc⟩
      exact forall_keyword?_of_alike hothers hunique

/-- **The layout of a description does not matter.**  What is read of a text is read of every
text that comes of it by edits to its layout. -/
theorem parse_relaid {t t' : Text} {description : Description}
    (h : parse t = .ok description) (hedits : Relation.ReflTransGen Relaid t t') :
    parse t' = .ok description := by
  induction hedits with
  | refl => exact h
  | tail _ hedit ih => exact parse_of_relaid hedit ih

/-- A line is broken inside of the parentheses, a comment and a blank line are put in, and a line
is indented. -/
theorem parse_relaid_nested :
    let t : Text := "interface a.b\nmethod P(x: int) -> ()"
    let t' : Text := "interface a.b\n \nmethod P(x:\n  # (\n\tint) -> ()"
    let description : Description := ⟨[], "a.b", [⟨[], .method, "P", "(x: int) -> ()"⟩]⟩
    (parse t = .ok description ∧ Relation.ReflTransGen Relaid t t') ∧
      parse t' = .ok description := by
  intro t t' description
  have hparse : parse t = .ok description := by decide
  have hbroken : Relaid t "interface a.b\nmethod P(x:\nint) -> ()" :=
    .broken ["interface a.b"] [] "method P(x:" "int) -> ()" (c := ' ')
      (by decide) (by decide) ⟨.method, by decide⟩ (by decide) (by decide)
  have hcomment : Relaid "interface a.b\nmethod P(x:\nint) -> ()"
      "interface a.b\nmethod P(x:\n  # (\nint) -> ()" :=
    .comment ["interface a.b", "method P(x:"] ["int) -> ()"] "  # (" (by decide)
      (by decide)
  have hblank : Relaid "interface a.b\nmethod P(x:\n  # (\nint) -> ()"
      "interface a.b\n \nmethod P(x:\n  # (\nint) -> ()" :=
    .blank ["interface a.b"] ["method P(x:", "  # (", "int) -> ()"] " " (by decide)
  have hpad : Relaid "interface a.b\n \nmethod P(x:\n  # (\nint) -> ()" t' :=
    .pad ["interface a.b", " ", "method P(x:", "  # ("] [] "\t" "int) -> ()" [] (by decide)
      (by decide)
  have hedits : Relation.ReflTransGen Relaid t t' :=
    (((Relation.ReflTransGen.single hbroken).tail hcomment).tail hblank).tail hpad
  exact ⟨⟨hparse, hedits⟩, parse_relaid hparse hedits⟩

end VarlinkClient.Description
