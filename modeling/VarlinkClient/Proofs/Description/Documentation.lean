/-
Nothing that is documented or declared gets lost.

The lines of a description that begin outside of parentheses are those of its sections, and
comments behind the last of them.  The first section is that of the interface, the others are
those of its members, one each and in order: each has the comments of its section as
documentation, and the kind and the name that the line of the section says (`parse_sections`).
-/
import VarlinkClient.Proofs.Description.Sections

namespace VarlinkClient.Description

open Signature (Balanced)

/-! ### Comments in front of declarations -/

/-- The comments that stand before the last line with a keyword. -/
def documenting (lines : List Text) : List Text :=
  (lines.reverse.dropWhile fun line => !declares line).reverse.filter isComment

/-- Lines that would be dropped anyway may be left out before. -/
theorem filter_dropWhile {α : Type} {p q : α → Bool} (h : ∀ a, q a = false → p a = true)
    (as : List α) : (as.dropWhile p).filter q = (as.filter q).dropWhile p := by
  induction as with
  | nil => rfl
  | cons a as ih =>
      cases hp : p a with
      | true =>
          rw [List.dropWhile_cons_of_pos hp, ih]
          cases hq : q a with
          | true => rw [List.filter_cons_of_pos hq, List.dropWhile_cons_of_pos hp]
          | false => rw [List.filter_cons_of_neg (by simp [hq])]
      | false =>
          have hq : q a = true := by
            by_contra hnot
            rw [h a (by simpa using hnot)] at hp
            cases hp
          rw [List.dropWhile_cons_of_neg (by simp [hp]), List.filter_cons_of_pos hq,
            List.dropWhile_cons_of_neg (by simp [hp])]

theorem isComment_of_declares {line : Text} (h : declares line = true) :
    isComment line = false := by
  by_contra hcomment
  rw [declares_of_isComment (by simpa using hcomment)] at h
  cases h

namespace IsCut

variable {lines : List Text} {parts : List Section} {after : List Text}

/-- What a section adds to the comments are its own. -/
theorem filter_lines (h : ∀ part ∈ parts, part.IsSound) :
    (parts.flatMap Section.lines).filter isComment = parts.flatMap Section.comments := by
  induction parts with
  | nil => rfl
  | cons part parts ih =>
      have hsound := h part List.mem_cons_self
      have hline := isComment_of_declares hsound.declares
      rw [List.flatMap_cons, List.flatMap_cons, List.filter_append,
        ih fun p hp => h p (List.mem_cons_of_mem _ hp), Section.lines, List.filter_append,
        List.filter_eq_self.mpr hsound.comments, List.filter_cons_of_neg (by simp [hline]),
        List.filter_nil, List.append_nil]

/-- **The comments of the sections are those before the last line with a keyword.** -/
theorem documenting_eq (h : IsCut lines parts after) (hne : parts ≠ []) :
    documenting lines = parts.flatMap Section.comments := by
  obtain ⟨front, last, rfl⟩ : ∃ front last, parts = front ++ [last] :=
    ⟨parts.dropLast, parts.getLast hne, (List.dropLast_append_getLast hne).symm⟩
  have hblank : ∀ line, decide (Text.trim line ≠ []) = false → (!declares line) = true := by
    intro line hline
    have hnil : Text.trim line = [] := by simpa using hline
    rw [declares_eq_false (by rw [hnil]; rfl)]
    rfl
  -- Blank lines are no comments, so they may be left out before the lines at the end are.
  have hskip : documenting lines =
      (((lines.filter fun line => Text.trim line ≠ []).reverse.dropWhile
        fun line => !declares line).reverse).filter isComment := by
    rw [documenting, ← List.filter_reverse, ← filter_dropWhile hblank, ← List.filter_reverse,
      List.filter_filter]
    refine List.filter_congr fun line _ => ?_
    cases hcomment : isComment line with
    | false => rfl
    | true =>
        have hne : Text.trim line ≠ [] := by
          intro hnil
          simp [isComment, hnil] at hcomment
        simp [hne]
  have hlast : declares last.line = true := (h.sound last (by simp)).declares
  have hdrop : ∀ line ∈ after.reverse, (!declares line) = true := by
    intro line hline
    simp [declares_of_isComment (h.comments line (List.mem_reverse.mp hline))]
  have hfront : (front ++ [last]).flatMap Section.lines =
      (front.flatMap Section.lines ++ last.comments) ++ [last.line] := by
    simp [Section.lines]
  have hreverse : ((front ++ [last]).flatMap Section.lines ++ after).reverse =
      after.reverse ++
        (last.line :: (front.flatMap Section.lines ++ last.comments).reverse) := by
    rw [hfront]
    simp
  rw [hskip, h.lines_eq, hreverse, List.dropWhile_append_of_pos hdrop,
    List.dropWhile_cons_of_neg (by simp [hlast]), ← filter_lines h.sound, hfront]
  simp

end IsCut

/-! ### Members and their lines -/

/-- The text begins the declaration of the member: after the keyword and blanks it has the
name, and does not go on like one. -/
def BeginsMember (t : Text) (member : Member) : Prop :=
  ∃ blanks rest, t = member.kind.keyword ++ blanks ++ member.name ++ rest ∧
    (blanks ≠ [] ∧ ∀ c ∈ blanks, isBlank c = true) ∧
    (member.name ≠ [] ∧ ∀ c ∈ member.name, isNameChar c = true) ∧
    ∀ c, rest.head? = some c → isNameChar c = false

/-- A member was read from its keyword and its name, in front of its signature. -/
theorem exists_of_readMember {declaration : Declaration} {member : Member}
    (hbare : Text.StartsBare declaration.text) (h : readMember declaration = .ok member) :
    member.doc = declaration.doc ∧ BeginsMember declaration.text member := by
  unfold readMember at h
  split at h
  next kind hkeyword =>
    obtain ⟨rest, htext, hhead⟩ := exists_keyword_blank hkeyword hbare
    have hdrop : declaration.text.drop kind.keyword.length = rest := by
      rw [htext]
      exact List.drop_left
    rw [hdrop] at h
    dsimp only at h
    split at h
    next => exact absurd h (by simp)
    next hnamed =>
      rw [← Except.ok.inj h]
      obtain ⟨blanks, hrest, hblanks⟩ := Text.exists_trimLeft rest
      have hname : ∀ c ∈ (Text.trimLeft rest).takeWhile isNameChar, isNameChar c = true :=
        fun c hc => List.mem_takeWhile_imp hc
      have hsplit : (Text.trimLeft rest).takeWhile isNameChar ++
          (Text.trimLeft rest).dropWhile isNameChar = Text.trimLeft rest :=
        List.takeWhile_append_dropWhile
      refine ⟨rfl, blanks, (Text.trimLeft rest).dropWhile isNameChar, ?_, ⟨?_, hblanks⟩,
        ⟨hnamed, hname⟩, fun c hc => ?_⟩
      · rw [List.append_assoc, List.append_assoc, hsplit, ← hrest]
        exact htext
      · -- The name is no part of the keyword, as its first character is not blank.
        intro hnil
        obtain ⟨c, letters, hletters⟩ := List.exists_cons_of_ne_nil hnamed
        have hc : isNameChar c = true := hname c (by simp [hletters])
        have hfirst : rest.head? = some c := by
          rw [hrest, hnil, List.nil_append, ← hsplit, hletters]
          rfl
        have hblank := hhead c hfirst
        rw [isBlank_of_isNameChar hc] at hblank
        cases hblank
      · have hnot := List.head?_dropWhile_not isNameChar (Text.trimLeft rest)
        rw [hc] at hnot
        simpa using hnot
  next => exact absurd h (by simp)

/-- A parenthesis comes after the name. -/
theorem BeginsMember.of_append {line more : Text} {member : Member} (hopen : '(' ∈ line)
    (h : BeginsMember (line ++ more) member) : BeginsMember line member := by
  obtain ⟨blanks, rest, htext, hblanks, hname, hrest⟩ := h
  have hfree : '(' ∉ member.kind.keyword ++ blanks ++ member.name := by
    have hkeyword : '(' ∉ member.kind.keyword := by cases member.kind <;> decide
    have hblank : '(' ∉ blanks := fun hmem => absurd (hblanks.2 _ hmem) (by decide)
    have hletters : '(' ∉ member.name := fun hmem => absurd (hname.2 _ hmem) (by decide)
    simp [hkeyword, hblank, hletters]
  rcases List.append_eq_append_iff.mp htext with ⟨short, hshort, -⟩ | ⟨after, hline, hafter⟩
  · rw [hshort] at hfree
    exact absurd (List.mem_append_left _ hopen) hfree
  · refine ⟨blanks, after, hline, hblanks, hname, fun c hc => hrest c ?_⟩
    rw [hafter, List.head?_append, hc]
    rfl

/-- A member begins on the line of its section. -/
theorem Declaration.IsOf.beginsMember {declaration : Declaration} {part : Section}
    {member : Member} (h : declaration.IsOf part) (hbare : Text.StartsBare declaration.text)
    (hread : readMember declaration = .ok member) :
    BeginsMember (Text.trim part.line) member ∧ member.doc = part.doc := by
  obtain ⟨hdoc, hbegins⟩ := exists_of_readMember hbare hread
  refine ⟨?_, hdoc.trans h.doc⟩
  rcases h.text with htext | ⟨more, htext, hopen⟩
  · rw [← htext]
    exact hbegins
  · rw [htext] at hbegins
    exact hbegins.of_append hopen

/-- Members are those of the sections, one each and in order. -/
theorem forall₂_of_readMembers {ds : List Declaration} {parts : List Section}
    {members : List Member} (h : List.Forall₂ Declaration.IsOf ds parts)
    (hbare : ∀ d ∈ ds, Text.StartsBare d.text) (hread : readMembers ds = .ok members) :
    List.Forall₂ (fun member part => BeginsMember (Text.trim part.line) member ∧
      member.doc = part.doc) members parts := by
  induction h generalizing members with
  | nil =>
      rw [← Except.ok.inj hread]
      exact .nil
  | @cons d part ds parts hd hds ih =>
      unfold readMembers at hread
      cases hmember : readMember d with
      | error error => rw [hmember] at hread; exact absurd hread (by simp)
      | ok member =>
          rw [hmember] at hread
          cases hmembers : readMembers ds with
          | error error => simp [hmembers] at hread
          | ok others =>
              simp only [hmembers] at hread
              rw [← Except.ok.inj hread]
              exact .cons (hd.beginsMember (hbare d List.mem_cons_self) hmember)
                (ih (fun e he => hbare e (List.mem_cons_of_mem _ he)) hmembers)

/-! ### Descriptions -/

/-- The documentation of all members is that of all sections. -/
theorem flatMap_doc {members : List Member} {parts : List Section}
    (h : List.Forall₂ (fun member part => BeginsMember (Text.trim part.line) member ∧
      member.doc = part.doc) members parts) :
    members.flatMap Member.doc = (parts.flatMap Section.comments).map said := by
  induction h with
  | nil => rfl
  | cons hmember _ ih =>
      rw [List.flatMap_cons, List.flatMap_cons, List.map_append, hmember.2, ih]
      rfl

/-- **Nothing is lost or ends up elsewhere.**  The lines outside of parentheses are sections and
comments behind them.  The first section is that of the interface and documents it; the others
are those of the members, one each and in order, and document them.  So all documentation
together is what the comments before the last declaration say.  In a signature, parentheses are
balanced. -/
theorem parse_sections {t : Text} {description : Description}
    (h : parse t = .ok description) :
    ∃ first others after, IsCut (outer 0 (rows t)) (first :: others) after ∧
      (outer 0 (rows t)).filter declares = first.line :: others.map Section.line ∧
      (keyword? first.line = some .interface ∧ description.doc = first.doc) ∧
      List.Forall₂ (fun member part => BeginsMember (Text.trim part.line) member ∧
        member.doc = part.doc) description.members others ∧
      description.doc ++ description.members.flatMap Member.doc =
        (documenting (outer 0 (rows t))).map said ∧
      ∀ member ∈ description.members,
        member.signature.count '(' = member.signature.count ')' ∧
        ∀ front, front <+: member.signature → front.count ')' ≤ front.count '(' := by
  have hproper := isProper_of_parse h
  obtain ⟨d, ds, hds, hname, hmembers, hdoc⟩ := parse_eq_ok_iff.mp h
  have hsound := declarations_sound hds
  obtain ⟨doc, hread, -⟩ := declarations_eq_ok_iff.mp hds
  have hafter : (⟨d :: ds, doc, 0⟩ : Scan).IsAfter (rows t) :=
    Scan.isAfter_of_readLines (fun line hline => lineFeed_notMem_of_mem_rows hline) hread
  obtain ⟨-, parts, after, hcut, -, hparts⟩ := hafter
  cases hparts with
  | @cons _ first _ others hfirst hothers =>
      have hbare : Text.StartsBare d.text := (hsound d List.mem_cons_self).1.bare
      have hfirstSound := hcut.sound first List.mem_cons_self
      have hkeyword : keyword? first.line = some .interface := by
        obtain ⟨keyword, hfound⟩ := Option.isSome_iff_exists.mp hfirstSound.declares
        rw [← hfirst.keyword?_eq hfirstSound] at hfound ⊢
        rw [hfound, keyword?_of_interfaceName? hname hfound hbare]
      have hdocs := forall₂_of_readMembers hothers
        (fun e he => (hsound e (List.mem_cons_of_mem _ he)).1.bare) hmembers
      have hfirstDoc : description.doc = first.doc := hdoc.trans hfirst.doc
      refine ⟨first, others, after, hcut, hcut.filter_declares, ⟨hkeyword, hfirstDoc⟩, hdocs, ?_,
        fun member hmember => count_of_balanced (hproper.members member hmember).balanced⟩
      rw [hcut.documenting_eq (by simp), List.flatMap_cons, List.map_append, flatMap_doc hdocs,
        hfirstDoc]
      rfl

/-- Comments inside of a signature and behind the last declaration document nothing. -/
theorem parse_sections_nested :
    let t : Text := "# A service.\ninterface a.b\n\n# Pings.\nmethod P(\n# no\nx: int) -> ()\n# no"
    let description : Description :=
      ⟨["A service."], "a.b", [⟨["Pings."], .method, "P", "(x: int) -> ()"⟩]⟩
    parse t = .ok description ∧
      description.doc ++ description.members.flatMap Member.doc =
        (documenting (outer 0 (rows t))).map said := by
  intro t description
  have hparse : parse t = .ok description := by decide
  obtain ⟨first, others, after, -, -, -, -, hdocs, -⟩ := parse_sections hparse
  exact ⟨hparse, hdocs⟩

end VarlinkClient.Description
