/-
What becomes of each line of a description.

The lines that begin outside of parentheses are cut into sections: comments, and the line that
they stand in front of.  Every section is one declaration.  Its comments are what documents it,
and its line says what is declared; comments inside of parentheses and those after the last
declaration are left away.

The reader has three things under way at once: the declarations so far, the comments since, and
the depth.  `Scan.IsAfter` says what all three are in terms of the lines that have been read,
one line keeps it (`IsAfter.readLine`), and so do all of them.
-/
import Mathlib.Data.List.Forall2
import VarlinkClient.Proofs.Description.Spread

namespace VarlinkClient.Description

open Signature (Balanced depthAfter)

/-! ### Parentheses in numbers -/

theorem count_of_depthAfter (t : Text) : ∀ {depth last : Nat}, depthAfter depth t = some last →
    depth + t.count '(' = last + t.count ')' := by
  induction t with
  | nil =>
      intro depth last h
      have hsame : depth = last := Option.some.inj h
      simp [hsame]
  | cons c t ih =>
      intro depth last h
      by_cases hopen : c = '('
      · subst hopen
        rw [Signature.depthAfter_open] at h
        have hcount := ih h
        simp
        omega
      · by_cases hclose : c = ')'
        · subst hclose
          cases depth with
          | zero => simp at h
          | succ outer =>
              rw [Signature.depthAfter_close] at h
              have hcount := ih h
              simp
              omega
        · rw [Signature.depthAfter_cons_plain (by simp [Signature.isParenthesis, hopen, hclose])]
            at h
          have hcount := ih h
          simpa [List.count_cons, hopen, hclose] using hcount

/-- A balanced text opens as many parentheses as it closes, and at no place it has closed more
than it opened. -/
theorem count_of_balanced {t : Text} (h : Balanced t) :
    t.count '(' = t.count ')' ∧ ∀ front, front <+: t → front.count ')' ≤ front.count '(' := by
  have hdepth := h.depthAfter 0
  have hcount := count_of_depthAfter t hdepth
  refine ⟨by omega, ?_⟩
  rintro front ⟨back, rfl⟩
  rw [Signature.depthAfter_append] at hdepth
  obtain ⟨middle, hfront, -⟩ := Option.bind_eq_some_iff.mp hdepth
  have hle := count_of_depthAfter front hfront
  omega

/-! ### Where lines stand -/

/-- The lines of a text: what stands between its line feeds. -/
def rows (t : Text) : List Text :=
  Text.splitOn (· = '\n') t

theorem lineFeed_notMem_of_mem_rows {t line : Text} (h : line ∈ rows t) : '\n' ∉ line := by
  intro hmem
  have hfree := Text.free_of_mem_splitOn h '\n' hmem
  simp at hfree

/-- The line is a comment. -/
def isComment (line : Text) : Bool :=
  (Text.trim line).head? = some '#'

/-- What a comment says: what follows the `#`, less one blank, without the blanks at its end. -/
def said (comment : Text) : Text :=
  commentText (Text.trim comment).tail

/-- The line begins with a keyword. -/
def declares (line : Text) : Bool :=
  (keyword? line).isSome

/-- How deep in parentheses it is after a line; what stands in a comment does not count. -/
def depthPast (depth : Nat) (line : Text) : Nat :=
  if isComment line then depth else (depthAfter depth line).getD depth

/-- How deep in parentheses it is after these lines. -/
def depthOf (lines : List Text) : Nat :=
  lines.foldl depthPast 0

/-- The lines that begin outside of parentheses, when the first of them all begins at this
depth. -/
def outer (depth : Nat) : List Text → List Text
  | [] => []
  | line :: lines =>
    if depth = 0 then line :: outer (depthPast depth line) lines
    else outer (depthPast depth line) lines

theorem depthOf_concat (lines : List Text) (line : Text) :
    depthOf (lines ++ [line]) = depthPast (depthOf lines) line := by
  simp [depthOf]

theorem outer_append (lines : List Text) : ∀ (depth : Nat) (others : List Text),
    outer depth (lines ++ others) =
      outer depth lines ++ outer (lines.foldl depthPast depth) others := by
  induction lines with
  | nil => intro depth others; rfl
  | cons line lines ih =>
      intro depth others
      rw [List.cons_append, outer, outer, ih, List.foldl_cons]
      by_cases hdepth : depth = 0
      · rw [if_pos hdepth, if_pos hdepth, List.cons_append]
      · rw [if_neg hdepth, if_neg hdepth]

theorem outer_concat_outside {lines : List Text} (h : depthOf lines = 0) (line : Text) :
    outer 0 (lines ++ [line]) = outer 0 lines ++ [line] := by
  have hdepth : lines.foldl depthPast 0 = 0 := h
  rw [outer_append, hdepth]
  rfl

theorem outer_concat_inside {lines : List Text} (h : depthOf lines ≠ 0) (line : Text) :
    outer 0 (lines ++ [line]) = outer 0 lines := by
  have hdepth : lines.foldl depthPast 0 ≠ 0 := h
  rw [outer_append, outer, if_neg hdepth, outer, List.append_nil]

theorem depthPast_comment {line : Text} (h : isComment line = true) (depth : Nat) :
    depthPast depth line = depth := by
  rw [depthPast, if_pos h]

theorem depthPast_text {line : Text} (h : isComment line = false) {depth last : Nat}
    (hdepth : depthAfter depth line = some last) : depthPast depth line = last := by
  rw [depthPast, if_neg (by simp [h]), hdepth, Option.getD_some]

theorem depthAfter_blank {line : Text} (h : Text.trim line = []) (depth : Nat) :
    depthAfter depth line = some depth :=
  Signature.depthAfter_of_compact_eq (t := []) (compact_eq_nil_iff.mpr h) depth

/-! ### Keywords in front -/

/-- The first word ends before a blank, wherever the blank is. -/
theorem firstWord_append_blank {t : Text} (hne : t ≠ []) (hbare : Text.StartsBare t)
    (more : Text) : firstWord (t ++ ' ' :: more) = firstWord t := by
  obtain ⟨c, rest, rfl⟩ := List.exists_cons_of_ne_nil hne
  have hc : isBlank c = false := Text.startsBare_cons.mp hbare
  rw [firstWord, firstWord, List.cons_append, Text.trimLeft_cons hc, Text.trimLeft_cons hc,
    ← List.cons_append]
  exact Text.takeWhile_append_stop (by decide) (c :: rest) more

/-- Blanks around a line make no difference to its first word. -/
theorem firstWord_trim (line : Text) : firstWord (Text.trim line) = firstWord line := by
  obtain ⟨blanks, hblanks, hall⟩ := Text.exists_trimRight (Text.trimLeft line)
  have hbare := Text.startsBare_trim line
  rw [← Text.trim_eq] at hblanks
  have hline : firstWord line = (Text.trim line ++ blanks).takeWhile fun c => !isBlank c := by
    rw [firstWord, hblanks]
  rw [hline, firstWord, Text.trimLeft_eq_self hbare, List.takeWhile_append]
  split
  · rename_i hlength
    have hnil : blanks.takeWhile (fun c => !isBlank c) = [] := by
      refine List.takeWhile_eq_nil_iff.mpr fun hpos => ?_
      simp [hall _ (List.getElem_mem hpos)]
    have hself := List.IsPrefix.eq_of_length (List.takeWhile_prefix fun c => !isBlank c) hlength
    rw [hnil, List.append_nil, hself]
  · rfl

theorem keyword?_trim (line : Text) : keyword? (Text.trim line) = keyword? line := by
  rw [keyword?, keyword?, firstWord_trim]

/-- A keyword is followed by a blank, if by anything. -/
theorem exists_keyword_blank {t : Text} {keyword : Keyword} (h : keyword? t = some keyword)
    (hbare : Text.StartsBare t) :
    ∃ rest, t = keyword.text ++ rest ∧ ∀ c, rest.head? = some c → isBlank c = true := by
  have hword : keyword.text = firstWord t := by simpa using List.find?_some h
  refine ⟨t.dropWhile fun c => !isBlank c, ?_, fun c hc => ?_⟩
  · rw [hword, firstWord, Text.trimLeft_eq_self hbare, List.takeWhile_append_dropWhile]
  · have hnot := List.head?_dropWhile_not (fun c => !isBlank c) t
    rw [hc] at hnot
    simpa using hnot

/-- What declares an interface begins with its keyword. -/
theorem keyword?_of_interfaceName? {t name : Text} {keyword : Keyword}
    (h : interfaceName? t = some name) (hkeyword : keyword? t = some keyword)
    (hbare : Text.StartsBare t) : keyword = .interface := by
  cases keyword with
  | interface => rfl
  | member kind =>
      obtain ⟨rest, rfl, -⟩ := exists_keyword_blank hkeyword hbare
      have hstrip : Text.stripStart "interface" ((Keyword.member kind).text ++ rest) = none := by
        cases kind <;> rfl
      rw [interfaceName?, hstrip] at h
      cases h

/-- What declares something is neither blank nor a comment. -/
theorem declares_eq_false {line : Text} (h : isText (Text.trim line) = false) :
    declares line = false := by
  have hkeyword : keyword? (Text.trim line) = none := by
    unfold isText at h
    split at h
    next hnil => rw [hnil]; decide
    next rest hcomment =>
      cases hfound : keyword? (Text.trim line) with
      | none => rfl
      | some keyword =>
          obtain ⟨after, htext, -⟩ := exists_keyword_blank hfound (Text.startsBare_trim line)
          obtain ⟨c, letters, hletters, hc⟩ := keyword.exists_cons
          rw [hcomment, hletters] at htext
          obtain ⟨rfl, -⟩ := List.cons.inj htext
          exact absurd hc (by decide)
    next => simp at h
  rw [declares, ← keyword?_trim, hkeyword]
  rfl

theorem declares_of_isComment {line : Text} (h : isComment line = true) :
    declares line = false := by
  refine declares_eq_false ?_
  obtain ⟨rest, hrest⟩ := List.head?_eq_some_iff.mp (of_decide_eq_true h)
  rw [hrest]
  rfl

/-! ### Sections -/

/-- A line that begins a declaration, and the comments in front of it. -/
structure Section where
  comments : List Text
  line : Text

namespace Section

/-- The lines of a section. -/
def lines (part : Section) : List Text :=
  part.comments ++ [part.line]

/-- What the comments say. -/
def doc (part : Section) : List Text :=
  part.comments.map said

/-- The comments are comments, and the line begins with a keyword. -/
structure IsSound (part : Section) : Prop where
  comments : ∀ line ∈ part.comments, isComment line = true
  declares : declares part.line = true

end Section

/-- The lines are sections and then comments, and nothing else but blank lines. -/
structure IsCut (lines : List Text) (parts : List Section) (after : List Text) : Prop where
  lines_eq : lines.filter (fun line => Text.trim line ≠ []) =
    parts.flatMap Section.lines ++ after
  sound : ∀ part ∈ parts, part.IsSound
  comments : ∀ line ∈ after, isComment line = true

namespace IsCut

variable {lines : List Text} {parts : List Section} {after : List Text}

theorem nil : IsCut [] [] [] :=
  ⟨rfl, by simp, by simp⟩

theorem blank (h : IsCut lines parts after) {line : Text} (hblank : Text.trim line = []) :
    IsCut (lines ++ [line]) parts after := by
  refine ⟨?_, h.sound, h.comments⟩
  rw [List.filter_append, h.lines_eq]
  simp [hblank]

theorem comment (h : IsCut lines parts after) {line : Text} (hcomment : isComment line = true) :
    IsCut (lines ++ [line]) parts (after ++ [line]) := by
  have hne : Text.trim line ≠ [] := by
    intro hnil
    simp [isComment, hnil] at hcomment
  refine ⟨?_, h.sound, ?_⟩
  · rw [List.filter_append, h.lines_eq]
    simp [hne]
  · intro l hl
    rcases List.mem_append.mp hl with hl | hl
    · exact h.comments l hl
    · rw [List.mem_singleton.mp hl]
      exact hcomment

/-- A line with a keyword ends a section. -/
theorem keyword (h : IsCut lines parts after) {line : Text} (hdeclares : declares line = true) :
    IsCut (lines ++ [line]) (parts ++ [⟨after, line⟩]) [] := by
  have hne : Text.trim line ≠ [] := by
    intro hnil
    rw [declares_eq_false (by rw [hnil]; rfl)] at hdeclares
    cases hdeclares
  refine ⟨?_, ?_, by simp⟩
  · rw [List.filter_append, h.lines_eq]
    simp [hne, Section.lines]
  · intro part hpart
    rcases List.mem_append.mp hpart with hpart | hpart
    · exact h.sound part hpart
    · rw [List.mem_singleton.mp hpart]
      exact ⟨h.comments, hdeclares⟩

/-- The lines with a keyword are those of the sections. -/
theorem filter_declares (h : IsCut lines parts after) :
    lines.filter declares = parts.map Section.line := by
  have hlines : (parts.flatMap Section.lines ++ after).filter declares =
      parts.map Section.line := by
    have hafter : after.filter declares = [] :=
      List.filter_eq_nil_iff.mpr fun line hline => by
        simp [declares_of_isComment (h.comments line hline)]
    rw [List.filter_append, hafter, List.append_nil]
    have hsound := h.sound
    clear h hafter
    induction parts with
    | nil => rfl
    | cons part parts ih =>
        have hpart := hsound part List.mem_cons_self
        have hcomments : part.comments.filter declares = [] :=
          List.filter_eq_nil_iff.mpr fun line hline => by
            simp [declares_of_isComment (hpart.comments line hline)]
        rw [List.flatMap_cons, List.filter_append, Section.lines, List.filter_append, hcomments,
          List.filter_cons_of_pos hpart.declares,
          ih fun p hp => hsound p (List.mem_cons_of_mem _ hp)]
        rfl
  rw [← hlines, ← h.lines_eq, List.filter_filter]
  refine List.filter_congr fun line _ => ?_
  cases hdeclares : declares line with
  | false => rfl
  | true =>
      have hne : Text.trim line ≠ [] := by
        intro hnil
        rw [declares_eq_false (by rw [hnil]; rfl)] at hdeclares
        cases hdeclares
      simp [hne]

end IsCut

/-! ### Declarations of sections -/

/-- The declaration is that of the section: it has its documentation, and its text begins with
the line; what is joined to the line comes after a parenthesis. -/
structure Declaration.IsOf (declaration : Declaration) (part : Section) : Prop where
  doc : declaration.doc = part.doc
  text : declaration.text = Text.trim part.line ∨
    ∃ more, declaration.text = Text.trim part.line ++ ' ' :: more ∧ '(' ∈ Text.trim part.line

theorem Declaration.IsOf.keyword?_eq {declaration : Declaration} {part : Section}
    (h : declaration.IsOf part) (hsound : part.IsSound) :
    keyword? declaration.text = keyword? part.line := by
  rcases h.text with htext | ⟨more, htext, -⟩
  · rw [htext, keyword?_trim]
  · have hne : Text.trim part.line ≠ [] := by
      intro hnil
      have hdeclares := hsound.declares
      rw [declares_eq_false (by rw [hnil]; rfl)] at hdeclares
      cases hdeclares
    rw [htext, keyword?, firstWord_append_blank hne (Text.startsBare_trim _), firstWord_trim]
    rfl

/-- A parenthesis that is open was opened. -/
theorem mem_of_depthAfter {t : Text} {depth : Nat} (h : depthAfter 0 t = some depth)
    (hdepth : depth ≠ 0) : '(' ∈ t := by
  have hcount := count_of_depthAfter t h
  exact List.count_pos_iff.mp (by omega)

/-- A line that is joined inside of parentheses comes after one. -/
theorem Declaration.IsOf.continue {declaration : Declaration} {part : Section} {depth : Nat}
    (h : declaration.IsOf part) (hdepth : depthAfter 0 declaration.text = some depth)
    (hinside : depth ≠ 0) (line : Text) :
    Declaration.IsOf { declaration with text := declaration.text ++ ' ' :: line } part := by
  refine ⟨h.doc, Or.inr ?_⟩
  rcases h.text with htext | ⟨more, htext, hopen⟩
  · refine ⟨line, by rw [htext], ?_⟩
    rw [← htext]
    exact mem_of_depthAfter hdepth hinside
  · exact ⟨more ++ ' ' :: line, by simp [htext], hopen⟩

/-- The last of two rows that belong together belong together. -/
theorem exists_concat_of_forall₂ {α β : Type} {R : α → β → Prop} {as : List α} {a : α}
    {bs : List β} (h : List.Forall₂ R (as ++ [a]) bs) :
    ∃ bs' b, bs = bs' ++ [b] ∧ List.Forall₂ R as bs' ∧ R a b := by
  induction as generalizing bs with
  | nil =>
      cases h with
      | cons hab hrest =>
          cases hrest
          exact ⟨[], _, rfl, .nil, hab⟩
  | cons first as ih =>
      cases h with
      | cons hfirst hrest =>
          obtain ⟨bs', b, rfl, hbs, hab⟩ := ih hrest
          exact ⟨_ :: bs', b, rfl, .cons hfirst hbs, hab⟩

theorem forall₂_concat {α β : Type} {R : α → β → Prop} {as : List α} {a : α} {bs : List β} {b : β}
    (h : List.Forall₂ R as bs) (hab : R a b) : List.Forall₂ R (as ++ [a]) (bs ++ [b]) :=
  List.rel_append h (.cons hab .nil)

/-! ### Reading lines -/

/-- How far the lines have been read: each section is a declaration, the comments after the last
section are waiting, and the depth is that of the lines. -/
structure Scan.IsAfter (scan : Scan) (lines : List Text) : Prop where
  depth : scan.depth = depthOf lines
  cut : ∃ parts after, IsCut (outer 0 lines) parts after ∧ scan.doc = after.map said ∧
    List.Forall₂ Declaration.IsOf scan.declarations parts

namespace Scan

theorem IsAfter.start : Scan.start.IsAfter [] :=
  ⟨rfl, [], [], IsCut.nil, rfl, .nil⟩

variable {scan next : Scan} {lines : List Text} {line : Text}

/-- A line is blank, a comment, or placed. -/
theorem readLine_cases (h : scan.readLine (Text.trim line) = .ok next) :
    (Text.trim line = [] ∧ next = scan) ∨
    (isComment line = true ∧ next = if scan.depth = 0 then
      { scan with doc := scan.doc ++ [said line] } else scan) ∨
    (isText (Text.trim line) = true ∧ ∃ placed depth, scan.place (Text.trim line) = .ok placed ∧
      depthAfter scan.depth (Text.trim line) = some depth ∧ next = { placed with depth }) := by
  unfold readLine at h
  split at h
  next hnil => exact Or.inl ⟨hnil, (Except.ok.inj h).symm⟩
  next comment hcomment =>
    refine Or.inr (Or.inl ⟨by simp [isComment, hcomment], ?_⟩)
    rw [said, hcomment, List.tail_cons]
    by_cases hdepth : scan.depth = 0
    · rw [if_pos hdepth] at h ⊢
      exact (Except.ok.inj h).symm
    · rw [if_neg hdepth] at h ⊢
      exact (Except.ok.inj h).symm
  next hnil hcomment =>
    refine Or.inr (Or.inr ⟨isText_iff.mpr ⟨hnil, fun hhead => ?_⟩, ?_⟩)
    · obtain ⟨rest, hrest⟩ := List.head?_eq_some_iff.mp hhead
      exact hcomment rest hrest
    cases hplaced : scan.place (Text.trim line) with
    | error error => rw [hplaced] at h; exact absurd h (by simp)
    | ok placed =>
        rw [hplaced] at h
        cases hdepth : depthAfter scan.depth (Text.trim line) with
        | none => simp [hdepth] at h
        | some depth =>
            simp only [hdepth] at h
            exact ⟨placed, depth, rfl, rfl, (Except.ok.inj h).symm⟩

/-- A line is placed as a declaration of its own, or joined to the last one. -/
theorem place_cases {placed : Scan} (h : scan.place line = .ok placed) :
    (scan.depth = 0 ∧ declares line = true ∧
      placed = ⟨scan.declarations ++ [⟨scan.doc, line⟩], [], scan.depth⟩) ∨
    (scan.depth ≠ 0 ∧
      placed = { scan with declarations := continueLast line scan.declarations }) := by
  unfold place at h
  by_cases hdepth : scan.depth = 0
  · rw [if_pos hdepth] at h
    by_cases hkeyword : (keyword? line).isSome
    · rw [if_pos hkeyword] at h
      exact Or.inl ⟨hdepth, hkeyword, (Except.ok.inj h).symm⟩
    · rw [if_neg hkeyword] at h
      exact absurd h (by simp)
  · rw [if_neg hdepth] at h
    exact Or.inr ⟨hdepth, (Except.ok.inj h).symm⟩

theorem isComment_of_isText (h : isText (Text.trim line) = true) : isComment line = false := by
  have hhead := (isText_iff.mp h).2
  simpa [isComment] using hhead

/-- **Reading one more line**, the three things that are under way stay those of the lines. -/
theorem IsAfter.readLine (h : scan.IsAfter lines) (hsound : scan.IsSound)
    (hread : scan.readLine (Text.trim line) = .ok next) : next.IsAfter (lines ++ [line]) := by
  obtain ⟨hdepth, parts, after, hcut, hdoc, hparts⟩ := h
  rcases readLine_cases hread with ⟨hblank, rfl⟩ | ⟨hcomment, rfl⟩ | ⟨htext, placed, depth, hplaced,
    hline, rfl⟩
  · have hsame : depthOf (lines ++ [line]) = depthOf lines := by
      rw [depthOf_concat]
      exact depthPast_text (by simp [isComment, hblank]) (depthAfter_blank hblank _)
    refine ⟨by rw [hsame, hdepth], parts, after, ?_, hdoc, hparts⟩
    by_cases houtside : depthOf lines = 0
    · rw [outer_concat_outside houtside]
      exact hcut.blank hblank
    · rw [outer_concat_inside houtside]
      exact hcut
  · have hsame : depthOf (lines ++ [line]) = depthOf lines := by
      rw [depthOf_concat, depthPast_comment hcomment]
    by_cases houtside : scan.depth = 0
    · rw [if_pos houtside]
      refine ⟨by rw [hsame, ← hdepth], parts, after ++ [line], ?_, by simp [hdoc], hparts⟩
      rw [outer_concat_outside (by rw [← hdepth, houtside])]
      exact hcut.comment hcomment
    · rw [if_neg houtside]
      refine ⟨by rw [hsame, hdepth], parts, after, ?_, hdoc, hparts⟩
      rw [outer_concat_inside (by rw [← hdepth]; exact houtside)]
      exact hcut
  · have hnext : depth = depthOf (lines ++ [line]) := by
      rw [depthAfter_trim] at hline
      rw [depthOf_concat, ← hdepth, depthPast_text (isComment_of_isText htext) hline]
    rcases place_cases hplaced with ⟨houtside, hdeclares, rfl⟩ | ⟨hinside, rfl⟩
    · -- A new declaration takes the comments that were waiting.
      have hkeyword : declares line = true := by
        rw [declares, ← keyword?_trim]
        exact hdeclares
      have hnew : Declaration.IsOf ⟨scan.doc, Text.trim line⟩ ⟨after, line⟩ := ⟨hdoc, Or.inl rfl⟩
      refine ⟨hnext, parts ++ [⟨after, line⟩], [], ?_, rfl, forall₂_concat hparts hnew⟩
      rw [outer_concat_outside (by rw [← hdepth, houtside])]
      exact hcut.keyword hkeyword
    · -- Inside of parentheses there is a last declaration, and it is open.
      refine ⟨hnext, parts, after, ?_, hdoc, ?_⟩
      · rw [outer_concat_inside (by rw [← hdepth]; exact hinside)]
        exact hcut
      · cases hsound with
        | start => exact absurd rfl hinside
        | going hbefore hlast hlastDepth =>
            obtain ⟨parts', part, rfl, hparts', hpart⟩ := exists_concat_of_forall₂ hparts
            rw [continueLast_concat]
            exact forall₂_concat hparts' (hpart.continue hlastDepth hinside _)

/-- Lines keep both what the reader makes sure of and what it has under way. -/
theorem IsAfter.readLines {others : List Text} (hlines : ∀ l ∈ others, '\n' ∉ l)
    (h : scan.IsAfter lines) (hsound : scan.IsSound)
    (hread : scan.readLines others = .ok next) : next.IsAfter (lines ++ others) := by
  induction others generalizing scan lines with
  | nil =>
      rw [← Except.ok.inj hread, List.append_nil]
      exact h
  | cons line others ih =>
      rw [Scan.readLines] at hread
      cases hline : scan.readLine (Text.trim line) with
      | error error => rw [hline] at hread; exact absurd hread (by simp)
      | ok middle =>
          rw [hline] at hread
          have hfree : '\n' ∉ Text.trim line := fun hmem =>
            hlines line List.mem_cons_self (Text.mem_of_mem_trim hmem)
          have hmiddle := hsound.readLine (Text.startsBare_trim line) hfree hline
          have hafter := ih (fun l hl => hlines l (List.mem_cons_of_mem _ hl))
            (h.readLine hsound hline) hmiddle hread
          rwa [List.append_assoc, List.singleton_append] at hafter

/-- **After all lines**, every section is a declaration. -/
theorem isAfter_of_readLines (hlines : ∀ l ∈ lines, '\n' ∉ l)
    (hread : Scan.start.readLines lines = .ok scan) : scan.IsAfter lines :=
  IsAfter.start.readLines hlines (.start []) hread

end Scan

end VarlinkClient.Description
