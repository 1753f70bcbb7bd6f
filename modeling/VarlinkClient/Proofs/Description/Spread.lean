/-
Reading the lines of a spread signature.

Inside of parentheses a line continues the declaration before it, unless it is blank or a
comment, which is left away.  When the lines of a spread signature are read, they come
back as the signature without the fields that look like comments and without the blank
ones: `exists_isReadFrom_spread`.  That is the signature itself exactly when it has no such
field.
-/
import VarlinkClient.Proofs.Description.Parser

namespace VarlinkClient.Description

open Signature (Balanced IsGroup compact compact_cons compact_cons_blank depthAfter)

/-! ### Lines that continue a declaration -/

/-- A line, trimmed, that belongs to a declaration. -/
def isText (line : Text) : Bool :=
  match line with
  | [] | '#' :: _ => false
  | _ => true

/-- What lines that continue a declaration add to it. -/
def joined (lines : List Text) : Text :=
  ((lines.map Text.trim).filter isText).flatMap (' ' :: ·)

/-- The lines stand inside of parentheses and lead from one depth to another. -/
inductive Continues : Nat → List Text → Nat → Prop
  | nil (depth : Nat) : Continues depth [] depth
  | skip {depth last : Nat} {line : Text} {lines : List Text} (hinside : 0 < depth)
      (hskip : isText (Text.trim line) = false) (hrest : Continues depth lines last) :
      Continues depth (line :: lines) last
  | keep {depth next last : Nat} {line : Text} {lines : List Text} (hinside : 0 < depth)
      (htext : isText (Text.trim line) = true) (hdepth : depthAfter depth line = some next)
      (hrest : Continues next lines last) : Continues depth (line :: lines) last

theorem joined_append (lines lines' : List Text) :
    joined (lines ++ lines') = joined lines ++ joined lines' := by
  simp [joined]

theorem joined_cons_skip {line : Text} (h : isText (Text.trim line) = false)
    (lines : List Text) : joined (line :: lines) = joined lines := by
  simp [joined, h]

theorem joined_cons_text {line : Text} (h : isText (Text.trim line) = true)
    (lines : List Text) : joined (line :: lines) = ' ' :: Text.trim line ++ joined lines := by
  simp [joined, h]

/-- What is added begins with a blank. -/
theorem takeWhile_joined (lines : List Text) : (joined lines).takeWhile isNameChar = [] := by
  unfold joined
  cases (lines.map Text.trim).filter isText with
  | nil => rfl
  | cons line rest =>
      rw [List.flatMap_cons, List.cons_append, List.takeWhile_cons_of_neg (by decide)]

theorem Continues.append {depth next last : Nat} {lines lines' : List Text}
    (h : Continues depth lines next) (h' : Continues next lines' last) :
    Continues depth (lines ++ lines') last := by
  induction h with
  | nil => exact h'
  | skip hinside hskip _ ih => exact .skip hinside hskip (ih h')
  | keep hinside htext hdepth _ ih => exact .keep hinside htext hdepth (ih h')

theorem depthAfter_trim (depth : Nat) (line : Text) :
    depthAfter depth (Text.trim line) = depthAfter depth line :=
  Signature.depthAfter_of_compact_eq (Signature.compact_trim line) depth

/-- A line inside of parentheses that says nothing is passed over. -/
theorem Scan.readLine_skip {scan : Scan} (hinside : 0 < scan.depth) {line : Text}
    (hskip : isText line = false) : scan.readLine line = .ok scan := by
  unfold isText at hskip
  split at hskip
  next => rfl
  next comment => simp [Scan.readLine, Nat.ne_of_gt hinside]
  next => simp at hskip

/-- A line that is neither blank nor a comment is placed. -/
theorem Scan.readLine_text {scan placed : Scan} {line : Text} {depth : Nat}
    (htext : isText line = true) (hplaced : scan.place line = .ok placed)
    (hdepth : depthAfter scan.depth line = some depth) :
    scan.readLine line = .ok { placed with depth } := by
  unfold isText at htext
  split at htext
  next => simp at htext
  next => simp at htext
  next line hnil hcomment =>
    unfold Scan.readLine
    split
    next => exact absurd rfl hnil
    next comment => exact absurd rfl (hcomment comment)
    next => simp [hplaced, hdepth]

/-- **Lines that continue a declaration are joined to it.** -/
theorem Scan.readLines_continues {depth last : Nat} {lines : List Text}
    (h : Continues depth lines last) (before : List Declaration) (declaration : Declaration)
    (doc : List Text) :
    (⟨before ++ [declaration], doc, depth⟩ : Scan).readLines lines =
      .ok ⟨before ++ [{ declaration with text := declaration.text ++ joined lines }], doc,
        last⟩ := by
  induction h generalizing declaration with
  | nil depth => simp [Scan.readLines, joined]
  | skip hinside hskip _ ih =>
      rw [Scan.readLines_cons (Scan.readLine_skip hinside hskip), ih, joined_cons_skip hskip]
  | @keep depth next last line lines hinside htext hdepth _ ih =>
      have hplaced : (⟨before ++ [declaration], doc, depth⟩ : Scan).place (Text.trim line) =
          .ok ⟨before ++ [{ declaration with text := declaration.text ++ ' ' :: Text.trim line }],
            doc, depth⟩ := by
        rw [Scan.place, if_neg (Nat.ne_of_gt hinside), continueLast_concat]
      rw [Scan.readLines_cons (Scan.readLine_text htext hplaced
        (by rw [depthAfter_trim]; exact hdepth)), ih, joined_cons_text htext]
      simp

/-! ### Lines of fields -/

/-- The lines of the fields of a group. -/
def fieldLines : List Text → List Text
  | [] => []
  | [field] => ["  " ++ field]
  | field :: fields => ("  " ++ field ++ ",") :: fieldLines fields

theorem fieldLines_cons (field : Text) {fields : List Text} (h : fields ≠ []) :
    fieldLines (field :: fields) = ("  " ++ field ++ ",") :: fieldLines fields := by
  cases fields with
  | nil => exact absurd rfl h
  | cons next fields => rfl

theorem splitOn_fields {fields : List Text} (hne : fields ≠ [])
    (hfields : ∀ field ∈ fields, '\n' ∉ field) (t : Text) :
    Text.splitOn (· = '\n')
        (Text.join ",\n" (fields.map fun field => "  " ++ field) ++ '\n' :: t) =
      fieldLines fields ++ Text.splitOn (· = '\n') t := by
  induction fields with
  | nil => exact absurd rfl hne
  | cons field fields ih =>
      have hfield : '\n' ∉ field := hfields field (by simp)
      by_cases hlast : fields = []
      · rw [hlast, List.map_singleton, Text.join, Text.splitOn_line_append (by simp [hfield])]
        rfl
      · have hjoin : Text.join ",\n" ((field :: fields).map fun field => "  " ++ field) ++
            '\n' :: t = ("  " ++ field ++ ",") ++ '\n' ::
              (Text.join ",\n" (fields.map fun field => "  " ++ field) ++ '\n' :: t) := by
          rw [List.map_cons, Text.join_cons _ _ (by simpa using hlast)]
          simp
        rw [hjoin, Text.splitOn_line_append (by simp [hfield]),
          ih hlast fun f hf => hfields f (by simp [hf]), fieldLines_cons _ hlast]
        rfl

/-- The fields lead from one depth back to it. -/
theorem continues_fieldLines {fields : List Text}
    (hfields : ∀ field ∈ fields, Balanced field) : Continues 1 (fieldLines fields) 1 := by
  have hline : ∀ {line : Text} {lines : List Text}, Balanced line → Continues 1 lines 1 →
      Continues 1 (line :: lines) 1 := by
    intro line lines hbalanced hlines
    cases htext : isText (Text.trim line) with
    | false => exact .skip (by simp) htext hlines
    | true => exact .keep (by simp) htext (hbalanced.depthAfter 1) hlines
  have hblanks : Balanced "  " := .plain (by decide) (.plain (by decide) .nil)
  have hcomma : Balanced "," := .plain (by decide) .nil
  induction fields with
  | nil => exact .nil 1
  | cons field fields ih =>
      have hfield : Balanced field := hfields field (by simp)
      by_cases hlast : fields = []
      · rw [hlast]
        exact hline (hblanks.append hfield) (.nil 1)
      · rw [fieldLines_cons _ hlast]
        exact hline ((hblanks.append hfield).append hcomma)
          (ih fun f hf => hfields f (by simp [hf]))

/-! ### What is kept of a group -/

/-- The piece is a field that comes back when it is read again. -/
def IsKept (piece : Text) : Prop :=
  Text.trim piece ≠ [] ∧ (Text.trim piece).head? ≠ some '#'

/-- The fields among the pieces of a group. -/
def fieldsOf (pieces : List Text) : List Text :=
  (pieces.map Text.trim).filter fun field => field ≠ []

theorem fields_eq (g : Text) : Signature.fields g = fieldsOf (Signature.splitCommas 0 g) := rfl

theorem isText_iff {line : Text} : isText line = true ↔ line ≠ [] ∧ line.head? ≠ some '#' := by
  cases line with
  | nil => simp [isText]
  | cons c rest =>
      by_cases hc : c = '#'
      · simp [isText, hc]
      · unfold isText
        split
        next h => exact absurd h (by simp)
        next h => exact absurd (List.cons.inj h).1 hc
        next => simp [hc]

theorem isText_trim_iff {piece : Text} : isText (Text.trim piece) = true ↔ IsKept piece :=
  isText_iff

theorem compact_eq_nil_iff {t : Text} : compact t = [] ↔ Text.trim t = [] :=
  Text.trim_eq_nil_iff.symm

/-- A line inside of parentheses that is no comment goes on with the declaration. -/
theorem Continues.cons {depth next last : Nat} {line : Text} {lines : List Text}
    (hinside : 0 < depth) (hcomment : (Text.trim line).head? ≠ some '#')
    (hdepth : depthAfter depth line = some next) (hrest : Continues next lines last) :
    Continues depth (line :: lines) last ∧
      compact (joined (line :: lines)) = compact (line ++ joined lines) := by
  by_cases hblank : Text.trim line = []
  · have hskip : isText (Text.trim line) = false := by
      rw [hblank]
      rfl
    have hcompact : compact line = [] := compact_eq_nil_iff.mpr hblank
    -- A blank line has no parentheses.
    have hsame : depthAfter depth line = some depth :=
      Signature.depthAfter_of_compact_eq (t := []) hcompact depth
    obtain rfl : depth = next := Option.some.inj (hsame.symm.trans hdepth)
    refine ⟨.skip hinside hskip hrest, ?_⟩
    rw [joined_cons_skip hskip, Signature.compact_append, hcompact, List.nil_append]
  · have htext : isText (Text.trim line) = true := isText_iff.mpr ⟨hblank, hcomment⟩
    refine ⟨.keep hinside htext hdepth hrest, ?_⟩
    rw [joined_cons_text htext, List.cons_append,
      Signature.compact_cons_blank (by decide), Signature.compact_append, Signature.compact_append,
      Signature.compact_trim]

/-- Only what is blank is put together to something blank. -/
theorem trim_eq_nil_of_join {pieces : List Text} (h : compact (Text.join "," pieces) = []) :
    ∀ piece ∈ pieces, Text.trim piece = [] := by
  induction pieces with
  | nil => simp
  | cons piece pieces ih =>
      by_cases hlast : pieces = []
      · rw [hlast] at h ⊢
        intro p hp
        rw [List.mem_singleton.mp hp]
        exact compact_eq_nil_iff.mp h
      · rw [Text.join_cons _ _ hlast] at h
        simp [compact, isBlank] at h

/-- The line of a field, trimmed. -/
theorem trim_fieldLine {field : Text} (hne : field ≠ []) (htrim : Text.trim field = field) :
    Text.trim ("  " ++ field) = field ∧ Text.trim ("  " ++ field ++ ",") = field ++ "," := by
  have hbare : Text.StartsBare field := htrim ▸ Text.startsBare_trim field
  have hblanks : ∀ t : Text, Text.trim ("  " ++ t) = Text.trim t := fun t =>
    (Text.trim_cons_blank (by decide) _).trans (Text.trim_cons_blank (by decide) t)
  constructor
  · rw [hblanks, htrim]
  · have hstart : Text.StartsBare (field ++ ",") := by
      intro c hc
      rw [List.head?_append_of_ne_nil _ hne] at hc
      exact hbare c hc
    have hend := Text.trimRight_append_bare (s := field) (c := ',') (by decide) []
    rw [List.append_assoc, hblanks, Text.trim_eq_trimRight hstart]
    exact hend

/-- What is read of the lines of the fields among pieces, without blanks. -/
def kept (pieces : List Text) : Text :=
  compact (joined (fieldLines (fieldsOf pieces)))

theorem kept_blank {piece : Text} (h : Text.trim piece = []) (pieces : List Text) :
    kept (piece :: pieces) = kept pieces := by
  simp [kept, fieldsOf, h]

theorem fieldsOf_cons {piece : Text} (h : Text.trim piece ≠ []) (pieces : List Text) :
    fieldsOf (piece :: pieces) = Text.trim piece :: fieldsOf pieces := by
  simp [fieldsOf, h]

/-- What is read of the last field. -/
theorem kept_last {piece : Text} (h : Text.trim piece ≠ []) {pieces : List Text}
    (hlast : fieldsOf pieces = []) :
    kept (piece :: pieces) = if isText (Text.trim piece) then compact piece else [] := by
  have htrim := (trim_fieldLine h (Text.trim_trim piece)).1
  rw [kept, fieldsOf_cons h, hlast]
  cases htext : isText (Text.trim piece) with
  | true =>
      rw [fieldLines, joined_cons_text (by rw [htrim]; exact htext), htrim]
      simp [joined, compact_cons_blank (show isBlank ' ' = true by decide),
        Signature.compact_trim]
  | false =>
      rw [fieldLines, joined_cons_skip (by rw [htrim]; exact htext)]
      rfl

/-- What is read of a field in front of others. -/
theorem kept_cons {piece : Text} (h : Text.trim piece ≠ []) {pieces : List Text}
    (hlast : fieldsOf pieces ≠ []) : kept (piece :: pieces) =
      if isText (Text.trim piece) then compact piece ++ ',' :: kept pieces else kept pieces := by
  have htrim := (trim_fieldLine h (Text.trim_trim piece)).2
  have hsame : isText (Text.trim piece ++ ",") = isText (Text.trim piece) := by
    obtain ⟨c, rest, hpiece⟩ := List.exists_cons_of_ne_nil h
    rw [hpiece]
    by_cases hc : c = '#'
    · simp [isText, hc]
    · rw [isText_iff.mpr ⟨by simp, by simp [hc]⟩, isText_iff.mpr ⟨by simp, by simp [hc]⟩]
  rw [kept, fieldsOf_cons h, fieldLines_cons _ hlast]
  cases htext : isText (Text.trim piece) with
  | true =>
      rw [joined_cons_text (by rw [htrim, hsame]; exact htext), htrim]
      simp [kept, compact_cons_blank (show isBlank ' ' = true by decide),
        Signature.compact_trim, compact_cons (show isBlank ',' = false by decide)]
  | false =>
      rw [joined_cons_skip (by rw [htrim, hsame]; exact htext)]
      rfl

theorem compact_join_cons (piece : Text) {pieces : List Text} (h : pieces ≠ []) :
    compact (Text.join "," (piece :: pieces)) =
      compact piece ++ ',' :: compact (Text.join "," pieces) := by
  rw [Text.join_cons _ _ h]
  simp [compact_cons (show isBlank ',' = false by decide)]

/-- Reading the lines of fields brings nothing in. -/
theorem kept_sublist (pieces : List Text) :
    (kept pieces).Sublist (compact (Text.join "," pieces)) := by
  induction pieces with
  | nil => exact List.Sublist.refl _
  | cons piece pieces ih =>
      by_cases hlast : pieces = []
      · rw [hlast]
        by_cases hblank : Text.trim piece = []
        · rw [kept_blank hblank]
          exact List.nil_sublist _
        · rw [kept_last hblank rfl]
          split
          · exact List.Sublist.refl _
          · exact List.nil_sublist _
      · rw [compact_join_cons piece hlast]
        have hmore : (kept pieces).Sublist
            (compact piece ++ ',' :: compact (Text.join "," pieces)) :=
          (ih.cons ',').trans (List.sublist_append_right _ _)
        by_cases hblank : Text.trim piece = []
        · rw [kept_blank hblank]
          exact hmore
        · by_cases hfields : fieldsOf pieces = []
          · rw [kept_last hblank hfields]
            split
            · exact List.sublist_append_left _ _
            · exact List.nil_sublist _
          · rw [kept_cons hblank hfields]
            split
            · exact (List.Sublist.refl _).append (ih.cons_cons ',')
            · exact hmore

theorem fieldsOf_ne_nil {piece : Text} {pieces : List Text} (hmem : piece ∈ pieces)
    (h : Text.trim piece ≠ []) : fieldsOf pieces ≠ [] := by
  intro hnil
  have hfield : Text.trim piece ∈ fieldsOf pieces :=
    List.mem_filter.mpr ⟨List.mem_map_of_mem hmem, by simpa using h⟩
  rw [hnil] at hfield
  exact absurd hfield (by simp)

/-- When all pieces come back, nothing is lost. -/
theorem kept_of_forall {pieces : List Text} (h : ∀ piece ∈ pieces, IsKept piece) :
    kept pieces = compact (Text.join "," pieces) := by
  induction pieces with
  | nil => rfl
  | cons piece pieces ih =>
      have hpiece : IsKept piece := h piece (by simp)
      have hothers : ∀ p ∈ pieces, IsKept p := fun p hp => h p (by simp [hp])
      cases pieces with
      | nil => rw [kept_last hpiece.1 rfl, if_pos (isText_trim_iff.mpr hpiece)]; rfl
      | cons next pieces =>
          have hnext : fieldsOf (next :: pieces) ≠ [] :=
            fieldsOf_ne_nil (by simp) (hothers next (by simp)).1
          have hjoin := compact_join_cons piece (List.cons_ne_nil next pieces)
          rw [kept_cons hpiece.1 hnext, if_pos (isText_trim_iff.mpr hpiece), ih hothers, hjoin]

theorem fieldsOf_eq_nil {pieces : List Text} (h : ∀ piece ∈ pieces, Text.trim piece = []) :
    fieldsOf pieces = [] := by
  refine List.filter_eq_nil_iff.mpr fun field hfield => ?_
  obtain ⟨piece, hpiece, rfl⟩ := List.mem_map.mp hfield
  simp [h piece hpiece]

/-- A piece that does not come back adds nothing to what is read. -/
theorem length_kept_le {piece : Text} (h : ¬ IsKept piece) (pieces : List Text) :
    (kept (piece :: pieces)).length ≤ (kept pieces).length := by
  by_cases hblank : Text.trim piece = []
  · rw [kept_blank hblank]
  · have htext : ¬ isText (Text.trim piece) = true := fun hc => h (isText_trim_iff.mp hc)
    by_cases hfields : fieldsOf pieces = []
    · rw [kept_last hblank hfields, if_neg htext]
      exact Nat.zero_le _
    · rw [kept_cons hblank hfields, if_neg htext]

/-- When nothing is lost of what is there, all pieces come back. -/
theorem forall_of_kept {pieces : List Text} (h : kept pieces = compact (Text.join "," pieces))
    (hsome : compact (Text.join "," pieces) ≠ []) : ∀ piece ∈ pieces, IsKept piece := by
  induction pieces with
  | nil => simp
  | cons piece pieces ih =>
      by_cases hlast : pieces = []
      · rw [hlast] at h hsome ⊢
        have hpiece : IsKept piece := by
          by_contra hnot
          have hlength := length_kept_le hnot []
          rw [h] at hlength
          exact hsome (List.length_eq_zero_iff.mp (Nat.le_zero.mp hlength))
        simpa using hpiece
      · -- Whatever is left out, the comma after it is missing as well.
        rw [compact_join_cons piece hlast] at h
        have hlength := congrArg List.length h
        rw [List.length_append, List.length_cons] at hlength
        have hpiece : IsKept piece := by
          by_contra hnot
          have hadds := length_kept_le hnot pieces
          have hrest := (kept_sublist pieces).length_le
          omega
        have htext : isText (Text.trim piece) = true := isText_trim_iff.mpr hpiece
        have hfields : fieldsOf pieces ≠ [] := by
          intro hnil
          rw [kept_last hpiece.1 hnil, if_pos htext] at hlength
          omega
        rw [kept_cons hpiece.1 hfields, if_pos htext] at h
        have hrest := (List.cons.inj (List.append_cancel_left h)).2
        have hrestSome : compact (Text.join "," pieces) ≠ [] := fun hnil =>
          hfields (fieldsOf_eq_nil (trim_eq_nil_of_join hnil))
        intro p hp
        rcases List.mem_cons.mp hp with rfl | hp
        · exact hpiece
        · exact ih hrest hrestSome p hp

/-- A group that comes back when its lines are read. -/
def IsKeptGroup (g : Text) : Prop :=
  compact g = [] ∨ ∀ piece ∈ Signature.splitCommas 0 g, IsKept piece

/-- **Nothing of a group is lost exactly when it has nothing or only fields that come back.** -/
theorem kept_group_iff (g : Text) :
    kept (Signature.splitCommas 0 g) = compact g ↔ IsKeptGroup g := by
  have hjoin := Signature.join_splitCommas g 0
  constructor
  · intro h
    by_cases hsome : compact g = []
    · exact .inl hsome
    · exact .inr (forall_of_kept (by rw [hjoin]; exact h) (by rw [hjoin]; exact hsome))
  · rintro (hnil | hkept)
    · have hsublist := kept_sublist (Signature.splitCommas 0 g)
      rw [hjoin, hnil] at hsublist
      rw [hnil, List.sublist_nil.mp hsublist]
    · rw [kept_of_forall hkept, hjoin]

/-! ### The lines of a spread signature -/

/-- A field is one of the pieces, trimmed. -/
theorem exists_of_mem_fields {g field : Text} (h : field ∈ Signature.fields g) :
    ∃ piece ∈ Signature.splitCommas 0 g, Text.trim piece = field :=
  List.mem_map.mp (List.mem_filter.mp h).1

theorem balanced_of_mem_fields {g : Text} (hg : Balanced g) :
    ∀ field ∈ Signature.fields g, Balanced field := by
  intro field hfield
  obtain ⟨piece, hpiece, rfl⟩ := exists_of_mem_fields hfield
  exact (Signature.balanced_congr (Signature.compact_trim piece)).mpr
    (Signature.balanced_of_mem_splitCommas hg piece hpiece)

theorem mem_of_mem_fields {g field : Text} (h : field ∈ Signature.fields g) :
    ∀ c ∈ field, c ∈ g := by
  intro c hc
  obtain ⟨piece, hpiece, rfl⟩ := exists_of_mem_fields h
  rw [← Signature.join_splitCommas g 0]
  exact Text.mem_join "," hpiece (Text.mem_of_mem_trim hc)

theorem lineFeed_notMem_fields {g : Text} (hline : '\n' ∉ g) :
    ∀ field ∈ Signature.fields g, '\n' ∉ field :=
  fun _ hfield hmem => hline (mem_of_mem_fields hfield _ hmem)

/-- What a text comes to when its lines are read, the first at depth zero and the others as
lines that continue it. -/
structure IsReadFrom (t first : Text) (others : List Text) : Prop where
  /-- The lines lead back to depth zero. -/
  leads : ∃ depth, depthAfter 0 first = some depth ∧ Continues depth others 0
  /-- They begin as the text does. -/
  head : first.head? = t.head?
  /-- They bring nothing in. -/
  sublist : (compact (first ++ joined others)).Sublist (compact t)
  /-- Nothing is lost exactly when nothing is lost of any group. -/
  lossless : compact (first ++ joined others) = compact t ↔
    ∀ g, IsGroup t g → IsKeptGroup g

namespace IsReadFrom

theorem nil : IsReadFrom [] [] [] :=
  ⟨⟨0, rfl, .nil 0⟩, rfl, List.Sublist.refl _,
    ⟨fun _ g hg => absurd hg (Signature.not_isGroup_nil g), fun _ => rfl⟩⟩

theorem plain {c : Char} (hc : Signature.isParenthesis c = false) {t first : Text}
    {others : List Text} (h : IsReadFrom t first others) :
    IsReadFrom (c :: t) (c :: first) others := by
  have hadd : ∀ s : Text, compact (c :: s) = compact [c] ++ compact s := fun s =>
    Signature.compact_append [c] s
  refine ⟨?_, rfl, ?_, ?_⟩
  · obtain ⟨depth, hdepth, hothers⟩ := h.leads
    exact ⟨depth, by rw [Signature.depthAfter_cons_plain hc, hdepth], hothers⟩
  · rw [List.cons_append, hadd t, hadd (first ++ joined others)]
    exact (List.Sublist.refl _).append h.sublist
  · rw [List.cons_append, hadd t, hadd (first ++ joined others), List.append_cancel_left_eq,
      h.lossless]
    simp only [Signature.isGroup_cons_plain hc]

/-- What is read of a group and of what follows it is lossless when both are. -/
private theorem group_text {g t first middle : Text} {others : List Text}
    (hg : Balanced g) (h : IsReadFrom t first others)
    (hmiddle : compact middle = '(' :: kept (Signature.splitCommas 0 g) ++
      ')' :: compact (first ++ joined others)) :
    (compact middle).Sublist (compact ('(' :: (g ++ ')' :: t))) ∧
      (compact middle = compact ('(' :: (g ++ ')' :: t)) ↔
        ∀ g', IsGroup ('(' :: (g ++ ')' :: t)) g' → IsKeptGroup g') := by
  have htext : compact ('(' :: (g ++ ')' :: t)) = '(' :: compact g ++ ')' :: compact t := by
    simp [compact_cons (show isBlank '(' = false by decide),
      compact_cons (show isBlank ')' = false by decide)]
  have hkept : (kept (Signature.splitCommas 0 g)).Sublist (compact g) := by
    have := kept_sublist (Signature.splitCommas 0 g)
    rwa [Signature.join_splitCommas] at this
  rw [hmiddle, htext]
  refine ⟨(hkept.cons_cons '(').append (h.sublist.cons_cons ')'), ?_⟩
  constructor
  · intro heq g' hg'
    have hlength := congrArg List.length heq
    simp only [List.length_append, List.length_cons] at hlength
    have hkeptLength := hkept.length_le
    have hrestLength := h.sublist.length_le
    obtain ⟨hgroup, hrest⟩ := List.append_inj heq (by simp only [List.length_cons]; omega)
    rcases (Signature.isGroup_group hg t g').mp hg' with rfl | hg'
    · exact (kept_group_iff g').mp (List.cons.inj hgroup).2
    · exact h.lossless.mp (List.cons.inj hrest).2 g' hg'
  · intro hall
    rw [(kept_group_iff g).mpr (hall g ((Signature.isGroup_group hg t g).mpr (.inl rfl))),
      h.lossless.mpr fun g' hg' => hall g' ((Signature.isGroup_group hg t g').mpr (.inr hg'))]

/-- A group without fields, in front of what follows it. -/
theorem group_nil {g t first : Text} {others : List Text} (hg : Balanced g)
    (hfields : Signature.fields g = []) (h : IsReadFrom t first others) :
    IsReadFrom ('(' :: (g ++ ')' :: t)) ("()" ++ first) others := by
  have hkept : kept (Signature.splitCommas 0 g) = [] := by
    rw [kept, ← fields_eq, hfields]
    rfl
  have hmiddle : compact ("()" ++ first ++ joined others) =
      '(' :: kept (Signature.splitCommas 0 g) ++ ')' :: compact (first ++ joined others) := by
    simp [hkept, compact_cons (show isBlank '(' = false by decide),
      compact_cons (show isBlank ')' = false by decide)]
  obtain ⟨hsublist, hlossless⟩ := group_text hg h hmiddle
  refine ⟨?_, rfl, hsublist, hlossless⟩
  obtain ⟨depth, hdepth, hothers⟩ := h.leads
  exact ⟨depth, hdepth, hothers⟩

/-- A group with a line for each field, in front of what follows it. -/
theorem group_fields {g t first : Text} {others : List Text} (hg : Balanced g)
    (h : IsReadFrom t first others) :
    IsReadFrom ('(' :: (g ++ ')' :: t)) "("
      (fieldLines (Signature.fields g) ++ (')' :: first) :: others) := by
  have hclose : Text.trim (')' :: first) = ')' :: Text.trimRight first := by
    rw [Text.trim_eq, Text.trimLeft_cons (by decide), Text.trimRight_cons_bare (by decide)]
  have htext : isText (Text.trim (')' :: first)) = true := by
    rw [hclose]
    exact isText_iff.mpr ⟨by simp, by simp⟩
  have hmiddle : compact ("(" ++
        joined (fieldLines (Signature.fields g) ++ (')' :: first) :: others)) =
      '(' :: kept (Signature.splitCommas 0 g) ++ ')' :: compact (first ++ joined others) := by
    rw [joined_append, joined_cons_text htext, hclose]
    simp [kept, ← fields_eq, compact_cons (show isBlank '(' = false by decide),
      compact_cons (show isBlank ')' = false by decide),
      compact_cons_blank (show isBlank ' ' = true by decide), Signature.compact_trimRight]
  obtain ⟨hsublist, hlossless⟩ := group_text hg h hmiddle
  refine ⟨?_, rfl, hsublist, hlossless⟩
  obtain ⟨depth, hdepth, hothers⟩ := h.leads
  refine ⟨1, rfl, (continues_fieldLines (balanced_of_mem_fields hg)).append ?_⟩
  exact .keep (by simp) htext (by rw [Signature.depthAfter_close, hdepth]) hothers

end IsReadFrom

/-- **Reading the lines of a spread signature gives back what its groups keep.** -/
theorem exists_isReadFrom_spread {t : Text} (h : Balanced t) (hline : '\n' ∉ t) :
    ∃ first others, Text.splitOn (· = '\n') (Signature.spread t) = first :: others ∧
      IsReadFrom t first others := by
  induction h with
  | nil => exact ⟨[], [], rfl, .nil⟩
  | @plain c t hc ht ih =>
      obtain ⟨first, others, hlines, hread⟩ := ih fun hmem => hline (by simp [hmem])
      refine ⟨c :: first, others, ?_, hread.plain hc⟩
      have hmark : decide (c = '\n') = false := by
        simpa using fun heq : c = '\n' => hline (by simp [heq])
      rw [Signature.spread_plain hc ht, Text.splitOn_cons hmark, hlines, List.modifyHead_cons]
  | @group g t hg ht ihg iht =>
      obtain ⟨first, others, hlines, hread⟩ := iht fun hmem => hline (by simp [hmem])
      have hgroup : '\n' ∉ g := fun hmem => hline (by simp [hmem])
      rw [Signature.spread_group hg ht, Signature.spreadGroup]
      split
      next hfields =>
        refine ⟨"()" ++ first, others, ?_, hread.group_nil hg hfields⟩
        rw [Text.splitOn_append_line (by decide), hlines, List.modifyHead_cons]
      next found hfields =>
        refine ⟨"(", _, ?_, hread.group_fields hg⟩
        have hsplit := splitOn_fields hfields (lineFeed_notMem_fields hgroup)
          (')' :: Signature.spread t)
        rw [Text.splitOn_cons (by decide), hlines, List.modifyHead_cons] at hsplit
        have hopen : "(\n" ++ Text.join ",\n" ((Signature.fields g).map fun field =>
              "  " ++ field) ++ "\n)" ++ Signature.spread t =
            "(" ++ '\n' :: (Text.join ",\n" ((Signature.fields g).map fun field =>
              "  " ++ field) ++ '\n' :: ')' :: Signature.spread t) := by
          simp
        rw [hopen, Text.splitOn_line_append (by decide), hsplit]

end VarlinkClient.Description
