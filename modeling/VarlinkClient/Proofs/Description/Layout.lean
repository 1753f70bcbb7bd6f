/-
Reading the layout of a description.

The layout of a description that was read can be read again, at any width.  Its name comes
back, and so does every member but for two things that the layout does not keep apart: a
method's name and a signature that goes on like a name, and a field that looks like a
comment or is blank and gets a line of its own.  `parse_layout` says what is read,
`parse_layout_iff` when it is what was there.
-/
import VarlinkClient.Description.Layout
import VarlinkClient.Proofs.Description.Declarations
import VarlinkClient.Proofs.Text.Wrap

namespace VarlinkClient.Description

open Signature (Balanced IsGroup compact depthAfter depthAfter_append_free)

/-! ### Documentation -/

/-- What documentation is read as after it has been laid out. -/
def docAgain (width : Nat) (doc : List Text) : List Text :=
  (docLines .plain width doc).map fun line => commentText (Text.trim line).tail

theorem docLines_plain (width : Nat) (doc : List Text) :
    docLines .plain width doc = doc.flatMap (commentLines width) :=
  List.map_id _

/-- Documentation is laid out as comments, each on one line. -/
theorem mem_docLines {width : Nat} {doc : List Text} {line : Text}
    (h : line ∈ docLines .plain width doc) : (∃ rest, line = '#' :: rest) ∧ '\n' ∉ line := by
  rw [docLines_plain] at h
  obtain ⟨said, -, hline⟩ := List.mem_flatMap.mp h
  unfold commentLines at hline
  split at hline
  next =>
    rw [List.mem_singleton.mp hline]
    exact ⟨⟨[], rfl⟩, by decide⟩
  next =>
    obtain ⟨piece, hpiece, rfl⟩ := List.mem_map.mp hline
    refine ⟨⟨' ' :: piece, rfl⟩, fun hmem => ?_⟩
    have hfree := Wrap.lineFeed_notMem_of_mem_wrap hpiece
    rcases List.mem_append.mp hmem with hmem | hmem
    · revert hmem; decide
    · exact hfree hmem

/-! ### Members -/

/-- What is read of the signature of a member after it has been laid out. -/
def signatureAgain (width : Nat) (member : Member) : Text :=
  match Text.splitOn (· = '\n') (shownSignature width member) with
  | [] => []
  | first :: others => Text.trimRight (separator member.kind ++ first) ++ joined others

/-- The declaration that is read of a member after it has been laid out. -/
def declarationAgain (width : Nat) (member : Member) : Declaration :=
  ⟨docAgain width member.doc,
    member.kind.keyword ++ ' ' :: (member.name ++ signatureAgain width member)⟩

/-- What a member is read as after it has been laid out. -/
def memberAgain (width : Nat) (member : Member) : Member :=
  let rest := signatureAgain width member
  ⟨docAgain width member.doc, member.kind, member.name ++ rest.takeWhile isNameChar,
    Signature.normalise (rest.dropWhile isNameChar)⟩

/-- The lines of a signature that is shown lead back to depth zero; the text that is read of
them begins as the signature does, and is the signature, but for blanks, when it is not spread
or no group loses anything. -/
theorem exists_shown {member : Member} (h : IsProperMember member) (width : Nat) :
    ∃ first others, Text.splitOn (· = '\n') (shownSignature width member) = first :: others ∧
      (∃ depth, depthAfter 0 first = some depth ∧ Continues depth others 0) ∧
      first.head? = member.signature.head? ∧
      (compact (first ++ joined others) = compact member.signature ↔
        (width < Width.text (memberLine member) →
          ∀ g, IsGroup member.signature g → IsKeptGroup g)) := by
  have hline : '\n' ∉ member.signature := by
    rw [← h.canonical]
    exact Signature.lineFeed_notMem_normalise _
  by_cases hwide : width < Width.text (memberLine member)
  · rw [shownSignature, if_pos hwide]
    obtain ⟨first, others, hlines, hread⟩ := exists_isReadFrom_spread h.balanced hline
    refine ⟨first, others, hlines, hread.leads, hread.head, hread.lossless.trans ?_⟩
    simp [hwide]
  · rw [shownSignature, if_neg hwide]
    refine ⟨member.signature, [], Text.splitOn_line hline, ⟨0, h.balanced.depthAfter 0, .nil 0⟩,
      rfl, ?_⟩
    simp [hwide, joined]

theorem memberLayout_plain (width : Nat) (member : Member) : memberLayout .plain width member =
    member.kind.keyword ++
      ' ' :: (member.name ++ (separator member.kind ++ shownSignature width member)) := by
  simp [memberLayout, heading, Palette.paint]

/-- **The layout of a member is read as one declaration.** -/
theorem Scan.readLines_member {member : Member} (h : IsProperMember member) (width : Nat)
    (declarations : List Declaration) :
    (⟨declarations, docAgain width member.doc, 0⟩ : Scan).readLines
        (Text.splitOn (· = '\n') (memberLayout .plain width member)) =
      .ok ⟨declarations ++ [declarationAgain width member], [], 0⟩ := by
  obtain ⟨first, others, hlines, ⟨depth, hdepth, hothers⟩, -, -⟩ := exists_shown h width
  have hfeed : '\n' ∉ (separator member.kind : Text) := by cases member.kind <;> decide
  have hfree : ∀ c ∈ (separator member.kind : Text), Signature.isParenthesis c = false := by
    cases member.kind <;> simp [separator, Signature.isParenthesis]
  have hrest : Text.splitOn (· = '\n') (separator member.kind ++ shownSignature width member) =
      (separator member.kind ++ first) :: others := by
    rw [Text.splitOn_append_line hfeed, hlines, List.modifyHead_cons]
  have hcount : depthAfter 0 (separator member.kind ++ first) = some depth := by
    rw [depthAfter_append_free hfree, hdepth]
  have hread := Scan.readLines_memberLines h.named h.name member.kind hrest hcount hothers
    declarations (docAgain width member.doc)
  rw [memberLayout_plain, hread, declarationAgain, signatureAgain, hlines]
  rfl

/-- The declaration is read as a member of the same kind. -/
theorem readMember_again {member : Member} (h : IsProperMember member) (width : Nat) :
    readMember (declarationAgain width member) = .ok (memberAgain width member) :=
  readMember_memberDeclaration h.named h.name _ member.kind (signatureAgain width member)

/-! ### Descriptions -/

/-- Documentation that has been laid out is read as documentation. -/
theorem Scan.readLines_docLines (width : Nat) (doc : List Text)
    (declarations : List Declaration) :
    (⟨declarations, [], 0⟩ : Scan).readLines
        ((docLines .plain width doc).flatMap (Text.splitOn (· = '\n'))) =
      .ok ⟨declarations, docAgain width doc, 0⟩ := by
  rw [Text.flatMap_splitOn_lines fun line hline => (mem_docLines hline).2,
    Scan.readLines_comments fun line hline => (mem_docLines hline).1]
  rfl

/-- The lines of members are read as their declarations. -/
theorem Scan.readLines_members {members : List Member}
    (h : ∀ member ∈ members, IsProperMember member) (width : Nat)
    (declarations : List Declaration) :
    (⟨declarations, [], 0⟩ : Scan).readLines
        ((members.flatMap fun member =>
          [[]] ++ docLines .plain width member.doc ++ [memberLayout .plain width member]).flatMap
            (Text.splitOn (· = '\n'))) =
      .ok ⟨declarations ++ members.map (declarationAgain width), [], 0⟩ := by
  induction members generalizing declarations with
  | nil => simp [Scan.readLines]
  | cons member members ih =>
      have hblank : (⟨declarations, [], 0⟩ : Scan).readLines
          ([([] : Text)].flatMap (Text.splitOn (· = '\n'))) = .ok ⟨declarations, [], 0⟩ := rfl
      rw [List.flatMap_cons, List.flatMap_append, List.flatMap_append, List.flatMap_append,
        List.append_assoc, List.append_assoc, Scan.readLines_append hblank,
        Scan.readLines_append (Scan.readLines_docLines width member.doc declarations),
        List.flatMap_singleton,
        Scan.readLines_append (Scan.readLines_member (h member (by simp)) width declarations),
        ih fun m hm => h m (by simp [hm])]
      simp [declarationAgain]

/-- The declaration of the interface, as it is read from a layout. -/
def interfaceAgain (width : Nat) (description : Description) : Declaration :=
  ⟨docAgain width description.doc, Keyword.interface.text ++ ' ' :: description.name⟩

theorem heading_plain (keyword : Keyword) (name : Text) :
    heading .plain keyword.text name = keyword.text ++ ' ' :: name := by
  simp [heading, Palette.paint]

/-- The layout is read as the declarations of the interface and of its members. -/
theorem declarations_layout {description : Description} (h : description.IsProper)
    (width : Nat) : declarations (layout .plain width description) =
      .ok (interfaceAgain width description ::
        description.members.map (declarationAgain width)) := by
  have hlines : Text.splitOn (· = '\n') (layout .plain width description) =
      (layoutLines .plain width description).flatMap (Text.splitOn (· = '\n')) ++ [[]] := by
    have hne : layoutLines .plain width description ≠ [] := by simp [layoutLines]
    exact Text.splitOn_join hne []
  have hname : '\n' ∉ Keyword.interface.text ++ ' ' :: description.name := by
    have hkeyword : '\n' ∉ Keyword.interface.text := by decide
    simp [hkeyword, h.line]
  refine declarations_of_readLines ?_ fun d hd => ?_
  · have hinterface := Scan.readLines_interface h.named h.trimmed h.balanced
      (docAgain width description.doc)
    have hword : "interface".toList = Keyword.interface.text := rfl
    rw [hlines, Scan.readLines_append_blank, layoutLines, hword, List.flatMap_append,
      List.flatMap_append, List.append_assoc, Scan.start,
      Scan.readLines_append (Scan.readLines_docLines width description.doc []), heading_plain,
      List.flatMap_singleton, Text.splitOn_line hname, Scan.readLines_append hinterface,
      Scan.readLines_members h.members width]
    rfl
  · obtain ⟨member, -, rfl⟩ := List.mem_map.mp hd
    exact ⟨member.kind, keyword?_memberDeclaration _ _ _ _⟩

/-- **The layout of a description that was read is read again**, as a description of the same
name whose members are those that `memberAgain` gives. -/
theorem parse_layout {description : Description} (h : description.IsProper) (width : Nat) :
    parse (layout .plain width description) =
      .ok ⟨docAgain width description.doc, description.name,
        description.members.map (memberAgain width)⟩ :=
  parse_eq_ok_iff.mpr ⟨_, _, declarations_layout h width,
    interfaceName?_keyword h.named h.trimmed,
    readMembers_map fun member hmem => readMember_again (h.members member hmem) width, rfl⟩

/-! ### What comes back -/

/-- What a member declares: its kind, its name and its signature. -/
def outline (member : Member) : MemberKind × Text × Text :=
  (member.kind, member.name, member.signature)

/-- The name of a member goes on when its signature does so like a name. -/
theorem takeWhile_signatureAgain {member : Member} (h : IsProperMember member) (width : Nat) :
    (signatureAgain width member).takeWhile isNameChar = [] ↔
      (member.kind = .method → ∀ c, member.signature.head? = some c → isNameChar c = false) := by
  obtain ⟨first, others, hlines, -, hhead, -⟩ := exists_shown h width
  rw [signatureAgain, hlines]
  dsimp only
  -- What is read begins with a blank, or as the text of which blanks have been taken off its end.
  have hblank : ∀ {t : Text}, (∀ c, t.head? = some c → isNameChar c = false) →
      (Text.trimRight t ++ joined others).takeWhile isNameChar = [] := by
    intro t ht
    cases htrim : Text.trimRight t with
    | nil => exact takeWhile_joined others
    | cons c rest =>
        obtain ⟨blanks, hsplit, -⟩ := Text.exists_trimRight t
        rw [htrim] at hsplit
        have hc : isNameChar c = false := ht c (by rw [hsplit]; rfl)
        rw [List.cons_append, List.takeWhile_cons_of_neg (by simp [hc])]
  constructor
  · intro htake hmethod c hc
    cases hname : isNameChar c with
    | false => rfl
    | true =>
        rw [← hhead] at hc
        obtain ⟨rest, rfl⟩ := List.head?_eq_some_iff.mp hc
        have hbare : isBlank c = false := isBlank_of_isNameChar hname
        rw [hmethod] at htake
        have hfirst : Text.trimRight (separator .method ++ (c :: rest)) =
            c :: Text.trimRight rest := Text.trimRight_cons_bare hbare rest
        rw [hfirst, List.cons_append, List.takeWhile_cons_of_pos hname] at htake
        exact absurd htake (by simp)
  · intro hsignature
    refine hblank fun c hc => ?_
    by_cases hmethod : member.kind = .method
    · rw [hmethod] at hc
      exact hsignature hmethod c (hhead ▸ hc)
    · have hseparator : separator member.kind = " ".toList := by
        cases hkind : member.kind with
        | method => exact absurd hkind hmethod
        | type => rfl
        | error => rfl
      rw [hseparator] at hc
      rw [← Option.some.inj hc]
      decide

/-- Without blanks the signature comes back when no group loses anything. -/
theorem compact_signatureAgain {member : Member} (h : IsProperMember member) (width : Nat) :
    compact (signatureAgain width member) = compact member.signature ↔
      (width < Width.text (memberLine member) →
        ∀ g, IsGroup member.signature g → IsKeptGroup g) := by
  obtain ⟨first, others, hlines, -, -, hlossless⟩ := exists_shown h width
  have hseparator : compact (separator member.kind) = [] := by cases member.kind <;> rfl
  have hcompact : compact (signatureAgain width member) = compact (first ++ joined others) := by
    rw [signatureAgain, hlines]
    simp [Signature.compact_trimRight, hseparator]
  rw [hcompact, hlossless]

/-- A member comes back when neither its name goes on nor its signature loses anything. -/
theorem outline_memberAgain {member : Member} (h : IsProperMember member) (width : Nat) :
    outline (memberAgain width member) = outline member ↔
      (signatureAgain width member).takeWhile isNameChar = [] ∧
        compact (signatureAgain width member) = compact member.signature := by
  have hdrop : (signatureAgain width member).takeWhile isNameChar = [] →
      (signatureAgain width member).dropWhile isNameChar = signatureAgain width member := by
    intro htake
    have hsplit :=
      List.takeWhile_append_dropWhile (p := isNameChar) (l := signatureAgain width member)
    rwa [htake, List.nil_append] at hsplit
  have houtline : outline (memberAgain width member) = outline member ↔
      member.name ++ (signatureAgain width member).takeWhile isNameChar = member.name ∧
        Signature.normalise ((signatureAgain width member).dropWhile isNameChar) =
          member.signature := by
    simp [outline, memberAgain]
  rw [houtline, List.append_right_eq_self]
  refine and_congr_right fun htake => ?_
  rw [hdrop htake, ← Signature.normalise_eq_iff, h.canonical]

/-- In a signature in canonical spacing, a group with nothing but blanks is empty. -/
theorem isKeptGroup_iff {member : Member} (h : IsProperMember member) {g : Text}
    (hg : IsGroup member.signature g) : IsKeptGroup g ↔ g = [] ∨
      ∀ field ∈ (Signature.splitCommas 0 g).map Text.trim,
        field ≠ [] ∧ field.head? ≠ some '#' := by
  have hempty : compact g = [] ↔ g = [] := by
    constructor
    · rw [← h.canonical] at hg
      exact Signature.eq_nil_of_isGroup_normalise hg
    · rintro rfl
      rfl
  rw [IsKeptGroup, hempty, List.forall_mem_map]
  rfl

/-- **A description comes back from its layout, name and members, with two exceptions**: no
signature of a method may go on like the name, and in no member that is wider than the width
may a group that is not empty have a field that is blank or begins with `#`. -/
theorem parse_layout_iff {t : Text} {description : Description}
    (h : parse t = .ok description) (width : Nat) :
    (∃ again, parse (layout .plain width description) = .ok again ∧
        again.name = description.name ∧
        again.members.map outline = description.members.map outline) ↔
      (∀ member ∈ description.members, member.kind = .method →
        ∀ c, member.signature.head? = some c → isNameChar c = false) ∧
      (∀ member ∈ description.members, width < Width.text (memberLine member) →
        ∀ g, IsGroup member.signature g → g = [] ∨
          ∀ field ∈ (Signature.splitCommas 0 g).map Text.trim,
            field ≠ [] ∧ field.head? ≠ some '#') := by
  have hproper := isProper_of_parse h
  have hagain : (∃ again, parse (layout .plain width description) = .ok again ∧
      again.name = description.name ∧
      again.members.map outline = description.members.map outline) ↔
      ∀ member ∈ description.members, outline (memberAgain width member) = outline member := by
    rw [parse_layout hproper width]
    simp
  have hmember : ∀ member ∈ description.members,
      (outline (memberAgain width member) = outline member ↔
        (member.kind = .method → ∀ c, member.signature.head? = some c → isNameChar c = false) ∧
        (width < Width.text (memberLine member) → ∀ g, IsGroup member.signature g → g = [] ∨
          ∀ field ∈ (Signature.splitCommas 0 g).map Text.trim,
            field ≠ [] ∧ field.head? ≠ some '#')) := by
    intro member hmem
    have hproperMember := hproper.members member hmem
    rw [outline_memberAgain hproperMember, takeWhile_signatureAgain hproperMember,
      compact_signatureAgain hproperMember]
    refine and_congr_right fun _ => imp_congr_right fun _ => ?_
    exact forall_congr' fun g => imp_congr_right fun hg => isKeptGroup_iff hproperMember hg
  rw [hagain]
  constructor
  · intro hall
    exact ⟨fun member hmem => ((hmember member hmem).mp (hall member hmem)).1,
      fun member hmem => ((hmember member hmem).mp (hall member hmem)).2⟩
  · rintro ⟨hmethods, hgroups⟩ member hmem
    exact (hmember member hmem).mpr ⟨hmethods member hmem, hgroups member hmem⟩

/-- A field that begins with `#` is lost when its member is wider than the width. -/
theorem parse_layout_iff_comment :
    let t : Text := "interface a.b\nmethod P(x: int, #y: int) -> ()"
    let description : Description := ⟨[], "a.b", [⟨[], .method, "P", "(x: int, #y: int) -> ()"⟩]⟩
    parse t = .ok description ∧
    ¬ ∃ again, parse (layout .plain 20 description) = .ok again ∧
        again.name = description.name ∧
        again.members.map outline = description.members.map outline := by
  intro t description
  have hparse : parse t = .ok description := by decide
  refine ⟨hparse, fun hagain => ?_⟩
  obtain ⟨-, hgroups⟩ := (parse_layout_iff hparse 20).mp hagain
  have hgroup : IsGroup "(x: int, #y: int) -> ()" "x: int, #y: int" :=
    ⟨[], " -> ()", rfl, .nil, Signature.balanced_iff.mpr rfl⟩
  rcases hgroups _ (List.mem_singleton.mpr rfl) (by decide) _ hgroup with hnil | hfields
  · exact absurd hnil (by decide)
  · exact (hfields "#y: int" (by decide)).2 rfl

end VarlinkClient.Description
