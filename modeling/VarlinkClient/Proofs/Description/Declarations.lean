/-
Lines that make up declarations.

Outside of parentheses comments document the declaration after them, and a line that starts
with a keyword begins one; lines inside of parentheses are joined to it.  Of the declaration of
a member, the name is what may stand in a name and the signature is the rest.

This is said about any lines of the kind: those of a layout, and those that somebody has written.
-/
import VarlinkClient.Proofs.Description.Spread

namespace VarlinkClient.Description

open Signature (Balanced depthAfter depthAfter_append_free)

/-! ### Documentation -/

theorem trim_comment (rest : Text) : Text.trim ('#' :: rest) = '#' :: Text.trimRight rest := by
  rw [Text.trim_eq, Text.trimLeft_cons (by decide), Text.trimRight_cons_bare (by decide)]

/-- Outside of parentheses, comments are documentation. -/
theorem Scan.readLines_comments {lines : List Text}
    (h : ∀ line ∈ lines, ∃ rest, line = '#' :: rest) (declarations : List Declaration)
    (doc : List Text) :
    (⟨declarations, doc, 0⟩ : Scan).readLines lines =
      .ok ⟨declarations, doc ++ lines.map fun line => commentText (Text.trim line).tail, 0⟩ := by
  induction lines generalizing doc with
  | nil => simp [Scan.readLines]
  | cons line lines ih =>
      obtain ⟨rest, rfl⟩ := h line (by simp)
      have hread : (⟨declarations, doc, 0⟩ : Scan).readLine (Text.trim ('#' :: rest)) =
          .ok ⟨declarations, doc ++ [commentText (Text.trimRight rest)], 0⟩ := by
        rw [trim_comment, Scan.readLine, if_pos rfl]
      rw [Scan.readLines_cons hread, ih fun l hl => h l (by simp [hl]), List.map_cons,
        trim_comment, List.append_assoc]
      rfl

/-! ### Lines with a keyword -/

/-- A line that starts with a keyword begins a declaration. -/
theorem Scan.readLine_keyword (declarations : List Declaration) (doc : List Text)
    (keyword : Keyword) {rest : Text} {depth : Nat} (hdepth : depthAfter 0 rest = some depth) :
    (⟨declarations, doc, 0⟩ : Scan).readLine (keyword.text ++ ' ' :: rest) =
      .ok ⟨declarations ++ [⟨doc, keyword.text ++ ' ' :: rest⟩], [], depth⟩ := by
  have htext : isText (keyword.text ++ ' ' :: rest) = true := by
    cases keyword with
    | interface => rfl
    | member kind => cases kind <;> rfl
  have hplaced : (⟨declarations, doc, 0⟩ : Scan).place (keyword.text ++ ' ' :: rest) =
      .ok ⟨declarations ++ [⟨doc, keyword.text ++ ' ' :: rest⟩], [], 0⟩ := by
    rw [Scan.place, if_pos rfl, keyword?_append, if_pos (by simp)]
  refine Scan.readLine_text htext hplaced ?_
  have hletters : ∀ c ∈ keyword.text, Signature.isParenthesis c = false := fun c hc =>
    isParenthesis_of_isNameChar (keyword.isNameChar_of_mem c hc)
  rw [depthAfter_append_free hletters, Signature.depthAfter_cons_plain (by decide), hdepth]

/-- A trimmed name behind a keyword is not touched by trimming. -/
theorem trim_keyword (keyword : Keyword) {name : Text} (hnamed : name ≠ [])
    (htrim : Text.trim name = name) :
    Text.trim (keyword.text ++ ' ' :: name) = keyword.text ++ ' ' :: name := by
  have hbare : Text.StartsBare name := htrim ▸ Text.startsBare_trim name
  obtain ⟨c, rest, rfl⟩ := List.exists_cons_of_ne_nil hnamed
  have hc : isBlank c = false := Text.startsBare_cons.mp hbare
  have hrest : Text.trimRight rest = rest := by
    rw [Text.trim_eq_trimRight hbare, Text.trimRight_cons_bare hc] at htrim
    exact (List.cons.inj htrim).2
  have hstart : Text.StartsBare (keyword.text ++ ' ' :: c :: rest) := by
    obtain ⟨d, letters, htext, hd⟩ := keyword.exists_cons
    rw [htext]
    exact Text.startsBare_cons.mpr (isBlank_of_isNameChar hd)
  have hlast := Text.trimRight_append_bare (s := keyword.text ++ [' ']) hc rest
  rw [hrest, List.append_assoc, List.singleton_append] at hlast
  rw [Text.trim_eq_trimRight hstart, hlast]

/-- The line that names the interface is read as its declaration. -/
theorem Scan.readLines_interface {name : Text} (hnamed : name ≠ [])
    (htrim : Text.trim name = name) (hbalanced : Balanced name) (doc : List Text) :
    (⟨[], doc, 0⟩ : Scan).readLines [Keyword.interface.text ++ ' ' :: name] =
      .ok ⟨[⟨doc, Keyword.interface.text ++ ' ' :: name⟩], [], 0⟩ := by
  have hfirst : (⟨[], doc, 0⟩ : Scan).readLine
        (Text.trim (Keyword.interface.text ++ ' ' :: name)) =
      .ok ⟨[⟨doc, Keyword.interface.text ++ ' ' :: name⟩], [], 0⟩ := by
    rw [trim_keyword .interface hnamed htrim]
    exact Scan.readLine_keyword [] doc .interface (hbalanced.depthAfter 0)
  rw [Scan.readLines_cons hfirst]
  rfl

theorem interfaceName?_keyword {name : Text} (hnamed : name ≠ [])
    (htrim : Text.trim name = name) :
    interfaceName? (Keyword.interface.text ++ ' ' :: name) = some name := by
  have hstrip : Text.stripStart "interface" (Keyword.interface.text ++ ' ' :: name) =
      some (' ' :: name) :=
    List.isPrefixOf?_eq_some_iff_append_eq.mpr rfl
  rw [interfaceName?, hstrip]
  dsimp only
  rw [Text.trim_cons_blank (by decide), htrim, if_neg hnamed]

/-! ### Members -/

/-- The declaration of a member whose name is followed by `rest`. -/
def memberDeclaration (doc : List Text) (kind : MemberKind) (name rest : Text) : Declaration :=
  ⟨doc, kind.keyword ++ ' ' :: (name ++ rest)⟩

theorem keyword?_memberDeclaration (doc : List Text) (kind : MemberKind) (name rest : Text) :
    keyword? (memberDeclaration doc kind name rest).text = some (.member kind) :=
  keyword?_append (.member kind) (name ++ rest)

section Named

variable {name : Text} (hnamed : name ≠ []) (hname : ∀ c ∈ name, isNameChar c = true)
include hnamed hname

/-- A name in front of what is trimmed at its end stays as it is. -/
theorem trimRight_name (s t : Text) :
    Text.trimRight (s ++ (name ++ t)) = s ++ (name ++ Text.trimRight t) := by
  obtain ⟨start, last, rfl⟩ : ∃ start last, name = start ++ [last] :=
    ⟨name.dropLast, name.getLast hnamed, (List.dropLast_append_getLast hnamed).symm⟩
  have hlast : isBlank last = false := isBlank_of_isNameChar (hname last (by simp))
  have htrim := Text.trimRight_append_bare (s := s ++ start) hlast t
  simpa using htrim

/-- Trimming the first line of a member leaves its keyword and its name as they are. -/
theorem trim_memberLine (kind : MemberKind) (first : Text) :
    Text.trim (kind.keyword ++ ' ' :: (name ++ first)) =
      kind.keyword ++ ' ' :: (name ++ Text.trimRight first) := by
  have hbare : Text.StartsBare (kind.keyword ++ ' ' :: (name ++ first)) := by
    cases kind <;> exact Text.startsBare_cons.mpr (by decide)
  have hright := trimRight_name hnamed hname (kind.keyword ++ [' ']) first
  rw [Text.trim_eq_trimRight hbare]
  simpa using hright

/-- **The lines of a member are read as one declaration**, when they lead back to depth zero. -/
theorem Scan.readLines_memberLines (kind : MemberKind) {rest first : Text} {others : List Text}
    {depth : Nat} (hlines : Text.splitOn (· = '\n') rest = first :: others)
    (hdepth : depthAfter 0 first = some depth) (hothers : Continues depth others 0)
    (declarations : List Declaration) (doc : List Text) :
    (⟨declarations, doc, 0⟩ : Scan).readLines
        (Text.splitOn (· = '\n') (kind.keyword ++ ' ' :: (name ++ rest))) =
      .ok ⟨declarations ++
        [memberDeclaration doc kind name (Text.trimRight first ++ joined others)], [], 0⟩ := by
  have hline : '\n' ∉ kind.keyword ++ ' ' :: name := by
    have hkeyword : '\n' ∉ kind.keyword := by cases kind <;> decide
    have hfree : '\n' ∉ name := fun hmem => absurd (hname _ hmem) (by decide)
    simp [hkeyword, hfree]
  have hcount : depthAfter 0 (name ++ Text.trimRight first) = some depth := by
    rw [depthAfter_append_free fun c hc => isParenthesis_of_isNameChar (hname c hc),
      Signature.depthAfter_of_compact_eq (Signature.compact_trimRight first), hdepth]
  have hfirst : (⟨declarations, doc, 0⟩ : Scan).readLine
        (Text.trim (kind.keyword ++ ' ' :: (name ++ first))) =
      .ok ⟨declarations ++ [memberDeclaration doc kind name (Text.trimRight first)], [], depth⟩ :=
    by
    rw [trim_memberLine hnamed hname]
    exact Scan.readLine_keyword declarations doc (.member kind) hcount
  have hsplit : Text.splitOn (· = '\n') (kind.keyword ++ ' ' :: (name ++ rest)) =
      (kind.keyword ++ ' ' :: (name ++ first)) :: others := by
    have happend := Text.splitOn_append_line hline rest
    rw [hlines] at happend
    simpa using happend
  rw [hsplit, Scan.readLines_cons hfirst, Scan.readLines_continues hothers]
  simp [memberDeclaration]

/-- The declaration is read as a member of the same kind. -/
theorem readMember_memberDeclaration (doc : List Text) (kind : MemberKind) (rest : Text) :
    readMember (memberDeclaration doc kind name rest) =
      .ok ⟨doc, kind, name ++ rest.takeWhile isNameChar,
        Signature.normalise (rest.dropWhile isNameChar)⟩ := by
  obtain ⟨c, letters, hcons⟩ := List.exists_cons_of_ne_nil hnamed
  have hc : isBlank c = false := isBlank_of_isNameChar (hname c (by simp [hcons]))
  have hdrop : Text.trimLeft ((memberDeclaration doc kind name rest).text.drop
      kind.keyword.length) = name ++ rest := by
    rw [memberDeclaration, List.drop_left, Text.trimLeft_cons_blank (by decide), hcons]
    exact Text.trimLeft_cons hc _
  rw [readMember, keyword?_memberDeclaration]
  dsimp only
  rw [hdrop, List.takeWhile_append_of_pos hname, List.dropWhile_append_of_pos hname]
  split
  next hnil => simp [hnamed] at hnil
  next => rfl

end Named

/-- Members are read one after another. -/
theorem readMembers_map {α : Type} {declare : α → Declaration} {member : α → Member} {as : List α}
    (h : ∀ a ∈ as, readMember (declare a) = .ok (member a)) :
    readMembers (as.map declare) = .ok (as.map member) := by
  induction as with
  | nil => rfl
  | cons a as ih =>
      rw [List.map_cons, readMembers, h a (by simp), ih fun b hb => h b (by simp [hb])]
      rfl

/-! ### Descriptions -/

/-- What the lines come to, when only the first declaration is that of an interface. -/
theorem declarations_of_readLines {t : Text} {first : Declaration} {members : List Declaration}
    (hread : Scan.start.readLines (Text.splitOn (· = '\n') t) = .ok ⟨first :: members, [], 0⟩)
    (hmembers : ∀ d ∈ members, ∃ kind, keyword? d.text = some (.member kind)) :
    declarations t = .ok (first :: members) := by
  refine declarations_eq_ok_iff.mpr ⟨[], hread, fun d hd => ?_⟩
  obtain ⟨kind, hkeyword⟩ := hmembers d hd
  simp [hkeyword]

end VarlinkClient.Description
