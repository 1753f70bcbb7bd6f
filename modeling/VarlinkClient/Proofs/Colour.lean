/-
Colour only adds escape sequences.

The layout of a description decides about widths and line breaks before it paints: comments are
wrapped and signatures are spread as plain texts.  What is wrapped or spread has no characters
but those it had and a few of the layout's own, so a description without escape characters is
painted in fragments without them, and each of these shows itself.
-/
import VarlinkClient.Proofs.Description.Layout
import VarlinkClient.Proofs.Description.Parser
import VarlinkClient.Proofs.Json.Layout
import VarlinkClient.Proofs.Text.Wrap

namespace VarlinkClient

namespace Description

open Palette (Shows shows_of_notMem)

/-! ### What spreading puts in -/

/-- The characters that spreading puts into a signature. -/
def frame : Text :=
  "(\n ,)"

theorem mem_of_mem_spreadGroup {inner : Text} {c : Char} (h : c ∈ Signature.spreadGroup inner) :
    c ∈ inner ∨ c ∈ frame := by
  have hempty : "()".toList ⊆ frame := by decide
  have hopen : "(\n".toList ⊆ frame := by decide
  have hcomma : ",\n".toList ⊆ frame := by decide
  have hindent : "  ".toList ⊆ frame := by decide
  have hclose : "\n)".toList ⊆ frame := by decide
  unfold Signature.spreadGroup at h
  split at h
  · exact Or.inr (hempty h)
  · rw [List.mem_append, List.mem_append] at h
    rcases h with (h | h) | h
    · exact Or.inr (hopen h)
    · rcases Text.exists_of_mem_join h with h | ⟨line, hline, hc⟩
      · exact Or.inr (hcomma h)
      · obtain ⟨field, hfield, rfl⟩ := List.mem_map.mp hline
        rcases List.mem_append.mp hc with hc | hc
        · exact Or.inr (hindent hc)
        · exact Or.inl (mem_of_mem_fields hfield c hc)
    · exact Or.inr (hclose h)

theorem mem_of_mem_spreadFrom {t : Text} {c : Char} : ∀ {depth : Nat} {since : Text},
    c ∈ Signature.spreadFrom depth since t → c ∈ since ∨ c ∈ t ∨ c ∈ frame := by
  induction t with
  | nil => intro depth since h; simp [Signature.spreadFrom] at h
  | cons d t ih =>
      intro depth since h
      -- What is collected on the way is from `since`, or it is the character in front.
      have hmore : ∀ {depth : Nat}, c ∈ Signature.spreadFrom depth (since ++ [d]) t →
          c ∈ since ∨ c ∈ d :: t ∨ c ∈ frame := by
        intro depth h
        rcases ih h with h | h | h
        · rcases List.mem_append.mp h with h | h
          · exact Or.inl h
          · exact Or.inr (Or.inl (List.mem_cons.mpr (Or.inl (List.mem_singleton.mp h))))
        · exact Or.inr (Or.inl (List.mem_cons_of_mem d h))
        · exact Or.inr (Or.inr h)
      rw [Signature.spreadFrom] at h
      split at h
      · split at h
        · rcases ih h with h | h | h
          · cases h
          · exact Or.inr (Or.inl (List.mem_cons_of_mem d h))
          · exact Or.inr (Or.inr h)
        · exact hmore h
      split at h
      · split at h
        · rcases List.mem_append.mp h with h | h
          · exact (mem_of_mem_spreadGroup h).imp id Or.inr
          · exact hmore h
        · exact hmore h
      split at h
      · rcases List.mem_cons.mp h with rfl | h
        · exact Or.inr (Or.inl List.mem_cons_self)
        · exact hmore h
      · exact hmore h

/-- Spreading a signature puts in nothing but parentheses, commas, blanks and line feeds. -/
theorem mem_of_mem_spread {t : Text} {c : Char} (h : c ∈ Signature.spread t) :
    c ∈ t ∨ c ∈ frame := by
  rcases mem_of_mem_spreadFrom h with h | h
  · cases h
  · exact h

/-! ### Fragments of a description -/

/-- No escape character stands in the name of the description, its documentation or its
signatures. -/
structure IsFree (description : Description) : Prop where
  name : '\x1b' ∉ description.name
  doc : ∀ line ∈ description.doc, '\x1b' ∉ line
  memberDoc : ∀ member ∈ description.members, ∀ line ∈ member.doc, '\x1b' ∉ line
  signature : ∀ member ∈ description.members, '\x1b' ∉ member.signature

theorem notMem_commentLines {width : Nat} {said : Text} (h : '\x1b' ∉ said) :
    ∀ line ∈ commentLines width said, '\x1b' ∉ line := by
  intro line hline
  unfold commentLines at hline
  split at hline
  · rw [List.mem_singleton.mp hline]
    decide
  · obtain ⟨piece, hpiece, rfl⟩ := List.mem_map.mp hline
    have hfree : '\x1b' ∉ piece := fun hc => h (Wrap.mem_of_mem_wrap hpiece _ hc).1
    simp [hfree]

theorem shows_docLines (width : Nat) {doc : List Text} (h : ∀ line ∈ doc, '\x1b' ∉ line) :
    List.Forall₂ Shows (docLines .colored width doc) (docLines .plain width doc) := by
  refine Palette.forall₂_shows_map fun line hline => Palette.shows_paint .comment ?_
  obtain ⟨said, hsaid, hline⟩ := List.mem_flatMap.mp hline
  exact notMem_commentLines (h said hsaid) line hline

theorem shows_heading {keyword name : Text} (hkeyword : '\x1b' ∉ keyword)
    (hname : '\x1b' ∉ name) :
    Shows (heading .colored keyword name) (heading .plain keyword name) :=
  ((Palette.shows_paint .keyword hkeyword).append (shows_of_notMem (by decide))).append
    (Palette.shows_paint .name hname)

theorem notMem_shownSignature {member : Member} (h : '\x1b' ∉ member.signature) (width : Nat) :
    '\x1b' ∉ shownSignature width member := by
  unfold shownSignature
  split
  · intro hc
    rcases mem_of_mem_spread hc with hc | hc
    · exact h hc
    · exact absurd hc (by decide)
  · exact h

theorem shows_memberLayout {member : Member} (hname : '\x1b' ∉ member.name)
    (hsignature : '\x1b' ∉ member.signature) (width : Nat) :
    Shows (memberLayout .colored width member) (memberLayout .plain width member) := by
  have hkeyword : '\x1b' ∉ member.kind.keyword := by cases member.kind <;> decide
  have hseparator : '\x1b' ∉ (separator member.kind : Text) := by cases member.kind <;> decide
  exact ((shows_heading hkeyword hname).append (shows_of_notMem hseparator)).append
    (shows_of_notMem (notMem_shownSignature hsignature width))

theorem shows_members (width : Nat) {members : List Member}
    (hdocs : ∀ member ∈ members, ∀ line ∈ member.doc, '\x1b' ∉ line)
    (hnames : ∀ member ∈ members, '\x1b' ∉ member.name)
    (hsignatures : ∀ member ∈ members, '\x1b' ∉ member.signature) :
    List.Forall₂ Shows
      (members.flatMap fun member =>
        [[]] ++ docLines .colored width member.doc ++ [memberLayout .colored width member])
      (members.flatMap fun member =>
        [[]] ++ docLines .plain width member.doc ++ [memberLayout .plain width member]) := by
  induction members with
  | nil => exact .nil
  | cons member members ih =>
      have hblank : List.Forall₂ Shows [[]] [[]] := .cons Palette.shows_nil .nil
      have hdoc := shows_docLines width (hdocs member (by simp))
      have hlayout :=
        shows_memberLayout (hnames member (by simp)) (hsignatures member (by simp)) width
      rw [List.flatMap_cons, List.flatMap_cons]
      exact List.rel_append (List.rel_append (List.rel_append hblank hdoc) (.cons hlayout .nil))
        (ih (fun m hm => hdocs m (by simp [hm])) (fun m hm => hnames m (by simp [hm]))
          (fun m hm => hsignatures m (by simp [hm])))

/-- **A description with colour shows the description without**, when no escape character stands
in it. -/
theorem shows_layout {description : Description} (h : description.IsFree)
    (hnames : ∀ member ∈ description.members, '\x1b' ∉ member.name) (width : Nat) :
    Shows (layout .colored width description) (layout .plain width description) := by
  have hline : Shows "\n".toList "\n".toList := shows_of_notMem (by decide)
  have hkeyword : '\x1b' ∉ "interface".toList := by decide
  have hheading := shows_heading hkeyword h.name
  have hlines : List.Forall₂ Shows (layoutLines .colored width description)
      (layoutLines .plain width description) :=
    List.rel_append (List.rel_append (shows_docLines width h.doc) (.cons hheading .nil))
      (shows_members width h.memberDoc hnames h.signature)
  exact (hline.join hlines).append hline

/-- The names of members that were read are letters, digits and underscores. -/
theorem notMem_name_of_parse {t : Text} {description : Description}
    (h : parse t = .ok description) : ∀ member ∈ description.members, '\x1b' ∉ member.name := by
  intro member hmember hc
  have hname := ((isProper_of_parse h).members member hmember).name _ hc
  exact absurd hname (by decide)

end Description

/-- **Colour only adds escape sequences.**  Without them the layout of parameters with colour is
that without, whatever the parameters are; and so are the layouts of a description, at every
width, when no escape character stands in its names, its documentation or its signatures.  The
names of the members of a description that was read have none. -/
theorem Palette.strip_layout :
    (∀ parameters : Option Json.Value,
      (Json.layoutParameters .colored parameters).map Palette.strip =
        Json.layoutParameters .plain parameters) ∧
    (∀ description : Description, description.IsFree →
      (∀ member ∈ description.members, '\x1b' ∉ member.name) → ∀ width,
        Palette.strip (description.layout .colored width) = description.layout .plain width) ∧
    ∀ (t : Text) (description : Description), Description.parse t = .ok description →
      description.IsFree → ∀ width,
        Palette.strip (description.layout .colored width) = description.layout .plain width := by
  refine ⟨fun parameters => ?_, fun description h hnames width => ?_,
    fun t description hparse h width => ?_⟩
  · cases parameters with
    | none =>
        have hempty : Palette.Shows "\x7b\x7d".toList "\x7b\x7d".toList :=
          Palette.shows_of_notMem (by decide)
        exact congrArg Except.ok hempty.strip_eq
    | some value =>
        cases value with
        | object members =>
            exact congrArg Except.ok (Json.Value.shows_layout 0 (.object members)).strip_eq
        | _ => rfl
  · exact (Description.shows_layout h hnames width).strip_eq
  · exact (Description.shows_layout h (Description.notMem_name_of_parse hparse) width).strip_eq

/-- Documentation that is wrapped and a signature that is spread, and a reply whose strings hold
escape sequences. -/
theorem Palette.strip_layout_wrapped :
    let t : Text := "# Counts\ninterface a.b\n# Says how many\nmethod P(x: int, y: int) -> ()"
    let description : Description := ⟨["Counts"], "a.b",
      [⟨["Says how many"], .method, "P", "(x: int, y: int) -> ()"⟩]⟩
    let members : Json.Members := [("\x1b[1m", .array [.string "\x1b[0m", .bool true])]
    Description.parse t = .ok description ∧ description.IsFree ∧
      Palette.strip (description.layout .colored 12) = description.layout .plain 12 ∧
      Palette.strip (description.layout .colored 80) = description.layout .plain 80 ∧
      (Json.layoutParameters .colored (some (.object members))).map Palette.strip =
        Json.layoutParameters .plain (some (.object members)) := by
  intro t description members
  have hparse : Description.parse t = .ok description := by decide
  have hfree : description.IsFree :=
    ⟨by decide, by decide, by decide, by decide⟩
  have hnames : ∀ member ∈ description.members, '\x1b' ∉ member.name := by decide
  obtain ⟨hjson, hlayout, hread⟩ := Palette.strip_layout
  exact ⟨hparse, hfree, hread t description hparse hfree 12, hlayout description hfree hnames 80,
    hjson _⟩

end VarlinkClient
