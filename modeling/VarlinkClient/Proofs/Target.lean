/-
The language of method targets.

A method target is written in three parts: an address, which may be missing, an interface and
a method.  The address may hold every mark that stands between the parts, the interface every
one but a slash.  The names hold no slash and the method holds no dot, so the two marks are the
last of their kind, and a text has no second decomposition.

What the reader gives is then a matter of the parts alone: names are taken as they are, and the
address is what its text is read as.  So a target survives its own text as its address does.
-/
import VarlinkClient.Proofs.Address.Survival
import VarlinkClient.Target

namespace VarlinkClient

/-! ### The address in front -/

/-- The text of an address and the slash behind it, when there is an address. -/
def inFront : Option Text → Text
  | none => []
  | some address => address ++ "/"

/-- The last slash is the one in front of the name. -/
theorem splitLast_inFront {name : Text} (h : '/' ∉ name) (written : Option Text) :
    Text.splitLast '/' (inFront written ++ name) = written.map fun address => (address, name) := by
  cases written with
  | none => exact Text.splitLast_eq_none h
  | some address =>
      have htext : inFront (some address) ++ name = address ++ '/' :: name := by simp [inFront]
      rw [htext, Text.splitLast_append h]
      rfl

/-- An address, if any, and a name are taken apart in one way only. -/
theorem inFront_inj {name name' : Text} (h : '/' ∉ name) (h' : '/' ∉ name')
    {written written' : Option Text} (heq : inFront written ++ name = inFront written' ++ name') :
    written = written' ∧ name = name' := by
  have hsplit := splitLast_inFront h written
  rw [heq, splitLast_inFront h'] at hsplit
  cases written with
  | none =>
      cases written' with
      | none => exact ⟨rfl, heq⟩
      | some address' => cases hsplit
  | some address =>
      cases written' with
      | none => cases hsplit
      | some address' =>
          cases hsplit
          exact ⟨rfl, rfl⟩

/-- The address is what its text is read as; without a text there is none. -/
abbrev ReadsAs (written : Option Text) (address : Option Address) : Prop :=
  Option.Rel (fun t a => Address.parse t = .ok a) written address

theorem splitAddress_eq_ok_iff {t name : Text} {address : Option Address} :
    splitAddress t = .ok (address, name) ↔
      ∃ written, t = inFront written ++ name ∧ '/' ∉ name ∧ ReadsAs written address := by
  constructor
  · intro h
    unfold splitAddress at h
    split at h
    · rename_i hnone
      cases h
      exact ⟨none, rfl, Text.splitLast_eq_none_iff.mp hnone, .none⟩
    · rename_i before after hsplit
      obtain ⟨htext, hafter⟩ := Text.splitLast_eq_some_iff.mp hsplit
      split at h
      · rename_i a hread
        cases h
        exact ⟨some before, by simp [htext, inFront], hafter, .some hread⟩
      · cases h
  · rintro ⟨written, rfl, hname, hread⟩
    rw [splitAddress, splitLast_inFront hname]
    cases hread with
    | none => rfl
    | some ht =>
        dsimp only [Option.map_some]
        rw [ht]

theorem splitAddress_eq_none_iff {t name : Text} :
    splitAddress t = .ok (none, name) ↔ '/' ∉ t ∧ name = t := by
  rw [splitAddress_eq_ok_iff]
  constructor
  · rintro ⟨written, rfl, hname, hread⟩
    cases hread
    exact ⟨hname, rfl⟩
  · rintro ⟨hname, rfl⟩
    exact ⟨none, rfl, hname, .none⟩

/-- An address and a slash in front of a name are taken off again. -/
theorem splitAddress_append {t name : Text} {address : Address}
    (ht : Address.parse t = .ok address) (hname : '/' ∉ name) :
    splitAddress (t ++ "/" ++ name) = .ok (some address, name) :=
  splitAddress_eq_ok_iff.mpr ⟨some t, rfl, hname, .some ht⟩

/-! ### The parts of a method target -/

namespace MethodTarget

/-- What a method target is written with. -/
structure Parts where
  /-- The text of the address, if there is one. -/
  address : Option Text
  interface : Text
  method : Text

/-- The qualified name. -/
def Parts.member (parts : Parts) : Text :=
  parts.interface ++ "." ++ parts.method

/-- The parts in a row. -/
def Parts.text (parts : Parts) : Text :=
  inFront parts.address ++ parts.member

/-- The names are what names can be. -/
structure Parts.IsSound (parts : Parts) : Prop where
  interface : parts.interface ≠ [] ∧ '/' ∉ parts.interface
  method : parts.method ≠ [] ∧ '/' ∉ parts.method ∧ '.' ∉ parts.method

/-- The names are what names can be, but the method may not be there yet. -/
structure Parts.IsBegun (parts : Parts) : Prop where
  interface : parts.interface ≠ [] ∧ '/' ∉ parts.interface
  method : '/' ∉ parts.method ∧ '.' ∉ parts.method

/-- What the parts say is the target. -/
structure Parts.Give (parts : Parts) (target : MethodTarget) : Prop where
  address : ReadsAs parts.address target.address
  interface : target.interface = parts.interface
  method : target.method = parts.method

theorem Parts.IsSound.isBegun {parts : Parts} (h : parts.IsSound) : parts.IsBegun :=
  ⟨h.interface, h.method.2⟩

theorem Parts.IsBegun.notMem_member {parts : Parts} (h : parts.IsBegun) :
    '/' ∉ parts.member := by
  have hdot : '/' ≠ '.' := by decide
  simp [Parts.member, h.interface.2, h.method.1, hdot]

/-- The last dot is the one in front of the method. -/
theorem Parts.IsBegun.splitLast_member {parts : Parts} (h : parts.IsBegun) :
    Text.splitLast '.' parts.member = some (parts.interface, parts.method) :=
  Text.splitLast_eq_some_iff.mpr ⟨by simp [Parts.member], h.method.2⟩

/-- A text has no second decomposition. -/
theorem Parts.text_inj {p q : Parts} (hp : p.IsBegun) (hq : q.IsBegun) (h : p.text = q.text) :
    p = q := by
  obtain ⟨haddress, hmember⟩ := inFront_inj hp.notMem_member hq.notMem_member h
  have hnames := hp.splitLast_member
  rw [hmember, hq.splitLast_member] at hnames
  obtain ⟨address, interface, method⟩ := p
  cases hnames
  cases haddress
  rfl

/-- A method target is read from its parts, and from nothing else. -/
theorem parse_eq_ok_iff {t : Text} {target : MethodTarget} :
    parse t = .ok target ↔ ∃ parts : Parts, parts.IsSound ∧ parts.text = t ∧ parts.Give target := by
  constructor
  · intro h
    unfold parse at h
    split at h
    · cases h
    rename_i address name hsplit
    obtain ⟨written, rfl, hslash, hread⟩ := splitAddress_eq_ok_iff.mp hsplit
    split at h
    · cases h
    · cases h
    · cases h
    rename_i interface method hinterface hmethod hdot
    cases h
    obtain ⟨rfl, hnodot⟩ := Text.splitLast_eq_some_iff.mp hdot
    simp only [List.mem_append, List.mem_cons, not_or] at hslash
    refine ⟨⟨written, interface, method⟩, ⟨⟨?_, hslash.1⟩, ?_, hslash.2.2, hnodot⟩, ?_, hread, rfl,
      rfl⟩
    · rintro rfl
      exact hinterface rfl
    · rintro rfl
      exact hmethod rfl
    · simp [Parts.text, Parts.member]
  · rintro ⟨parts, hsound, rfl, hread, hinterface, hmethod⟩
    have hsplit : splitAddress parts.text = .ok (target.address, parts.member) :=
      splitAddress_eq_ok_iff.mpr ⟨parts.address, rfl, hsound.isBegun.notMem_member, hread⟩
    -- Both names begin with something, so neither complaint about an empty one is made.
    obtain ⟨c, interface, hc⟩ := List.exists_cons_of_ne_nil hsound.interface.1
    obtain ⟨d, method, hd⟩ := List.exists_cons_of_ne_nil hsound.method.1
    rw [parse, hsplit]
    dsimp only
    rw [hsound.isBegun.splitLast_member, hc, hd]
    dsimp only
    rw [← hc, ← hd, ← hinterface, ← hmethod]

/-- An address that is read in front of a target is the address of the target. -/
theorem parse_append {t name : Text} {address : Address} {target : MethodTarget}
    (ht : Address.parse t = .ok address) (h : parse name = .ok target)
    (hnone : target.address = none) :
    parse (t ++ "/" ++ name) = .ok { target with address := some address } := by
  obtain ⟨⟨written, interface, method⟩, hsound, rfl, hread, hinterface, hmethod⟩ :=
    parse_eq_ok_iff.mp h
  rw [hnone] at hread
  cases hread
  exact parse_eq_ok_iff.mpr
    ⟨⟨some t, interface, method⟩, ⟨hsound.interface, hsound.method⟩, rfl, .some ht, hinterface,
      hmethod⟩

/-! ### The text of a target -/

/-- The parts that a target is written with. -/
def parts (target : MethodTarget) : Parts :=
  ⟨target.address.map Address.text, target.interface, target.method⟩

theorem text_parts (target : MethodTarget) : target.parts.text = target.text := by
  unfold text Parts.text parts
  cases target.address with
  | none => rfl
  | some address => rfl

/-- The names of a target that was read can be written. -/
theorem isSound_parts_of_parse {t : Text} {target : MethodTarget} (h : parse t = .ok target) :
    target.parts.IsSound := by
  obtain ⟨parts, hsound, -, -, hinterface, hmethod⟩ := parse_eq_ok_iff.mp h
  refine ⟨?_, ?_⟩
  · rw [MethodTarget.parts, hinterface]
    exact hsound.interface
  · rw [MethodTarget.parts, hmethod]
    exact hsound.method

/-- From the text of a target comes what its own parts give. -/
theorem parse_text_iff {target again : MethodTarget} (h : target.parts.IsSound) :
    parse target.text = .ok again ↔ target.parts.Give again := by
  rw [parse_eq_ok_iff]
  constructor
  · rintro ⟨parts, hsound, htext, hgive⟩
    rw [← text_parts] at htext
    rw [← Parts.text_inj hsound.isBegun h.isBegun htext]
    exact hgive
  · intro hgive
    exact ⟨target.parts, h, text_parts target, hgive⟩

/-- Two targets are the same: of their addresses the paths are compared by components. -/
structure Same (a b : MethodTarget) : Prop where
  address : Option.Rel Address.Same a.address b.address
  interface : a.interface = b.interface
  method : a.method = b.method

theorem parse_text_eq_self_iff {target : MethodTarget} (h : target.parts.IsSound) :
    parse target.text = .ok target ↔
      ∀ a, target.address = some a → Address.parse a.text = .ok a := by
  rw [parse_text_iff h]
  obtain ⟨address, interface, method⟩ := target
  constructor
  · rintro ⟨hread, -, -⟩ a rfl
    cases hread with
    | some ht => exact ht
  · intro hself
    refine ⟨?_, rfl, rfl⟩
    cases address with
    | none => exact .none
    | some a => exact .some (hself a rfl)

theorem parse_text_same_iff {target : MethodTarget} (h : target.parts.IsSound) :
    (∃ again, parse target.text = .ok again ∧ again.Same target) ↔
      ∀ a, target.address = some a → ∃ b, Address.parse a.text = .ok b ∧ b.Same a := by
  obtain ⟨address, interface, method⟩ := target
  constructor
  · rintro ⟨⟨found, interface', method'⟩, hparse, hsame, -, -⟩ a rfl
    obtain ⟨hread, -, -⟩ := (parse_text_iff h).mp hparse
    cases hsame with
    | some hsame =>
        cases hread with
        | some ht => exact ⟨_, ht, hsame⟩
  · intro hself
    cases address with
    | none =>
        exact ⟨⟨none, interface, method⟩, (parse_text_iff h).mpr ⟨.none, rfl, rfl⟩, .none, rfl, rfl⟩
    | some a =>
        obtain ⟨b, ht, hsame⟩ := hself a rfl
        exact ⟨⟨some b, interface, method⟩, (parse_text_iff h).mpr ⟨.some ht, rfl, rfl⟩,
          .some hsame, rfl, rfl⟩

/-- **A method target is read from its parts.**  A text is read as a target exactly when it has
parts that give this target; there is one way at most to take it apart; and the target is read
back from its own text, as itself or as an equal one, exactly when its address is. -/
theorem parse_decomposes (t : Text) :
    (∀ target, parse t = .ok target ↔
      ∃ parts : Parts, parts.IsSound ∧ parts.text = t ∧ parts.Give target) ∧
    (∀ p q : Parts, p.IsSound → q.IsSound → p.text = t → q.text = t → p = q) ∧
    ∀ target, parse t = .ok target →
      (parse target.text = .ok target ↔
        ∀ a, target.address = some a → Address.parse a.text = .ok a) ∧
      ((∃ again, parse target.text = .ok again ∧ again.Same target) ↔
        ∀ a, target.address = some a → ∃ b, Address.parse a.text = .ok b ∧ b.Same a) := by
  refine ⟨fun target => parse_eq_ok_iff, ?_, fun target h => ?_⟩
  · intro p q hp hq hptext hqtext
    exact Parts.text_inj hp.isBegun hq.isBegun (hptext.trans hqtext.symm)
  · have hsound := isSound_parts_of_parse h
    exact ⟨parse_text_eq_self_iff hsound, parse_text_same_iff hsound⟩

/-- The address of this target does not survive its text, and neither does the target. -/
theorem parse_decomposes_twice_escaped :
    parse "unix:/a%2525/org.example.Ping" =
        .ok ⟨some (.unix "/a%25"), "org.example", "Ping"⟩ ∧
      parse (text ⟨some (.unix "/a%25"), "org.example", "Ping"⟩) ≠
        .ok ⟨some (.unix "/a%25"), "org.example", "Ping"⟩ := by
  have hread : parse "unix:/a%2525/org.example.Ping" =
      .ok ⟨some (.unix "/a%25"), "org.example", "Ping"⟩ := by decide
  have hother : Address.parse (Address.text (.unix "/a%25")) ≠ .ok (.unix "/a%25") := by decide
  refine ⟨hread, fun h => ?_⟩
  obtain ⟨-, -, hself⟩ := parse_decomposes "unix:/a%2525/org.example.Ping"
  exact hother ((hself _ hread).1.mp h (.unix "/a%25") rfl)

end MethodTarget

end VarlinkClient
