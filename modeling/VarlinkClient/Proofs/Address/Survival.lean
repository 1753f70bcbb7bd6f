/-
Which addresses survive their textual form.

Any address can be written, not only one that was read: a path that is empty, a name with a
`;`, a host in brackets.  What is said here is which of them are read back.

Two paths are the same when they have the same components, however many slashes stand between
them.  That makes it no easier to survive: whatever is lost between writing and reading, a `;`
and what follows it or an escape that is resolved, takes bytes away that are neither slashes
nor dots, and components have all of these.
-/
import Mathlib.Algebra.Ring.Nat
import VarlinkClient.Proofs.Address
import VarlinkClient.Proofs.Text.Lines

namespace VarlinkClient.Address

/-! ### When addresses are the same -/

/-- What a path is compared by. -/
structure Components where
  /-- The path begins with a slash. -/
  rooted : Bool
  /-- It begins with a dot that stands alone; such dots count nowhere else. -/
  dotted : Bool
  /-- What else stands between its slashes. -/
  names : List Text
  deriving DecidableEq

/-- The components of a path: those of `/run//./a/` are those of `/run/a`. -/
def components (path : Text) : Components :=
  let parts := Text.splitOn (· = '/') path
  ⟨path.head? = some '/', parts.head? = some ['.'],
    parts.filter fun part => part ≠ [] ∧ part ≠ ['.']⟩

/-- The addresses are equal: their paths have the same components, or all else is the same. -/
def Same : Address → Address → Prop
  | unix path, unix path' => components path = components path'
  | a, b => a = b

theorem Same.refl (a : Address) : a.Same a := by
  cases a <;> rfl

theorem eq_of_same_abstract {a : Address} {name : Text} (h : a.Same (abstract name)) :
    a = abstract name := by
  cases a <;> exact h

theorem eq_of_same_tcp {a : Address} {host : Text} {port : UInt16}
    (h : a.Same (tcp host port)) : a = tcp host port := by
  cases a <;> exact h

theorem exists_of_same_unix {a : Address} {path : Text} (h : a.Same (unix path)) :
    ∃ path', a = unix path' ∧ components path' = components path := by
  cases a with
  | unix path' => exact ⟨path', rfl, h⟩
  | abstract name => exact absurd h (by simp [Same])
  | tcp host port => exact absurd h (by simp [Same])

/-! ### What all spellings of a path have -/

/-- The byte is neither a slash nor a dot. -/
def isNamed (b : UInt8) : Bool :=
  b ≠ 0x2F && b ≠ 0x2E

/-- How many bytes of a text are neither slashes nor dots. -/
def weight (t : Text) : Nat :=
  (Utf8.encode t).countP isNamed

theorem weight_cons (c : Char) (t : Text) : weight (c :: t) = weight [c] + weight t := by
  simp [weight, Utf8.encode_cons, Utf8.encode_nil]

theorem weight_append (s t : Text) : weight (s ++ t) = weight s + weight t := by
  rw [weight, Utf8.encode_append, List.countP_append]
  rfl

/-- Slashes have no weight, so a path weighs what its parts weigh. -/
theorem sum_weight_splitOn (path : Text) :
    ((Text.splitOn (· = '/') path).map weight).sum = weight path := by
  induction path with
  | nil => rfl
  | cons c path ih =>
      by_cases hc : c = '/'
      · subst hc
        have hslash : weight ['/'] = 0 := by decide
        have hnil : weight [] = 0 := rfl
        rw [Text.splitOn_cons_mark (by simp), List.map_cons, List.sum_cons, ih, weight_cons,
          hslash, hnil]
      · rw [Text.splitOn_cons (by simpa using hc), weight_cons]
        cases hparts : Text.splitOn (· = '/') path with
        | nil => exact absurd hparts (Text.splitOn_ne_nil _ path)
        | cons part parts =>
            rw [hparts, List.map_cons, List.sum_cons] at ih
            rw [List.modifyHead_cons, List.map_cons, List.sum_cons, weight_cons c part]
            omega

/-- Parts without weight may be left out. -/
private theorem sum_weight_filter {p : Text → Bool} {parts : List Text}
    (h : ∀ part ∈ parts, p part = false → weight part = 0) :
    ((parts.filter p).map weight).sum = (parts.map weight).sum := by
  induction parts with
  | nil => rfl
  | cons part parts ih =>
      have hrest := ih fun other hother => h other (List.mem_cons_of_mem _ hother)
      cases hp : p part with
      | true => rw [List.filter_cons_of_pos hp, List.map_cons, List.map_cons, List.sum_cons,
          List.sum_cons, hrest]
      | false =>
          rw [List.filter_cons_of_neg (by simp [hp]), List.map_cons, List.sum_cons, hrest,
            h part List.mem_cons_self hp, Nat.zero_add]

/-- **A path weighs what its components weigh.** -/
theorem sum_weight_components (path : Text) :
    ((components path).names.map weight).sum = weight path := by
  have hfilter : ∀ part ∈ Text.splitOn (· = '/') path,
      decide (part ≠ [] ∧ part ≠ ['.']) = false → weight part = 0 := by
    intro part _ hpart
    have hcases : part = [] ∨ part = ['.'] := by
      by_cases hnil : part = []
      · exact Or.inl hnil
      · exact Or.inr (by simpa [hnil] using hpart)
    rcases hcases with rfl | rfl <;> decide
  exact (sum_weight_filter hfilter).trans (sum_weight_splitOn path)

theorem weight_eq_of_components {path path' : Text} (h : components path = components path') :
    weight path = weight path' := by
  rw [← sum_weight_components path, h, sum_weight_components]

/-! ### What is lost weighs something -/

private theorem weight_hexDigit {c : Char} (h : (Text.hexValue? c).isSome = true) :
    0 < (Utf8.encodeChar c).countP isNamed := by
  obtain ⟨hlow, hhigh⟩ := Percent.toNat_of_hexValue? h
  have hbyte : isNamed (UInt8.ofNat c.toNat) = true := by
    have hmod : (UInt8.ofNat c.toNat).toNat = c.toNat := Nat.mod_eq_of_lt (by omega)
    have hslash : UInt8.ofNat c.toNat ≠ 0x2F := by
      intro heq
      rw [heq] at hmod
      have : (47 : Nat) = c.toNat := hmod
      omega
    have hdot : UInt8.ofNat c.toNat ≠ 0x2E := by
      intro heq
      rw [heq] at hmod
      have : (46 : Nat) = c.toNat := hmod
      omega
    simp [isNamed, hslash, hdot]
  rw [Utf8.encodeChar_ascii hhigh, List.countP_singleton, if_pos hbyte]
  exact Nat.one_pos

/-- A path that comes back as the same had nothing to lose. -/
theorem plain_of_decode?_upTo {path path' : Text} (hsame : components path' = components path)
    (h : Percent.decode? (Text.upTo ';' path) = some path') :
    ';' ∉ path ∧ ¬ Percent.HasEscape path := by
  have hpercent : 0 < (Utf8.encodeChar '%').countP isNamed := by decide
  have hweight := weight_eq_of_components hsame
  rw [Percent.decode?_eq_some_iff] at h
  have hread : (Percent.decodeBytes (Text.upTo ';' path)).countP isNamed = weight path := by
    rw [h, ← hweight]
    rfl
  have hcut : ';' ∉ path := by
    intro hmem
    obtain ⟨rest, hrest⟩ := Text.exists_upTo_append hmem
    have hle := Percent.countP_decodeBytes_le hpercent (Text.upTo ';' path)
    have hmark : weight [';'] = 1 := by decide
    have hwhole : weight path = weight (Text.upTo ';' path) + (weight [';'] + weight rest) := by
      rw [← weight_cons, ← weight_append, ← hrest]
    have hfront : weight (Text.upTo ';' path) =
        (Utf8.encode (Text.upTo ';' path)).countP isNamed := rfl
    omega
  refine ⟨hcut, fun hescape => ?_⟩
  have hlt := Percent.countP_decodeBytes_lt hpercent (fun c hc => weight_hexDigit hc) hescape
  rw [Text.upTo_eq_self hcut] at hread
  have hpath : weight path = (Utf8.encode path).countP isNamed := rfl
  omega

/-! ### Survival -/

/-- What lets an address survive its textual form. -/
def IsWritable : Address → Prop
  | unix path => path ≠ [] ∧ path.head? ≠ some '@' ∧ ';' ∉ path ∧ ¬ Percent.HasEscape path
  | abstract name => name ≠ [] ∧ ';' ∉ name
  | tcp host _ => host ≠ [] ∧ '/' ∉ host ∧ host.head? ≠ some '[' ∧ host.getLast? ≠ some ']'

theorem parse_text_iff (a : Address) : parse a.text = .ok a ↔ a.IsWritable := by
  cases a with
  | unix path => exact parse_text_unix_iff
  | abstract name => exact parse_text_abstract_iff
  | tcp host port => exact parse_text_tcp_iff

/-- A path that comes back as the same is one that can be written. -/
theorem isWritable_of_same_unix {path path' : Text}
    (h : parse (unix path).text = .ok (unix path'))
    (hsame : components path' = components path) : (unix path).IsWritable := by
  have htext : (unix path).text = "unix:" ++ path := rfl
  rw [htext, parse_unix, parseUnix_eq_ok_iff] at h
  rcases h with ⟨name, -, -, heq⟩ | ⟨read, ⟨hne, hhead⟩, hdecode, heq⟩
  · cases heq
  · cases heq
    obtain ⟨hcut, hescape⟩ := plain_of_decode?_upTo hsame hdecode
    rw [Text.upTo_eq_self hcut] at hne hhead
    exact ⟨hne, hhead, hcut, hescape⟩

/-- **An address is read back from its textual form, as itself or as an equal one, exactly when
it can be written**: a path that is not empty, does not begin with `@` and has neither a `;`
nor an escape, a name that is not empty and has no `;`, a host that is not empty, has no `/`
and neither begins nor ends with a bracket that would be taken off. -/
theorem survives_text_iff (a : Address) :
    (parse a.text = .ok a ↔ a.IsWritable) ∧
      ((∃ b, parse a.text = .ok b ∧ b.Same a) ↔ a.IsWritable) := by
  refine ⟨parse_text_iff a, ?_, fun h => ⟨a, (parse_text_iff a).mpr h, Same.refl a⟩⟩
  rintro ⟨b, hparse, hsame⟩
  cases a with
  | unix path =>
      obtain ⟨path', rfl, hcomponents⟩ := exists_of_same_unix hsame
      exact isWritable_of_same_unix hparse hcomponents
  | abstract name =>
      rw [eq_of_same_abstract hsame] at hparse
      exact (parse_text_iff _).mp hparse
  | tcp host port =>
      rw [eq_of_same_tcp hsame] at hparse
      exact (parse_text_iff _).mp hparse

end VarlinkClient.Address
