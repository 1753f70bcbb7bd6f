/-
Moving a piece of text.

A rule of the grammar looks at what it takes, and a number at one byte behind it as well.  So a
piece of text can be moved: what a rule takes it also takes in front of other bytes, when these
begin as the old ones did or continue no number (`Replaces`, `Moves`).

There is one lemma for each rule.  A rule that is made of others moves when they do, whether it
takes a byte and then another rule (`Moves.cons`), two rules one after the other (`Moves.comp`)
or blanks and then a rule (`Moves.lead`).
-/
import VarlinkClient.Proofs.Json.Encoding
import VarlinkClient.Proofs.Json.Spelling
import Mathlib.Logic.Relation

namespace VarlinkClient.Json

open Grammar

/-! ### What may stand behind -/

/-- `after` may stand where `rest` stood: it begins alike, or continues no number. -/
def Replaces (after rest : Bytes) : Prop :=
  after.head? = rest.head? ∨ Follows after

section Replaces

variable {after rest : Bytes}

theorem Replaces.append (h : Replaces after rest) (taken : Bytes) :
    Replaces (taken ++ after) (taken ++ rest) := by
  cases taken with
  | nil => exact h
  | cons b taken => exact Or.inl rfl

/-- What is true of the first byte stays so, when it is true of all that continue no number. -/
theorem Replaces.forall_head (h : Replaces after rest) {p : UInt8 → Prop}
    (hrest : ∀ b ∈ rest.head?, p b)
    (hp : ∀ b, isDigit b = false ∧ b ≠ byte '.' ∧ b ≠ byte 'e' ∧ b ≠ byte 'E' → p b) :
    ∀ b ∈ after.head?, p b := by
  rcases h with h | h
  · rwa [h]
  · exact fun b hb => hp b (h b hb)

theorem Replaces.startsWithDigit (h : Replaces after rest)
    (hrest : startsWithDigit rest = false) : startsWithDigit after = false :=
  startsWithDigit_eq_false_iff.mpr
    (h.forall_head (startsWithDigit_eq_false_iff.mp hrest) fun _ hb => hb.1)

end Replaces

/-! ### Rules that move -/

/-- What the rule has taken it also takes in front of what may stand behind instead. -/
def Moves (rule : Rule) : Rule := fun bytes rest =>
  ∃ taken, bytes = taken ++ rest ∧ ∀ after, Replaces after rest → rule (taken ++ after) after

/-- Whatever the rule takes can be moved. -/
def IsMovable (rule : Rule) : Prop :=
  ∀ bytes rest, rule bytes rest → Moves rule bytes rest

section Moves

variable {rule rule' before : Rule} {bytes middle start rest : Bytes} {b : UInt8}

theorem Moves.moved {taken after : Bytes} (h : Moves rule (taken ++ rest) rest)
    (hafter : Replaces after rest) : rule (taken ++ after) after := by
  obtain ⟨other, htaken, h⟩ := h
  rw [List.append_cancel_right htaken]
  exact h after hafter

/-- What is taken is taken also when it stands alone. -/
theorem Moves.alone {taken : Bytes} (h : Moves rule (taken ++ rest) rest) : rule taken [] := by
  have halone := h.moved (Or.inr (show Follows [] from nofun))
  rwa [List.append_nil] at halone

theorem Moves.exists_alone (h : Moves rule bytes rest) :
    ∃ taken, bytes = taken ++ rest ∧ rule taken [] := by
  obtain ⟨taken, rfl, -⟩ := id h
  exact ⟨taken, rfl, h.alone⟩

/-- What is taken alone is taken in front of whatever continues no number. -/
theorem Moves.inFront {taken after : Bytes} (h : Moves rule taken []) (hafter : Follows after) :
    rule (taken ++ after) after := by
  rw [← List.append_nil taken] at h
  exact h.moved (Or.inr hafter)

theorem Moves.stay (h : ∀ after, Replaces after rest → rule after after) : Moves rule rest rest :=
  ⟨[], rfl, h⟩

theorem Moves.imp (h : Moves rule bytes rest) (himp : ∀ x y, rule x y → rule' x y) :
    Moves rule' bytes rest := by
  obtain ⟨taken, rfl, h⟩ := h
  exact ⟨taken, rfl, fun after hafter => himp _ _ (h after hafter)⟩

theorem Moves.cons (h : Moves rule bytes rest) (hcons : ∀ x y, rule x y → rule' (b :: x) y) :
    Moves rule' (b :: bytes) rest := by
  obtain ⟨taken, rfl, h⟩ := h
  exact ⟨b :: taken, rfl, fun after hafter => hcons _ _ (h after hafter)⟩

/-- The byte, and then the rule. -/
def Behind (b : UInt8) (rule : Rule) : Rule :=
  fun bytes rest => ∃ more, bytes = b :: more ∧ rule more rest

theorem Moves.behind (h : Moves rule bytes rest) (b : UInt8) :
    Moves (Behind b rule) (b :: bytes) rest :=
  h.cons fun x _ hx => ⟨x, rfl, hx⟩

theorem Moves.comp (h : Moves rule bytes middle) (hmore : Moves rule' middle rest) :
    Moves (Relation.Comp rule rule') bytes rest := by
  obtain ⟨taken, rfl, h⟩ := h
  obtain ⟨more, rfl, hmore⟩ := hmore
  refine ⟨taken ++ more, (List.append_assoc _ _ _).symm, fun after hafter => ?_⟩
  rw [List.append_assoc]
  exact ⟨more ++ after, h _ (hafter.append more), hmore after hafter⟩

/-- What holds in front of anything that may stand there holds where the rule moves to. -/
theorem Moves.and {p : Bytes → Prop} (h : Moves rule bytes rest)
    (hp : ∀ x, Replaces x bytes → p x) : Moves (fun x y => p x ∧ rule x y) bytes rest := by
  obtain ⟨taken, rfl, h⟩ := h
  exact ⟨taken, rfl, fun after hafter => ⟨hp _ (hafter.append taken), h after hafter⟩⟩

/-- What is true of the first byte, if there is one, and of all that continue no number. -/
theorem Moves.andHead {p : UInt8 → Prop} (h : Moves rule bytes rest)
    (hbytes : ∀ b ∈ bytes.head?, p b)
    (hp : ∀ b, isDigit b = false ∧ b ≠ byte '.' ∧ b ≠ byte 'e' ∧ b ≠ byte 'E' → p b) :
    Moves (fun x y => (∀ b ∈ x.head?, p b) ∧ rule x y) bytes rest :=
  h.and fun _ hx => hx.forall_head hbytes hp

theorem Moves.andNoDigit (h : Moves rule bytes rest) (hbytes : ¬ startsWithDigit bytes = true) :
    Moves (fun x y => startsWithDigit x = false ∧ rule x y) bytes rest :=
  h.and fun _ hx => hx.startsWithDigit (by simpa using hbytes)

theorem Moves.length_le (h : Moves rule bytes rest) : rest.length ≤ bytes.length := by
  obtain ⟨taken, rfl, -⟩ := h
  simp

/-- No rule adds bytes. -/
theorem Moves.shorter (h : Moves rule bytes rest) :
    Moves (fun x y => y.length ≤ x.length ∧ rule x y) bytes rest := by
  obtain ⟨taken, rfl, h⟩ := h
  exact ⟨taken, rfl, fun after hafter => ⟨by simp, h after hafter⟩⟩

/-- A rule that takes a byte keeps the first one. -/
theorem Moves.keepHead (h : Moves rule bytes rest) (hlength : rest.length < bytes.length) :
    Moves (fun x y => x.head? = bytes.head? ∧ rule x y) bytes rest := by
  obtain ⟨taken, rfl, h⟩ := h
  refine ⟨taken, rfl, fun after hafter => ⟨?_, h after hafter⟩⟩
  cases taken with
  | nil => exact absurd hlength (Nat.lt_irrefl _)
  | cons b taken => rfl

theorem Moves.keepFirst (h : Moves rule (b :: bytes) rest)
    (hlength : rest.length < (b :: bytes).length) :
    Moves (fun x y => (∃ more, x = b :: more) ∧ rule x y) (b :: bytes) rest :=
  (h.keepHead hlength).imp fun _ _ hx => ⟨List.head?_eq_some_iff.mp hx.1, hx.2⟩

/-- What stands in front of a rule and looks no further than at its first byte. -/
theorem Moves.lead {front : Bytes} (h : Moves rule start rest)
    (hlength : rest.length < start.length) (hbytes : bytes = front ++ start)
    (hfront : ∀ x, x.head? = start.head? → before (front ++ x) x) :
    Moves (Relation.Comp before rule) bytes rest := by
  obtain ⟨taken, rfl, h⟩ := h.keepHead hlength
  refine ⟨front ++ taken, by rw [hbytes, List.append_assoc], fun after hafter => ?_⟩
  obtain ⟨hhead, hrule⟩ := h after hafter
  rw [List.append_assoc]
  exact ⟨taken ++ after, hfront _ hhead, hrule⟩

end Moves

/-! ### Blanks -/

section Blanks

variable {rule : Rule} {bytes start rest : Bytes} {b : UInt8}

/-- The blanks in front. -/
def blanks (bytes : Bytes) : Bytes :=
  bytes.takeWhile isSpace

theorem blanks_append (bytes : Bytes) : bytes = blanks bytes ++ skipSpace bytes :=
  List.takeWhile_append_dropWhile.symm

theorem skipSpace_blanks_append (bytes rest : Bytes) :
    skipSpace (blanks bytes ++ rest) = skipSpace rest :=
  List.dropWhile_append_of_pos fun _ hb => List.mem_takeWhile_imp hb

/-- Bytes that begin as others do without their blanks begin with none. -/
theorem skipSpace_of_head? {x : Bytes} (h : x.head? = (skipSpace bytes).head?) :
    skipSpace x = x := by
  cases x with
  | nil => rfl
  | cons c x =>
      obtain ⟨more, hmore⟩ := List.head?_eq_some_iff.mp h.symm
      exact skipSpace_cons (eq_false_of_dropWhile hmore) x

/-- A byte behind blanks. -/
theorem moves_skipSpace_cons (h : skipSpace bytes = b :: rest) :
    Moves (fun x y => skipSpace x = b :: y) bytes rest := by
  refine ⟨blanks bytes ++ [b], ?_, fun after _ => ?_⟩
  · rw [List.append_assoc, List.singleton_append, ← h]
    exact blanks_append bytes
  · dsimp only
    rw [List.append_assoc, List.singleton_append, skipSpace_blanks_append]
    exact skipSpace_of_head? (by rw [h]; rfl)

/-- A rule behind blanks. -/
theorem Moves.skipSpace (h : Moves rule (skipSpace bytes) rest)
    (hlength : rest.length < (skipSpace bytes).length) :
    Moves (fun x y => rule (skipSpace x) y) bytes rest := by
  have hmoves : Moves (Relation.Comp (fun x y => Json.skipSpace x = y) rule) bytes rest :=
    h.lead hlength (blanks_append bytes) fun x hx => by
      rw [skipSpace_blanks_append, skipSpace_of_head? hx]
  refine hmoves.imp ?_
  rintro x y ⟨_, rfl, hrule⟩
  exact hrule

end Blanks

/-! ### Numbers and strings -/

namespace Grammar

variable {test : Bytes → Prop}

theorem movable_stretch (test : Bytes → Prop) : IsMovable (Stretch test) := by
  rintro _ rest ⟨taken, htaken, rfl⟩
  exact ⟨taken, rfl, fun after _ => ⟨taken, htaken, rfl⟩⟩

theorem movable_digits : IsMovable Digits := by
  rintro _ rest ⟨hb, hmore⟩
  exact (movable_stretch _ _ _ hmore).cons fun _ _ => .intro hb

theorem movable_power : IsMovable Power := by
  rintro bytes rest (hdigits | ⟨hsign, hdigits⟩)
  · exact (movable_digits _ _ hdigits).imp fun _ _ => .plain
  · exact (movable_digits _ _ hdigits).cons fun _ _ => .signed hsign

theorem movable_exponent : IsMovable Exponent := by
  rintro bytes rest (_ | ⟨he, hpower⟩)
  · exact .stay fun _ _ => .absent
  · exact (movable_power _ _ hpower).cons fun _ _ => .power he

theorem movable_afterWhole : IsMovable AfterWhole := by
  rintro bytes rest (hexponent | ⟨hdigits, hexponent⟩)
  · exact (movable_exponent _ _ hexponent).imp fun _ _ => .exponent
  · refine ((movable_digits _ _ hdigits).comp (movable_exponent _ _ hexponent)).cons ?_
    rintro x y ⟨_, hdigits, hexponent⟩
    exact .fraction hdigits hexponent

theorem movable_magnitude : IsMovable Magnitude := by
  rintro _ rest (hmore | ⟨hb, hzero, hdigits, hmore⟩)
  · exact (movable_afterWhole _ _ hmore).cons fun _ _ => .zero
  · refine ((movable_stretch _ _ _ hdigits).comp (movable_afterWhole _ _ hmore)).cons ?_
    rintro x y ⟨_, hdigits, hmore⟩
    exact .digits hb hzero hdigits hmore

theorem movable_escape : IsMovable Escape := by
  rintro _ rest (hletter | hhex)
  · exact ⟨[_], rfl, fun _ _ => .letter hletter⟩
  · exact ⟨[_, _, _, _, _], rfl, fun _ _ => .unicode hhex⟩

/-- A stretch and the byte that ends it. -/
theorem moves_stretch_cons {b : UInt8} {bytes rest : Bytes} (h : Stretch test bytes (b :: rest)) :
    Moves (fun x y => Stretch test x (b :: y)) bytes rest := by
  obtain ⟨taken, htaken, rfl⟩ := h
  exact ⟨taken ++ [b], by simp, fun after _ => ⟨taken, htaken, by simp⟩⟩

theorem movable_stringTail (test : Bytes → Prop) : IsMovable (StringTail test) := by
  intro bytes rest h
  induction h with
  | close h => exact (moves_stretch_cons h).imp fun _ _ => .close
  | escape h hescape _ ih =>
      refine ((moves_stretch_cons h).comp ((movable_escape _ _ hescape).comp ih)).imp ?_
      rintro x y ⟨_, h, _, hescape, hmore⟩
      exact .escape h hescape hmore

/-! ### Containers and values -/

section Entries

variable {close : Char} {entry : Rule} {bytes rest : Bytes}
  (hentry : IsMovable entry) (hpast : ∀ b r, entry b r → Past b r)
include hentry hpast

/-- An entry behind blanks. -/
theorem moves_entry (h : entry (skipSpace bytes) rest) :
    Moves (fun x y => entry (skipSpace x) y) bytes rest :=
  (hentry _ _ h).skipSpace (hpast _ _ h).length_lt

theorem movable_afterEntry : IsMovable (AfterEntry close entry) := by
  intro bytes rest h
  induction h with
  | done h => exact (moves_skipSpace_cons h).imp fun _ _ => .done
  | more hcomma hitem _ ih =>
      refine ((moves_skipSpace_cons hcomma).comp ((moves_entry hentry hpast hitem).comp ih)).imp ?_
      rintro x y ⟨_, hcomma, _, hitem, hmore⟩
      exact .more hcomma hitem hmore

theorem movable_entries : IsMovable (Entries close entry) := by
  rintro bytes rest (h | ⟨hitem, hmore⟩)
  · exact (moves_skipSpace_cons h).imp fun _ _ => .none
  · refine ((moves_entry hentry hpast hitem).comp
      (movable_afterEntry hentry hpast _ _ hmore)).imp ?_
    rintro x y ⟨_, hitem, hmore⟩
    exact .some hitem hmore

theorem movable_objectMember (test : Bytes → Prop) : IsMovable (ObjectMember test entry) := by
  rintro _ rest ⟨hkey, hcolon, hvalue⟩
  refine ((movable_stringTail test _ _ hkey).comp ((moves_skipSpace_cons hcolon).comp
    (moves_entry hentry hpast hvalue))).cons ?_
  rintro x y ⟨_, hkey, _, hcolon, hvalue⟩
  exact .intro hkey hcolon hvalue

end Entries

/-- What stands in front of an entry: blanks, and a comma when it is not the first. -/
theorem exists_front_of_comes {first : Bool} {bytes start : Bytes} (h : Comes first bytes start) :
    ∃ front, bytes = front ++ start ∧
      ∀ x, x.head? = start.head? → Comes first (front ++ x) x := by
  cases first with
  | true =>
      obtain rfl : start = skipSpace bytes := h
      refine ⟨blanks bytes, blanks_append bytes, fun x hx => ?_⟩
      show x = skipSpace (blanks bytes ++ x)
      rw [skipSpace_blanks_append, skipSpace_of_head? hx]
  | false =>
      obtain ⟨after, hcomma, rfl⟩ := h
      refine ⟨blanks bytes ++ byte ',' :: blanks after, ?_, fun x hx => ?_⟩
      · rw [List.append_assoc, List.cons_append, ← blanks_append after, ← hcomma]
        exact blanks_append bytes
      · refine ⟨blanks after ++ x, ?_, ?_⟩
        · rw [List.append_assoc, List.cons_append, skipSpace_blanks_append]
          exact skipSpace_cons (by decide) _
        · rw [skipSpace_blanks_append, skipSpace_of_head? hx]

/-- An entry with what stands in front of it. -/
theorem moves_comes {first : Bool} {rule : Rule} {bytes start rest : Bytes}
    (h : Moves rule start rest) (hcomes : Comes first bytes start)
    (hlength : rest.length < start.length) :
    Moves (Relation.Comp (fun x y => y.length ≤ x.length ∧ Comes first x y) rule) bytes rest := by
  obtain ⟨front, hbytes, hfront⟩ := exists_front_of_comes hcomes
  exact h.lead hlength hbytes fun x hx => ⟨by simp, hfront x hx⟩

theorem movable_scalar (test : Bytes → Prop) : IsMovable (Scalar test) := by
  rintro _ rest (hword | h | h | h)
  · exact ⟨_, rfl, fun _ _ => .word hword⟩
  · exact (movable_magnitude _ _ h).imp fun _ _ => .number
  · exact (movable_magnitude _ _ h).cons fun _ _ => .negative
  · exact (movable_stringTail test _ _ h).cons fun _ _ => .string

theorem movable_value (test : Bytes → Prop) (depth : Nat) : IsMovable (Value test depth) := by
  induction depth with
  | zero => exact movable_scalar test
  | succ depth ih =>
      have hpast : ∀ b r, Value test depth b r → Past b r := fun _ _ => Value.past
      rintro bytes rest (h | h | h)
      · exact (movable_scalar test _ _ h).imp fun _ _ => Or.inl
      · exact (movable_entries ih hpast _ _ h).cons fun _ _ h => Or.inr (.array h)
      · refine (movable_entries (movable_objectMember ih hpast test)
          (fun _ _ => ObjectMember.past hpast) _ _ h).cons fun _ _ h => Or.inr (.object h)

/-- **A value can be moved**, whatever it is. -/
theorem movable_anyValue (test : Bytes → Prop) : IsMovable (AnyValue test) := by
  rintro bytes rest ⟨depth, h⟩
  exact (movable_value test depth _ _ h).imp fun _ _ h => ⟨depth, h⟩

end Grammar

end VarlinkClient.Json
