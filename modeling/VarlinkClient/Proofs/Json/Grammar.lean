/-
The grammar of JSON, and what the readers take.

A rule of the grammar relates the bytes in front of a piece of text to those after it
(`Rule`).  The rules know nothing of values: they say how deep containers are nested, but not
which numbers are in range and which surrogates pair.  What stands between two escapes of a
string is up to a parameter: the text of a document is UTF-8 there (`IsEncoded`), a value that is
passed over may have any bytes.

Every reader meets the rule it is for (`Meets`): it stops where the rule may stop, or finds a
fault in the text itself.  There is one such lemma for each function that reads, in the order in
which the functions call each other; the reader of entries is followed by an induction on its
fuel, the reader of values by one on the depth.
-/
import VarlinkClient.Json.Reader
import VarlinkClient.Proofs.Text.Utf8
import Mathlib.Data.List.DropRight

namespace VarlinkClient.Json

/-! ### Rules -/

namespace Grammar

/-- The bytes in front of a piece of text, and the bytes after it. -/
abbrev Rule := Bytes → Bytes → Prop

/-- Some bytes that pass `test`. -/
def Stretch (test : Bytes → Prop) : Rule :=
  fun bytes rest => ∃ taken, test taken ∧ bytes = taken ++ rest

/-- Digits, perhaps none. -/
def MaybeDigits : Rule :=
  Stretch fun taken => ∀ b ∈ taken, isDigit b = true

/-- One digit or more. -/
inductive Digits : Rule
  | intro {b : UInt8} {bytes rest : Bytes} (hb : isDigit b = true) (h : MaybeDigits bytes rest) :
      Digits (b :: bytes) rest

/-- An exponent after its letter. -/
inductive Power : Rule
  | plain {bytes rest : Bytes} (h : Digits bytes rest) : Power bytes rest
  | signed {sign : UInt8} {bytes rest : Bytes} (hsign : sign = byte '+' ∨ sign = byte '-')
      (h : Digits bytes rest) : Power (sign :: bytes) rest

/-- An exponent, if there is one. -/
inductive Exponent : Rule
  | absent {rest : Bytes} : Exponent rest rest
  | power {e : UInt8} {bytes rest : Bytes} (he : e = byte 'e' ∨ e = byte 'E')
      (h : Power bytes rest) : Exponent (e :: bytes) rest

/-- The fraction and the exponent of a number, if there are such. -/
inductive AfterWhole : Rule
  | exponent {bytes rest : Bytes} (h : Exponent bytes rest) : AfterWhole bytes rest
  | fraction {bytes middle rest : Bytes} (hdigits : Digits bytes middle)
      (h : Exponent middle rest) : AfterWhole (byte '.' :: bytes) rest

/-- A number without its sign.  No digit but the one before the point follows a zero. -/
inductive Magnitude : Rule
  | zero {bytes rest : Bytes} (h : AfterWhole bytes rest) : Magnitude (byte '0' :: bytes) rest
  | digits {b : UInt8} {bytes middle rest : Bytes} (hb : isDigit b = true) (hzero : b ≠ byte '0')
      (hdigits : MaybeDigits bytes middle) (h : AfterWhole middle rest) :
      Magnitude (b :: bytes) rest

/-- The letters that may stand after a backslash, apart from the `u`. -/
def escapeLetters : Text :=
  "\"\\/bfnrt"

/-- An escape after its backslash. -/
inductive Escape : Rule
  | letter {c : Char} {rest : Bytes} (h : c ∈ escapeLetters) : Escape (byte c :: rest) rest
  | unicode {a b c d : UInt8} {rest : Bytes} (h : ∀ x ∈ [a, b, c, d], (hexValue? x).isSome) :
      Escape (byte 'u' :: a :: b :: c :: d :: rest) rest

/-- One escape, or more one after another, after the first backslash. -/
inductive Escapes : Rule
  | one {bytes rest : Bytes} (h : Escape bytes rest) : Escapes bytes rest
  | more {bytes middle rest : Bytes} (h : Escape bytes (byte '\\' :: middle))
      (hmore : Escapes middle rest) : Escapes bytes rest

/-- Bytes of a string that stand for themselves and pass `test`. -/
def IsPlainStretch (test : Bytes → Prop) (bytes : Bytes) : Prop :=
  test bytes ∧ ∀ b ∈ bytes, isPlain b = true

/-- A string after its opening quote. -/
inductive StringTail (test : Bytes → Prop) : Rule
  | close {bytes rest : Bytes} (h : Stretch (IsPlainStretch test) bytes (byte '"' :: rest)) :
      StringTail test bytes rest
  | escape {bytes middle after rest : Bytes}
      (h : Stretch (IsPlainStretch test) bytes (byte '\\' :: middle))
      (hescape : Escape middle after) (hmore : StringTail test after rest) :
      StringTail test bytes rest

/-- What stands after an entry of a container: its end, or a comma and another entry. -/
inductive AfterEntry (close : Char) (entry : Rule) : Rule
  | done {bytes rest : Bytes} (h : skipSpace bytes = byte close :: rest) :
      AfterEntry close entry bytes rest
  | more {bytes after middle rest : Bytes} (hcomma : skipSpace bytes = byte ',' :: after)
      (hentry : entry (skipSpace after) middle) (h : AfterEntry close entry middle rest) :
      AfterEntry close entry bytes rest

/-- The entries of a container, and its end. -/
inductive Entries (close : Char) (entry : Rule) : Rule
  | none {bytes rest : Bytes} (h : skipSpace bytes = byte close :: rest) :
      Entries close entry bytes rest
  | some {bytes middle rest : Bytes} (hentry : entry (skipSpace bytes) middle)
      (h : AfterEntry close entry middle rest) : Entries close entry bytes rest

/-- A member of an object: its key, a colon and its value. -/
inductive ObjectMember (test : Bytes → Prop) (value : Rule) : Rule
  | intro {bytes middle start rest : Bytes} (hkey : StringTail test bytes middle)
      (hcolon : skipSpace middle = byte ':' :: start) (hvalue : value (skipSpace start) rest) :
      ObjectMember test value (byte '"' :: bytes) rest

/-- The identifiers that are values. -/
def words : List Text :=
  ["null", "true", "false"]

/-- A value that is no container. -/
inductive Scalar (test : Bytes → Prop) : Rule
  | word {word : Text} {rest : Bytes} (h : word ∈ words) :
      Scalar test (word.map byte ++ rest) rest
  | number {bytes rest : Bytes} (h : Magnitude bytes rest) : Scalar test bytes rest
  | negative {bytes rest : Bytes} (h : Magnitude bytes rest) :
      Scalar test (byte '-' :: bytes) rest
  | string {bytes rest : Bytes} (h : StringTail test bytes rest) :
      Scalar test (byte '"' :: bytes) rest

/-- A container, given the rule for the values in it. -/
inductive Container (test : Bytes → Prop) (value : Rule) : Rule
  | array {bytes rest : Bytes} (h : Entries ']' value bytes rest) :
      Container test value (byte '[' :: bytes) rest
  | object {bytes rest : Bytes} (h : Entries '\x7d' (ObjectMember test value) bytes rest) :
      Container test value (byte '\x7b' :: bytes) rest

/-- A value in which containers are nested at most `depth` deep. -/
def Value (test : Bytes → Prop) : Nat → Rule
  | 0 => Scalar test
  | depth + 1 => fun bytes rest =>
    Scalar test bytes rest ∨ Container test (Value test depth) bytes rest

theorem Value.scalar {test : Bytes → Prop} {depth : Nat} {bytes rest : Bytes}
    (h : Scalar test bytes rest) : Value test depth bytes rest := by
  cases depth with
  | zero => exact h
  | succ depth => exact Or.inl h

/-- The bytes are those of a text. -/
def IsEncoded (bytes : Bytes) : Prop :=
  ∃ t, bytes = Utf8.encode t

theorem StringTail.escapes {test : Bytes → Prop} (hnil : test []) {bytes middle after rest : Bytes}
    (h : Stretch (IsPlainStretch test) bytes (byte '\\' :: middle))
    (hescapes : Escapes middle after) (hmore : StringTail test after rest) :
    StringTail test bytes rest := by
  induction hescapes generalizing bytes with
  | one hescape => exact .escape h hescape hmore
  | more hescape _ ih =>
      -- Nothing stands between the two escapes.
      exact .escape h hescape (ih ⟨[], ⟨hnil, nofun⟩, rfl⟩ hmore)

end Grammar

open Grammar

@[simp] theorem skipSpace_skipSpace (bytes : Bytes) :
    skipSpace (skipSpace bytes) = skipSpace bytes :=
  List.dropWhile_idempotent isSpace bytes

/-! ### Readers and rules -/

/-- The cause lies in the text, whatever it is expected to hold. -/
def Cause.IsSyntactic : Cause → Prop
  | mistyped _ _ | duplicateField _ => False
  | _ => True

/-- The result is as `post` says, or a fault in the text itself. -/
def Meets {α : Type} (post : α → Prop) : Except Fault α → Prop
  | .ok a => post a
  | .error fault => fault.cause.IsSyntactic

/-- A reader that stops where the rule may stop. -/
abbrev MeetsRule {α : Type} (rule : Rule) (bytes : Bytes) (result : Reading α) : Prop :=
  Meets (fun read => rule bytes read.2) result

theorem Meets.imp {α : Type} {post post' : α → Prop} {result : Except Fault α}
    (h : Meets post result) (himp : ∀ a, post a → post' a) : Meets post' result := by
  cases result with
  | ok a => exact himp a h
  | error fault => exact h

theorem Meets.error_or_ok {α : Type} {post : α → Prop} {result : Except Fault α}
    (h : Meets post result) :
    (∃ fault, result = .error fault ∧ fault.cause.IsSyntactic) ∨ ∃ a, result = .ok a ∧ post a := by
  cases result with
  | ok a => exact Or.inr ⟨a, rfl, h⟩
  | error fault => exact Or.inl ⟨fault, rfl, h⟩

theorem meets_wrap {α β : Type} {rule : Rule} {bytes : Bytes} {result : Reading α}
    (h : MeetsRule rule bytes result) (f : α → β) : MeetsRule rule bytes (wrap f result) := by
  cases result with
  | ok read => exact h
  | error fault => exact h

/-! ### Identifiers -/

theorem meets_readRest (letters : Text) : ∀ bytes,
    Meets (fun rest => bytes = letters.map byte ++ rest) (readRest letters bytes) := by
  induction letters with
  | nil =>
      intro bytes
      rfl
  | cons c letters ih =>
      intro bytes
      cases bytes with
      | nil => trivial
      | cons b bytes =>
          rw [readRest]
          split
          · rename_i hb
            exact (ih bytes).imp fun rest hrest => by rw [hb, hrest]; rfl
          · trivial

theorem meets_readWord {α : Type} {post : Bytes → Prop} {letters : Text} {bytes : Bytes}
    (h : Meets post (readRest letters bytes)) (value : α) :
    Meets (fun read => post read.2) (readWord value letters bytes) := by
  unfold readWord
  rcases h.error_or_ok with ⟨fault, hread, hfault⟩ | ⟨rest, hread, hpost⟩
  · rw [hread]
    exact hfault
  · rw [hread]
    exact hpost

/-- A word of which the first letter has been taken. -/
theorem meets_word {first : Char} {letters : Text} (h : first :: letters ∈ words)
    {test : Bytes → Prop} (bytes : Bytes) :
    Meets (Scalar test (byte first :: bytes)) (readRest letters bytes) :=
  (meets_readRest letters bytes).imp fun _ hrest => by
    rw [hrest]
    exact .word h

/-! ### Numbers -/

theorem maybeDigits_self (bytes : Bytes) : MaybeDigits bytes bytes :=
  ⟨[], nofun, rfl⟩

theorem maybeDigits_dropWhile (bytes : Bytes) : MaybeDigits bytes (bytes.dropWhile isDigit) :=
  ⟨bytes.takeWhile isDigit, fun _ hb => List.mem_takeWhile_imp hb,
    List.takeWhile_append_dropWhile.symm⟩

namespace Grammar

variable {b : UInt8} {bytes middle rest : Bytes}

theorem Digits.maybe (h : Digits bytes rest) : MaybeDigits bytes rest := by
  obtain ⟨hb, taken, htaken, rfl⟩ := h
  refine ⟨_ :: taken, ?_, rfl⟩
  intro x hx
  rcases List.mem_cons.mp hx with rfl | hx
  · exact hb
  · exact htaken x hx

theorem MaybeDigits.trans (h : MaybeDigits bytes middle) (hmore : MaybeDigits middle rest) :
    MaybeDigits bytes rest := by
  obtain ⟨taken, htaken, rfl⟩ := h
  obtain ⟨more, hmoretaken, rfl⟩ := hmore
  refine ⟨taken ++ more, ?_, (List.append_assoc _ _ _).symm⟩
  intro x hx
  rcases List.mem_append.mp hx with hx | hx
  · exact htaken x hx
  · exact hmoretaken x hx

theorem digits_append {taken : Bytes} (hne : taken ≠ []) (h : ∀ b ∈ taken, isDigit b = true)
    (rest : Bytes) : Digits (taken ++ rest) rest := by
  cases taken with
  | nil => exact absurd rfl hne
  | cons b taken => exact .intro (h b (by simp)) ⟨taken, fun x hx => h x (by simp [hx]), rfl⟩

theorem MaybeDigits.trans_digits (h : MaybeDigits bytes middle) (hmore : Digits middle rest) :
    Digits bytes rest := by
  obtain ⟨taken, htaken, rfl⟩ := h
  cases taken with
  | nil => exact hmore
  | cons b taken =>
      have htail : MaybeDigits (taken ++ middle) middle :=
        ⟨taken, fun x hx => htaken x (by simp [hx]), rfl⟩
      exact .intro (htaken b (by simp)) (htail.trans hmore.maybe)

theorem digits_dropWhile (h : startsWithDigit bytes = true) :
    Digits bytes (bytes.dropWhile isDigit) := by
  cases bytes with
  | nil => cases h
  | cons b bytes =>
      have hb : isDigit b = true := h
      rw [List.dropWhile_cons_of_pos hb]
      exact .intro hb (maybeDigits_dropWhile bytes)

end Grammar

/-- Digits that are taken, and how many more are counted. -/
theorem takeDigits_spec (bytes : Bytes) : ∀ value count,
    ∃ taken, (∀ b ∈ taken, isDigit b = true) ∧
      bytes = taken ++ (takeDigits value count bytes).2.2 ∧
      (takeDigits value count bytes).2.1 = count + taken.length := by
  induction bytes with
  | nil =>
      intro value count
      exact ⟨[], nofun, rfl, rfl⟩
  | cons b bytes ih =>
      intro value count
      rw [takeDigits]
      split
      · rename_i hb
        obtain ⟨taken, htaken, heq, hcount⟩ := ih (10 * value + digitValue b) (count + 1)
        refine ⟨b :: taken, ?_, ?_, ?_⟩
        · intro x hx
          rcases List.mem_cons.mp hx with rfl | hx
          · exact hb.1
          · exact htaken x hx
        · rw [List.cons_append, ← heq]
        · rw [hcount, List.length_cons]
          omega
      · exact ⟨[], nofun, rfl, rfl⟩

theorem maybeDigits_takeDigits (value count : Nat) (bytes : Bytes) :
    MaybeDigits bytes (takeDigits value count bytes).2.2 := by
  obtain ⟨taken, htaken, heq, -⟩ := takeDigits_spec bytes value count
  exact ⟨taken, htaken, heq⟩

/-- Digits of an exponent are taken whether or not it gets too great. -/
theorem maybeDigits_takeExponent (bytes : Bytes) : ∀ value,
    (∀ n rest, takeExponent value bytes = .ok (n, rest) → MaybeDigits bytes rest) ∧
      ∀ rest, takeExponent value bytes = .error rest → MaybeDigits bytes rest := by
  induction bytes with
  | nil =>
      intro value
      refine ⟨?_, nofun⟩
      rintro n rest ⟨⟩
      exact maybeDigits_self []
  | cons b bytes ih =>
      intro value
      rw [takeExponent]
      by_cases hb : isDigit b = true
      · rw [if_pos hb]
        obtain ⟨hok, herror⟩ := ih (10 * value + digitValue b)
        split
        · exact ⟨fun n rest h => (Digits.intro hb (hok n rest h)).maybe,
            fun rest h => (Digits.intro hb (herror rest h)).maybe⟩
        · refine ⟨nofun, ?_⟩
          rintro rest ⟨⟩
          exact (Digits.intro hb (maybeDigits_self bytes)).maybe
      · rw [if_neg hb]
        refine ⟨?_, nofun⟩
        rintro n rest ⟨⟩
        exact maybeDigits_self _

theorem meets_finishReal (negative : Bool) (digits : Nat) (exponent : Int) (rest : Bytes) :
    Meets (fun read => read.2 = rest) (finishReal negative digits exponent rest) := by
  unfold finishReal
  split
  · rfl
  · trivial

theorem meets_finishWhole (negative : Bool) (digits : Nat) (rest : Bytes) :
    Meets (fun read => read.2 = rest) (finishWhole negative digits rest) := by
  unfold finishWhole
  split
  · split
    · rfl
    · exact meets_finishReal _ _ _ _
  · rfl

/-- A number that ends where `rest` begins has no exponent. -/
theorem meets_exponent_absent {rest : Bytes} {result : Reading Number}
    (h : Meets (fun read => read.2 = rest) result) : MeetsRule Exponent rest result :=
  h.imp fun read hread => by rw [hread]; exact .absent

/-- An exponent without the sign in front of it. -/
def withoutSign (bytes : Bytes) : Bytes :=
  match bytes with
  | b :: rest => if b = byte '+' ∨ b = byte '-' then rest else bytes
  | [] => []

theorem power_of_withoutSign {bytes rest : Bytes} (h : Digits (withoutSign bytes) rest) :
    Power bytes rest := by
  cases bytes with
  | nil => exact .plain h
  | cons b after =>
      rw [withoutSign] at h
      split at h
      · exact .signed ‹_› h
      · exact .plain h

theorem meets_readExponent (negative : Bool) (digits : Nat) (exponent : Int) (bytes : Bytes) :
    MeetsRule Power bytes (readExponent negative digits exponent bytes) := by
  unfold readExponent
  split
  rename_i below unsigned hsign
  have hunsigned : withoutSign bytes = unsigned := by
    unfold withoutSign
    split at hsign
    · split at hsign
      · cases hsign
        simp [*]
      split at hsign <;> cases hsign <;> simp [*]
    · cases hsign
      rfl
  cases unsigned with
  | nil => trivial
  | cons b rest =>
      dsimp only
      split
      · rename_i hb
        obtain ⟨hok, herror⟩ := maybeDigits_takeExponent rest (digitValue b)
        have hpower : ∀ {after}, MaybeDigits rest after → Power bytes after := fun h =>
          power_of_withoutSign (hunsigned ▸ .intro hb h)
        split
        · rename_i n after htake
          exact (meets_finishReal _ _ _ _).imp fun read hread => by
            rw [hread]
            exact hpower (hok _ _ htake)
        · rename_i after htake
          split
          · trivial
          · exact hpower ((herror _ htake).trans (maybeDigits_dropWhile after))
      · trivial

theorem meets_readTail (negative : Bool) (digits : Nat) (exponent : Int) (bytes : Bytes) :
    MeetsRule Exponent bytes (readTail negative digits exponent bytes) := by
  unfold readTail
  split
  · split
    · rename_i he
      exact (meets_readExponent _ _ _ _).imp fun _ h => .power he h
    · exact meets_exponent_absent (meets_finishReal _ _ _ _)
  · exact meets_exponent_absent (meets_finishReal _ _ _ _)

/-- What follows the point of a number. -/
theorem meets_readFraction (negative : Bool) (digits : Nat) (exponent : Int) (bytes : Bytes) :
    MeetsRule AfterWhole (byte '.' :: bytes) (readFraction negative digits exponent bytes) := by
  obtain ⟨taken, htaken, heq, hcount⟩ := takeDigits_spec bytes digits 0
  unfold readFraction
  generalize takeDigits digits 0 bytes = read at heq hcount ⊢
  obtain ⟨value, count, rest⟩ := read
  dsimp only at heq hcount ⊢
  subst heq
  split
  · rename_i hrest
    have hmaybe : MaybeDigits (taken ++ rest) rest := ⟨taken, htaken, rfl⟩
    exact (meets_readTail _ _ _ _).imp fun _ h =>
      .fraction (hmaybe.trans_digits (digits_dropWhile hrest)) h
  split
  · split <;> trivial
  · rename_i hne
    have htaken' : taken ≠ [] := by
      rintro rfl
      exact hne hcount
    exact (meets_readTail _ _ _ _).imp fun _ h => .fraction (digits_append htaken' htaken rest) h

theorem meets_readAfterWhole (negative : Bool) (digits : Nat) (bytes : Bytes) :
    MeetsRule AfterWhole bytes (readAfterWhole negative digits bytes) := by
  have hwhole : ∀ rest, MeetsRule AfterWhole rest (finishWhole negative digits rest) := fun rest =>
    (meets_exponent_absent (meets_finishWhole _ _ rest)).imp fun _ h => .exponent h
  unfold readAfterWhole
  split
  · split
    · rename_i hpoint
      rw [hpoint]
      exact meets_readFraction _ _ _ _
    split
    · rename_i he
      exact (meets_readExponent _ _ _ _).imp fun _ h => .exponent (.power he h)
    · exact hwhole _
  · exact hwhole []

/-- Digits that do not fit in 64 bits, and what follows. -/
theorem meets_readLong (negative : Bool) (digits : Nat) (bytes : Bytes) :
    MeetsRule AfterWhole (bytes.dropWhile isDigit) (readLong negative digits bytes) := by
  unfold readLong
  dsimp only
  cases bytes.dropWhile isDigit with
  | nil => exact (meets_exponent_absent (meets_finishReal _ _ _ _)).imp fun _ h => .exponent h
  | cons b rest =>
      dsimp only
      split
      · rename_i hpoint
        rw [hpoint]
        exact meets_readFraction _ _ _ _
      · exact (meets_readTail _ _ _ _).imp fun _ h => .exponent h

theorem meets_readNumber (negative : Bool) (bytes : Bytes) :
    MeetsRule Magnitude bytes (readNumber negative bytes) := by
  unfold readNumber
  split
  · trivial
  rename_i b rest
  split
  · rename_i hzero
    split
    · trivial
    · rw [hzero]
      exact (meets_readAfterWhole _ _ _).imp fun _ h => .zero h
  rename_i hzero
  split
  · rename_i hb
    have hmaybe := maybeDigits_takeDigits (digitValue b) 0 rest
    generalize takeDigits (digitValue b) 0 rest = read at hmaybe ⊢
    obtain ⟨value, count, after⟩ := read
    dsimp only at hmaybe ⊢
    split
    · exact (meets_readLong _ _ _).imp fun _ h =>
        .digits hb hzero (hmaybe.trans (maybeDigits_dropWhile after)) h
    · exact (meets_readAfterWhole _ _ _).imp fun _ h => .digits hb hzero hmaybe h
  · trivial

/-! ### Strings -/

/-- A byte of an escape that takes more than one letter. -/
theorem meets_readHex (bytes : Bytes) :
    MeetsRule Escape (byte 'u' :: bytes) (readHex bytes) := by
  unfold readHex
  split
  · split
    · rename_i ha hb hc hd
      refine .unicode fun x hx => ?_
      simp only [List.mem_cons, List.not_mem_nil, or_false] at hx
      rcases hx with rfl | rfl | rfl | rfl <;> simp [*]
    · trivial
  · trivial

theorem meets_expectInEscape (c : Char) (bytes : Bytes) :
    Meets (fun rest => bytes = byte c :: rest) (expectInEscape c bytes) := by
  unfold expectInEscape
  split
  · trivial
  split
  · rename_i b rest hb
    rw [hb]
    rfl
  · trivial

theorem meets_readUnicodeEscape (bytes : Bytes) :
    MeetsRule Escapes (byte 'u' :: bytes) (readUnicodeEscape bytes) := by
  unfold readUnicodeEscape
  rcases (meets_readHex bytes).error_or_ok with ⟨fault, hread, hfault⟩ | ⟨⟨n, rest⟩, hread, hhex⟩
  · rw [hread]
    exact hfault
  rw [hread]
  dsimp only
  split
  · trivial
  split
  · exact .one hhex
  -- The escape of a trailing surrogate has to follow.
  rcases (meets_expectInEscape '\\' rest).error_or_ok with
    ⟨fault, hread, hfault⟩ | ⟨middle, hread, rfl⟩
  · rw [hread]
    exact hfault
  rw [hread]
  dsimp only
  rcases (meets_expectInEscape 'u' middle).error_or_ok with
    ⟨fault, hread, hfault⟩ | ⟨after, hread, rfl⟩
  · rw [hread]
    exact hfault
  rw [hread]
  dsimp only
  rcases (meets_readHex after).error_or_ok with ⟨fault, hread, hfault⟩ | ⟨⟨m, last⟩, hread, hmore⟩
  · rw [hread]
    exact hfault
  rw [hread]
  dsimp only
  split
  · trivial
  · exact .more hhex (.one hmore)

theorem exists_letter_of_escaped? {b : UInt8} {c : Char} (h : escaped? b = some c) :
    ∃ letter ∈ escapeLetters, b = byte letter := by
  unfold escaped? at h
  split at h
  · exact ⟨'"', by decide, ‹_›⟩
  split at h
  · exact ⟨'\\', by decide, ‹_›⟩
  split at h
  · exact ⟨'/', by decide, ‹_›⟩
  split at h
  · exact ⟨'b', by decide, ‹_›⟩
  split at h
  · exact ⟨'f', by decide, ‹_›⟩
  split at h
  · exact ⟨'n', by decide, ‹_›⟩
  split at h
  · exact ⟨'r', by decide, ‹_›⟩
  split at h
  · exact ⟨'t', by decide, ‹_›⟩
  · cases h

theorem meets_readEscape (bytes : Bytes) : MeetsRule Escapes bytes (readEscape bytes) := by
  unfold readEscape
  split
  · trivial
  split
  · rename_i b rest c hescaped
    obtain ⟨letter, hletter, rfl⟩ := exists_letter_of_escaped? hescaped
    exact .one (.letter hletter)
  split
  · rename_i hu
    rw [hu]
    exact meets_readUnicodeEscape _
  · trivial

/-- The first byte that is not left away fails the test. -/
theorem eq_false_of_dropWhile {p : UInt8 → Bool} {bytes rest : Bytes} {b : UInt8}
    (h : bytes.dropWhile p = b :: rest) : p b = false := by
  have hhead := List.head?_dropWhile_not p bytes
  rw [h] at hhead
  simpa using hhead

/-- A stretch of a string ends at a quote, at a backslash or at a control character. -/
theorem eq_backslash {bytes rest : Bytes} {b : UInt8} (h : bytes.dropWhile isPlain = b :: rest)
    (hcontrol : ¬ b < 0x20) (hquote : b ≠ byte '"') : b = byte '\\' := by
  have hplain := eq_false_of_dropWhile h
  simp only [isPlain, Bool.and_eq_false_iff, bne_eq_false_iff_eq, decide_eq_false_iff_not] at hplain
  rcases hplain with (hb | hb) | hb
  · exact absurd hb hquote
  · exact hb
  · exact absurd (UInt8.not_le.mp hb) hcontrol

theorem meets_readStringWithin : ∀ fuel bytes,
    MeetsRule (StringTail IsEncoded) bytes (readStringWithin fuel bytes) := by
  intro fuel
  induction fuel with
  | zero =>
      intro bytes
      trivial
  | succ fuel ih =>
      intro bytes
      unfold readStringWithin
      split
      · trivial
      rename_i b rest hdrop
      split
      · trivial
      rename_i hcontrol
      split
      · trivial
      rename_i stretch hstretch
      have hplain : Stretch (IsPlainStretch IsEncoded) bytes (b :: rest) := by
        refine ⟨bytes.takeWhile isPlain, ⟨⟨stretch, Utf8.read_eq_ok_iff.mp hstretch⟩, ?_⟩, ?_⟩
        · exact fun _ hb => List.mem_takeWhile_imp hb
        · rw [← hdrop, List.takeWhile_append_dropWhile]
      split
      · rename_i hquote
        rw [hquote] at hplain
        exact .close hplain
      rename_i hquote
      rw [eq_backslash hdrop hcontrol hquote] at hplain
      rcases (meets_readEscape rest).error_or_ok with
        ⟨fault, hread, hfault⟩ | ⟨⟨c, after⟩, hread, hescape⟩
      · rw [hread]
        exact hfault
      rw [hread]
      dsimp only
      rcases (ih after).error_or_ok with ⟨fault, hread, hfault⟩ | ⟨⟨t, last⟩, hread, hmore⟩
      · rw [hread]
        exact hfault
      rw [hread]
      exact .escapes ⟨[], rfl⟩ hplain hescape hmore

theorem meets_readString (bytes : Bytes) :
    MeetsRule (StringTail IsEncoded) bytes (readString bytes) :=
  meets_readStringWithin _ bytes

/-! ### Containers -/

namespace Grammar

/-- The entries of a container from its beginning, or from what stands after one of them. -/
def Remaining (close : Char) (entry : Rule) : Bool → Rule
  | true => Entries close entry
  | false => AfterEntry close entry

/-- An entry begins at `start`: it is the first, or stands after a comma. -/
def Comes : Bool → Rule
  | true => fun bytes start => start = skipSpace bytes
  | false => fun bytes start =>
    ∃ after, skipSpace bytes = byte ',' :: after ∧ start = skipSpace after

variable {first : Bool} {close : Char} {entry : Rule} {bytes start middle rest : Bytes}

theorem Comes.skipSpace_eq (h : Comes first bytes start) : skipSpace start = start := by
  cases first with
  | true =>
      rw [show start = skipSpace bytes from h, skipSpace_skipSpace]
  | false =>
      obtain ⟨after, -, rfl⟩ := h
      exact skipSpace_skipSpace after

theorem Comes.remaining (h : Comes first bytes start) (hentry : entry start middle)
    (hmore : AfterEntry close entry middle rest) : Remaining close entry first bytes rest := by
  cases first with
  | true =>
      rw [show start = skipSpace bytes from h] at hentry
      exact .some hentry hmore
  | false =>
      obtain ⟨after, hcomma, rfl⟩ := h
      exact .more hcomma hentry hmore

theorem remaining_done (h : skipSpace bytes = byte close :: rest) :
    Remaining close entry first bytes rest := by
  cases first with
  | true => exact .none h
  | false => exact .done h

end Grammar

/-- Where a container ends, or goes on with an entry that `opening` stands in front of. -/
def Next.Stands (close : Char) (opening : Bytes) (first : Bool) (bytes : Bytes) : Next → Prop
  | done rest => skipSpace bytes = byte close :: rest
  | more after => Comes first bytes (opening ++ after)

theorem meets_nextItem (first : Bool) (bytes : Bytes) :
    Meets (Next.Stands ']' [] first bytes) (nextItem first bytes) := by
  unfold nextItem
  split
  · trivial
  rename_i b rest hspace
  split
  · rename_i hclose
    rw [hclose] at hspace
    exact hspace
  cases first with
  | true => exact hspace.symm
  | false =>
      rw [if_neg Bool.false_ne_true]
      split
      · rename_i hcomma
        rw [hcomma] at hspace
        split
        · trivial
        rename_i c after hafter
        split
        · trivial
        · exact ⟨rest, hspace, hafter.symm⟩
      · trivial

theorem meets_nextMember (first : Bool) (bytes : Bytes) :
    Meets (Next.Stands '\x7d' [byte '"'] first bytes) (nextMember first bytes) := by
  unfold nextMember
  split
  · trivial
  rename_i b rest hspace
  split
  · rename_i hclose
    rw [hclose] at hspace
    exact hspace
  cases first with
  | true =>
      rw [if_pos rfl]
      split
      · rename_i hquote
        rw [hquote] at hspace
        exact hspace.symm
      · trivial
  | false =>
      rw [if_neg Bool.false_ne_true]
      split
      · rename_i hcomma
        rw [hcomma] at hspace
        split
        · trivial
        rename_i c after hafter
        split
        · rename_i hquote
          rw [hquote] at hafter
          exact ⟨rest, hspace, hafter.symm⟩
        split <;> trivial
      · trivial

theorem meets_readColon (bytes : Bytes) :
    Meets (fun rest => skipSpace bytes = byte ':' :: rest) (readColon bytes) := by
  unfold readColon
  split
  · trivial
  rename_i b rest hspace
  split
  · rename_i hcolon
    rw [hcolon] at hspace
    exact hspace
  · trivial

section Entries

variable {read : Bytes → Reading Value} {value : Rule}

theorem meets_readItems (hread : ∀ bytes, MeetsRule value (skipSpace bytes) (read bytes)) :
    ∀ fuel first bytes,
      MeetsRule (Remaining ']' value first) bytes (readItems read fuel first bytes) := by
  intro fuel
  induction fuel with
  | zero =>
      intro first bytes
      trivial
  | succ fuel ih =>
      intro first bytes
      unfold readItems
      rcases (meets_nextItem first bytes).error_or_ok with ⟨fault, hnext, hfault⟩ | ⟨next, hnext, h⟩
      · rw [hnext]
        exact hfault
      rw [hnext]
      cases next with
      | done rest => exact remaining_done h
      | more start =>
          have hcomes : Comes first bytes start := h
          have hitem := hread start
          rw [hcomes.skipSpace_eq] at hitem
          dsimp only
          rcases hitem.error_or_ok with ⟨fault, hvalue, hfault⟩ | ⟨⟨item, middle⟩, hvalue, hitem⟩
          · rw [hvalue]
            exact hfault
          rw [hvalue]
          dsimp only
          rcases (ih false middle).error_or_ok with
            ⟨fault, hitems, hfault⟩ | ⟨⟨items, rest⟩, hitems, hmore⟩
          · rw [hitems]
            exact hfault
          rw [hitems]
          exact hcomes.remaining hitem hmore

theorem meets_readMembers (hread : ∀ bytes, MeetsRule value (skipSpace bytes) (read bytes)) :
    ∀ fuel first bytes, MeetsRule (Remaining '\x7d' (ObjectMember IsEncoded value) first) bytes
      (readMembers read fuel first bytes) := by
  intro fuel
  induction fuel with
  | zero =>
      intro first bytes
      trivial
  | succ fuel ih =>
      intro first bytes
      unfold readMembers
      rcases (meets_nextMember first bytes).error_or_ok with
        ⟨fault, hnext, hfault⟩ | ⟨next, hnext, hcomes⟩
      · rw [hnext]
        exact hfault
      rw [hnext]
      cases next with
      | done rest => exact remaining_done hcomes
      | more start =>
          dsimp only
          rcases (meets_readString start).error_or_ok with
            ⟨fault, hstring, hfault⟩ | ⟨⟨key, middle⟩, hstring, hkey⟩
          · rw [hstring]
            exact hfault
          rw [hstring]
          dsimp only
          rcases (meets_readColon middle).error_or_ok with
            ⟨fault, htaken, hfault⟩ | ⟨after, htaken, hcolon⟩
          · rw [htaken]
            exact hfault
          rw [htaken]
          dsimp only
          rcases (hread after).error_or_ok with
            ⟨fault, hvalue, hfault⟩ | ⟨⟨v, later⟩, hvalue, hitem⟩
          · rw [hvalue]
            exact hfault
          rw [hvalue]
          dsimp only
          rcases (ih false later).error_or_ok with
            ⟨fault, hmembers, hfault⟩ | ⟨⟨members, rest⟩, hmembers, hmore⟩
          · rw [hmembers]
            exact hfault
          rw [hmembers]
          exact Comes.remaining hcomes (.intro hkey hcolon hitem) hmore

end Entries

/-! ### Values and documents -/

/-- **The reader of values keeps to the grammar.** -/
theorem meets_readValue (depth : Nat) : ∀ bytes,
    MeetsRule (Grammar.Value IsEncoded depth) (skipSpace bytes) (readValue depth bytes) := by
  induction depth using Nat.strong_induction_on with
  | _ depth ih =>
      intro bytes
      rw [readValue.eq_def]
      split
      · trivial
      rename_i b rest hspace
      rw [hspace]
      split
      · rename_i hb
        rw [hb]
        exact meets_readWord ((meets_word (by decide) rest).imp fun _ => .scalar) _
      split
      · rename_i hb
        rw [hb]
        exact meets_readWord ((meets_word (by decide) rest).imp fun _ => .scalar) _
      split
      · rename_i hb
        rw [hb]
        exact meets_readWord ((meets_word (by decide) rest).imp fun _ => .scalar) _
      split
      · rename_i hb
        rw [hb]
        exact meets_wrap ((meets_readNumber true rest).imp fun _ h => .scalar (.negative h)) _
      split
      · exact meets_wrap ((meets_readNumber false _).imp fun _ h => .scalar (.number h)) _
      split
      · rename_i hb
        rw [hb]
        exact meets_wrap ((meets_readString rest).imp fun _ h => .scalar (.string h)) _
      split
      · rename_i hb
        rw [hb]
        split
        · trivial
        · rename_i inner
          exact meets_wrap ((meets_readItems (ih inner (Nat.lt_succ_self inner)) _ true rest).imp
            fun _ h => Or.inr (.array h)) _
      split
      · rename_i hb
        rw [hb]
        split
        · trivial
        · rename_i inner
          exact meets_wrap ((meets_readMembers (ih inner (Nat.lt_succ_self inner)) _ true rest).imp
            fun _ h => Or.inr (.object h)) _
      · trivial

theorem meets_readEnd (bytes : Bytes) :
    Meets (fun _ => skipSpace bytes = []) (readEnd bytes) := by
  unfold readEnd
  split
  · assumption
  · trivial

namespace Grammar

/-- A value in which containers are nested however deep. -/
def AnyValue (test : Bytes → Prop) : Rule :=
  fun bytes rest => ∃ depth, Value test depth bytes rest

/-- The text of a document: one value, and blanks around it. -/
def IsDocument (bytes : Bytes) : Prop :=
  ∃ rest, AnyValue IsEncoded (skipSpace bytes) rest ∧ skipSpace rest = []

/-- The text of an object with members of this rule, and blanks around it. -/
def IsObjectOf (member : Rule) (bytes : Bytes) : Prop :=
  ∃ more rest, skipSpace bytes = byte '\x7b' :: more ∧ Entries '\x7d' member more rest ∧
    skipSpace rest = []

/-- The text of a document that is an object. -/
def IsObject : Bytes → Prop :=
  IsObjectOf (ObjectMember IsEncoded (AnyValue IsEncoded))

end Grammar

/-- **What is read is a document**, and a fault lies in the text. -/
theorem meets_read (bytes : Bytes) : Meets (fun _ => IsDocument bytes) (read bytes) := by
  unfold read
  rcases (meets_readValue maxDepth bytes).error_or_ok with
    ⟨fault, hread, hfault⟩ | ⟨⟨value, rest⟩, hread, hvalue⟩
  · rw [hread]
    exact hfault
  rw [hread]
  dsimp only
  rcases (meets_readEnd rest).error_or_ok with ⟨fault, hend, hfault⟩ | ⟨_, hend, hrest⟩
  · rw [hend]
    exact hfault
  · rw [hend]
    exact ⟨rest, ⟨maxDepth, hvalue⟩, hrest⟩

end VarlinkClient.Json
