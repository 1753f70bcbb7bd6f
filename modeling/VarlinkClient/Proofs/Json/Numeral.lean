/-
Numbers as they are written, and what they are worth.

A numeral has digits, perhaps a point and digits behind it, and perhaps a power of ten.  It is
whole when it has digits only and they fit in 64 bits; else it is worth the digits that fit times
a power of ten, rounded, and may be too great for any number (`Numeral.number?`).

The reader goes over the bytes of a numeral part by part, and there is one lemma for each part.
Each tells a result in full: the number there is and what follows it, or that there is none
(`toOption_readNumber`).
-/
import VarlinkClient.Proofs.Json.Numbers

namespace VarlinkClient.Json

/-! ### Parts of a numeral -/

/-- One decimal digit or more. -/
def IsDigits (t : Text) : Prop :=
  t ≠ [] ∧ ∀ c ∈ t, c.isDigit = true

/-- The power of ten at the end of a number. -/
structure PowerOfTen where
  letter : Char
  sign : Option Char
  digits : Text
  isLetter : letter = 'e' ∨ letter = 'E'
  isSign : ∀ c ∈ sign, c = '+' ∨ c = '-'
  isDigits : IsDigits digits

/-- A number, part by part. -/
structure Numeral where
  negative : Bool
  /-- The digits before the point. -/
  whole : Text
  /-- The digits behind the point, if there is one. -/
  fraction : Option Text
  power : Option PowerOfTen
  isWhole : IsDigits whole
  /-- No digit stands behind a zero at the front. -/
  leading : whole.head? = some '0' → whole = ['0']
  isFraction : ∀ digits ∈ fraction, IsDigits digits

/-- How a power of ten is written. -/
def PowerOfTen.text (power : PowerOfTen) : Text :=
  power.letter :: (power.sign.toList ++ power.digits)

/-- The power of ten as it is written behind the digits. -/
def powerText (power : Option PowerOfTen) : Text :=
  (power.map PowerOfTen.text).getD []

/-- The point and the digits behind it. -/
def fractionText : Option Text → Text
  | none => []
  | some digits => '.' :: digits

namespace Numeral

/-- How a number is written after its sign. -/
def magnitude (n : Numeral) : Text :=
  n.whole ++ (fractionText n.fraction ++ powerText n.power)

/-- How a number is written. -/
def text (n : Numeral) : Text :=
  if n.negative then '-' :: n.magnitude else n.magnitude

end Numeral

/-! ### What a numeral is worth -/

/-- The number that digits make behind those of `value`, as many of them as fit in 64 bits; and how
many do. -/
def fitting (value : Nat) : Text → Nat × Nat
  | [] => (value, 0)
  | c :: digits =>
    if 10 * value + Text.digitValue c ≤ maxWhole then
      let (more, count) := fitting (10 * value + Text.digitValue c) digits
      (more, count + 1)
    else (value, 0)

namespace PowerOfTen

/-- The power divides. -/
def isBelow (power : PowerOfTen) : Bool :=
  power.sign = some '-'

/-- The exponent without its sign. -/
def exponent (power : PowerOfTen) : Nat :=
  Text.natOfDigits power.digits

end PowerOfTen

/-- The number `digits * 10 ^ exponent` times the power that is written behind it, unless it is out
of range.  An exponent that does not fit in 32 bits makes everything zero or too great. -/
def scaled? (digits : Nat) (exponent : Int) : Option PowerOfTen → Option Binary64
  | none => Binary64.ofDecimal? digits exponent
  | some power =>
    if power.exponent ≤ maxExponent then
      Binary64.ofDecimal? digits
        (if power.isBelow then exponent - power.exponent else exponent + power.exponent)
    else if digits ≠ 0 ∧ ¬ power.isBelow then none
    else some .zero

theorem below_lt {digits : Nat} (h : 0 < digits ∧ digits ≤ UInt64.size / 2) :
    digits - 1 < UInt64.size / 2 := by
  omega

/-- A whole number of 64 bits; a negative one that is too great, or zero, is real. -/
def wholeNumber? (negative : Bool) (digits : Nat) : Option Number :=
  if negative then
    if h : 0 < digits ∧ digits ≤ UInt64.size / 2 then some (.negative ⟨digits - 1, below_lt h⟩)
    else (Binary64.ofDecimal? digits 0).map (signed true)
  else some (.whole (UInt64.ofNat digits))

namespace Numeral

/-- The number has digits only, and they fit in 64 bits. -/
def isInteger (n : Numeral) : Bool :=
  n.fraction.isNone && n.power.isNone && Text.natOfDigits n.whole ≤ maxWhole

/-- The digits before the point that fit, and how many do. -/
def front (n : Numeral) : Nat × Nat :=
  fitting 0 n.whole

/-- The digits of the number that fit, and how many of those behind the point do. -/
def kept (n : Numeral) : Nat × Nat :=
  fitting n.front.1 (n.fraction.getD [])

/-- The number that is written, if it is in range.  Digits before the point that do not fit count
for a power of ten, those behind it for nothing. -/
def number? (n : Numeral) : Option Number :=
  if n.isInteger then wholeNumber? n.negative (Text.natOfDigits n.whole)
  else (scaled? n.kept.1 ((n.whole.length - n.front.2 : Nat) - (n.kept.2 : Int)) n.power).map
    (signed n.negative)

end Numeral

example : fitting 1844674407370955161 "59" = (18446744073709551615, 1) := by decide

/-! ### Digits in front of other bytes -/

theorem digitValue_le {c : Char} (h : c.isDigit = true) : Text.digitValue c ≤ 9 := by
  have hrange := toNat_of_isDigit h
  have hzero : '0'.toNat = 48 := rfl
  unfold Text.digitValue
  omega

section Digits

variable {digits : Text} {rest : Bytes}

theorem encode_cons_ascii {c : Char} (h : c.toNat < 0x80) (t : Text) :
    Utf8.encode (c :: t) = byte c :: Utf8.encode t := by
  rw [Utf8.encode_cons, Utf8.encodeChar_ascii h]
  rfl

theorem encode_cons_digit {c : Char} (h : c.isDigit = true) (t : Text) :
    Utf8.encode (c :: t) = byte c :: Utf8.encode t :=
  encode_cons_ascii (Nat.lt_of_le_of_lt (toNat_of_isDigit h).2 (by decide)) t

theorem isDigit_of_mem_encode (h : ∀ c ∈ digits, c.isDigit = true) :
    ∀ b ∈ Utf8.encode digits, isDigit b = true := by
  induction digits with
  | nil => exact nofun
  | cons c digits ih =>
      intro b hb
      rw [encode_cons_digit (h c (by simp))] at hb
      rcases List.mem_cons.mp hb with rfl | hb
      · exact (digit_byte (h c (by simp))).2.1
      · exact ih (fun d hd => h d (by simp [hd])) b hb

theorem takeWhile_digits (h : ∀ c ∈ digits, c.isDigit = true)
    (hrest : startsWithDigit rest = false) :
    (Utf8.encode digits ++ rest).takeWhile isDigit = Utf8.encode digits := by
  rw [List.takeWhile_append_of_pos (isDigit_of_mem_encode h)]
  cases rest with
  | nil => simp
  | cons b rest => rw [List.takeWhile_cons_of_neg (by simpa [startsWithDigit] using hrest)]; simp

theorem dropWhile_digits (h : ∀ c ∈ digits, c.isDigit = true)
    (hrest : startsWithDigit rest = false) :
    (Utf8.encode digits ++ rest).dropWhile isDigit = rest := by
  rw [List.dropWhile_append_of_pos (isDigit_of_mem_encode h)]
  cases rest with
  | nil => rfl
  | cons b rest => exact List.dropWhile_cons_of_neg (by simpa [startsWithDigit] using hrest)

/-- More digits follow unless they have all been taken. -/
theorem startsWithDigit_digits (h : ∀ c ∈ digits, c.isDigit = true)
    (hrest : startsWithDigit rest = false) :
    startsWithDigit (Utf8.encode digits ++ rest) = true ↔ digits ≠ [] := by
  cases digits with
  | nil => simp [hrest]
  | cons c digits =>
      have hc := h c (by simp)
      rw [encode_cons_digit hc]
      exact iff_of_true (digit_byte hc).2.1 (List.cons_ne_nil _ _)

theorem length_encode_digits (h : ∀ c ∈ digits, c.isDigit = true) :
    (Utf8.encode digits).length = digits.length := by
  induction digits with
  | nil => rfl
  | cons c digits ih =>
      rw [encode_cons_digit (h c (by simp)), List.length_cons, List.length_cons,
        ih fun d hd => h d (by simp [hd])]

/-- Of the digits, those are taken that fit. -/
theorem takeDigits_fitting (hrest : startsWithDigit rest = false) :
    ∀ {digits : Text} {value count : Nat}, (∀ c ∈ digits, c.isDigit = true) →
      takeDigits value count (Utf8.encode digits ++ rest) =
        ((fitting value digits).1, count + (fitting value digits).2,
          Utf8.encode (digits.drop (fitting value digits).2) ++ rest) := by
  intro digits
  induction digits with
  | nil =>
      intro value count _
      cases rest with
      | nil => rfl
      | cons b rest =>
          have hb : isDigit b = false := hrest
          simp [takeDigits, fitting, hb]
  | cons c digits ih =>
      intro value count h
      have hc := h c (by simp)
      obtain ⟨-, hdigit, hvalue⟩ := digit_byte hc
      rw [encode_cons_digit hc, List.cons_append, takeDigits, fitting, hvalue]
      by_cases hfits : 10 * value + Text.digitValue c ≤ maxWhole
      · rw [if_pos ⟨hdigit, hfits⟩, if_pos hfits, ih fun d hd => h d (by simp [hd])]
        simp [Nat.add_assoc, Nat.add_comm 1]
      · rw [if_neg fun hboth => hfits hboth.2, if_neg hfits]
        rw [List.drop_zero, encode_cons_digit hc]
        rfl

/-- All digits fit when the number does. -/
theorem fitting_of_le : ∀ {digits : Text} {value : Nat},
    digits.foldl (fun n c => 10 * n + Text.digitValue c) value ≤ maxWhole →
      fitting value digits =
        (digits.foldl (fun n c => 10 * n + Text.digitValue c) value, digits.length) := by
  intro digits
  induction digits with
  | nil => exact fun _ => rfl
  | cons c digits ih =>
      intro value h
      rw [List.foldl_cons] at h
      have hfits : 10 * value + Text.digitValue c ≤ maxWhole :=
        Nat.le_trans (le_foldl_digits digits _) h
      rw [fitting, if_pos hfits, ih h]
      rfl

/-- When the number does not fit, some digit does not. -/
theorem fitting_of_lt : ∀ {digits : Text} {value : Nat}, value ≤ maxWhole →
    maxWhole < digits.foldl (fun n c => 10 * n + Text.digitValue c) value →
      (fitting value digits).2 < digits.length := by
  intro digits
  induction digits with
  | nil => exact fun hvalue h => absurd h (Nat.not_lt.mpr hvalue)
  | cons c digits ih =>
      intro value _ h
      rw [fitting]
      split
      · rename_i hfits
        exact Nat.succ_lt_succ (ih hfits h)
      · exact Nat.succ_pos _

/-- The exponent is read when it fits in 32 bits; else its digits are left away. -/
theorem takeExponent_digits (hrest : startsWithDigit rest = false) :
    ∀ {digits : Text} {value : Nat}, (∀ c ∈ digits, c.isDigit = true) → value ≤ maxExponent →
      if digits.foldl (fun n c => 10 * n + Text.digitValue c) value ≤ maxExponent then
        takeExponent value (Utf8.encode digits ++ rest) =
          .ok (digits.foldl (fun n c => 10 * n + Text.digitValue c) value, rest)
      else ∃ after, takeExponent value (Utf8.encode digits ++ rest) = .error after ∧
        after.dropWhile isDigit = rest := by
  intro digits
  induction digits with
  | nil =>
      intro value _ hvalue
      rw [List.foldl_nil, if_pos hvalue]
      cases rest with
      | nil => rfl
      | cons b rest =>
          have hb : isDigit b = false := hrest
          simp [takeExponent, hb]
  | cons c digits ih =>
      intro value h _
      have hc := h c (by simp)
      have hdigits : ∀ d ∈ digits, d.isDigit = true := fun d hd => h d (by simp [hd])
      obtain ⟨-, hdigit, hvalue⟩ := digit_byte hc
      rw [encode_cons_digit hc, List.cons_append, takeExponent, if_pos hdigit, hvalue,
        List.foldl_cons]
      by_cases hfits : 10 * value + Text.digitValue c ≤ maxExponent
      · rw [if_pos hfits]
        exact ih hdigits hfits
      · have hgreat := le_foldl_digits digits (10 * value + Text.digitValue c)
        rw [if_neg hfits, if_neg fun hle => hfits (Nat.le_trans hgreat hle)]
        exact ⟨_, rfl, dropWhile_digits hdigits hrest⟩

end Digits

/-! ### Reading a numeral -/

/-- A number, if there is one, and what follows it. -/
def inFrontOf (rest : Bytes) (n : Option Number) : Option (Number × Bytes) :=
  n.map fun x => (x, rest)

section Reading

variable {negative : Bool} {digits : Nat} {exponent : Int} {rest : Bytes}

theorem toOption_finishReal : (finishReal negative digits exponent rest).toOption =
    inFrontOf rest ((Binary64.ofDecimal? digits exponent).map (signed negative)) := by
  unfold finishReal
  cases Binary64.ofDecimal? digits exponent with
  | none => rfl
  | some x => rfl

theorem toOption_finishWhole : (finishWhole negative digits rest).toOption =
    inFrontOf rest (wholeNumber? negative digits) := by
  unfold finishWhole wholeNumber?
  by_cases hnegative : negative = true
  · rw [if_pos hnegative, if_pos hnegative]
    split
    · rfl
    · exact toOption_finishReal
  · rw [if_neg hnegative, if_neg hnegative]
    rfl

theorem PowerOfTen.exists_letter (power : PowerOfTen) : ∃ b, (b = byte 'e' ∨ b = byte 'E') ∧
    Utf8.encode power.text = b :: Utf8.encode (power.sign.toList ++ power.digits) := by
  unfold text
  rcases power.isLetter with h | h
  · exact ⟨byte 'e', Or.inl rfl, by rw [h, encode_cons_ascii (by decide)]⟩
  · exact ⟨byte 'E', Or.inr rfl, by rw [h, encode_cons_ascii (by decide)]⟩

/-- Neither digits nor a point are continued by a power of ten. -/
theorem head_powerText (hrest : Follows rest) (power : Option PowerOfTen) :
    ∀ b ∈ (Utf8.encode (powerText power) ++ rest).head?, isDigit b = false ∧ b ≠ byte '.' := by
  cases power with
  | none => exact fun b hb => ⟨(hrest b hb).1, (hrest b hb).2.1⟩
  | some power =>
      obtain ⟨b, hb, hbytes⟩ := power.exists_letter
      rw [powerText, Option.map_some, Option.getD_some, hbytes]
      rintro _ ⟨⟩
      rcases hb with rfl | rfl <;> decide

theorem startsWithDigit_powerText (hrest : Follows rest) (power : Option PowerOfTen) :
    startsWithDigit (Utf8.encode (powerText power) ++ rest) = false :=
  startsWithDigit_eq_false_iff.mpr fun b hb => (head_powerText hrest power b hb).1

theorem startsWithDigit_afterDigits (hrest : Follows rest) (fraction : Option Text)
    (power : Option PowerOfTen) : startsWithDigit
      (Utf8.encode (fractionText fraction ++ powerText power) ++ rest) = false := by
  cases fraction with
  | none => exact startsWithDigit_powerText hrest power
  | some fraction =>
      rw [fractionText, List.cons_append, encode_cons_ascii (by decide)]
      exact (by decide : isDigit (byte '.') = false)

theorem toOption_readPower (hrest : Follows rest) {power : Text} (hpower : IsDigits power)
    (below : Bool) :
    (readPower negative digits exponent below (Utf8.encode power ++ rest)).toOption =
      inFrontOf rest ((if Text.natOfDigits power ≤ maxExponent then
          Binary64.ofDecimal? digits (if below then exponent - Text.natOfDigits power
            else exponent + Text.natOfDigits power)
        else if digits ≠ 0 ∧ ¬ below then none else some .zero).map (signed negative)) := by
  obtain ⟨hne, hdigits⟩ := hpower
  obtain ⟨c, others, rfl⟩ := List.exists_cons_of_ne_nil hne
  have hc := hdigits c (by simp)
  obtain ⟨-, hdigit, hvalue⟩ := digit_byte hc
  have hfirst : digitValue (byte c) ≤ maxExponent :=
    hvalue ▸ Nat.le_trans (digitValue_le hc) (by decide)
  have hothers : ∀ d ∈ others, d.isDigit = true := fun d hd => hdigits d (by simp [hd])
  have htake := takeExponent_digits hrest.startsWithDigit hothers hfirst
  have hfold : others.foldl (fun n c => 10 * n + Text.digitValue c) (digitValue (byte c)) =
      Text.natOfDigits (c :: others) := by
    rw [Text.natOfDigits, List.foldl_cons, hvalue, Nat.mul_zero, Nat.zero_add]
  rw [hfold] at htake
  rw [encode_cons_digit hc, List.cons_append, readPower, if_pos hdigit]
  split at htake
  · rename_i hfits
    rw [htake, if_pos hfits]
    exact toOption_finishReal
  · rename_i hgreat
    obtain ⟨after, htake, hafter⟩ := htake
    rw [htake, if_neg hgreat]
    dsimp only
    split
    · rfl
    · rw [hafter]
      rfl

/-- An exponent that begins with a digit has no sign. -/
theorem readExponent_digits {power : Text} (hpower : IsDigits power) (rest : Bytes) :
    readExponent negative digits exponent (Utf8.encode power ++ rest) =
      readPower negative digits exponent false (Utf8.encode power ++ rest) := by
  obtain ⟨c, others, rfl⟩ := List.exists_cons_of_ne_nil hpower.1
  have hc := hpower.2 c (by simp)
  obtain ⟨-, hdigit, -⟩ := digit_byte hc
  rw [encode_cons_digit hc]
  exact readExponent_digit (ne_of_isDigit hdigit (by decide)) (ne_of_isDigit hdigit (by decide))

theorem toOption_readExponent (hrest : Follows rest) (power : PowerOfTen) :
    (readExponent negative digits exponent
      (Utf8.encode (power.sign.toList ++ power.digits) ++ rest)).toOption =
        inFrontOf rest ((scaled? digits exponent (some power)).map (signed negative)) := by
  obtain ⟨letter, sign, power, hletter, hsign, hpower⟩ := power
  have hread : ∀ below, (readPower negative digits exponent below
      (Utf8.encode power ++ rest)).toOption = _ := toOption_readPower hrest hpower
  cases sign with
  | none =>
      show (readExponent negative digits exponent (Utf8.encode power ++ rest)).toOption = _
      rw [readExponent_digits hpower]
      exact hread false
  | some sign =>
      rcases hsign sign rfl with rfl | rfl
      · exact hread false
      · exact hread true

theorem toOption_readTail (hrest : Follows rest) (power : Option PowerOfTen) :
    (readTail negative digits exponent (Utf8.encode (powerText power) ++ rest)).toOption =
      inFrontOf rest ((scaled? digits exponent power).map (signed negative)) := by
  cases power with
  | none =>
      have hend : ∀ b ∈ rest.head?, ¬ (b = byte 'e' ∨ b = byte 'E') := fun b hb =>
        not_or.mpr (hrest b hb).2.2
      show (readTail negative digits exponent rest).toOption = _
      rw [readTail_stop hend]
      exact toOption_finishReal
  | some power =>
      obtain ⟨b, hb, hbytes⟩ := power.exists_letter
      rw [powerText, Option.map_some, Option.getD_some, hbytes, List.cons_append, readTail,
        if_pos hb]
      exact toOption_readExponent hrest power

theorem toOption_readFraction (hrest : Follows rest) {fraction : Text}
    (hfraction : IsDigits fraction) (power : Option PowerOfTen) :
    (readFraction negative digits exponent
      (Utf8.encode fraction ++ (Utf8.encode (powerText power) ++ rest))).toOption =
        inFrontOf rest ((scaled? (fitting digits fraction).1
          (exponent - (fitting digits fraction).2) power).map (signed negative)) := by
  obtain ⟨hne, hdigits⟩ := hfraction
  have hend := startsWithDigit_powerText hrest power
  have hleft : ∀ c ∈ fraction.drop (fitting digits fraction).2, c.isDigit = true := fun c hc =>
    hdigits c (List.mem_of_mem_drop hc)
  rw [readFraction, takeDigits_fitting hend hdigits]
  dsimp only
  rw [Nat.zero_add]
  split
  · rw [dropWhile_digits hleft hend]
    exact toOption_readTail hrest power
  · rename_i hall
    have hdrop : fraction.drop (fitting digits fraction).2 = [] := by
      simpa [startsWithDigit_digits hleft hend] using hall
    have hcount : (fitting digits fraction).2 ≠ 0 := by
      intro hzero
      rw [hzero] at hdrop
      exact hne hdrop
    rw [if_neg hcount, hdrop]
    exact toOption_readTail hrest power

/-- A point, digits and a power of ten, or what there is of them, behind digits that fit. -/
theorem toOption_readAfterWhole (hrest : Follows rest) {fraction : Option Text}
    (hfraction : ∀ digits ∈ fraction, IsDigits digits) (power : Option PowerOfTen) :
    (readAfterWhole negative digits
      (Utf8.encode (fractionText fraction ++ powerText power) ++ rest)).toOption =
        inFrontOf rest (if fraction.isNone && power.isNone then wholeNumber? negative digits
          else (scaled? (fitting digits (fraction.getD [])).1
            (0 - (fitting digits (fraction.getD [])).2) power).map (signed negative)) := by
  cases fraction with
  | some fraction =>
      have hpoint : Utf8.encode (fractionText (some fraction)) = byte '.' :: Utf8.encode fraction :=
        encode_cons_ascii (by decide) _
      rw [Utf8.encode_append, hpoint, List.append_assoc, List.cons_append, readAfterWhole,
        if_pos rfl]
      exact toOption_readFraction hrest (hfraction fraction rfl) power
  | none =>
      cases power with
      | none =>
          show (readAfterWhole negative digits rest).toOption = _
          rw [readAfterWhole_follows hrest]
          exact toOption_finishWhole
      | some power =>
          obtain ⟨b, hb, hbytes⟩ := power.exists_letter
          have hpoint : b ≠ byte '.' := by rcases hb with rfl | rfl <;> decide
          show (readAfterWhole negative digits (Utf8.encode power.text ++ rest)).toOption = _
          rw [hbytes, List.cons_append, readAfterWhole, if_neg hpoint, if_pos hb]
          exact toOption_readExponent hrest power

/-- The same behind digits that do not all fit. -/
theorem toOption_readLong (hrest : Follows rest) {left : Text}
    (hleft : ∀ c ∈ left, c.isDigit = true)
    {fraction : Option Text} (hfraction : ∀ digits ∈ fraction, IsDigits digits)
    (power : Option PowerOfTen) :
    (readLong negative digits (Utf8.encode left ++
      (Utf8.encode (fractionText fraction ++ powerText power) ++ rest))).toOption =
        inFrontOf rest ((scaled? (fitting digits (fraction.getD [])).1
          (left.length - (fitting digits (fraction.getD [])).2) power).map (signed negative)) := by
  have hend := startsWithDigit_afterDigits hrest fraction power
  have hcount := takeWhile_digits hleft hend
  have hdrop := dropWhile_digits hleft hend
  cases fraction with
  | some fraction =>
      have hpoint : Utf8.encode (fractionText (some fraction) ++ powerText power) ++ rest =
          byte '.' :: (Utf8.encode fraction ++ (Utf8.encode (powerText power) ++ rest)) := by
        rw [fractionText, List.cons_append, encode_cons_ascii (by decide), Utf8.encode_append,
          List.cons_append, List.append_assoc]
      rw [readLong, hdrop, hcount, length_encode_digits hleft, hpoint]
      dsimp only
      rw [if_pos rfl]
      exact toOption_readFraction hrest (hfraction fraction rfl) power
  | none =>
      have hhead := head_powerText hrest power
      rw [readLong_eq_readTail, hdrop, hcount, length_encode_digits hleft]
      · exact (toOption_readTail hrest power).trans (by simp [fitting])
      · rw [hdrop]
        exact fun b hb => (hhead b hb).2

/-- When all digits before the point fit, they are read as they are. -/
theorem Numeral.number?_of_fits {n : Numeral} (h : Text.natOfDigits n.whole ≤ maxWhole) :
    n.number? = if n.fraction.isNone && n.power.isNone then
        wholeNumber? n.negative (Text.natOfDigits n.whole)
      else (scaled? (fitting (Text.natOfDigits n.whole) (n.fraction.getD [])).1
        (0 - (fitting (Text.natOfDigits n.whole) (n.fraction.getD [])).2) n.power).map
          (signed n.negative) := by
  have hfront : n.front = (Text.natOfDigits n.whole, n.whole.length) := fitting_of_le h
  rw [number?, isInteger, kept, hfront]
  simp [h]

theorem Numeral.number?_of_lt {n : Numeral} (h : maxWhole < Text.natOfDigits n.whole) :
    n.number? = (scaled? (fitting n.front.1 (n.fraction.getD [])).1
      ((n.whole.length - n.front.2 : Nat) - (fitting n.front.1 (n.fraction.getD [])).2 : Int)
        n.power).map (signed n.negative) := by
  have hnot : n.isInteger = false := by
    unfold isInteger
    simp [h]
  rw [number?, hnot]
  rfl

/-- The first digit of a number, the others, and what stands behind them. -/
theorem Numeral.exists_digits (n : Numeral) : ∃ c others, n.whole = c :: others ∧
    c.isDigit = true ∧ (∀ d ∈ others, d.isDigit = true) ∧ (c = '0' → others = []) ∧
    Text.natOfDigits n.whole =
      others.foldl (fun n c => 10 * n + Text.digitValue c) (Text.digitValue c) ∧
    ∀ rest, Utf8.encode n.magnitude ++ rest = byte c :: (Utf8.encode others ++
      (Utf8.encode (fractionText n.fraction ++ powerText n.power) ++ rest)) := by
  obtain ⟨c, others, hwhole⟩ := List.exists_cons_of_ne_nil n.isWhole.1
  have hall : ∀ d ∈ c :: others, d.isDigit = true := hwhole ▸ n.isWhole.2
  have hc := hall c (by simp)
  refine ⟨c, others, hwhole, hc, fun d hd => hall d (by simp [hd]), ?_, ?_, fun rest => ?_⟩
  · rintro rfl
    have hleading := n.leading (by rw [hwhole]; rfl)
    rw [hwhole] at hleading
    exact (List.cons.inj hleading).2
  · rw [hwhole, Text.natOfDigits, List.foldl_cons, Nat.mul_zero, Nat.zero_add]
  · rw [magnitude, hwhole, Utf8.encode_append, encode_cons_digit hc, List.cons_append,
      List.cons_append, List.append_assoc]

theorem readNumber_digit {c : Char} (hc : c.isDigit = true) (hzero : c ≠ '0') (bytes : Bytes) :
    readNumber negative (byte c :: bytes) =
      let (digits, _, rest) := takeDigits (Text.digitValue c) 0 bytes
      if startsWithDigit rest then readLong negative digits rest
      else readAfterWhole negative digits rest := by
  obtain ⟨-, hdigit, hvalue⟩ := digit_byte hc
  have hrange := toNat_of_isDigit hc
  have hne : byte c ≠ byte '0' := fun heq => hzero (eq_of_byte_eq (by omega) (by decide) heq)
  rw [readNumber, if_neg hne, if_pos hdigit, hvalue]

/-- A number of which all digits before the point fit. -/
theorem toOption_readNumber_of_fits {n : Numeral} (hrest : Follows rest)
    (hfits : Text.natOfDigits n.whole ≤ maxWhole) :
    (readNumber n.negative (Utf8.encode n.magnitude ++ rest)).toOption =
      inFrontOf rest n.number? := by
  obtain ⟨c, others, -, hc, hothers, hzero, hnumber, hbytes⟩ := n.exists_digits
  have hend := startsWithDigit_afterDigits hrest n.fraction n.power
  have hread : (readAfterWhole n.negative (Text.natOfDigits n.whole) _).toOption = _ :=
    toOption_readAfterWhole hrest n.isFraction n.power
  rw [hbytes, Numeral.number?_of_fits hfits, ← hread]
  by_cases hc0 : c = '0'
  · subst hc0
    cases hzero rfl
    rw [hnumber, Utf8.encode_nil, List.nil_append, readNumber, if_pos rfl,
      if_neg (ne_true_of_eq_false hend)]
    rfl
  · rw [hnumber] at hfits ⊢
    rw [readNumber_digit hc hc0, takeDigits_fitting hend hothers, fitting_of_le hfits]
    dsimp only
    rw [List.drop_length, Utf8.encode_nil, List.nil_append, if_neg (ne_true_of_eq_false hend)]

/-- A number with digits before the point that do not fit. -/
theorem toOption_readNumber_of_lt {n : Numeral} (hrest : Follows rest)
    (hgreat : maxWhole < Text.natOfDigits n.whole) :
    (readNumber n.negative (Utf8.encode n.magnitude ++ rest)).toOption =
      inFrontOf rest n.number? := by
  obtain ⟨c, others, hwhole, hc, hothers, hzero, hnumber, hbytes⟩ := n.exists_digits
  have hend := startsWithDigit_afterDigits hrest n.fraction n.power
  have hfirst : Text.digitValue c ≤ maxWhole := Nat.le_trans (digitValue_le hc) (by decide)
  have hfront : n.front = ((fitting (Text.digitValue c) others).1,
      (fitting (Text.digitValue c) others).2 + 1) := by
    rw [Numeral.front, hwhole, fitting, Nat.mul_zero, Nat.zero_add, if_pos hfirst]
  rw [hbytes, Numeral.number?_of_lt hgreat, hfront, hwhole]
  rw [hnumber] at hgreat
  have hc0 : c ≠ '0' := by
    rintro rfl
    cases hzero rfl
    exact absurd hgreat (Nat.not_lt.mpr hfirst)
  -- Some digits are left, and they are counted.
  have hleft : ∀ d ∈ others.drop (fitting (Text.digitValue c) others).2, d.isDigit = true :=
    fun d hd => hothers d (List.mem_of_mem_drop hd)
  have hsome : others.drop (fitting (Text.digitValue c) others).2 ≠ [] := by
    rw [ne_eq, List.drop_eq_nil_iff]
    exact Nat.not_le.mpr (fitting_of_lt hfirst hgreat)
  have hread : (readLong n.negative (fitting (Text.digitValue c) others).1 _).toOption = _ :=
    toOption_readLong hrest hleft n.isFraction n.power
  rw [List.length_drop] at hread
  rw [readNumber_digit hc hc0, takeDigits_fitting hend hothers]
  dsimp only
  rw [if_pos ((startsWithDigit_digits hleft hend).mpr hsome), hread, List.length_cons,
    Nat.succ_sub_succ]

/-- **A numeral is read as the number it is worth**, when that is in range, and else not at all. -/
theorem toOption_readNumber (n : Numeral) (hrest : Follows rest) :
    (readNumber n.negative (Utf8.encode n.magnitude ++ rest)).toOption =
      inFrontOf rest n.number? := by
  by_cases hfits : Text.natOfDigits n.whole ≤ maxWhole
  · exact toOption_readNumber_of_fits hrest hfits
  · exact toOption_readNumber_of_lt hrest (Nat.lt_of_not_le hfits)

end Reading

/-! ### Whole numbers -/

namespace Numeral

/-- A number in decimal digits. -/
def ofNat (negative : Bool) (n : Nat) : Numeral where
  negative := negative
  whole := Text.ofNat n
  fraction := none
  power := none
  isWhole := ⟨Nat.toDigits_ne_nil, fun _ => Text.isDigit_of_mem_ofNat⟩
  leading := by
    intro h
    by_cases hn : n = 0
    · rw [hn]
      rfl
    · obtain ⟨c, digits, hdigits, hc⟩ := Text.exists_cons_ofNat (Nat.pos_of_ne_zero hn)
      rw [hdigits] at h
      exact absurd (Option.some.inj h) hc
  isFraction := nofun

theorem number?_ofNat {n : Nat} (h : n ≤ maxWhole) (negative : Bool) :
    (ofNat negative n).number? = wholeNumber? negative n := by
  have hdigits : Text.natOfDigits (ofNat negative n).whole = n := Text.natOfDigits_ofNat n
  rw [number?_of_fits (by rw [hdigits]; exact h), hdigits]
  rfl

end Numeral

/-- A whole number is what its own text is worth. -/
theorem exists_numeral_of_isWhole {n : Number} (h : n.isWhole = true) :
    ∃ numeral : Numeral, numeral.number? = some n ∧ numeral.text = n.text := by
  cases n with
  | whole n =>
      have hmax : n.toNat ≤ maxWhole := Nat.le_pred_of_lt n.toNat_lt
      refine ⟨.ofNat false n.toNat, ?_, ?_⟩
      · rw [Numeral.number?_ofNat hmax, wholeNumber?, if_neg (by decide), UInt64.ofNat_toNat]
      · simp [Numeral.text, Numeral.magnitude, Numeral.ofNat, fractionText, powerText, Number.text]
  | negative below =>
      have hbelow : below.val < UInt64.size / 2 := below.isLt
      have hmax : below.val + 1 ≤ maxWhole := by
        rw [maxWhole]
        omega
      refine ⟨.ofNat true (below.val + 1), ?_, ?_⟩
      · rw [Numeral.number?_ofNat hmax, wholeNumber?, if_pos rfl, dif_pos ⟨Nat.succ_pos _, hbelow⟩]
        rfl
      · simp [Numeral.text, Numeral.magnitude, Numeral.ofNat, fractionText, powerText, Number.text]
  | real x => cases h

end VarlinkClient.Json
