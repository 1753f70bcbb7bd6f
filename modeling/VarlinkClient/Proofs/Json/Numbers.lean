/-
Where a number ends.

The reader takes a number part by part: digits, a point, an exponent.  After each part it looks
at one byte, to see whether the number goes on.  So all that matters about what stands behind a
number is that it does not continue it (`Follows`), and behind a part that it does not continue
that part.
-/
import VarlinkClient.Json.Printer
import VarlinkClient.Proofs.Json.Strings
import VarlinkClient.Proofs.Text.Cuts

namespace VarlinkClient.Json

/-- The number is whole. -/
def Number.isWhole : Number → Bool
  | .whole _ | .negative _ => true
  | .real _ => false

/-- A number in front of these bytes ends there. -/
def Follows (rest : Bytes) : Prop :=
  ∀ b ∈ rest.head?, isDigit b = false ∧ b ≠ byte '.' ∧ b ≠ byte 'e' ∧ b ≠ byte 'E'

theorem Follows.startsWithDigit {rest : Bytes} (h : Follows rest) :
    startsWithDigit rest = false := by
  cases rest with
  | nil => rfl
  | cons b rest => exact (h b rfl).1

/-! ### Digits -/

theorem startsWithDigit_eq_false_iff {bytes : Bytes} :
    startsWithDigit bytes = false ↔ ∀ b ∈ bytes.head?, isDigit b = false := by
  cases bytes with
  | nil => exact ⟨nofun, fun _ => rfl⟩
  | cons b bytes => exact ⟨fun h _ hb => Option.some.inj hb ▸ h, fun h => h b rfl⟩

theorem ne_of_isDigit {b c : UInt8} (h : isDigit b = true) (hc : isDigit c = false) : b ≠ c := by
  rintro rfl
  simp [h] at hc

theorem toNat_of_isDigit {c : Char} (h : c.isDigit = true) : 48 ≤ c.toNat ∧ c.toNat ≤ 57 := by
  simpa [Char.isDigit, UInt32.le_iff_toNat_le] using h

/-- The byte of a digit, and its value. -/
theorem digit_byte {c : Char} (h : c.isDigit = true) :
    Utf8.encodeChar c = [byte c] ∧ isDigit (byte c) = true ∧
      digitValue (byte c) = Text.digitValue c := by
  have hrange := toNat_of_isDigit h
  have hbyte : (byte c).toNat = c.toNat := toNat_byte (by omega)
  refine ⟨Utf8.encodeChar_ascii (by omega), ?_, ?_⟩
  · simp [isDigit, UInt8.le_iff_toNat_le, hbyte, hrange]
  · simp [digitValue, hbyte, Text.digitValue]

theorem le_foldl_digits (digits : Text) (value : Nat) :
    value ≤ digits.foldl (fun n c => 10 * n + Text.digitValue c) value := by
  induction digits generalizing value with
  | nil => exact Nat.le_refl value
  | cons c digits ih =>
      have hstep := ih (10 * value + Text.digitValue c)
      rw [List.foldl_cons]
      omega

/-! ### Numbers -/

theorem readAfterWhole_stop {bytes : Bytes} {negative : Bool} {digits : Nat}
    (h : ∀ b ∈ bytes.head?, ¬ (b = byte '.' ∨ b = byte 'e' ∨ b = byte 'E')) :
    readAfterWhole negative digits bytes = finishWhole negative digits bytes := by
  cases bytes with
  | nil => rfl
  | cons b more =>
      obtain ⟨hpoint, he⟩ := not_or.mp (h b rfl)
      rw [readAfterWhole, if_neg hpoint, if_neg he]

section Parts

variable {negative : Bool} {digits : Nat} {exponent : Int} {bytes : Bytes}

theorem readTail_stop (h : ∀ b ∈ bytes.head?, ¬ (b = byte 'e' ∨ b = byte 'E')) :
    readTail negative digits exponent bytes = finishReal negative digits exponent bytes := by
  cases bytes with
  | nil => rfl
  | cons b more => rw [readTail, if_neg (h b rfl)]

theorem readLong_eq_readTail (h : ∀ b ∈ (bytes.dropWhile isDigit).head?, b ≠ byte '.') :
    readLong negative digits bytes =
      readTail negative digits (bytes.takeWhile isDigit).length (bytes.dropWhile isDigit) := by
  unfold readLong
  dsimp only
  generalize bytes.dropWhile isDigit = after at h
  cases after with
  | nil => rfl
  | cons b more =>
      dsimp only
      rw [if_neg (h b rfl)]

/-- Reads what follows the sign of an exponent. -/
def readPower (negative : Bool) (digits : Nat) (exponent : Int) (below : Bool) (bytes : Bytes) :
    Reading Number :=
  match bytes with
  | [] => Fault.before .endOfValue []
  | b :: rest =>
    if isDigit b then
      match takeExponent (digitValue b) rest with
      | .ok (n, rest) =>
        finishReal negative digits (if below then exponent - n else exponent + n) rest
      | .error rest =>
        if digits ≠ 0 ∧ ¬ below then Fault.before .numberOutOfRange rest
        else .ok (signed negative .zero, rest.dropWhile isDigit)
    else Fault.before .invalidNumber rest

theorem readExponent_plus : readExponent negative digits exponent (byte '+' :: bytes) =
    readPower negative digits exponent false bytes := rfl

theorem readExponent_minus : readExponent negative digits exponent (byte '-' :: bytes) =
    readPower negative digits exponent true bytes := rfl

theorem readExponent_digit {b : UInt8} (hplus : b ≠ byte '+') (hminus : b ≠ byte '-') :
    readExponent negative digits exponent (b :: bytes) =
      readPower negative digits exponent false (b :: bytes) := by
  rw [readExponent, if_neg hplus, if_neg hminus]
  rfl

end Parts

theorem readAfterWhole_follows {rest : Bytes} (hrest : Follows rest) (negative : Bool)
    (digits : Nat) : readAfterWhole negative digits rest = finishWhole negative digits rest := by
  refine readAfterWhole_stop fun b hb => ?_
  obtain ⟨-, hpoint, he⟩ := hrest b hb
  exact not_or.mpr ⟨hpoint, not_or.mpr he⟩

end VarlinkClient.Json
