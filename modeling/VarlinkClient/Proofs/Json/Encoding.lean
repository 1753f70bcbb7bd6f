/-
Where the rules of the grammar stop.

A rule takes nothing, or stops behind an ASCII byte (`After`, `Past`).  UTF-8 can be cut at an
ASCII byte (`isEncoded_cut`).  So the strings in bytes that are UTF-8 are UTF-8, and the rules
that allow any bytes in strings allow no more than the others there.
-/
import VarlinkClient.Proofs.Json.Grammar

namespace VarlinkClient.Json.Grammar

/-! ### Cutting behind ASCII -/

/-- The byte is an ASCII character. -/
def IsAscii (b : UInt8) : Prop :=
  b.toNat < 0x80

instance (b : UInt8) : Decidable (IsAscii b) :=
  inferInstanceAs (Decidable (_ < _))

/-- Bytes of a text on either side of an ASCII byte are bytes of texts. -/
theorem isEncoded_cut {before after : Bytes} {b : UInt8} (hb : IsAscii b)
    (h : IsEncoded (before ++ b :: after)) : IsEncoded before ∧ IsEncoded after := by
  obtain ⟨t, ht⟩ := h
  induction t generalizing before with
  | nil => exact absurd ht (by simp)
  | cons c t ih =>
      rw [Utf8.encode_cons] at ht
      rcases List.append_eq_append_iff.mp ht with ⟨more, hchar, hrest⟩ | ⟨more, hbefore, hrest⟩
      · cases more with
        | nil =>
            rw [List.append_nil] at hchar
            have hempty : [] ++ b :: after = Utf8.encode t := by simpa using hrest
            obtain ⟨-, hafter⟩ := ih hempty
            refine ⟨⟨[c], ?_⟩, hafter⟩
            rw [← hchar]
            simp
        | cons d more =>
            -- The byte is one of those of the character, so the character is this byte.
            obtain ⟨rfl, hafter⟩ := List.cons.inj hrest
            have hascii : c.toNat < 0x80 := by
              by_contra hwide
              have hle := Utf8.le_of_mem_encodeChar (Nat.le_of_not_lt hwide)
                (b := b) (by simp [hchar])
              exact absurd hb (Nat.not_lt.mpr hle)
            rw [Utf8.encodeChar_ascii hascii] at hchar
            cases before with
            | nil =>
                have hmore : more = [] := (List.cons.inj hchar).2.symm
                subst hmore
                exact ⟨⟨[], rfl⟩, ⟨t, hafter⟩⟩
            | cons x before => exact absurd (List.cons.inj hchar).2 (by simp)
      · obtain ⟨⟨u, hu⟩, hafter⟩ := ih hrest.symm
        refine ⟨⟨c :: u, ?_⟩, hafter⟩
        rw [hbefore, hu, Utf8.encode_cons]

/-- The second bytes are those behind an ASCII byte of the first. -/
def Past : Rule :=
  fun bytes rest => ∃ before b, IsAscii b ∧ bytes = before ++ b :: rest

/-- Nothing has been taken, or all bytes up to an ASCII byte. -/
def After : Rule :=
  fun bytes rest => bytes = rest ∨ Past bytes rest

section Past

variable {b : UInt8} {bytes middle rest taken : Bytes}

theorem After.refl (bytes : Bytes) : After bytes bytes :=
  Or.inl rfl

theorem Past.after (h : Past bytes rest) : After bytes rest :=
  Or.inr h

theorem After.trans_past (h : After bytes middle) (hmore : Past middle rest) : Past bytes rest := by
  rcases h with rfl | ⟨before, b, hb, rfl⟩
  · exact hmore
  · obtain ⟨more, c, hc, rfl⟩ := hmore
    exact ⟨before ++ b :: more, c, hc, by simp⟩

theorem Past.trans_after (h : Past bytes middle) (hmore : After middle rest) : Past bytes rest := by
  rcases hmore with rfl | hmore
  · exact h
  · exact h.after.trans_past hmore

theorem After.trans (h : After bytes middle) (hmore : After middle rest) : After bytes rest := by
  rcases hmore with rfl | hmore
  · exact h
  · exact (h.trans_past hmore).after

theorem past_cons (hb : IsAscii b) (rest : Bytes) : Past (b :: rest) rest :=
  ⟨[], b, hb, rfl⟩

theorem After.cons (h : After bytes rest) (hb : IsAscii b) : Past (b :: bytes) rest :=
  (past_cons hb bytes).trans_after h

theorem after_append (h : ∀ x ∈ taken, IsAscii x) (rest : Bytes) : After (taken ++ rest) rest := by
  induction taken with
  | nil => exact .refl rest
  | cons x taken ih =>
      exact ((ih fun y hy => h y (by simp [hy])).cons (h x (by simp))).after

theorem Past.length_lt (h : Past bytes rest) : rest.length < bytes.length := by
  obtain ⟨before, b, -, rfl⟩ := h
  rw [List.length_append, List.length_cons]
  omega

theorem After.length_le (h : After bytes rest) : rest.length ≤ bytes.length := by
  rcases h with rfl | h
  · exact Nat.le_refl _
  · exact Nat.le_of_lt h.length_lt

theorem After.isEncoded (h : After bytes rest) (hbytes : IsEncoded bytes) : IsEncoded rest := by
  rcases h with rfl | ⟨before, b, hb, rfl⟩
  · exact hbytes
  · exact (isEncoded_cut hb hbytes).2

end Past

/-! ### Numbers and strings -/

theorem isAscii_of_isDigit {b : UInt8} (h : isDigit b = true) : IsAscii b := by
  simp only [isDigit, Bool.and_eq_true, decide_eq_true_eq, UInt8.le_iff_toNat_le] at h
  have hnine : (0x39 : UInt8).toNat = 57 := rfl
  unfold IsAscii
  omega

theorem isAscii_of_isSpace {b : UInt8} (h : isSpace b = true) : IsAscii b := by
  simp only [isSpace, Bool.or_eq_true, beq_iff_eq] at h
  rcases h with ((rfl | rfl) | rfl) | rfl <;> decide

theorem isAscii_of_hexValue? {b : UInt8} (h : (hexValue? b).isSome) : IsAscii b := by
  have hall : ∀ n < 256, (Text.hexValue? (Char.ofNat n)).isSome → n < 0x80 := by
    decide +kernel
  exact hall b.toNat b.toNat_lt h

theorem after_skipSpace (bytes : Bytes) : After bytes (skipSpace bytes) := by
  have hsplit : bytes = bytes.takeWhile isSpace ++ skipSpace bytes :=
    List.takeWhile_append_dropWhile.symm
  have htaken : ∀ x ∈ bytes.takeWhile isSpace, IsAscii x := fun x hx =>
    isAscii_of_isSpace (List.mem_takeWhile_imp hx)
  have hafter := after_append htaken (skipSpace bytes)
  rwa [← hsplit] at hafter

/-- What stands behind blanks and another ASCII byte. -/
theorem past_of_skipSpace {b : UInt8} (hb : IsAscii b) {bytes rest : Bytes}
    (h : skipSpace bytes = b :: rest) : Past bytes rest := by
  have hafter := after_skipSpace bytes
  rw [h] at hafter
  exact hafter.trans_past (past_cons hb rest)

theorem Comes.length_le {first : Bool} {bytes start : Bytes} (h : Comes first bytes start) :
    start.length ≤ bytes.length := by
  cases first with
  | true =>
      rw [show start = skipSpace bytes from h]
      exact List.length_dropWhile_le _ _
  | false =>
      obtain ⟨after, hcomma, rfl⟩ := h
      have hpast := (past_of_skipSpace (by decide) hcomma).trans_after (after_skipSpace after)
      exact Nat.le_of_lt hpast.length_lt

section Rules

variable {test : Bytes → Prop} {bytes rest : Bytes}

theorem MaybeDigits.after (h : MaybeDigits bytes rest) : After bytes rest := by
  obtain ⟨taken, htaken, rfl⟩ := h
  exact after_append (fun x hx => isAscii_of_isDigit (htaken x hx)) rest

theorem Digits.past (h : Digits bytes rest) : Past bytes rest := by
  obtain ⟨hb, hmore⟩ := h
  exact hmore.after.cons (isAscii_of_isDigit hb)

theorem Exponent.after (h : Exponent bytes rest) : After bytes rest := by
  cases h with
  | absent => exact .refl bytes
  | @power e bytes rest he hpower =>
      have hletter : IsAscii e := by rcases he with rfl | rfl <;> decide
      cases hpower with
      | plain hdigits => exact (hdigits.past.after.cons hletter).after
      | @signed sign bytes rest hsign hdigits =>
          have hmark : IsAscii sign := by rcases hsign with rfl | rfl <;> decide
          exact ((hdigits.past.after.cons hmark).after.cons hletter).after

theorem AfterWhole.after (h : AfterWhole bytes rest) : After bytes rest := by
  cases h with
  | exponent hexponent => exact hexponent.after
  | fraction hdigits hexponent =>
      exact ((hdigits.past.trans_after hexponent.after).after.cons (by decide)).after

theorem Magnitude.past (h : Magnitude bytes rest) : Past bytes rest := by
  cases h with
  | zero hmore => exact hmore.after.cons (by decide)
  | digits hb _ hdigits hmore =>
      exact (hdigits.after.trans hmore.after).cons (isAscii_of_isDigit hb)

theorem isAscii_escapeLetters : ∀ c ∈ escapeLetters, IsAscii (byte c) := by
  decide

theorem Escape.past (h : Escape bytes rest) : Past bytes rest := by
  cases h with
  | letter hletter => exact past_cons (isAscii_escapeLetters _ hletter) _
  | @unicode a b c d rest hhex =>
      exact ⟨[byte 'u', a, b, c], d, isAscii_of_hexValue? (hhex d (by simp)), rfl⟩

theorem Stretch.past {b : UInt8} (hb : IsAscii b)
    (h : Stretch (IsPlainStretch test) bytes (b :: rest)) : Past bytes rest := by
  obtain ⟨taken, -, rfl⟩ := h
  exact ⟨taken, b, hb, rfl⟩

theorem StringTail.past (h : StringTail test bytes rest) : Past bytes rest := by
  induction h with
  | close h => exact h.past (by decide)
  | escape h hescape _ ih =>
      exact ((h.past (by decide)).trans_after hescape.past.after).trans_after ih.after

/-- A string in bytes that are UTF-8 is UTF-8. -/
theorem StringTail.encoded (h : StringTail test bytes rest) (hbytes : IsEncoded bytes) :
    StringTail IsEncoded bytes rest := by
  have hstretch : ∀ {b : UInt8} {bytes rest : Bytes}, IsAscii b → IsEncoded bytes →
      Stretch (IsPlainStretch test) bytes (b :: rest) →
        Stretch (IsPlainStretch IsEncoded) bytes (b :: rest) := by
    rintro b bytes rest hb hbytes ⟨taken, ⟨-, hplain⟩, rfl⟩
    exact ⟨taken, ⟨(isEncoded_cut hb hbytes).1, hplain⟩, rfl⟩
  induction h with
  | close h => exact .close (hstretch (by decide) hbytes h)
  | escape h hescape _ ih =>
      have hmiddle := (h.past (by decide)).after.isEncoded hbytes
      exact .escape (hstretch (by decide) hbytes h) hescape
        (ih (hescape.past.after.isEncoded hmiddle))

end Rules

/-! ### Containers and values -/

section Entries

variable {close : Char} {entry entry' : Rule} {bytes rest : Bytes}

theorem AfterEntry.past (hclose : IsAscii (byte close)) (hentry : ∀ b r, entry b r → Past b r)
    (h : AfterEntry close entry bytes rest) : Past bytes rest := by
  induction h with
  | done h => exact past_of_skipSpace hclose h
  | more hcomma hitem _ ih =>
      have hstart := (past_of_skipSpace (by decide) hcomma).trans_after (after_skipSpace _)
      exact (hstart.trans_after (hentry _ _ hitem).after).trans_after ih.after

theorem Entries.past (hclose : IsAscii (byte close)) (hentry : ∀ b r, entry b r → Past b r)
    (h : Entries close entry bytes rest) : Past bytes rest := by
  cases h with
  | none h => exact past_of_skipSpace hclose h
  | some hitem hmore =>
      exact ((after_skipSpace bytes).trans_past (hentry _ _ hitem)).trans_after
        (hmore.past hclose hentry).after

variable (hpast : ∀ b r, entry b r → Past b r)
  (hentry : ∀ b r, IsEncoded b → entry b r → entry' b r)
include hpast hentry

theorem AfterEntry.encoded (h : AfterEntry close entry bytes rest) (hbytes : IsEncoded bytes) :
    AfterEntry close entry' bytes rest := by
  induction h with
  | done h => exact .done h
  | more hcomma hitem _ ih =>
      have hstart := ((past_of_skipSpace (by decide) hcomma).trans_after
        (after_skipSpace _)).after.isEncoded hbytes
      exact .more hcomma (hentry _ _ hstart hitem)
        (ih ((hpast _ _ hitem).after.isEncoded hstart))

/-- Entries that obey one rule obey another, when they do so in bytes that are UTF-8. -/
theorem Entries.encoded (h : Entries close entry bytes rest) (hbytes : IsEncoded bytes) :
    Entries close entry' bytes rest := by
  cases h with
  | none h => exact .none h
  | some hitem hmore =>
      have hstart := (after_skipSpace bytes).isEncoded hbytes
      exact .some (hentry _ _ hstart hitem)
        (hmore.encoded hpast hentry ((hpast _ _ hitem).after.isEncoded hstart))

end Entries

section Values

variable {test : Bytes → Prop} {value value' : Rule} {bytes rest : Bytes}

theorem isAscii_words : ∀ word ∈ words, word ≠ [] ∧ ∀ c ∈ word, IsAscii (byte c) := by
  decide

theorem Scalar.past (h : Scalar test bytes rest) : Past bytes rest := by
  cases h with
  | @word word rest h =>
      obtain ⟨hne, hascii⟩ := isAscii_words word h
      obtain ⟨c, letters, rfl⟩ := List.exists_cons_of_ne_nil hne
      refine (after_append (fun x hx => ?_) rest).cons (hascii c (by simp))
      obtain ⟨d, hd, rfl⟩ := List.mem_map.mp hx
      exact hascii d (by simp [hd])
  | number h => exact h.past
  | negative h => exact h.past.after.cons (by decide)
  | string h => exact h.past.after.cons (by decide)

theorem Scalar.encoded (h : Scalar test bytes rest) (hbytes : IsEncoded bytes) :
    Scalar IsEncoded bytes rest := by
  cases h with
  | word h => exact .word h
  | number h => exact .number h
  | negative h => exact .negative h
  | string h => exact .string (h.encoded ((past_cons (by decide) _).after.isEncoded hbytes))

theorem ObjectMember.past (hvalue : ∀ b r, value b r → Past b r)
    (h : ObjectMember test value bytes rest) : Past bytes rest := by
  obtain ⟨hkey, hcolon, h⟩ := h
  have hstart := (past_of_skipSpace (by decide) hcolon).trans_after (after_skipSpace _)
  exact (hkey.past.trans_after (hstart.trans_after (hvalue _ _ h).after).after).after.cons
    (by decide)

theorem ObjectMember.encoded (hvalue : ∀ b r, IsEncoded b → value b r → value' b r)
    (h : ObjectMember test value bytes rest) (hbytes : IsEncoded bytes) :
    ObjectMember IsEncoded value' bytes rest := by
  obtain ⟨hkey, hcolon, h⟩ := h
  have hopened := (past_cons (by decide) _).after.isEncoded hbytes
  have hstart := ((past_of_skipSpace (by decide) hcolon).trans_after
    (after_skipSpace _)).after.isEncoded (hkey.past.after.isEncoded hopened)
  exact .intro (hkey.encoded hopened) hcolon (hvalue _ _ hstart h)

theorem Value.past {depth : Nat} (h : Value test depth bytes rest) : Past bytes rest := by
  induction depth generalizing bytes rest with
  | zero => exact Scalar.past h
  | succ depth ih =>
      rcases h with h | h
      · exact h.past
      have hpast : ∀ b r, Value test depth b r → Past b r := fun _ _ => ih
      cases h with
      | array h => exact (h.past (by decide) hpast).after.cons (by decide)
      | object h =>
          exact (h.past (by decide) fun _ _ => ObjectMember.past hpast).after.cons (by decide)

/-- **A value in bytes that are UTF-8 has its strings in UTF-8.** -/
theorem Value.encoded {depth : Nat} (h : Value test depth bytes rest) (hbytes : IsEncoded bytes) :
    Value IsEncoded depth bytes rest := by
  induction depth generalizing bytes rest with
  | zero => exact Scalar.encoded h hbytes
  | succ depth ih =>
      have hpast : ∀ b r, Value test depth b r → Past b r := fun _ _ => Value.past
      have hvalue : ∀ b r, IsEncoded b → Value test depth b r → Value IsEncoded depth b r :=
        fun _ _ hb h => ih h hb
      rcases h with h | h
      · exact Or.inl (h.encoded hbytes)
      cases h with
      | array h =>
          have hopened := (past_cons (by decide) _).after.isEncoded hbytes
          exact Or.inr (.array (h.encoded hpast hvalue hopened))
      | object h =>
          have hopened := (past_cons (by decide) _).after.isEncoded hbytes
          exact Or.inr (.object (h.encoded (fun _ _ => ObjectMember.past hpast)
            (fun _ _ hb h => h.encoded hvalue hb) hopened))

end Values

end VarlinkClient.Json.Grammar
