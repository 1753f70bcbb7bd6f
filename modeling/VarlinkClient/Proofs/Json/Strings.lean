/-
A JSON string reads back.

A string has its characters one after another, each written as itself, as a letter behind a
backslash or by its number (`WrittenChar`).  The reader goes over bytes in stretches between
escapes.  `reads_encodeChar` and `reads_escape` bring the two together: each says what one more
character in front does to what the reader makes of the rest.  What the writer writes is one of
the ways in which a text can be written.
-/
import VarlinkClient.Json.Field
import VarlinkClient.Proofs.Text.Percent

namespace VarlinkClient.Json

open Percent (IsHexDigit hexValue?_eq_some_iff toNat_of_hexValue?)

/-! ### One character -/

/-- The character stands for itself in a string. -/
def IsPlainChar (c : Char) : Prop :=
  c ≠ '"' ∧ c ≠ '\\' ∧ 0x20 ≤ c.toNat

theorem toNat_byte {d : Char} (h : d.toNat < 0x80) : (byte d).toNat = d.toNat :=
  UInt8.toNat_ofNat_of_lt' (Nat.lt_trans h (by decide))

/-- The byte tells the character. -/
theorem eq_of_byte_eq {c d : Char} (hc : c.toNat < 0x80) (hd : d.toNat < 0x80)
    (h : byte c = byte d) : c = d := by
  have hsame := congrArg UInt8.toNat h
  rw [toNat_byte hc, toNat_byte hd] at hsame
  exact Char.toNat_inj.mp hsame

theorem isPlain_of_toNat {b : UInt8} (hquote : b.toNat ≠ '"'.toNat)
    (hbackslash : b.toNat ≠ '\\'.toNat) (hspace : 0x20 ≤ b.toNat) : isPlain b = true := by
  have hne : ∀ {d : Char}, d.toNat < 0x80 → b.toNat ≠ d.toNat → b ≠ byte d := by
    rintro d hd hbd rfl
    exact hbd (toNat_byte hd)
  have hle : (0x20 : UInt8) ≤ b := UInt8.le_iff_toNat_le.mpr hspace
  simp [isPlain, hne (by decide) hquote, hne (by decide) hbackslash, hle]

theorem isPlain_of_mem_encodeChar {c : Char} (h : IsPlainChar c) {b : UInt8}
    (hb : b ∈ Utf8.encodeChar c) : isPlain b = true := by
  obtain ⟨hquote, hbackslash, hspace⟩ := h
  by_cases hascii : c.toNat < 0x80
  · rw [Utf8.encodeChar_ascii hascii, List.mem_singleton] at hb
    have hvalue : b.toNat = c.toNat := hb ▸ toNat_byte hascii
    refine isPlain_of_toNat ?_ ?_ (by omega) <;> rw [hvalue]
    · exact fun heq => hquote (Char.toNat_inj.mp heq)
    · exact fun heq => hbackslash (Char.toNat_inj.mp heq)
  · have hle : 0x80 ≤ b.toNat := Utf8.le_of_mem_encodeChar (by omega) hb
    have hquote : '"'.toNat < 0x80 := by decide
    have hbackslash : '\\'.toNat < 0x80 := by decide
    exact isPlain_of_toNat (by omega) (by omega) (by omega)

/-! ### How a character is written -/

/-- Four hexadecimal digits, and the number they make. -/
inductive IsCodeUnit : Nat → Text → Prop
  | intro {w x y z : Nat} {a b c d : Char} (ha : IsHexDigit w a) (hb : IsHexDigit x b)
      (hc : IsHexDigit y c) (hd : IsHexDigit z d) :
      IsCodeUnit (((w * 16 + x) * 16 + y) * 16 + z) [a, b, c, d]

/-- The letters that stand behind a backslash, each with its character. -/
def letterEscapes : List (Char × Char) :=
  [('"', '"'), ('\\', '\\'), ('/', '/'), ('b', '\x08'), ('f', '\x0c'), ('n', '\n'), ('r', '\r'),
    ('t', '\t')]

/-- A character as it can be written in a string.  One beyond the first 65536 that is written by
its number takes two halves, a leading and a trailing surrogate. -/
inductive WrittenChar : Char → Text → Prop
  | plain {c : Char} (h : IsPlainChar c) : WrittenChar c [c]
  | letter {letter c : Char} (h : (letter, c) ∈ letterEscapes) : WrittenChar c ['\\', letter]
  | unit {n : Nat} {digits : Text} (h : IsCodeUnit n digits) (hn : n < 0xD800 ∨ 0xDFFF < n) :
      WrittenChar (Char.ofNat n) ('\\' :: 'u' :: digits)
  | pair {n m : Nat} {digits more : Text} (h : IsCodeUnit n digits) (hn : 0xD800 ≤ n ∧ n ≤ 0xDBFF)
      (hmore : IsCodeUnit m more) (hm : 0xDC00 ≤ m ∧ m ≤ 0xDFFF) :
      WrittenChar (Char.ofNat (0x10000 + (n - 0xD800) * 0x400 + (m - 0xDC00)))
        ('\\' :: 'u' :: digits ++ '\\' :: 'u' :: more)

/-- Characters as they can be written one after another. -/
inductive WrittenChars : Text → Text → Prop
  | nil : WrittenChars [] []
  | cons {c : Char} {t u more : Text} (h : WrittenChar c u) (hmore : WrittenChars t more) :
      WrittenChars (c :: t) (u ++ more)

theorem WrittenChar.length_pos {c : Char} {u : Text} (h : WrittenChar c u) : 0 < u.length := by
  cases h <;> simp

theorem WrittenChars.length_le {t u : Text} (h : WrittenChars t u) : t.length ≤ u.length := by
  induction h with
  | nil => exact Nat.le_refl 0
  | cons h _ ih =>
      have hpos := h.length_pos
      rw [List.length_cons, List.length_append]
      omega

/-! ### Reading an escape -/

/-- The byte of a hexadecimal digit has its value. -/
theorem hexDigit_byte {n : Nat} {c : Char} (h : IsHexDigit n c) :
    hexValue? (byte c) = some n ∧ Utf8.encodeChar c = [byte c] := by
  have hvalue := hexValue?_eq_some_iff.mpr h
  have hascii := (toNat_of_hexValue? (by rw [hvalue]; rfl)).2
  rw [hexValue?, toNat_byte hascii, Char.ofNat_toNat]
  exact ⟨hvalue, Utf8.encodeChar_ascii hascii⟩

theorem IsCodeUnit.readHex_eq {n : Nat} {digits : Text} (h : IsCodeUnit n digits) (rest : Bytes) :
    readHex (Utf8.encode digits ++ rest) = .ok (n, rest) := by
  obtain ⟨ha, hb, hc, hd⟩ := h
  obtain ⟨hw, hwbyte⟩ := hexDigit_byte ha
  obtain ⟨hx, hxbyte⟩ := hexDigit_byte hb
  obtain ⟨hy, hybyte⟩ := hexDigit_byte hc
  obtain ⟨hz, hzbyte⟩ := hexDigit_byte hd
  simp only [Utf8.encode_cons, Utf8.encode_nil, hwbyte, hxbyte, hybyte, hzbyte,
    List.cons_append, List.nil_append]
  rw [readHex, hw, hx, hy, hz]

theorem readEscape_unit (bytes : Bytes) :
    readEscape (byte 'u' :: bytes) = readUnicodeEscape bytes :=
  rfl

/-- A written character stands for itself, or is a backslash and what is read as the character. -/
theorem WrittenChar.plain_or_escape {c : Char} {u : Text} (h : WrittenChar c u) :
    IsPlainChar c ∧ u = [c] ∨ ∃ letters, Utf8.encode u = byte '\\' :: letters ∧
      ∀ bytes, readEscape (letters ++ bytes) = .ok (c, bytes) := by
  cases h with
  | plain h => exact Or.inl ⟨h, rfl⟩
  | @letter letter c h =>
      refine Or.inr ⟨[byte letter], ?_, fun bytes => ?_⟩
      · have hall : ∀ pair ∈ letterEscapes, Utf8.encode ['\\', pair.1] =
            [byte '\\', byte pair.1] := by decide
        exact hall _ h
      · have hall : ∀ pair ∈ letterEscapes, escaped? (byte pair.1) = some pair.2 := by decide
        rw [List.singleton_append, readEscape, hall _ h]
  | @unit n digits h hn =>
      refine Or.inr ⟨byte 'u' :: Utf8.encode digits, rfl, fun bytes => ?_⟩
      rw [List.cons_append, readEscape_unit, readUnicodeEscape, h.readHex_eq]
      dsimp only
      rw [if_neg (by omega), if_pos (by omega)]
  | @pair n m digits more h hn hmore hm =>
      have hbackslash : ∀ bytes, expectInEscape '\\' (byte '\\' :: bytes) = .ok bytes :=
        fun _ => rfl
      have hletter : ∀ bytes, expectInEscape 'u' (byte 'u' :: bytes) = .ok bytes := fun _ => rfl
      refine Or.inr ⟨byte 'u' :: (Utf8.encode digits ++ byte '\\' :: byte 'u' :: Utf8.encode more),
        ?_, fun bytes => ?_⟩
      · rw [List.cons_append, List.cons_append, Utf8.encode_cons, Utf8.encode_cons,
          Utf8.encode_append]
        rfl
      · rw [List.cons_append, List.append_assoc, readEscape_unit, readUnicodeEscape, h.readHex_eq]
        dsimp only [List.cons_append]
        rw [if_neg (by omega), if_neg (by omega), hbackslash]
        dsimp only
        rw [hletter]
        dsimp only
        rw [hmore.readHex_eq]
        dsimp only
        rw [if_neg (by omega)]

/-! ### Whole strings -/

/-- How a string is read: a stretch up to its end, or up to an escape and then the rest. -/
theorem readStringWithin_succ_iff {fuel : Nat} {bytes rest : Bytes} {t : Text} :
    readStringWithin (fuel + 1) bytes = .ok (t, rest) ↔
      ∃ stretch b after, bytes.takeWhile isPlain = Utf8.encode stretch ∧
        bytes.dropWhile isPlain = b :: after ∧ ¬ b < 0x20 ∧
        ((b = byte '"' ∧ t = stretch ∧ rest = after) ∨
          (b ≠ byte '"' ∧ ∃ c later u, readEscape after = .ok (c, later) ∧
            readStringWithin fuel later = .ok (u, rest) ∧ t = stretch ++ c :: u)) := by
  rw [readStringWithin]
  constructor
  · intro h
    split at h
    · cases h
    rename_i b after hdrop
    split at h
    · cases h
    rename_i hb
    split at h
    · cases h
    rename_i stretch hstretch
    refine ⟨stretch, b, after, Utf8.read_eq_ok_iff.mp hstretch, hdrop, hb, ?_⟩
    split at h
    · cases h
      exact Or.inl ⟨‹_›, rfl, rfl⟩
    rename_i hquote
    split at h
    · cases h
    rename_i c later hescape
    split at h
    · cases h
    rename_i u last hlater
    cases h
    exact Or.inr ⟨hquote, c, later, u, hescape, hlater, rfl⟩
  · rintro ⟨stretch, b, after, htake, hdrop, hb, hend⟩
    rw [hdrop]
    dsimp only
    rw [if_neg hb, Utf8.read_eq_ok_iff.mpr htake]
    dsimp only
    rcases hend with ⟨hquote, rfl, rfl⟩ | ⟨hquote, c, later, u, hescape, hlater, rfl⟩
    · rw [if_pos hquote]
    · rw [if_neg hquote, hescape]
      dsimp only
      rw [hlater]

theorem reads_encodeChar {c : Char} (h : IsPlainChar c) {fuel : Nat} {bytes rest : Bytes}
    {t : Text} (hreads : readStringWithin fuel bytes = .ok (t, rest)) :
    readStringWithin fuel (Utf8.encodeChar c ++ bytes) = .ok (c :: t, rest) := by
  cases fuel with
  | zero => cases hreads
  | succ fuel =>
      have hplain : ∀ b ∈ Utf8.encodeChar c, isPlain b = true :=
        fun b hb => isPlain_of_mem_encodeChar h hb
      obtain ⟨stretch, b, after, htake, hdrop, hb, hend⟩ := readStringWithin_succ_iff.mp hreads
      -- The stretch in front grows by this character.
      refine readStringWithin_succ_iff.mpr ⟨c :: stretch, b, after, ?_, ?_, hb, ?_⟩
      · rw [List.takeWhile_append_of_pos hplain, htake, Utf8.encode_cons]
      · rw [List.dropWhile_append_of_pos hplain, hdrop]
      · rcases hend with ⟨hquote, rfl, rfl⟩ | ⟨hquote, d, later, u, hescape, hlater, rfl⟩
        · exact Or.inl ⟨hquote, rfl, rfl⟩
        · exact Or.inr ⟨hquote, d, later, u, hescape, hlater, rfl⟩

theorem reads_escape {letters : Bytes} {c : Char}
    (h : ∀ bytes, readEscape (letters ++ bytes) = .ok (c, bytes)) {fuel : Nat} {bytes rest : Bytes}
    {t : Text} (hreads : readStringWithin fuel bytes = .ok (t, rest)) :
    readStringWithin (fuel + 1) (byte '\\' :: letters ++ bytes) = .ok (c :: t, rest) := by
  have hbackslash : isPlain (byte '\\') = false := by decide
  rw [List.cons_append]
  refine readStringWithin_succ_iff.mpr ⟨[], byte '\\', letters ++ bytes, ?_, ?_, by decide, ?_⟩
  · rw [List.takeWhile_cons_of_neg (by simp [hbackslash]), Utf8.encode_nil]
  · rw [List.dropWhile_cons_of_neg (by simp [hbackslash])]
  · exact Or.inr ⟨by decide, c, bytes, t, h bytes, hreads, rfl⟩

theorem reads_close (fuel : Nat) (rest : Bytes) :
    readStringWithin (fuel + 1) (byte '"' :: rest) = .ok ([], rest) := by
  have hquote : isPlain (byte '"') = false := by decide
  refine readStringWithin_succ_iff.mpr ⟨[], byte '"', rest, ?_, ?_, by decide, ?_⟩
  · rw [List.takeWhile_cons_of_neg (by simp [hquote]), Utf8.encode_nil]
  · rw [List.dropWhile_cons_of_neg (by simp [hquote])]
  · exact Or.inl ⟨rfl, rfl, rfl⟩

/-- As many stretches are enough as the text has characters, and one for its end. -/
theorem WrittenChars.readStringWithin_eq {t u : Text} (h : WrittenChars t u) (rest : Bytes) :
    ∀ fuel, t.length < fuel →
      readStringWithin fuel (Utf8.encode u ++ byte '"' :: rest) = .ok (t, rest) := by
  induction h with
  | nil =>
      intro fuel hfuel
      obtain ⟨fuel, rfl⟩ : ∃ k, fuel = k + 1 := ⟨fuel - 1, by simp at hfuel; omega⟩
      exact reads_close fuel rest
  | @cons c t u more h _ ih =>
      intro fuel hfuel
      rw [List.length_cons] at hfuel
      rw [Utf8.encode_append, List.append_assoc]
      rcases h.plain_or_escape with ⟨hplain, rfl⟩ | ⟨letters, hbytes, hescape⟩
      · rw [Utf8.encode_cons, Utf8.encode_nil, List.append_nil]
        exact reads_encodeChar hplain (ih fuel (by omega))
      · obtain ⟨fuel, rfl⟩ : ∃ k, fuel = k + 1 := ⟨fuel - 1, by omega⟩
        rw [hbytes]
        exact reads_escape hescape (ih fuel (by omega))

/-- **A string is read however it is written**, after its opening quote and up to its closing
one. -/
theorem WrittenChars.readString_eq {t u : Text} (h : WrittenChars t u) (rest : Bytes) :
    readString (Utf8.encode u ++ byte '"' :: rest) = .ok (t, rest) := by
  refine h.readStringWithin_eq rest _ ?_
  have hwritten := h.length_le
  have hencoded := Utf8.length_le_length_encode u
  rw [List.length_append]
  omega

/-! ### What the writer writes -/

theorem isHexDigit_hexDigit (n : Nat) : IsHexDigit (n % 16) (hexDigit n) :=
  ⟨Nat.mod_lt n (by decide), Or.inl rfl⟩

theorem writtenChar_escape (c : Char) : WrittenChar c (escape c) := by
  unfold escape
  split
  · subst c; exact .letter (by decide)
  split
  · subst c; exact .letter (by decide)
  split
  · subst c; exact .letter (by decide)
  split
  · subst c; exact .letter (by decide)
  split
  · subst c; exact .letter (by decide)
  split
  · subst c; exact .letter (by decide)
  split
  · subst c; exact .letter (by decide)
  split
  · -- A control character is written by its number.
    rename_i hcontrol
    have hunit := IsCodeUnit.intro (isHexDigit_hexDigit 0) (isHexDigit_hexDigit 0)
      (isHexDigit_hexDigit (c.toNat / 16)) (isHexDigit_hexDigit c.toNat)
    have hvalue : ((0 % 16 * 16 + 0 % 16) * 16 + c.toNat / 16 % 16) * 16 + c.toNat % 16 =
        c.toNat := by omega
    rw [hvalue] at hunit
    have hwritten := WrittenChar.unit hunit (by omega)
    rwa [Char.ofNat_toNat] at hwritten
  · rename_i hquote hbackslash _ _ _ _ _ hspace
    exact .plain ⟨hquote, hbackslash, by omega⟩

theorem writtenChars_escape (t : Text) : WrittenChars t (t.flatMap escape) := by
  induction t with
  | nil => exact .nil
  | cons c t ih => exact .cons (writtenChar_escape c) ih

/-- After its opening quote a string is read up to its closing one. -/
theorem readString_quoted (t : Text) (rest : Bytes) :
    readString (Utf8.encode (t.flatMap escape) ++ byte '"' :: rest) = .ok (t, rest) :=
  (writtenChars_escape t).readString_eq rest

theorem encode_quote_append (t : Text) (rest : Bytes) : Utf8.encode (quote t) ++ rest =
    byte '"' :: (Utf8.encode (t.flatMap escape) ++ byte '"' :: rest) := by
  rw [quote, Utf8.encode_append, Utf8.encode_cons, List.append_assoc, List.append_assoc]
  rfl

/-- **A string is read as it is written**, whatever follows it. -/
theorem readText_quote (t : Text) (rest : Bytes) :
    readText (Utf8.encode (quote t) ++ rest) = .ok (t, rest) := by
  have hspace : isSpace (byte '"') = false := by decide
  rw [encode_quote_append, readText, skipSpace, List.dropWhile_cons_of_neg (by simp [hspace])]
  dsimp only
  rw [if_pos rfl, readString_quoted]

end VarlinkClient.Json
