/-
What is read was written.

Every text of a value is read as this value (`readValue_written`).  Here is the converse: bytes
that are read as a value are blanks and a text of this value (`written_of_readValue`).  What has
been read has the shape that the grammar asks for, so it is known which parts it is made of; and
each part was read by a reader of its own, which has been followed back before.  A number needs no
more than its shape, since what it is worth has been settled for every numeral.

Together they say which texts are documents, and of which values (`parse_eq_ok_iff`).
-/
import VarlinkClient.Proofs.Json.Documents
import VarlinkClient.Proofs.Json.Reread

namespace VarlinkClient.Json

open Grammar Percent

/-! ### Bytes of ASCII characters -/

theorem exists_char {b : UInt8} (h : IsAscii b) : ∃ c : Char, c.toNat < 0x80 ∧ byte c = b := by
  have hnat := Utf8.toNat_char (Or.inl (Nat.lt_trans h (by decide)) : b.toNat.isValidChar)
  refine ⟨Char.ofNat b.toNat, by rw [hnat]; exact h, ?_⟩
  rw [byte, hnat, UInt8.ofNat_toNat]

/-- Bytes of ASCII characters are those of a text. -/
theorem exists_ascii {bytes : Bytes} (h : ∀ b ∈ bytes, IsAscii b) :
    ∃ t, Utf8.encode t = bytes ∧ ∀ c ∈ t, c.toNat < 0x80 ∧ byte c ∈ bytes := by
  induction bytes with
  | nil => exact ⟨[], rfl, nofun⟩
  | cons b bytes ih =>
      obtain ⟨c, hc, rfl⟩ := exists_char (h b (by simp))
      obtain ⟨t, rfl, ht⟩ := ih fun x hx => h x (by simp [hx])
      refine ⟨c :: t, encode_cons_ascii hc t, ?_⟩
      intro d hd
      rcases List.mem_cons.mp hd with rfl | hd
      · exact ⟨hc, List.mem_cons_self⟩
      · exact ⟨(ht d hd).1, List.mem_cons_of_mem _ (ht d hd).2⟩

theorem exists_blank {bytes : Bytes} (h : ∀ b ∈ bytes, isSpace b = true) :
    ∃ blank, Spaces blank ∧ Utf8.encode blank = bytes := by
  obtain ⟨t, rfl, -⟩ := exists_ascii fun b hb => isAscii_of_isSpace (h b hb)
  exact ⟨t, h, rfl⟩

theorem exists_blanks (bytes : Bytes) :
    ∃ blank, Spaces blank ∧ bytes = Utf8.encode blank ++ skipSpace bytes := by
  have hblanks : ∀ b ∈ blanks bytes, isSpace b = true := fun _ hb => List.mem_takeWhile_imp hb
  obtain ⟨blank, hblank, hbytes⟩ := exists_blank hblanks
  exact ⟨blank, hblank, by rw [hbytes]; exact blanks_append bytes⟩

/-! ### Numbers -/

theorem isDigit_of_byte {c : Char} (hc : c.toNat < 0x80) (h : isDigit (byte c) = true) :
    c.isDigit = true := by
  simp only [isDigit, Bool.and_eq_true, decide_eq_true_eq, UInt8.le_iff_toNat_le,
    toNat_byte hc] at h
  simpa [Char.isDigit, UInt32.le_iff_toNat_le] using h

theorem exists_maybeDigits {bytes rest : Bytes} (h : MaybeDigits bytes rest) :
    ∃ digits, (∀ c ∈ digits, c.isDigit = true) ∧ bytes = Utf8.encode digits ++ rest := by
  obtain ⟨taken, htaken, rfl⟩ := h
  obtain ⟨digits, rfl, hdigits⟩ := exists_ascii fun b hb => isAscii_of_isDigit (htaken b hb)
  refine ⟨digits, fun c hc => ?_, rfl⟩
  obtain ⟨hascii, hmem⟩ := hdigits c hc
  exact isDigit_of_byte hascii (htaken _ hmem)

theorem exists_digit {b : UInt8} (h : isDigit b = true) :
    ∃ c : Char, c.isDigit = true ∧ byte c = b := by
  obtain ⟨c, hc, rfl⟩ := exists_char (isAscii_of_isDigit h)
  exact ⟨c, isDigit_of_byte hc h, rfl⟩

theorem isDigits_cons {c : Char} (hc : c.isDigit = true) {digits : Text}
    (h : ∀ d ∈ digits, d.isDigit = true) : IsDigits (c :: digits) := by
  refine ⟨List.cons_ne_nil _ _, ?_⟩
  intro d hd
  rcases List.mem_cons.mp hd with rfl | hd
  · exact hc
  · exact h d hd

theorem exists_digits {bytes rest : Bytes} (h : Digits bytes rest) :
    ∃ digits, IsDigits digits ∧ bytes = Utf8.encode digits ++ rest := by
  obtain ⟨hb, hmore⟩ := h
  obtain ⟨c, hc, rfl⟩ := exists_digit hb
  obtain ⟨digits, hdigits, rfl⟩ := exists_maybeDigits hmore
  exact ⟨c :: digits, isDigits_cons hc hdigits, by rw [encode_cons_digit hc, List.cons_append]⟩

theorem exists_power {e : Char} (he : e = 'e' ∨ e = 'E') {bytes rest : Bytes}
    (h : Power bytes rest) :
    ∃ power : PowerOfTen, byte e :: bytes = Utf8.encode power.text ++ rest := by
  have hascii : e.toNat < 0x80 := by rcases he with rfl | rfl <;> decide
  cases h with
  | plain h =>
      obtain ⟨digits, hdigits, rfl⟩ := exists_digits h
      refine ⟨⟨e, none, digits, he, nofun, hdigits⟩, ?_⟩
      rw [PowerOfTen.text, encode_cons_ascii hascii]
      rfl
  | signed hsign h =>
      obtain ⟨digits, hdigits, rfl⟩ := exists_digits h
      rcases hsign with rfl | rfl
      · refine ⟨⟨e, some '+', digits, he, by simp, hdigits⟩, ?_⟩
        rw [PowerOfTen.text, encode_cons_ascii hascii]
        rfl
      · refine ⟨⟨e, some '-', digits, he, by simp, hdigits⟩, ?_⟩
        rw [PowerOfTen.text, encode_cons_ascii hascii]
        rfl

theorem exists_exponent {bytes rest : Bytes} (h : Exponent bytes rest) :
    ∃ power : Option PowerOfTen, bytes = Utf8.encode (powerText power) ++ rest := by
  cases h with
  | absent => exact ⟨none, rfl⟩
  | power he h =>
      rcases he with rfl | rfl
      · obtain ⟨power, hpower⟩ := exists_power (Or.inl rfl) h
        exact ⟨some power, hpower⟩
      · obtain ⟨power, hpower⟩ := exists_power (Or.inr rfl) h
        exact ⟨some power, hpower⟩

theorem exists_afterWhole {bytes rest : Bytes} (h : AfterWhole bytes rest) :
    ∃ (fraction : Option Text) (power : Option PowerOfTen),
      (∀ digits ∈ fraction, IsDigits digits) ∧
        bytes = Utf8.encode (fractionText fraction ++ powerText power) ++ rest := by
  cases h with
  | exponent h =>
      obtain ⟨power, rfl⟩ := exists_exponent h
      exact ⟨none, power, by simp, rfl⟩
  | fraction hfraction h =>
      obtain ⟨digits, hdigits, rfl⟩ := exists_digits hfraction
      obtain ⟨power, rfl⟩ := exists_exponent h
      refine ⟨some digits, power, by simpa using hdigits, ?_⟩
      rw [fractionText, List.cons_append, encode_cons_ascii (by decide), Utf8.encode_append,
        List.cons_append, List.append_assoc]

/-- A number that keeps to the grammar is a numeral. -/
theorem exists_numeral {bytes rest : Bytes} (h : Magnitude bytes rest) (negative : Bool) :
    ∃ numeral : Numeral, numeral.negative = negative ∧
      bytes = Utf8.encode numeral.magnitude ++ rest := by
  cases h with
  | zero h =>
      obtain ⟨fraction, power, hfraction, rfl⟩ := exists_afterWhole h
      have hzero : IsDigits ['0'] := ⟨List.cons_ne_nil _ _, by simp⟩
      exact ⟨⟨negative, ['0'], fraction, power, hzero, fun _ => rfl, hfraction⟩, rfl, rfl⟩
  | digits hb hzero hmore h =>
      obtain ⟨c, hc, rfl⟩ := exists_digit hb
      obtain ⟨digits, hdigits, rfl⟩ := exists_maybeDigits hmore
      obtain ⟨fraction, power, hfraction, rfl⟩ := exists_afterWhole h
      have hall : IsDigits (c :: digits) := isDigits_cons hc hdigits
      have hleading : (c :: digits).head? = some '0' → c :: digits = ['0'] := by
        rintro ⟨⟩
        exact absurd rfl hzero
      refine ⟨⟨negative, c :: digits, fraction, power, hall, hleading, hfraction⟩, rfl, ?_⟩
      show _ = Utf8.encode (c :: digits ++ (fractionText fraction ++ powerText power)) ++ rest
      rw [List.cons_append, encode_cons_digit hc, Utf8.encode_append digits, List.cons_append,
        List.append_assoc]

theorem exists_numeral_of_readNumber {negative : Bool} {n : Number} {bytes rest : Bytes}
    (h : readNumber negative bytes = .ok (n, rest)) : ∃ numeral : Numeral,
      numeral.negative = negative ∧ numeral.number? = some n ∧
        bytes = Utf8.encode numeral.magnitude ++ rest := by
  obtain ⟨taken, rfl, halone⟩ := (moves_readNumber h).exists_alone
  have hmeets := meets_readNumber negative taken
  rw [halone] at hmeets
  obtain ⟨numeral, rfl, rfl⟩ := exists_numeral hmeets negative
  have hread := toOption_readNumber numeral (show Follows [] from nofun)
  rw [halone] at hread
  refine ⟨numeral, rfl, ?_, by rw [List.append_nil]⟩
  cases hnumber : numeral.number? with
  | none =>
      rw [hnumber] at hread
      cases hread
  | some x =>
      rw [hnumber] at hread
      cases hread
      rfl

/-! ### Strings -/

theorem exists_hexDigit {b : UInt8} {n : Nat} (h : hexValue? b = some n) :
    ∃ c, IsHexDigit n c ∧ byte c = b := by
  obtain ⟨c, hc, rfl⟩ := exists_char (isAscii_of_hexValue? (by rw [h]; rfl))
  rw [hexValue?, toNat_byte hc, Char.ofNat_toNat] at h
  exact ⟨c, hexValue?_eq_some_iff.mp h, rfl⟩

theorem exists_codeUnit {n : Nat} {bytes rest : Bytes} (h : readHex bytes = .ok (n, rest)) :
    ∃ digits, IsCodeUnit n digits ∧ bytes = Utf8.encode digits ++ rest := by
  unfold readHex at h
  split at h
  · split at h
    · rename_i ha hb hc hd
      cases h
      obtain ⟨a, hw, rfl⟩ := exists_hexDigit ha
      obtain ⟨b, hx, rfl⟩ := exists_hexDigit hb
      obtain ⟨c, hy, rfl⟩ := exists_hexDigit hc
      obtain ⟨d, hz, rfl⟩ := exists_hexDigit hd
      refine ⟨[a, b, c, d], .intro hw hx hy hz, ?_⟩
      simp [Utf8.encode_cons, (hexDigit_byte hw).2, (hexDigit_byte hx).2, (hexDigit_byte hy).2,
        (hexDigit_byte hz).2]
    · cases h
  · cases h

/-- What is read behind `\u` is the number of a character, or both halves of it. -/
theorem exists_writtenChar_of_unicode {c : Char} {bytes rest : Bytes}
    (h : readUnicodeEscape bytes = .ok (c, rest)) :
    ∃ u, WrittenChar c ('\\' :: 'u' :: u) ∧ bytes = Utf8.encode u ++ rest := by
  unfold readUnicodeEscape at h
  split at h
  · cases h
  rename_i n after hhex
  obtain ⟨digits, hdigits, rfl⟩ := exists_codeUnit hhex
  split at h
  · cases h
  rename_i htrailing
  split at h
  · cases h
    exact ⟨digits, .unit hdigits (by omega), rfl⟩
  rename_i hleading
  -- The escape of a trailing surrogate follows.
  split at h
  · cases h
  rename_i after' hbackslash
  split at h
  · cases h
  rename_i after'' hletter
  split at h
  · cases h
  rename_i m last hmore
  split at h
  · cases h
  rename_i hpair
  obtain ⟨rfl, rfl⟩ := Prod.mk.inj (Except.ok.inj h)
  have hfirst := meets_expectInEscape '\\' after
  have hsecond := meets_expectInEscape 'u' after'
  rw [hbackslash] at hfirst
  rw [hletter] at hsecond
  obtain rfl : after = byte '\\' :: after' := hfirst
  obtain rfl : after' = byte 'u' :: after'' := hsecond
  obtain ⟨more, hunit, rfl⟩ := exists_codeUnit hmore
  refine ⟨digits ++ '\\' :: 'u' :: more, .pair hdigits (by omega) hunit (by omega), ?_⟩
  rw [Utf8.encode_append, encode_cons_ascii (by decide), encode_cons_ascii (by decide),
    List.append_assoc]
  rfl

theorem exists_writtenChar {c : Char} {bytes rest : Bytes}
    (h : readEscape bytes = .ok (c, rest)) :
    ∃ u, WrittenChar c ('\\' :: u) ∧ bytes = Utf8.encode u ++ rest := by
  unfold readEscape at h
  split at h
  · cases h
  rename_i b more
  split at h
  · rename_i hescaped
    cases h
    obtain ⟨letter, hletter, rfl⟩ := exists_letter_of_escaped? hescaped
    have hascii : ∀ letter ∈ escapeLetters, letter.toNat < 0x80 := by decide
    have hstands : ∀ letter ∈ escapeLetters,
        (letter, (escaped? (byte letter)).getD letter) ∈ letterEscapes := by decide
    have hmem := hstands letter hletter
    rw [hescaped, Option.getD_some] at hmem
    exact ⟨[letter], .letter hmem, by rw [encode_cons_ascii (hascii letter hletter)]; rfl⟩
  split at h
  · rename_i hu
    obtain ⟨u, hwritten, rfl⟩ := exists_writtenChar_of_unicode h
    exact ⟨'u' :: u, hwritten, by rw [hu, encode_cons_ascii (by decide)]; rfl⟩
  · cases h

theorem isPlainChar_of_encodeChar {c : Char} (h : ∀ b ∈ Utf8.encodeChar c, isPlain b = true) :
    IsPlainChar c := by
  by_cases hascii : c.toNat < 0x80
  · have hplain : isPlain (byte c) = true := by
      apply h
      rw [Utf8.encodeChar_ascii hascii]
      exact List.mem_singleton_self _
    simp only [isPlain, Bool.and_eq_true, bne_iff_ne, decide_eq_true_eq,
      UInt8.le_iff_toNat_le, toNat_byte hascii] at hplain
    obtain ⟨⟨hquote, hbackslash⟩, hspace⟩ := hplain
    exact ⟨fun heq => hquote (by rw [heq]), fun heq => hbackslash (by rw [heq]), hspace⟩
  · refine ⟨?_, ?_, by omega⟩
    · rintro rfl
      exact hascii (by decide)
    · rintro rfl
      exact hascii (by decide)

theorem WrittenChars.plain_append {stretch t u : Text}
    (hstretch : ∀ b ∈ Utf8.encode stretch, isPlain b = true) (h : WrittenChars t u) :
    WrittenChars (stretch ++ t) (stretch ++ u) := by
  induction stretch with
  | nil => exact h
  | cons c stretch ih =>
      rw [Utf8.encode_cons] at hstretch
      have hplain := isPlainChar_of_encodeChar fun b hb =>
        hstretch b (List.mem_append_left _ hb)
      have hmore := ih fun b hb => hstretch b (List.mem_append_right _ hb)
      show WrittenChars (c :: (stretch ++ t)) ([c] ++ (stretch ++ u))
      exact .cons (.plain hplain) hmore

/-- A string is read from characters that are written one after another. -/
theorem exists_writtenChars : ∀ {fuel : Nat} {bytes rest : Bytes} {t : Text},
    readStringWithin fuel bytes = .ok (t, rest) →
      ∃ u, WrittenChars t u ∧ bytes = Utf8.encode u ++ byte '"' :: rest := by
  intro fuel
  induction fuel with
  | zero => exact nofun
  | succ fuel ih =>
      intro bytes rest t h
      obtain ⟨stretch, b, after, htake, hdrop, hb, hend⟩ := readStringWithin_succ_iff.mp h
      have hplain : ∀ b ∈ Utf8.encode stretch, isPlain b = true := by
        rw [← htake]
        exact fun _ hb => List.mem_takeWhile_imp hb
      have hbytes : bytes = Utf8.encode stretch ++ b :: after := by
        rw [← htake, ← hdrop, List.takeWhile_append_dropWhile]
      rcases hend with ⟨rfl, rfl, rfl⟩ | ⟨hquote, c, later, u, hescape, hlater, rfl⟩
      · have hwritten := WrittenChars.nil.plain_append hplain
        rw [List.append_nil] at hwritten
        exact ⟨t, hwritten, hbytes⟩
      · obtain ⟨letters, hc, rfl⟩ := exists_writtenChar hescape
        obtain ⟨more, hmore, rfl⟩ := ih hlater
        refine ⟨stretch ++ ('\\' :: letters ++ more), (hmore.cons hc).plain_append hplain, ?_⟩
        rw [hbytes, eq_backslash hdrop hb hquote, Utf8.encode_append, List.cons_append,
          encode_cons_ascii (by decide), Utf8.encode_append]
        simp

theorem exists_writtenString {t : Text} {bytes rest : Bytes}
    (h : readString bytes = .ok (t, rest)) :
    ∃ u, WrittenString t u ∧ byte '"' :: bytes = Utf8.encode u ++ rest := by
  obtain ⟨u, hu, rfl⟩ := exists_writtenChars h
  refine ⟨'"' :: u ++ ['"'], .intro hu, ?_⟩
  rw [encode_bracketed (by decide) (by decide)]

/-! ### Entries -/

/-- What stands after an entry: nothing but blanks, or a comma and the others. -/
inductive RowTail {α : Type} (spells : α → Text → Prop) : List α → Text → Prop
  | nil {blank : Text} (hblank : Spaces blank) : RowTail spells [] blank
  | cons {a : α} {others : List α} {blank t : Text} (hblank : Spaces blank)
      (h : Row spells (a :: others) t) : RowTail spells (a :: others) (blank ++ ',' :: t)

section Entries

variable {α : Type} {spells : α → Text → Prop} {close : Char} {entry : α → Rule} {a : α}
  {others : List α} {bytes rest : Bytes}

theorem RowTail.row {before t tail : Text} (hbefore : Spaces before) (ha : spells a t)
    (h : RowTail spells others tail) : Row spells (a :: others) (before ++ t ++ tail) := by
  cases h with
  | nil hblank => exact .last hbefore ha hblank
  | cons hblank hrow =>
      have hall := Row.cons hbefore ha hblank hrow
      rwa [List.append_assoc (before ++ t)] at hall

/-- Entries that are read stand in a row, or after another entry. -/
theorem Enters.exists_row
    (hentry : ∀ a bytes rest, entry a bytes rest → skipSpace bytes = bytes →
      ∃ t, spells a t ∧ bytes = Utf8.encode t ++ rest)
    {first : Bool} {as : List α} (h : Enters close entry first as bytes rest) :
    ∃ t, (if first then Row spells as t else RowTail spells as t) ∧
      bytes = Utf8.encode t ++ byte close :: rest := by
  induction h with
  | @done first bytes rest h =>
      obtain ⟨blank, hblank, hbytes⟩ := exists_blanks bytes
      rw [h] at hbytes
      cases first with
      | true => exact ⟨blank, .nil hblank, hbytes⟩
      | false => exact ⟨blank, .nil hblank, hbytes⟩
  | @more first a others bytes start middle rest hcomes ha _ ih =>
      obtain ⟨tail, htail, rfl⟩ := ih
      obtain ⟨t, hspells, rfl⟩ := hentry a _ _ ha hcomes.skipSpace_eq
      replace htail : RowTail spells others tail := htail
      cases first with
      | true =>
          obtain ⟨before, hbefore, hbytes⟩ := exists_blanks bytes
          rw [← show _ = skipSpace bytes from hcomes] at hbytes
          refine ⟨before ++ t ++ tail, htail.row hbefore hspells, ?_⟩
          rw [hbytes, Utf8.encode_append, Utf8.encode_append]
          simp only [List.append_assoc]
      | false =>
          obtain ⟨after, hcomma, hstart⟩ := hcomes
          obtain ⟨blank, hblank, hbytes⟩ := exists_blanks bytes
          obtain ⟨before, hbefore, hafter⟩ := exists_blanks after
          rw [hcomma, hafter, ← hstart] at hbytes
          refine ⟨blank ++ ',' :: (before ++ t ++ tail),
            .cons hblank (htail.row hbefore hspells), ?_⟩
          rw [hbytes, Utf8.encode_append, encode_cons_ascii (by decide), Utf8.encode_append,
            Utf8.encode_append]
          simp only [List.append_assoc, List.cons_append]

variable {read : Bytes → Reading Value}

theorem enters_of_readsItems {first : Bool} {items : List Value}
    (h : ReadsItems read first bytes items rest) :
    Enters ']' (Gives read) first items bytes rest := by
  induction h with
  | done hnext => exact .done (nextItem_eq_done_iff.mp hnext)
  | more hnext hitem _ ih => exact .more (nextItem_eq_more_iff.mp hnext).1 hitem ih

variable {written : Value → Text → Prop}

theorem exists_writtenMember (hread : ∀ bytes value rest, read bytes = .ok (value, rest) →
      ∃ t, written value t ∧ skipSpace bytes = Utf8.encode t ++ rest)
    {member : Text × Value} (h : GivesMember read member bytes rest) :
    ∃ t, WrittenMember written member t ∧ bytes = Utf8.encode t ++ rest := by
  obtain ⟨key, value⟩ := member
  obtain ⟨start, middle, after, rfl, hkey, htaken, hvalue⟩ := h
  have hcolon := meets_readColon middle
  rw [htaken] at hcolon
  obtain ⟨k, hk, hstart⟩ := exists_writtenString hkey
  obtain ⟨before, hbefore, hmiddle⟩ := exists_blanks middle
  obtain ⟨blank, hblank, hafter⟩ := exists_blanks after
  obtain ⟨t, ht, hbytes⟩ := hread after value rest hvalue
  rw [show skipSpace middle = byte ':' :: after from hcolon, hafter, hbytes] at hmiddle
  refine ⟨k ++ before ++ ':' :: blank ++ t, .intro hk hbefore hblank ht, ?_⟩
  rw [hstart, hmiddle, Utf8.encode_append, Utf8.encode_append, Utf8.encode_append,
    encode_cons_ascii (by decide)]
  simp only [List.append_assoc, List.cons_append]

end Entries

/-! ### Values -/

section Values

variable {depth : Nat} {value : Value} {bytes rest : Bytes}

/-- A value that is no container is read from a text of it. -/
theorem exists_writtenScalar (h : Scalar IsEncoded bytes rest)
    (hread : readValue depth bytes = .ok (value, rest)) :
    ∃ t, WrittenScalar value t ∧ bytes = Utf8.encode t ++ rest := by
  cases h with
  | @word word _ hword =>
      simp only [words, List.mem_cons, List.not_mem_nil, or_false] at hword
      rcases hword with rfl | rfl | rfl
      · have hnull : readValue depth (("null" : Text).map byte ++ rest) = .ok (.null, rest) := by
          cases depth <;> rfl
        cases hnull.symm.trans hread
        exact ⟨_, .null, rfl⟩
      · have htrue : readValue depth (("true" : Text).map byte ++ rest) =
            .ok (.bool true, rest) := by cases depth <;> rfl
        cases htrue.symm.trans hread
        exact ⟨_, .true, rfl⟩
      · have hfalse : readValue depth (("false" : Text).map byte ++ rest) =
            .ok (.bool false, rest) := by cases depth <;> rfl
        cases hfalse.symm.trans hread
        exact ⟨_, .false, rfl⟩
  | number h =>
      obtain ⟨b, more, rfl, hb⟩ : ∃ b more, bytes = b :: more ∧ isDigit b = true := by
        cases h with
        | zero => exact ⟨_, _, rfl, by decide⟩
        | digits hb => exact ⟨_, _, rfl, hb⟩
      rw [readValue_digit hb] at hread
      obtain ⟨n, hnumber, rfl⟩ := exists_of_wrap hread
      obtain ⟨numeral, hsign, hn, hbytes⟩ := exists_numeral_of_readNumber hnumber
      exact ⟨numeral.text, .number hn, by rw [hbytes, Numeral.text, hsign]; rfl⟩
  | negative h =>
      rw [readValue_minus] at hread
      obtain ⟨n, hnumber, rfl⟩ := exists_of_wrap hread
      obtain ⟨numeral, hsign, hn, rfl⟩ := exists_numeral_of_readNumber hnumber
      refine ⟨numeral.text, .number hn, ?_⟩
      rw [Numeral.text, hsign, if_pos rfl, encode_cons_ascii (by decide), List.cons_append]
  | string h =>
      rw [readValue_quote] at hread
      obtain ⟨t, hstring, rfl⟩ := exists_of_wrap hread
      obtain ⟨u, hu, hbytes⟩ := exists_writtenString hstring
      exact ⟨u, .string hu, hbytes⟩

/-- The same for a container, given this for the values in it. -/
theorem exists_writtenContainer (hinner : ∀ bytes value rest,
      readValue depth bytes = .ok (value, rest) →
        ∃ t, Written depth value t ∧ skipSpace bytes = Utf8.encode t ++ rest)
    (h : Container IsEncoded (Grammar.Value IsEncoded depth) bytes rest)
    (hread : readValue (depth + 1) bytes = .ok (value, rest)) :
    ∃ t, WrittenContainer (Written depth) value t ∧ bytes = Utf8.encode t ++ rest := by
  cases h with
  | @array more _ h =>
      rw [readValue_array depth (skipSpace_cons (by decide) more)] at hread
      obtain ⟨items, hitems, rfl⟩ := exists_of_wrap hread
      have henters := enters_of_readsItems (readsItems_of_readItems hitems)
      obtain ⟨t, hrow, rfl⟩ := henters.exists_row fun item bytes rest hitem hbytes => by
        obtain ⟨t, ht, hspace⟩ := hinner bytes item rest hitem
        exact ⟨t, ht, hbytes ▸ hspace⟩
      exact ⟨'[' :: t ++ [']'], .array hrow, (encode_bracketed (by decide) (by decide) t rest).symm⟩
  | @object more _ h =>
      rw [readValue_object depth (skipSpace_cons (by decide) more)] at hread
      obtain ⟨pairs, hpairs, rfl⟩ := exists_of_wrap hread
      obtain ⟨t, hrow, rfl⟩ := (enters_of_readMembers hpairs).exists_row fun _ _ _ hmember _ =>
        exists_writtenMember hinner hmember
      exact ⟨'\x7b' :: t ++ ['\x7d'], .object hrow (Members.merges_ofPairs pairs),
        (encode_bracketed (by decide) (by decide) t rest).symm⟩

/-- **What is read as a value is a text of it**, after blanks. -/
theorem written_of_readValue (depth : Nat) : ∀ bytes value rest,
    readValue depth bytes = .ok (value, rest) →
      ∃ t, Written depth value t ∧ skipSpace bytes = Utf8.encode t ++ rest := by
  induction depth with
  | zero =>
      intro bytes value rest h
      have hmeets := meets_readValue 0 bytes
      rw [h] at hmeets
      rw [← readValue_skipSpace] at h
      exact exists_writtenScalar hmeets h
  | succ depth ih =>
      intro bytes value rest h
      have hmeets := meets_readValue (depth + 1) bytes
      rw [h] at hmeets
      rw [← readValue_skipSpace] at h
      rcases hmeets with hscalar | hcontainer
      · obtain ⟨t, ht, hbytes⟩ := exists_writtenScalar hscalar h
        exact ⟨t, Or.inl ht, hbytes⟩
      · obtain ⟨t, ht, hbytes⟩ := exists_writtenContainer ih hcontainer h
        exact ⟨t, Or.inr ht, hbytes⟩

end Values

/-! ### Documents -/

/-- The text is a document of the value: JSON for it, and blanks around. -/
def IsDocumentOf (value : Value) (t : Text) : Prop :=
  ∃ before u after, t = before ++ u ++ after ∧ Spaces before ∧ Spaces after ∧
    Written maxDepth value u

theorem read_encode_iff {t : Text} {value : Value} :
    read (Utf8.encode t) = .ok value ↔ IsDocumentOf value t := by
  constructor
  · intro h
    unfold read at h
    split at h
    · cases h
    rename_i found rest hread
    split at h
    swap
    · cases h
    rename_i hend
    cases h
    have hmeets := meets_readEnd rest
    rw [hend] at hmeets
    obtain ⟨before, hbefore, hbytes⟩ := exists_blanks (Utf8.encode t)
    obtain ⟨after, hafter, hrest⟩ := exists_blanks rest
    obtain ⟨u, hu, hvalue⟩ := written_of_readValue maxDepth _ _ _ hread
    refine ⟨before, u, after, Utf8.encode_injective ?_, hbefore, hafter, hu⟩
    rw [hbytes, hvalue, hrest, show skipSpace rest = [] from hmeets]
    simp
  · rintro ⟨before, u, after, rfl, hbefore, hafter, hu⟩
    obtain ⟨-, htaken⟩ := readValue_written maxDepth value u hu
    have hfollows : Follows (Utf8.encode after) := by
      simpa using hafter.follows (show Follows [] from nofun)
    have hend : skipSpace (Utf8.encode after) = [] := List.dropWhile_eq_nil_iff.mpr hafter
    rw [read, Utf8.encode_append, Utf8.encode_append, List.append_assoc,
      htaken before (Utf8.encode after) hbefore hfollows]
    dsimp only
    rw [readEnd, hend]

/-- **The documents of a value are the texts that are read as this value.** -/
theorem parse_eq_ok_iff {t : Text} {value : Value} :
    parse t = .ok value ↔ IsDocumentOf value t := by
  rw [← read_encode_iff, parse]
  cases read (Utf8.encode t) <;> simp

/-! ### What has been read can be laid out -/

/-- All numbers in the value are whole. -/
inductive Value.IsWhole : Value → Prop
  | null : IsWhole .null
  | bool (b : Bool) : IsWhole (.bool b)
  | number {n : Number} (h : n.isWhole = true) : IsWhole (.number n)
  | string (t : Text) : IsWhole (.string t)
  | array {items : List Value} (h : ∀ item ∈ items, IsWhole item) : IsWhole (.array items)
  | object {members : Members} (h : ∀ member ∈ members, IsWhole member.2) :
      IsWhole (.object members)

theorem Row.exists_of_mem {α : Type} {spells : α → Text → Prop} {as : List α} {t : Text}
    (h : Row spells as t) : ∀ a ∈ as, ∃ u, spells a u := by
  induction h with
  | nil _ => exact nofun
  | last _ ha _ =>
      intro b hb
      obtain rfl := List.mem_singleton.mp hb
      exact ⟨_, ha⟩
  | cons _ ha _ _ ih =>
      intro b hb
      rcases List.mem_cons.mp hb with rfl | hb
      · exact ⟨_, ha⟩
      · exact ih b hb

theorem WrittenScalar.isSound {value : Value} {t : Text} (h : WrittenScalar value t)
    (hwhole : value.IsWhole) (depth : Nat) : value.isSound depth = Bool.true := by
  cases h with
  | number _ =>
      cases hwhole with
      | number hn => simpa [Value.isSound] using hn
  | _ => simp [Value.isSound]

/-- A value that is written has no key twice. -/
theorem Written.isSound {depth : Nat} : ∀ {value : Value} {t : Text}, Written depth value t →
    value.IsWhole → value.isSound depth = true := by
  induction depth with
  | zero =>
      intro value t h hwhole
      exact WrittenScalar.isSound h hwhole 0
  | succ depth ih =>
      rintro value t (h | h) hwhole
      · exact h.isSound hwhole _
      cases h with
      | array hrow =>
          cases hwhole with
          | array hitems =>
              rw [Value.isSound, List.all_eq_true]
              intro item hitem
              obtain ⟨u, hu⟩ := hrow.exists_of_mem item hitem
              exact ih hu (hitems item hitem)
      | object hrow hmerges =>
          cases hwhole with
          | object hmembers =>
              simp only [Value.isSound, Bool.and_eq_true, decide_eq_true_eq, List.all_eq_true]
              refine ⟨hmerges.nodup_keys, ?_⟩
              rintro ⟨key, value⟩ hmember
              obtain ⟨u, ⟨-, -, -, hvalue⟩⟩ := hrow.exists_of_mem _ (hmerges.mem_pairs hmember)
              exact ih hvalue (hmembers _ hmember)

/-- Containers may be nested deeper than they are. -/
theorem Written.succ {depth : Nat} : ∀ {value : Value} {t : Text}, Written depth value t →
    Written (depth + 1) value t := by
  induction depth with
  | zero => exact fun h => Or.inl h
  | succ depth ih =>
      rintro value t (h | h)
      · exact Or.inl h
      refine Or.inr ?_
      cases h with
      | array hrow => exact .array (hrow.imp fun _ _ => ih)
      | object hrow hmerges =>
          refine .object (hrow.imp ?_) hmerges
          rintro member t ⟨hkey, hbefore, hafter, h⟩
          exact .intro hkey hbefore hafter (ih h)

/-- **The plain layout of a value that has been read is a document of it.** -/
theorem isDocumentOf_layout {value : Value} {t : Text} (h : Written maxDepth value t)
    (hwhole : value.IsWhole) : IsDocumentOf value (value.layout .plain 0) := by
  have hspells := spells_layout maxDepth value 0 (h.isSound hwhole)
  exact ⟨[], value.layout .plain 0, [], by simp, spaces_nil, spaces_nil, hspells.written⟩

end VarlinkClient.Json
