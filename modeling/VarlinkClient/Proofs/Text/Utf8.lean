/-
UTF-8 is read as it is written.

`readChar_encodeChar` and `eq_of_readChar` say that reading a character and writing it are
inverse to each other.  Everything else about whole texts follows from these two by
induction: a row of bytes reads as a text exactly when it is the bytes of that text, and
the lossy reader gives back what stands in front of bytes of any kind.
-/
import Mathlib.Data.List.Basic
import VarlinkClient.Text.Utf8

namespace VarlinkClient.Utf8

/-! ### One character -/

private theorem toNat_byte {n : Nat} (h : n < 256) : (UInt8.ofNat n).toNat = n :=
  UInt8.toNat_ofNat_of_lt' h

theorem toNat_char {n : Nat} (h : n.isValidChar) : (Char.ofNat n).toNat = n := by
  unfold Char.ofNat
  rw [dif_pos h]
  rfl

private theorem cons_byte {b : UInt8} {n : Nat} (h : n = b.toNat) {rest rest' : Bytes}
    (hrest : rest = rest') : b :: rest = UInt8.ofNat n :: rest' := by
  rw [h, UInt8.ofNat_toNat, hrest]

/-- What a first byte says, by how many bytes follow it. -/
inductive Leads (b : UInt8) : Lead → Prop
  | one (h : b.toNat < 0x80) : Leads b ⟨0, b.toNat, 0x80, 0xBF⟩
  | two (h : 0xC2 ≤ b.toNat ∧ b.toNat < 0xE0) : Leads b ⟨1, b.toNat - 0xC0, 0x80, 0xBF⟩
  | three (h : 0xE0 ≤ b.toNat ∧ b.toNat < 0xF0) {head low high : Nat}
      (hhead : head = b.toNat - 0xE0)
      (hlow : low = if b.toNat = 0xE0 then 0xA0 else 0x80)
      (hhigh : high = if b.toNat = 0xED then 0x9F else 0xBF) : Leads b ⟨2, head, low, high⟩
  | four (h : 0xF0 ≤ b.toNat ∧ b.toNat < 0xF5) {head low high : Nat}
      (hhead : head = b.toNat - 0xF0)
      (hlow : low = if b.toNat = 0xF0 then 0x90 else 0x80)
      (hhigh : high = if b.toNat = 0xF4 then 0x8F else 0xBF) : Leads b ⟨3, head, low, high⟩

theorem lead?_eq_some_iff {b : UInt8} {lead : Lead} : lead? b = some lead ↔ Leads b lead := by
  constructor
  · intro h
    unfold lead? at h
    dsimp only at h
    split at h
    · cases h; exact .one ‹_›
    split at h
    · cases h
    split at h
    · cases h; exact .two (by omega)
    split at h
    · cases h; exact .three (by omega) (by omega) (by simp [*]) (by simp [*])
    split at h
    · cases h; exact .three (by omega) (by omega) (by simp [*]) (by simp [*])
    split at h
    · cases h; exact .three (by omega) rfl (by simp [*]) (by simp [*])
    split at h
    · cases h; exact .four (by omega) (by omega) (by simp [*]) (by simp [*])
    split at h
    · cases h; exact .four (by omega) rfl (by simp [*]) (by simp; omega)
    split at h
    · cases h; exact .four (by omega) (by omega) (by simp [*]) (by simp [*])
    · cases h
  · rintro (h | h | ⟨h, hhead, rfl, rfl⟩ | ⟨h, hhead, rfl, rfl⟩) <;> unfold lead? <;> grind

theorem encodeChar_ascii {c : Char} (h : c.toNat < 0x80) :
    encodeChar c = [UInt8.ofNat c.toNat] := by
  rw [encodeChar, if_pos h]

/-- No byte of any other character is that of an ASCII character. -/
theorem le_of_mem_encodeChar {c : Char} (h : 0x80 ≤ c.toNat) {b : UInt8}
    (hb : b ∈ encodeChar c) : 0x80 ≤ b.toNat := by
  have hvalid : c.toNat.isValidChar := c.valid
  unfold Nat.isValidChar at hvalid
  unfold encodeChar at hb
  generalize c.toNat = n at h hvalid hb
  dsimp only at hb
  rw [if_neg (by omega)] at hb
  split at hb
  · simp only [List.mem_cons, List.not_mem_nil, or_false] at hb
    rcases hb with rfl | rfl <;> rw [toNat_byte (by omega)] <;> omega
  split at hb
  · simp only [List.mem_cons, List.not_mem_nil, or_false] at hb
    rcases hb with rfl | rfl | rfl <;> rw [toNat_byte (by omega)] <;> omega
  · simp only [List.mem_cons, List.not_mem_nil, or_false] at hb
    rcases hb with rfl | rfl | rfl | rfl <;> rw [toNat_byte (by omega)] <;> omega

/-- Another byte is read when it lies in its range. -/
theorem readTails_succ_iff {count low high fitted value result : Nat} {bytes rest : Bytes} :
    readTails (count + 1) low high fitted value bytes = .ok (result, rest) ↔
      ∃ b more, bytes = b :: more ∧ (low ≤ b.toNat ∧ b.toNat ≤ high) ∧
        readTails count 0x80 0xBF (fitted + 1) (value * 0x40 + (b.toNat - 0x80)) more =
          .ok (result, rest) := by
  cases bytes with
  | nil => simp [readTails]
  | cons b more =>
      rw [readTails]
      by_cases h : low ≤ b.toNat ∧ b.toNat ≤ high
      · rw [if_pos h]
        constructor
        · intro hread
          exact ⟨b, more, rfl, h, hread⟩
        · rintro ⟨b', more', heq, -, hread⟩
          cases heq
          exact hread
      · rw [if_neg h]
        constructor
        · intro hread
          cases hread
        · rintro ⟨b', more', heq, hrange, -⟩
          cases heq
          exact absurd hrange h

theorem readChar_eq_ok_iff {b : UInt8} {rest after : Bytes} {c : Char} :
    readChar b rest = .ok (c, after) ↔ ∃ lead value, Leads b lead ∧
      readTails lead.tails lead.low lead.high 1 lead.head rest = .ok (value, after) ∧
      c = Char.ofNat value := by
  unfold readChar
  constructor
  · intro h
    split at h
    · cases h
    · rename_i lead hlead
      split at h
      · rename_i value more htails
        cases h
        exact ⟨lead, value, lead?_eq_some_iff.mp hlead, htails, rfl⟩
      · cases h
  · rintro ⟨lead, value, hlead, htails, rfl⟩
    rw [lead?_eq_some_iff.mpr hlead]
    dsimp only
    rw [htails]

/-- The bytes of a character read as this character. -/
theorem readChar_encodeChar (c : Char) (rest : Bytes) :
    ∃ b bs, encodeChar c = b :: bs ∧ readChar b (bs ++ rest) = .ok (c, rest) := by
  have hvalid : c.toNat.isValidChar := c.valid
  have hchar : Char.ofNat c.toNat = c := Char.ofNat_toNat c
  unfold Nat.isValidChar at hvalid
  unfold encodeChar
  generalize c.toNat = n at hvalid hchar
  dsimp only
  by_cases h1 : n < 0x80
  · rw [if_pos h1]
    refine ⟨_, _, rfl, readChar_eq_ok_iff.mpr ⟨_, n, .one ?_, ?_, hchar.symm⟩⟩
    · rw [toNat_byte (by omega)]; exact h1
    · rw [toNat_byte (by omega)]; rfl
  rw [if_neg h1]
  by_cases h2 : n < 0x800
  · rw [if_pos h2]
    refine ⟨_, _, rfl, readChar_eq_ok_iff.mpr ⟨_, n, .two ?_, ?_, hchar.symm⟩⟩
    · rw [toNat_byte (by omega)]; omega
    · dsimp only
      rw [toNat_byte (by omega)]
      refine readTails_succ_iff.mpr ⟨_, _, rfl, ?_, ?_⟩
      · rw [toNat_byte (by omega)]; omega
      · rw [toNat_byte (by omega), readTails,
          show (0xC0 + n / 0x40 - 0xC0) * 0x40 + (0x80 + n % 0x40 - 0x80) = n by omega]
        rfl
  rw [if_neg h2]
  by_cases h3 : n < 0x10000
  · rw [if_pos h3]
    refine ⟨_, _, rfl, readChar_eq_ok_iff.mpr ⟨_, n, .three ?_ rfl rfl rfl, ?_, hchar.symm⟩⟩
    · rw [toNat_byte (by omega)]; omega
    · dsimp only
      rw [toNat_byte (by omega)]
      refine readTails_succ_iff.mpr ⟨_, _, rfl, ?_, readTails_succ_iff.mpr ⟨_, _, rfl, ?_, ?_⟩⟩
      · rw [toNat_byte (by omega)]; constructor <;> split <;> omega
      · rw [toNat_byte (by omega)]; omega
      · rw [toNat_byte (by omega), toNat_byte (by omega), readTails,
          show ((0xE0 + n / 0x1000 - 0xE0) * 0x40 + (0x80 + n / 0x40 % 0x40 - 0x80)) * 0x40 +
            (0x80 + n % 0x40 - 0x80) = n by omega]
        rfl
  · rw [if_neg h3]
    refine ⟨_, _, rfl, readChar_eq_ok_iff.mpr ⟨_, n, .four ?_ rfl rfl rfl, ?_, hchar.symm⟩⟩
    · rw [toNat_byte (by omega)]; omega
    · dsimp only
      rw [toNat_byte (by omega)]
      refine readTails_succ_iff.mpr ⟨_, _, rfl, ?_, readTails_succ_iff.mpr ⟨_, _, rfl, ?_,
        readTails_succ_iff.mpr ⟨_, _, rfl, ?_, ?_⟩⟩⟩
      · rw [toNat_byte (by omega)]; constructor <;> split <;> omega
      · rw [toNat_byte (by omega)]; omega
      · rw [toNat_byte (by omega)]; omega
      · rw [toNat_byte (by omega), toNat_byte (by omega), toNat_byte (by omega), readTails,
          show (((0xF0 + n / 0x40000 - 0xF0) * 0x40 + (0x80 + n / 0x1000 % 0x40 - 0x80)) * 0x40 +
            (0x80 + n / 0x40 % 0x40 - 0x80)) * 0x40 + (0x80 + n % 0x40 - 0x80) = n by omega]
        rfl

/-- What reads as a character is its bytes. -/
theorem eq_of_readChar {b : UInt8} {rest after : Bytes} {c : Char}
    (h : readChar b rest = .ok (c, after)) : b :: rest = encodeChar c ++ after := by
  obtain ⟨lead, value, hlead, htails, rfl⟩ := readChar_eq_ok_iff.mp h
  rcases hlead with hb | hb | ⟨hb, hhead, rfl, rfl⟩ | ⟨hb, hhead, rfl, rfl⟩
  · simp only [readTails, Except.ok.injEq, Prod.mk.injEq] at htails
    obtain ⟨rfl, rfl⟩ := htails
    unfold encodeChar
    rw [toNat_char (by unfold Nat.isValidChar; omega)]
    dsimp only
    rw [if_pos hb]
    exact cons_byte rfl rfl
  · obtain ⟨b2, more, rfl, hb2, htails⟩ := readTails_succ_iff.mp htails
    dsimp only at hb2
    simp only [readTails, Except.ok.injEq, Prod.mk.injEq] at htails
    obtain ⟨rfl, rfl⟩ := htails
    unfold encodeChar
    rw [toNat_char (by unfold Nat.isValidChar; omega)]
    dsimp only
    rw [if_neg (by omega), if_pos (by omega)]
    exact cons_byte (by omega) (cons_byte (by omega) rfl)
  · obtain ⟨b2, more, rfl, hb2, htails⟩ := readTails_succ_iff.mp htails
    obtain ⟨b3, more, rfl, hb3, htails⟩ := readTails_succ_iff.mp htails
    -- The second byte keeps out surrogates, and numbers that take fewer bytes.
    have hsecond : (0x80 ≤ b2.toNat ∧ b2.toNat ≤ 0xBF) ∧
        (b.toNat = 0xE0 → 0xA0 ≤ b2.toNat) ∧ (b.toNat = 0xED → b2.toNat ≤ 0x9F) := by grind
    clear hb2
    simp only [readTails, Except.ok.injEq, Prod.mk.injEq] at htails
    obtain ⟨rfl, rfl⟩ := htails
    unfold encodeChar
    rw [toNat_char (by unfold Nat.isValidChar; omega)]
    dsimp only
    rw [if_neg (by omega), if_neg (by omega), if_pos (by omega)]
    exact cons_byte (by omega) (cons_byte (by omega) (cons_byte (by omega) rfl))
  · obtain ⟨b2, more, rfl, hb2, htails⟩ := readTails_succ_iff.mp htails
    obtain ⟨b3, more, rfl, hb3, htails⟩ := readTails_succ_iff.mp htails
    obtain ⟨b4, more, rfl, hb4, htails⟩ := readTails_succ_iff.mp htails
    -- The second byte keeps out what is too large, and numbers that take fewer bytes.
    have hsecond : (0x80 ≤ b2.toNat ∧ b2.toNat ≤ 0xBF) ∧
        (b.toNat = 0xF0 → 0x90 ≤ b2.toNat) ∧ (b.toNat = 0xF4 → b2.toNat ≤ 0x8F) := by grind
    clear hb2
    simp only [readTails, Except.ok.injEq, Prod.mk.injEq] at htails
    obtain ⟨rfl, rfl⟩ := htails
    unfold encodeChar
    rw [toNat_char (by unfold Nat.isValidChar; omega)]
    dsimp only
    rw [if_neg (by omega), if_neg (by omega), if_neg (by omega)]
    exact cons_byte (by omega) (cons_byte (by omega) (cons_byte (by omega)
      (cons_byte (by omega) rfl)))

/-! ### Texts -/

@[simp] theorem encode_nil : encode [] = [] := rfl

@[simp] theorem encode_cons (c : Char) (t : Text) : encode (c :: t) = encodeChar c ++ encode t :=
  List.flatMap_cons

theorem length_encodeChar_pos (c : Char) : 0 < (encodeChar c).length := by
  obtain ⟨b, bs, heq, -⟩ := readChar_encodeChar c []
  simp [heq]

theorem length_le_length_encode (t : Text) : t.length ≤ (encode t).length := by
  induction t with
  | nil => simp
  | cons c t ih =>
      have hc := length_encodeChar_pos c
      rw [encode_cons, List.length_append, List.length_cons]
      omega

/-- Reading takes one character after the other. -/
theorem readWithin_encode (t : Text) : ∀ fuel, (encode t).length ≤ fuel →
    readWithin fuel (encode t) = .ok t := by
  induction t with
  | nil => intro fuel _; cases fuel <;> rfl
  | cons c t ih =>
      intro fuel hfuel
      obtain ⟨b, bs, heq, hread⟩ := readChar_encodeChar c (encode t)
      rw [encode_cons, heq] at hfuel ⊢
      cases fuel with
      | zero => simp at hfuel
      | succ fuel =>
          rw [List.cons_append, readWithin, hread]
          dsimp only
          rw [ih fuel (by simp at hfuel; omega)]

theorem eq_encode_of_readWithin : ∀ (fuel : Nat) (bytes : Bytes) (t : Text),
    readWithin fuel bytes = .ok t → bytes = encode t := by
  intro fuel
  induction fuel with
  | zero =>
      intro bytes t h
      cases bytes with
      | nil => rw [readWithin] at h; cases h; rfl
      | cons b bytes => rw [readWithin] at h; cases h; simp
  | succ fuel ih =>
      intro bytes t h
      cases bytes with
      | nil => rw [readWithin] at h; cases h; rfl
      | cons b bytes =>
          rw [readWithin] at h
          split at h
          · cases h
          · rename_i c rest hread
            split at h
            · rename_i t' hrest
              cases h
              rw [encode_cons, ← ih rest t' hrest]
              exact eq_of_readChar hread
            · cases h

/-- A row of bytes is read as a text exactly when it is the bytes of this text. -/
theorem read_eq_ok_iff {bytes : Bytes} {t : Text} : read bytes = .ok t ↔ bytes = encode t := by
  constructor
  · intro h
    unfold read at h
    split at h
    · rename_i u hwithin
      cases h
      exact eq_encode_of_readWithin _ _ _ hwithin
    · cases h
  · rintro rfl
    rw [read, readWithin_encode t _ (Nat.le_refl _)]

theorem decode?_eq_some_iff {bytes : Bytes} {t : Text} :
    decode? bytes = some t ↔ bytes = encode t := by
  rw [← read_eq_ok_iff, decode?]
  cases read bytes with
  | ok u => simp
  | error fitting => simp

@[simp] theorem decode?_encode (t : Text) : decode? (encode t) = some t :=
  decode?_eq_some_iff.mpr rfl

theorem encode_injective {t u : Text} (h : encode t = encode u) : t = u := by
  have ht := decode?_encode t
  rw [h, decode?_encode] at ht
  exact (Option.some.inj ht).symm

/-- The byte of an ASCII character stands in the bytes of a text for this character only. -/
theorem mem_of_mem_encode {c : Char} (h : c.toNat < 0x80) {t : Text}
    (hmem : UInt8.ofNat c.toNat ∈ encode t) : c ∈ t := by
  obtain ⟨d, hd, hbyte⟩ := List.mem_flatMap.mp hmem
  have hc : (UInt8.ofNat c.toNat).toNat = c.toNat := toNat_byte (by omega)
  by_cases hascii : d.toNat < 0x80
  · rw [encodeChar_ascii hascii, List.mem_singleton] at hbyte
    have hsame := congrArg UInt8.toNat hbyte
    rw [hc, toNat_byte (by omega)] at hsame
    rwa [Char.toNat_inj.mp hsame]
  · have hle := le_of_mem_encodeChar (by omega) hbyte
    omega

/-! ### Bytes of any kind -/

theorem length_of_readChar {b : UInt8} {rest after : Bytes} {c : Char}
    (h : readChar b rest = .ok (c, after)) : after.length ≤ rest.length := by
  have heq := congrArg List.length (eq_of_readChar h)
  have hc := length_encodeChar_pos c
  rw [List.length_cons, List.length_append] at heq
  omega

/-- Any fuel that is enough gives the same text. -/
theorem decodeLossyWithin_eq : ∀ (fuel more : Nat) (bytes : Bytes), bytes.length ≤ fuel →
    bytes.length ≤ more → decodeLossyWithin fuel bytes = decodeLossyWithin more bytes := by
  intro fuel
  induction fuel with
  | zero =>
      intro more bytes hfuel _
      rw [List.length_eq_zero_iff.mp (Nat.le_zero.mp hfuel)]
      cases more <;> rfl
  | succ fuel ih =>
      intro more bytes hfuel hmore
      cases bytes with
      | nil => cases more <;> rfl
      | cons b bytes =>
          rw [List.length_cons] at hfuel hmore
          cases more with
          | zero => omega
          | succ more =>
              rw [decodeLossyWithin, decodeLossyWithin]
              split
              · rename_i c rest hread
                have hrest := length_of_readChar hread
                rw [ih more rest (by omega) (by omega)]
              · rw [ih more _ (by rw [List.length_drop]; omega) (by rw [List.length_drop]; omega)]

theorem decodeLossyWithin_eq_decodeLossy {fuel : Nat} {bytes : Bytes} (h : bytes.length ≤ fuel) :
    decodeLossyWithin fuel bytes = decodeLossy bytes :=
  decodeLossyWithin_eq _ _ _ h (Nat.le_refl _)

/-- A character in front is read, whatever follows it. -/
theorem decodeLossy_encodeChar_append (c : Char) (bytes : Bytes) :
    decodeLossy (encodeChar c ++ bytes) = c :: decodeLossy bytes := by
  obtain ⟨b, bs, heq, hread⟩ := readChar_encodeChar c bytes
  rw [heq, List.cons_append, decodeLossy, List.length_cons, decodeLossyWithin, hread]
  dsimp only
  rw [decodeLossyWithin_eq_decodeLossy (by simp)]

theorem decodeLossy_encode_append (t : Text) (bytes : Bytes) :
    decodeLossy (encode t ++ bytes) = t ++ decodeLossy bytes := by
  induction t with
  | nil => rfl
  | cons c t ih =>
      rw [encode_cons, List.append_assoc, decodeLossy_encodeChar_append, ih, List.cons_append]

@[simp] theorem decodeLossy_encode (t : Text) : decodeLossy (encode t) = t := by
  have h := decodeLossy_encode_append t []
  rwa [List.append_nil, show decodeLossy [] = [] from rfl, List.append_nil] at h

/-- A first character other than the replacement was there. -/
theorem exists_of_decodeLossy {bytes : Bytes} {c : Char} {t : Text}
    (h : decodeLossy bytes = c :: t) (hc : c ≠ '\uFFFD') :
    ∃ rest, bytes = encodeChar c ++ rest ∧ decodeLossy rest = t := by
  cases bytes with
  | nil => cases h
  | cons b bytes =>
      rw [decodeLossy, List.length_cons, decodeLossyWithin] at h
      split at h
      · rename_i d rest hread
        rw [decodeLossyWithin_eq_decodeLossy (length_of_readChar hread)] at h
        cases h
        exact ⟨rest, eq_of_readChar hread, rfl⟩
      · cases h
        exact absurd rfl hc

end VarlinkClient.Utf8
