/-
What percent escapes do to a text.

A text that has no escape stands for its own bytes.  An escape is three characters that
stand for one byte, so a text that has one stands for fewer bytes than its own: that is
how the two kinds of text are told apart by what they stand for.

`StandsFor` says by rules, not by a reader, which bytes a text stands for, and
`standsFor_iff` that the reader goes by these rules.  From the other side, a character is
written as itself or as the escapes of its bytes (`Writes`); either is read as the character,
but for a `%` that is written as itself.
-/
import Mathlib.Data.List.Forall2
import VarlinkClient.Proofs.Text.Utf8
import VarlinkClient.Text.Percent

namespace VarlinkClient.Percent

open Text (hexValue?)

/-- Two characters that make an escape after `%`. -/
def IsEscape (high low : Char) : Prop :=
  (hexValue? high).isSome = true ∧ (hexValue? low).isSome = true

instance (high low : Char) : Decidable (IsEscape high low) :=
  inferInstanceAs (Decidable (_ ∧ _))

/-- Somewhere in the text `%` and two hexadecimal digits follow each other. -/
def HasEscape (t : Text) : Prop :=
  ∃ before high low after, t = before ++ '%' :: high :: low :: after ∧ IsEscape high low

theorem not_hasEscape_nil : ¬ HasEscape [] := by
  rintro ⟨before, high, low, after, heq, -⟩
  cases before <;> cases heq

theorem HasEscape.cons {t : Text} (h : HasEscape t) (c : Char) : HasEscape (c :: t) := by
  obtain ⟨before, high, low, after, rfl, hescape⟩ := h
  exact ⟨c :: before, high, low, after, rfl, hescape⟩

/-- An escape stands in front or somewhere behind the first character. -/
theorem hasEscape_cons {c : Char} {t : Text} (h : HasEscape (c :: t)) :
    (∃ high low after, c = '%' ∧ t = high :: low :: after ∧ IsEscape high low) ∨ HasEscape t := by
  obtain ⟨before, high, low, after, heq, hescape⟩ := h
  cases before with
  | nil =>
      cases heq
      exact Or.inl ⟨high, low, after, rfl, rfl, hescape⟩
  | cons d before =>
      cases heq
      exact Or.inr ⟨before, high, low, after, rfl, hescape⟩

theorem hasEscape_of_mem {t : Text} (h : HasEscape t) : '%' ∈ t := by
  obtain ⟨before, high, low, after, rfl, -⟩ := h
  simp

/-! ### How many bytes a text stands for

Bytes of any kind can be counted, as long as the characters that escapes are made of count: an
escape has three of them and stands for one byte.
-/

section Count

variable {keep : UInt8 → Bool}

/-- A text stands for no more bytes of a kind than it has. -/
theorem countP_decodeBytes_le (hpercent : 0 < (Utf8.encodeChar '%').countP keep) (t : Text) :
    (decodeBytes t).countP keep ≤ (Utf8.encode t).countP keep := by
  fun_induction decodeBytes t with
  | case1 => simp
  | case2 high low rest a b hlow hhigh ih =>
      rw [Utf8.encode_cons, Utf8.encode_cons, Utf8.encode_cons, List.countP_cons]
      simp only [List.countP_append]
      split <;> omega
  | case3 high low rest hno ih =>
      rw [Utf8.encode_cons, List.countP_append, List.countP_append]
      omega
  | case4 c rest hno ih =>
      rw [Utf8.encode_cons, List.countP_append, List.countP_append]
      omega

/-- With an escape it stands for fewer. -/
theorem countP_decodeBytes_lt (hpercent : 0 < (Utf8.encodeChar '%').countP keep)
    (hdigit : ∀ c, (hexValue? c).isSome = true → 0 < (Utf8.encodeChar c).countP keep)
    {t : Text} (h : HasEscape t) :
    (decodeBytes t).countP keep < (Utf8.encode t).countP keep := by
  fun_induction decodeBytes t with
  | case1 => exact absurd h not_hasEscape_nil
  | case2 high low rest a b hlow hhigh ih =>
      have hfirst := hdigit high (by simp [hhigh])
      have hrest := countP_decodeBytes_le hpercent rest
      rw [Utf8.encode_cons, Utf8.encode_cons, Utf8.encode_cons, List.countP_cons]
      simp only [List.countP_append]
      split <;> omega
  | case3 high low rest hno ih =>
      rcases hasEscape_cons h with ⟨high', low', after, -, heq, hescape⟩ | hrest
      · cases heq
        obtain ⟨a, ha⟩ := Option.isSome_iff_exists.mp hescape.1
        obtain ⟨b, hb⟩ := Option.isSome_iff_exists.mp hescape.2
        exact absurd hb (hno a b ha)
      · have hlt := ih hrest
        rw [Utf8.encode_cons, List.countP_append, List.countP_append]
        omega
  | case4 c rest hno ih =>
      rcases hasEscape_cons h with ⟨high, low, after, rfl, rfl, -⟩ | hrest
      · exact absurd rfl (hno high low after rfl)
      · have hlt := ih hrest
        rw [Utf8.encode_cons, List.countP_append, List.countP_append]
        omega

end Count

private theorem countP_all (bytes : Bytes) : bytes.countP (fun _ => true) = bytes.length :=
  List.countP_eq_length.mpr fun _ _ => rfl

private theorem countP_encodeChar_pos (c : Char) :
    0 < (Utf8.encodeChar c).countP fun _ => true := by
  rw [countP_all]
  exact Utf8.length_encodeChar_pos c

/-- A text stands for no more bytes than it has. -/
theorem length_decodeBytes_le (t : Text) : (decodeBytes t).length ≤ (Utf8.encode t).length := by
  have hle := countP_decodeBytes_le (countP_encodeChar_pos '%') t
  rwa [countP_all, countP_all] at hle

/-- With an escape it stands for fewer. -/
theorem length_decodeBytes_lt {t : Text} (h : HasEscape t) :
    (decodeBytes t).length < (Utf8.encode t).length := by
  have hlt := countP_decodeBytes_lt (countP_encodeChar_pos '%')
    (fun c _ => countP_encodeChar_pos c) h
  rwa [countP_all, countP_all] at hlt

/-! ### What a text stands for -/

/-- Without an escape a text stands for its own bytes. -/
theorem decodeBytes_eq_encode {t : Text} (h : ¬ HasEscape t) : decodeBytes t = Utf8.encode t := by
  fun_induction decodeBytes t with
  | case1 => rfl
  | case2 high low rest a b hlow hhigh ih =>
      exact absurd ⟨[], high, low, rest, rfl, by simp [IsEscape, hhigh, hlow]⟩ h
  | case3 high low rest hno ih => rw [Utf8.encode_cons, ih fun hrest => h (hrest.cons _)]
  | case4 c rest hno ih => rw [Utf8.encode_cons, ih fun hrest => h (hrest.cons _)]

theorem decode?_eq_some_iff {t u : Text} : decode? t = some u ↔ decodeBytes t = Utf8.encode u :=
  Utf8.decode?_eq_some_iff

/-- A text stands for itself exactly when it has no escape. -/
theorem decode?_eq_self_iff {t : Text} : decode? t = some t ↔ ¬ HasEscape t := by
  rw [decode?_eq_some_iff]
  constructor
  · intro heq h
    have hlt := length_decodeBytes_lt h
    rw [heq] at hlt
    omega
  · exact decodeBytes_eq_encode

/-- Every character stands for something. -/
theorem decodeBytes_ne_nil {t : Text} (h : t ≠ []) : decodeBytes t ≠ [] := by
  fun_cases decodeBytes t with
  | case1 => exact absurd rfl h
  | case2 high low rest a b hlow hhigh => simp
  | case3 high low rest hno => simp [List.ne_nil_of_length_pos (Utf8.length_encodeChar_pos '%')]
  | case4 c rest hno => simp [List.ne_nil_of_length_pos (Utf8.length_encodeChar_pos c)]

/-! ### Escapes -/

/-- The character is the hexadecimal digit of the number, in lower or upper case. -/
def IsHexDigit (n : Nat) (c : Char) : Prop :=
  n < 16 ∧ (c = Nat.digitChar n ∨ c = (Nat.digitChar n).toUpper)

/-- The text is the escape of the byte: `%` and two hexadecimal digits. -/
def IsEscapeOf (b : UInt8) (t : Text) : Prop :=
  ∃ high low, IsHexDigit (b.toNat / 16) high ∧ IsHexDigit (b.toNat % 16) low ∧
    t = ['%', high, low]

instance (n : Nat) (c : Char) : Decidable (IsHexDigit n c) :=
  inferInstanceAs (Decidable (_ ∧ _))

theorem toNat_of_hexValue? {c : Char} (h : (hexValue? c).isSome = true) :
    48 ≤ c.toNat ∧ c.toNat < 128 := by
  have hrange : ∀ {low high : Char}, 48 ≤ low.toNat → high.toNat < 128 →
      low ≤ c → c ≤ high → 48 ≤ c.toNat ∧ c.toNat < 128 :=
    fun hlow hhigh hge hle => ⟨Nat.le_trans hlow hge, Nat.lt_of_le_of_lt hle hhigh⟩
  unfold hexValue? at h
  split at h
  · rename_i hdigit
    obtain ⟨hge, hle⟩ := Bool.and_eq_true_iff.mp hdigit
    exact hrange (by decide) (by decide) (of_decide_eq_true hge) (of_decide_eq_true hle)
  split at h
  · rename_i hlower
    exact hrange (by decide) (by decide) hlower.1 hlower.2
  split at h
  · rename_i hupper
    exact hrange (by decide) (by decide) hupper.1 hupper.2
  · simp at h

/-- A hexadecimal digit is read as its number, and nothing else is. -/
theorem hexValue?_eq_some_iff {c : Char} {n : Nat} : hexValue? c = some n ↔ IsHexDigit n c := by
  constructor
  · intro h
    have hascii : c.toNat < 128 := (toNat_of_hexValue? (by simp [h])).2
    have hall : ∀ k < 128, ∀ n ∈ hexValue? (Char.ofNat k), IsHexDigit n (Char.ofNat k) := by
      decide
    have hc := hall c.toNat hascii
    rw [Char.ofNat_toNat] at hc
    exact hc n h
  · rintro ⟨hn, rfl | rfl⟩
    · have hall : ∀ k < 16, hexValue? (Nat.digitChar k) = some k := by decide
      exact hall n hn
    · have hall : ∀ k < 16, hexValue? (Nat.digitChar k).toUpper = some k := by decide
      exact hall n hn

theorem IsEscapeOf.exists_hexValue? {b : UInt8} {t : Text} (h : IsEscapeOf b t) :
    ∃ high low, t = ['%', high, low] ∧ hexValue? high = some (b.toNat / 16) ∧
      hexValue? low = some (b.toNat % 16) := by
  obtain ⟨high, low, hhigh, hlow, rfl⟩ := h
  exact ⟨high, low, rfl, hexValue?_eq_some_iff.mpr hhigh, hexValue?_eq_some_iff.mpr hlow⟩

/-- Two digits make the escape of the byte that they are the halves of. -/
theorem isEscapeOf_ofNat {high low : Char} {h l : Nat} (hhigh : hexValue? high = some h)
    (hlow : hexValue? low = some l) : IsEscapeOf (UInt8.ofNat (16 * h + l)) ['%', high, low] := by
  have hh := hexValue?_eq_some_iff.mp hhigh
  have hl := hexValue?_eq_some_iff.mp hlow
  have hbyte : (UInt8.ofNat (16 * h + l)).toNat = 16 * h + l :=
    UInt8.toNat_ofNat_of_lt' (by have := hh.1; have := hl.1; show _ < 256; omega)
  refine ⟨high, low, ?_, ?_, rfl⟩
  · rwa [hbyte, show (16 * h + l) / 16 = h by have := hl.1; omega]
  · rwa [hbyte, show (16 * h + l) % 16 = l by have := hl.1; omega]

/-- Every byte has an escape. -/
theorem exists_isEscapeOf (b : UInt8) : ∃ t, IsEscapeOf b t := by
  have hb : b.toNat < 256 := b.toNat_lt
  exact ⟨_, Nat.digitChar (b.toNat / 16), Nat.digitChar (b.toNat % 16),
    ⟨by omega, Or.inl rfl⟩, ⟨by omega, Or.inl rfl⟩, rfl⟩

/-! ### The bytes of a text, by rules -/

/-- What a text stands for: an escape for its byte, a character at which none begins for its
own bytes. -/
inductive StandsFor : Text → Bytes → Prop
  | nil : StandsFor [] []
  | escape {b : UInt8} {escape t : Text} {bytes : Bytes} (hescape : IsEscapeOf b escape)
      (ht : StandsFor t bytes) : StandsFor (escape ++ t) (b :: bytes)
  | plain {c : Char} {t : Text} {bytes : Bytes}
      (hc : ¬ ∃ b escape, IsEscapeOf b escape ∧ escape <+: c :: t)
      (ht : StandsFor t bytes) : StandsFor (c :: t) (Utf8.encodeChar c ++ bytes)

theorem decodeBytes_escape {b : UInt8} {escape : Text} (h : IsEscapeOf b escape) (t : Text) :
    decodeBytes (escape ++ t) = b :: decodeBytes t := by
  obtain ⟨high, low, rfl, hhigh, hlow⟩ := h.exists_hexValue?
  have hbyte : UInt8.ofNat (16 * (b.toNat / 16) + b.toNat % 16) = b := by
    rw [Nat.div_add_mod, UInt8.ofNat_toNat]
  show decodeBytes ('%' :: high :: low :: t) = b :: decodeBytes t
  rw [decodeBytes, hhigh, hlow]
  dsimp only
  rw [hbyte]

theorem decodeBytes_plain {c : Char} {t : Text}
    (h : ¬ ∃ b escape, IsEscapeOf b escape ∧ escape <+: c :: t) :
    decodeBytes (c :: t) = Utf8.encodeChar c ++ decodeBytes t := by
  rw [decodeBytes.eq_def]
  split
  · rename_i heq
    cases heq
  · rename_i high low rest heq
    cases heq
    split
    · rename_i a b hhigh hlow
      exact absurd ⟨_, _, isEscapeOf_ofNat hhigh hlow, ⟨rest, rfl⟩⟩ h
    · rfl
  · rename_i heq
    cases heq
    rfl

theorem StandsFor.decodeBytes_eq {t : Text} {bytes : Bytes} (h : StandsFor t bytes) :
    decodeBytes t = bytes := by
  induction h with
  | nil => rfl
  | escape hescape ht ih => rw [decodeBytes_escape hescape, ih]
  | plain hc ht ih => rw [decodeBytes_plain hc, ih]

theorem standsFor_decodeBytes (t : Text) : StandsFor t (decodeBytes t) := by
  fun_induction decodeBytes t with
  | case1 => exact .nil
  | case2 high low rest a b hlow hhigh ih => exact .escape (isEscapeOf_ofNat hhigh hlow) ih
  | case3 high low rest hno ih =>
      -- Here `%` is a character like any other, since the next two are no digits.
      refine .plain ?_ ih
      rintro ⟨b, escape, hescape, more, hmore⟩
      obtain ⟨high', low', rfl, hhigh, hlow⟩ := hescape.exists_hexValue?
      cases hmore
      exact hno _ _ hhigh hlow
  | case4 c rest hno ih =>
      refine .plain ?_ ih
      rintro ⟨b, escape, ⟨high, low, -, -, rfl⟩, more, hmore⟩
      cases hmore
      exact hno _ _ _ rfl rfl

/-- **A text is read as the bytes that it stands for.** -/
theorem standsFor_iff {t : Text} {bytes : Bytes} : StandsFor t bytes ↔ decodeBytes t = bytes :=
  ⟨StandsFor.decodeBytes_eq, fun h => h ▸ standsFor_decodeBytes t⟩

theorem decode?_eq_some_iff_standsFor {t u : Text} :
    decode? t = some u ↔ StandsFor t (Utf8.encode u) := by
  rw [decode?_eq_some_iff, standsFor_iff]

/-! ### Characters as they are written -/

/-- The text is the escapes of the bytes, one after another. -/
def AreEscapesOf (bytes : Bytes) (t : Text) : Prop :=
  ∃ escapes, List.Forall₂ IsEscapeOf bytes escapes ∧ t = escapes.flatten

/-- The character is written as itself or as the escapes of its bytes. -/
def Writes (c : Char) (t : Text) : Prop :=
  t = [c] ∨ AreEscapesOf (Utf8.encodeChar c) t

theorem exists_areEscapesOf (bytes : Bytes) : ∃ t, AreEscapesOf bytes t := by
  choose escape hescape using exists_isEscapeOf
  refine ⟨_, bytes.map escape, ?_, rfl⟩
  rw [List.forall₂_map_right_iff, List.forall₂_same]
  exact fun b _ => hescape b

/-- A character that is written as escapes begins with one. -/
theorem AreEscapesOf.exists_cons {c : Char} {t : Text} (h : AreEscapesOf (Utf8.encodeChar c) t) :
    ∃ high low more, t = '%' :: high :: low :: more := by
  obtain ⟨escapes, hescapes, rfl⟩ := h
  obtain ⟨b, bytes, hbytes⟩ :=
    List.exists_cons_of_ne_nil (List.ne_nil_of_length_pos (Utf8.length_encodeChar_pos c))
  rw [hbytes] at hescapes
  cases hescapes with
  | cons hescape _ =>
      obtain ⟨high, low, -, -, rfl⟩ := hescape
      exact ⟨high, low, _, rfl⟩

/-- Escapes are made of `%`, letters and digits. -/
theorem IsEscapeOf.mem {b : UInt8} {t : Text} (h : IsEscapeOf b t) {c : Char} (hc : c ∈ t) :
    c = '%' ∨ c.isAlphanum = true := by
  have hdigit : ∀ {n d}, IsHexDigit n d → d.isAlphanum = true := by
    have hall : ∀ n < 16, (Nat.digitChar n).isAlphanum = true ∧
        (Nat.digitChar n).toUpper.isAlphanum = true := by decide
    rintro n d ⟨hn, rfl | rfl⟩
    · exact (hall n hn).1
    · exact (hall n hn).2
  obtain ⟨high, low, hhigh, hlow, rfl⟩ := h
  simp only [List.mem_cons, List.not_mem_nil, or_false] at hc
  rcases hc with rfl | rfl | rfl
  · exact Or.inl rfl
  · exact Or.inr (hdigit hhigh)
  · exact Or.inr (hdigit hlow)

theorem AreEscapesOf.mem {bytes : Bytes} {t : Text} (h : AreEscapesOf bytes t) {c : Char}
    (hc : c ∈ t) : c = '%' ∨ c.isAlphanum = true := by
  obtain ⟨escapes, hescapes, rfl⟩ := h
  induction hescapes with
  | nil => cases hc
  | cons hescape _ ih =>
      rcases List.mem_append.mp hc with hc | hc
      · exact hescape.mem hc
      · exact ih hc

/-- A character that no escape is made of stands in a text as itself only. -/
theorem notMem_flatten_of_writes {mark : Char} (hpercent : mark ≠ '%')
    (hmark : mark.isAlphanum = false) {t : Text} {parts : List Text}
    (h : List.Forall₂ Writes t parts) (hbare : [mark] ∉ parts) : mark ∉ parts.flatten := by
  induction h with
  | nil => exact List.not_mem_nil
  | @cons c part t parts hpart _ ih =>
      rw [List.mem_cons, not_or] at hbare
      intro hmem
      rcases List.mem_append.mp hmem with hmem | hmem
      · rcases hpart with rfl | hescapes
        · exact hbare.1 (by rw [List.mem_singleton.mp hmem])
        · rcases hescapes.mem hmem with heq | heq
          · exact hpercent heq
          · rw [hmark] at heq
            cases heq
      · exact ih hbare.2 hmem

theorem standsFor_append_escapes {bytes more : Bytes} {escapes : List Text} {t : Text}
    (h : List.Forall₂ IsEscapeOf bytes escapes) (ht : StandsFor t more) :
    StandsFor (escapes.flatten ++ t) (bytes ++ more) := by
  induction h with
  | nil => exact ht
  | cons hescape _ ih =>
      rw [List.flatten_cons, List.append_assoc, List.cons_append]
      exact .escape hescape ih

/-- What a character is written as stands for it, unless that is a bare `%`. -/
theorem Writes.standsFor_append {c : Char} {part t : Text} {bytes : Bytes} (h : Writes c part)
    (hpart : part ≠ ['%']) (ht : StandsFor t bytes) :
    StandsFor (part ++ t) (Utf8.encodeChar c ++ bytes) := by
  rcases h with rfl | ⟨escapes, hescapes, rfl⟩
  · refine .plain ?_ ht
    rintro ⟨b, escape, ⟨high, low, -, -, rfl⟩, more, hmore⟩
    cases hmore
    exact hpart rfl
  · exact standsFor_append_escapes hescapes ht

/-- A text that is written without a bare `%` is read back. -/
theorem standsFor_flatten_of_writes {t : Text} {parts : List Text}
    (h : List.Forall₂ Writes t parts) (hbare : ['%'] ∉ parts) :
    StandsFor parts.flatten (Utf8.encode t) := by
  induction h with
  | nil => exact .nil
  | cons hpart _ ih =>
      rw [List.mem_cons, not_or] at hbare
      rw [List.flatten_cons, Utf8.encode_cons]
      exact hpart.standsFor_append (Ne.symm hbare.1) (ih hbare.2)

end VarlinkClient.Percent
