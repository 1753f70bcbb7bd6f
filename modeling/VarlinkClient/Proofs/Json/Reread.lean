/-
Reading a piece of text again elsewhere.

Whatever a reader takes can be moved (`Moves`): in front of other bytes that begin as the old ones
did, or continue no number, it reads the same and stops at the same place.  There is one lemma for
each function that reads, in the order in which the functions call each other.

Where a function counts fuel, it is told how many bytes there are, so what is moved is
read with any fuel that is more than its bytes.
-/
import VarlinkClient.Proofs.Json.Extent
import VarlinkClient.Proofs.Json.Field
import VarlinkClient.Proofs.Json.Moving

namespace VarlinkClient.Json

open Grammar

/-- The reader reads `a` off the bytes in front. -/
abbrev Gives {α : Type} (read : Bytes → Reading α) (a : α) : Rule :=
  fun bytes rest => read bytes = .ok (a, rest)

/-! ### Digits -/

section Digits

variable {bytes rest : Bytes}

theorem takeDigits_stop {value count : Nat}
    (h : ∀ b ∈ rest.head?, ¬ (isDigit b ∧ 10 * value + digitValue b ≤ maxWhole)) :
    takeDigits value count rest = (value, count, rest) := by
  cases rest with
  | nil => rfl
  | cons b rest => rw [takeDigits, if_neg (h b rfl)]

/-- Digits are taken again, also where they stop because they get too many. -/
theorem moves_takeDigits : ∀ {bytes : Bytes} {value count digits total : Nat},
    takeDigits value count bytes = (digits, total, rest) →
      Moves (fun x y => takeDigits value count x = (digits, total, y)) bytes rest := by
  intro bytes
  induction bytes with
  | nil =>
      rintro value count _ _ ⟨⟩
      exact .stay fun after hafter => takeDigits_stop
        (hafter.forall_head nofun fun b hb h => by simp [hb.1] at h)
  | cons b bytes ih =>
      intro value count digits total h
      rw [takeDigits] at h
      split at h
      · rename_i hb
        exact (ih h).cons fun x y hx => by rw [takeDigits, if_pos hb, hx]
      · rename_i hb
        cases h
        refine .stay fun after hafter => takeDigits_stop
          (hafter.forall_head ?_ fun c hc h => by simp [hc.1] at h)
        rintro c ⟨⟩
        exact hb

theorem takeExponent_stop {value : Nat} (h : startsWithDigit rest = false) :
    takeExponent value rest = .ok (value, rest) := by
  cases rest with
  | nil => rfl
  | cons b rest => rw [takeExponent, if_neg (by simpa [startsWithDigit] using h)]

theorem moves_takeExponent : ∀ {bytes : Bytes} {value n : Nat},
    takeExponent value bytes = .ok (n, rest) →
      Moves (fun x y => takeExponent value x = .ok (n, y)) bytes rest := by
  intro bytes
  induction bytes with
  | nil =>
      rintro value _ ⟨⟩
      exact .stay fun after hafter => takeExponent_stop (hafter.startsWithDigit rfl)
  | cons b bytes ih =>
      intro value n h
      rw [takeExponent] at h
      split at h
      · rename_i hb
        split at h
        · rename_i hfits
          exact (ih h).cons fun x y hx => by rw [takeExponent, if_pos hb, if_pos hfits, hx]
        · cases h
      · rename_i hb
        cases h
        refine .stay fun after hafter => takeExponent_stop (hafter.startsWithDigit ?_)
        simpa [startsWithDigit] using hb

/-- An exponent that gets too great does so at the same digit. -/
theorem moves_takeExponent_error : ∀ {bytes : Bytes} {value : Nat},
    takeExponent value bytes = .error rest →
      Moves (fun x y => takeExponent value x = .error y) bytes rest := by
  intro bytes
  induction bytes with
  | nil => exact nofun
  | cons b bytes ih =>
      intro value h
      rw [takeExponent] at h
      split at h
      · rename_i hb
        split at h
        · rename_i hfits
          exact (ih h).cons fun x y hx => by rw [takeExponent, if_pos hb, if_pos hfits, hx]
        · rename_i hfits
          cases h
          refine ⟨[b], rfl, fun after _ => ?_⟩
          dsimp only
          rw [List.singleton_append, takeExponent, if_pos hb, if_neg hfits]
      · cases h

theorem startsWithDigit_dropWhile (bytes : Bytes) :
    startsWithDigit (bytes.dropWhile isDigit) = false := by
  refine startsWithDigit_eq_false_iff.mpr fun b hb => ?_
  obtain ⟨more, hmore⟩ := List.head?_eq_some_iff.mp hb
  exact eq_false_of_dropWhile hmore

/-- The digits in front, and what stands behind them. -/
theorem moves_dropWhile (bytes : Bytes) :
    Moves (fun x y => x.takeWhile isDigit = bytes.takeWhile isDigit ∧ x.dropWhile isDigit = y)
      bytes (bytes.dropWhile isDigit) := by
  have hdigits : ∀ b ∈ bytes.takeWhile isDigit, isDigit b = true := fun _ hb =>
    List.mem_takeWhile_imp hb
  refine ⟨bytes.takeWhile isDigit, List.takeWhile_append_dropWhile.symm, fun after hafter => ?_⟩
  have hstop := hafter.startsWithDigit (startsWithDigit_dropWhile bytes)
  refine ⟨?_, dropWhile_of_maybeDigits ⟨_, hdigits, rfl⟩ hstop⟩
  rw [List.takeWhile_append_of_pos hdigits]
  cases after with
  | nil => simp
  | cons b after => rw [List.takeWhile_cons_of_neg (by simpa [startsWithDigit] using hstop)]; simp

end Digits

/-! ### Numbers -/

section Numbers

variable {negative below : Bool} {digits : Nat} {exponent : Int} {n : Number} {bytes rest : Bytes}

theorem moves_finishReal (h : finishReal negative digits exponent bytes = .ok (n, rest)) :
    Moves (Gives (finishReal negative digits exponent) n) bytes rest := by
  unfold finishReal at h
  split at h
  · rename_i x hx
    cases h
    exact .stay fun after _ => by dsimp only [Gives]; rw [finishReal, hx]
  · cases h

theorem moves_finishWhole (h : finishWhole negative digits bytes = .ok (n, rest)) :
    Moves (Gives (finishWhole negative digits) n) bytes rest := by
  unfold finishWhole at h
  split at h
  · rename_i hnegative
    split at h
    · rename_i hrange
      cases h
      exact .stay fun after _ => by
        dsimp only [Gives]; rw [finishWhole, if_pos hnegative, dif_pos hrange]
    · rename_i hrange
      exact (moves_finishReal h).imp fun x y hx => by
        dsimp only [Gives]; rw [finishWhole, if_pos hnegative, dif_neg hrange, hx]
  · rename_i hnegative
    cases h
    exact .stay fun after _ => by dsimp only [Gives]; rw [finishWhole, if_neg hnegative]

theorem length_lt_of_power (h : Power bytes rest) : rest.length < bytes.length := by
  cases h with
  | plain hdigits => exact hdigits.past.length_lt
  | signed _ hdigits => exact Nat.lt_succ_of_lt hdigits.past.length_lt

theorem moves_readPower (h : readPower negative digits exponent below bytes = .ok (n, rest)) :
    Moves (Gives (readPower negative digits exponent below) n) bytes rest := by
  unfold readPower at h
  split at h
  · cases h
  rename_i b more
  split at h
  swap
  · cases h
  rename_i hb
  split at h
  · rename_i value after htake
    refine ((moves_takeExponent htake).comp (moves_finishReal h)).cons ?_
    rintro x y ⟨_, htake, hfinish⟩
    dsimp only [Gives]
    rw [readPower, if_pos hb, htake]
    exact hfinish
  · rename_i after htake
    split at h
    · cases h
    rename_i hzero
    cases h
    refine ((moves_takeExponent_error htake).comp (moves_dropWhile after)).cons ?_
    rintro x y ⟨_, htake, -, hdrop⟩
    dsimp only [Gives]
    rw [readPower, if_pos hb, htake]
    dsimp only
    rw [if_neg hzero, hdrop]

theorem moves_readExponent (h : readExponent negative digits exponent bytes = .ok (n, rest)) :
    Moves (Gives (readExponent negative digits exponent) n) bytes rest := by
  have hmeets := meets_readExponent negative digits exponent bytes
  rw [h] at hmeets
  cases bytes with
  | nil => cases h
  | cons b more =>
      by_cases hplus : b = byte '+'
      · subst hplus
        rw [readExponent_plus] at h
        exact (moves_readPower h).cons fun _ _ hx => readExponent_plus.trans hx
      by_cases hminus : b = byte '-'
      · subst hminus
        rw [readExponent_minus] at h
        exact (moves_readPower h).cons fun _ _ hx => readExponent_minus.trans hx
      -- The first byte says that there is no sign, so it has to stay.
      rw [readExponent_digit hplus hminus] at h
      refine ((moves_readPower h).keepFirst (length_lt_of_power hmeets)).imp ?_
      rintro _ y ⟨⟨x, rfl⟩, hx⟩
      exact (readExponent_digit hplus hminus).trans hx

/-- Bytes of which the first is not free of `p` begin with one that is `p`. -/
theorem exists_cons_of_head {p : UInt8 → Prop} (h : ¬ ∀ b ∈ bytes.head?, ¬ p b) :
    ∃ b more, bytes = b :: more ∧ p b := by
  cases bytes with
  | nil => exact absurd nofun h
  | cons b more =>
      refine ⟨b, more, rfl, ?_⟩
      by_contra hb
      refine h ?_
      rintro c ⟨⟩
      exact hb

theorem moves_readTail (h : readTail negative digits exponent bytes = .ok (n, rest)) :
    Moves (Gives (readTail negative digits exponent) n) bytes rest := by
  by_cases hend : ∀ b ∈ bytes.head?, ¬ (b = byte 'e' ∨ b = byte 'E')
  · rw [readTail_stop hend] at h
    exact ((moves_finishReal h).andHead hend fun b hb => not_or.mpr hb.2.2).imp fun x y hx =>
      (readTail_stop hx.1).trans hx.2
  · obtain ⟨b, more, rfl, he⟩ := exists_cons_of_head hend
    rw [readTail, if_pos he] at h
    exact (moves_readExponent h).cons fun x y hx => by
      dsimp only [Gives]; rw [readTail, if_pos he, hx]

theorem startsWithDigit_congr {x : Bytes} (h : x.head? = bytes.head?) :
    startsWithDigit x = startsWithDigit bytes := by
  cases x <;> cases bytes <;> simp_all [startsWithDigit]

theorem length_le_of_readTail (h : readTail negative digits exponent bytes = .ok (n, rest)) :
    rest.length ≤ bytes.length := by
  have hmeets := meets_readTail negative digits exponent bytes
  rw [h] at hmeets
  exact (Exponent.after hmeets).length_le

theorem moves_readFraction (h : readFraction negative digits exponent bytes = .ok (n, rest)) :
    Moves (Gives (readFraction negative digits exponent) n) bytes rest := by
  unfold readFraction at h
  rcases htake : takeDigits digits 0 bytes with ⟨value, count, after⟩
  rw [htake] at h
  dsimp only at h
  split at h
  · -- Digits that do not fit are left away.
    rename_i hdigit
    have hshorter := (digits_dropWhile hdigit).past.length_lt
    have hlength := length_le_of_readTail h
    have hmore := ((moves_dropWhile after).comp (moves_readTail h)).keepHead (by omega)
    refine ((moves_takeDigits htake).comp hmore).imp ?_
    rintro x y ⟨z, htake, hhead, _, ⟨-, rfl⟩, htail⟩
    dsimp only [Gives]
    rw [readFraction, htake]
    dsimp only
    rw [if_pos ((startsWithDigit_congr hhead).trans hdigit)]
    exact htail
  · rename_i hdigit
    split at h
    · cases h
    rename_i hcount
    refine ((moves_takeDigits htake).comp ((moves_readTail h).andNoDigit hdigit)).imp ?_
    rintro x y ⟨z, htake, hz, htail⟩
    dsimp only [Gives]
    rw [readFraction, htake]
    dsimp only
    rw [if_neg (by simp [hz]), if_neg hcount]
    exact htail

theorem moves_readAfterWhole (h : readAfterWhole negative digits bytes = .ok (n, rest)) :
    Moves (Gives (readAfterWhole negative digits) n) bytes rest := by
  by_cases hend : ∀ b ∈ bytes.head?, ¬ (b = byte '.' ∨ b = byte 'e' ∨ b = byte 'E')
  · rw [readAfterWhole_stop hend] at h
    have hmoves := (moves_finishWhole h).andHead hend fun b hb =>
      not_or.mpr ⟨hb.2.1, not_or.mpr hb.2.2⟩
    exact hmoves.imp fun x y hx => (readAfterWhole_stop hx.1).trans hx.2
  obtain ⟨b, more, rfl, hpoint | he⟩ := exists_cons_of_head hend
  · rw [readAfterWhole, if_pos hpoint] at h
    exact (moves_readFraction h).cons fun x y hx => by
      dsimp only [Gives]; rw [readAfterWhole, if_pos hpoint, hx]
  · have hpoint : b ≠ byte '.' := by rcases he with rfl | rfl <;> decide
    rw [readAfterWhole, if_neg hpoint, if_pos he] at h
    exact (moves_readExponent h).cons fun x y hx => by
      dsimp only [Gives]; rw [readAfterWhole, if_neg hpoint, if_pos he, hx]

theorem moves_readLong (h : readLong negative digits bytes = .ok (n, rest)) :
    Moves (Gives (readLong negative digits) n) bytes rest := by
  by_cases hend : ∀ b ∈ (bytes.dropWhile isDigit).head?, b ≠ byte '.'
  · rw [readLong_eq_readTail hend] at h
    refine ((moves_dropWhile bytes).comp
      ((moves_readTail h).andHead hend fun b hb => hb.2.1)).imp ?_
    rintro x y ⟨_, ⟨hcount, rfl⟩, hx, htail⟩
    dsimp only [Gives]
    rw [readLong_eq_readTail hx, hcount]
    exact htail
  · obtain ⟨_, more, hpoint, rfl⟩ := exists_cons_of_head hend
    have hread : readFraction negative digits (bytes.takeWhile isDigit).length more =
        .ok (n, rest) := by
      rw [← h, readLong, hpoint]
      dsimp only
      rw [if_pos rfl]
    have hmoves := moves_dropWhile bytes
    rw [hpoint] at hmoves
    refine (hmoves.comp ((moves_readFraction hread).behind (byte '.'))).imp ?_
    rintro x y ⟨_, ⟨hcount, hdrop⟩, after, rfl, hx⟩
    dsimp only [Gives]
    rw [readLong, hdrop, hcount]
    dsimp only
    rw [if_pos rfl]
    exact hx

theorem length_le_of_readLong (h : readLong negative digits bytes = .ok (n, rest)) :
    rest.length ≤ (bytes.dropWhile isDigit).length := by
  have hmeets := meets_readLong negative digits bytes
  rw [h] at hmeets
  exact (AfterWhole.after hmeets).length_le

/-- **A number is read again** wherever it stands, when nothing continues it there either. -/
theorem moves_readNumber (h : readNumber negative bytes = .ok (n, rest)) :
    Moves (Gives (readNumber negative) n) bytes rest := by
  unfold readNumber at h
  split at h
  · cases h
  rename_i b more
  split at h
  · rename_i hzero
    split at h
    · cases h
    rename_i hdigit
    refine ((moves_readAfterWhole h).andNoDigit hdigit).cons ?_
    rintro x y ⟨hx, hread⟩
    dsimp only [Gives]
    rw [readNumber, if_pos hzero, if_neg (by simp [hx])]
    exact hread
  rename_i hzero
  split at h
  swap
  · cases h
  rename_i hb
  rcases htake : takeDigits (digitValue b) 0 more with ⟨value, count, after⟩
  rw [htake] at h
  dsimp only at h
  split at h
  · rename_i hdigit
    have hshorter := (digits_dropWhile hdigit).past.length_lt
    have hlength := length_le_of_readLong h
    refine ((moves_takeDigits htake).comp ((moves_readLong h).keepHead (by omega))).cons ?_
    rintro x y ⟨z, htake, hhead, hlong⟩
    dsimp only [Gives]
    rw [readNumber, if_neg hzero, if_pos hb, htake]
    dsimp only
    rw [if_pos ((startsWithDigit_congr hhead).trans hdigit)]
    exact hlong
  · rename_i hdigit
    refine ((moves_takeDigits htake).comp ((moves_readAfterWhole h).andNoDigit hdigit)).cons ?_
    rintro x y ⟨z, htake, hz, hread⟩
    dsimp only [Gives]
    rw [readNumber, if_neg hzero, if_pos hb, htake]
    dsimp only
    rw [if_neg (by simp [hz])]
    exact hread

end Numbers

/-! ### Words and strings -/

section Strings

variable {bytes rest : Bytes}

theorem moves_readWord {α : Type} {value a : α} {letters : Text}
    (h : readWord value letters bytes = .ok (a, rest)) :
    Moves (Gives (readWord value letters) a) bytes rest := by
  obtain ⟨rfl, hread⟩ := eq_ok_of_readWord h
  have hmeets := meets_readRest letters bytes
  rw [hread] at hmeets
  refine ⟨letters.map byte, hmeets, fun after _ => ?_⟩
  dsimp only [Gives]
  rw [readWord, readRest_map]

theorem moves_readHex {n : Nat} (h : readHex bytes = .ok (n, rest)) :
    Moves (Gives readHex n) bytes rest := by
  unfold readHex at h
  split at h
  · rename_i a b c d more
    split at h
    · rename_i ha hb hc hd
      cases h
      exact ⟨[a, b, c, d], rfl, fun after _ => by
        dsimp only [Gives, List.cons_append, List.nil_append]; rw [readHex, ha, hb, hc, hd]⟩
    · cases h
  · cases h

theorem moves_expectInEscape {c : Char} (h : expectInEscape c bytes = .ok rest) :
    Moves (fun x y => expectInEscape c x = .ok y) bytes rest := by
  have hmeets := meets_expectInEscape c bytes
  rw [h] at hmeets
  refine ⟨[byte c], hmeets, fun after _ => ?_⟩
  dsimp only
  rw [List.singleton_append, expectInEscape, if_pos rfl]

theorem moves_readUnicodeEscape {c : Char} (h : readUnicodeEscape bytes = .ok (c, rest)) :
    Moves (Gives readUnicodeEscape c) bytes rest := by
  unfold readUnicodeEscape at h
  split at h
  · cases h
  rename_i n after hhex
  split at h
  · cases h
  rename_i htrailing
  split at h
  · rename_i hplain
    cases h
    exact (moves_readHex hhex).imp fun x y hx => by
      dsimp only [Gives] at hx ⊢
      rw [readUnicodeEscape, hx]
      dsimp only
      rw [if_neg htrailing, if_pos hplain]
  rename_i hplain
  -- The escape of a trailing surrogate follows.
  split at h
  · cases h
  rename_i after' hbackslash
  split at h
  · cases h
  rename_i after'' hletter
  split at h
  · cases h
  rename_i m last hmore
  split at h
  · cases h
  rename_i hpair
  obtain ⟨rfl, rfl⟩ := Prod.mk.inj (Except.ok.inj h)
  refine ((moves_readHex hhex).comp ((moves_expectInEscape hbackslash).comp
    ((moves_expectInEscape hletter).comp (moves_readHex hmore)))).imp ?_
  rintro x y ⟨_, hhex, _, hbackslash, _, hletter, hmore⟩
  dsimp only [Gives] at hhex hmore ⊢
  rw [readUnicodeEscape, hhex]
  dsimp only
  rw [if_neg htrailing, if_neg hplain, hbackslash]
  dsimp only
  rw [hletter]
  dsimp only
  rw [hmore]
  dsimp only
  rw [if_neg hpair]

theorem moves_readEscape {c : Char} (h : readEscape bytes = .ok (c, rest)) :
    Moves (Gives readEscape c) bytes rest := by
  unfold readEscape at h
  split at h
  · cases h
  rename_i b more
  split at h
  · rename_i hletter
    cases h
    exact ⟨[b], rfl, fun after _ => by
      dsimp only [Gives, List.cons_append, List.nil_append]; rw [readEscape, hletter]⟩
  rename_i hletter
  split at h
  · rename_i hu
    exact (moves_readUnicodeEscape h).cons fun x y hx => by
      dsimp only [Gives] at hx ⊢
      rw [readEscape, hletter]
      dsimp only
      rw [if_pos hu, hx]
  · cases h

/-- A stretch of bytes that stand for themselves, and the byte that ends it. -/
theorem moves_stretch {b : UInt8} (h : bytes.dropWhile isPlain = b :: rest) :
    Moves (fun x y => x.takeWhile isPlain = bytes.takeWhile isPlain ∧
      x.dropWhile isPlain = b :: y) bytes rest := by
  have hplain : ∀ c ∈ bytes.takeWhile isPlain, isPlain c = true := fun _ hc =>
    List.mem_takeWhile_imp hc
  have hb : ¬ isPlain b = true := by simp [eq_false_of_dropWhile h]
  refine ⟨bytes.takeWhile isPlain ++ [b], ?_, fun after _ => ?_⟩
  · rw [List.append_assoc, List.singleton_append, ← h, List.takeWhile_append_dropWhile]
  · dsimp only
    rw [List.append_assoc, List.singleton_append, List.takeWhile_append_of_pos hplain,
      List.takeWhile_cons_of_neg hb, List.append_nil, List.dropWhile_append_of_pos hplain,
      List.dropWhile_cons_of_neg hb]
    exact ⟨rfl, rfl⟩

theorem moves_readStringWithin : ∀ {fuel : Nat} {bytes : Bytes} {t : Text},
    readStringWithin fuel bytes = .ok (t, rest) →
      Moves (fun x y => ∀ fuel, x.length < fuel → readStringWithin fuel x = .ok (t, y))
        bytes rest := by
  intro fuel
  induction fuel with
  | zero => exact nofun
  | succ fuel ih =>
      intro bytes t h
      obtain ⟨stretch, b, after, htake, hdrop, hb, hend⟩ := readStringWithin_succ_iff.mp h
      rcases hend with ⟨hquote, rfl, rfl⟩ | ⟨hquote, c, later, u, hescape, hlater, rfl⟩
      · refine (moves_stretch hdrop).imp ?_
        rintro x y ⟨htake', hdrop'⟩ fuel hfuel
        obtain ⟨fuel, rfl⟩ : ∃ k, fuel = k + 1 := ⟨fuel - 1, by omega⟩
        exact readStringWithin_succ_iff.mpr
          ⟨_, b, y, htake'.trans htake, hdrop', hb, Or.inl ⟨hquote, rfl, rfl⟩⟩
      · refine ((moves_stretch hdrop).comp
          ((moves_readEscape hescape).shorter.comp (ih hlater))).imp ?_
        rintro x y ⟨z, ⟨htake', hdrop'⟩, w, ⟨hw, hescape⟩, hlater⟩ fuel hfuel
        obtain ⟨fuel, rfl⟩ : ∃ k, fuel = k + 1 := ⟨fuel - 1, by omega⟩
        have hz : (b :: z).length ≤ x.length := hdrop' ▸ List.length_dropWhile_le _ _
        rw [List.length_cons] at hz
        exact readStringWithin_succ_iff.mpr ⟨_, b, z, htake'.trans htake, hdrop', hb,
          Or.inr ⟨hquote, c, w, u, hescape, hlater fuel (by omega), rfl⟩⟩

theorem moves_readString {t : Text} (h : readString bytes = .ok (t, rest)) :
    Moves (Gives readString t) bytes rest :=
  (moves_readStringWithin h).imp fun _ _ hx => hx _ (Nat.lt_succ_self _)

end Strings

/-! ### Containers -/

/-- The entries of a container are read one after another; the reader of one stops where it has
read it. -/
inductive Enters {α : Type} (close : Char) (entry : α → Rule) : Bool → List α → Rule
  | done {first : Bool} {bytes rest : Bytes} (h : skipSpace bytes = byte close :: rest) :
      Enters close entry first [] bytes rest
  | more {first : Bool} {a : α} {others : List α} {bytes start middle rest : Bytes}
      (hcomes : Comes first bytes start) (ha : entry a start middle)
      (hmore : Enters close entry false others middle rest) :
      Enters close entry first (a :: others) bytes rest

/-- Entries that are read again are read again one after another. -/
theorem Enters.moves {α : Type} {close : Char} {entry : α → Rule}
    (hentry : ∀ a bytes rest, entry a bytes rest →
      Moves (entry a) bytes rest ∧ rest.length < bytes.length)
    {first : Bool} {as : List α} {bytes rest : Bytes}
    (h : Enters close entry first as bytes rest) :
    Moves (Enters close entry first as) bytes rest := by
  induction h with
  | done h => exact (moves_skipSpace_cons h).imp fun _ _ => .done
  | more hcomes ha _ ih =>
      obtain ⟨hmoves, hlength⟩ := hentry _ _ _ ha
      have hafter := ih.length_le
      refine (moves_comes (hmoves.comp ih) hcomes (by omega)).imp ?_
      rintro x y ⟨_, ⟨-, hcomes⟩, w, ha, hmore⟩
      exact .more hcomes ha hmore

section Entries

variable {first : Bool} {bytes start rest : Bytes}

theorem moves_readColon (h : readColon bytes = .ok rest) :
    Moves (fun x y => readColon x = .ok y) bytes rest := by
  have hmeets := meets_readColon bytes
  rw [h] at hmeets
  exact (moves_skipSpace_cons hmeets).imp fun _ _ => readColon_of_skipSpace

theorem nextItem_eq_done_iff :
    nextItem first bytes = .ok (.done rest) ↔ skipSpace bytes = byte ']' :: rest := by
  constructor
  · intro h
    have hmeets := meets_nextItem first bytes
    rw [h] at hmeets
    exact hmeets
  · intro h
    rw [nextItem, h]
    dsimp only
    rw [if_pos rfl]

theorem nextItem_eq_more_iff : nextItem first bytes = .ok (.more start) ↔
    Comes first bytes start ∧ ∃ b more, start = b :: more ∧ b ≠ byte ']' := by
  constructor
  · intro h
    have hmeets := meets_nextItem first bytes
    rw [h] at hmeets
    refine ⟨hmeets, ?_⟩
    unfold nextItem at h
    split at h
    · cases h
    split at h
    · cases h
    rename_i hclose
    split at h
    · cases h
      exact ⟨_, _, rfl, hclose⟩
    split at h
    swap
    · cases h
    split at h
    · cases h
    split at h
    · cases h
    · rename_i hclose
      cases h
      exact ⟨_, _, rfl, hclose⟩
  · rintro ⟨h, b, more, rfl, hclose⟩
    cases first with
    | true =>
        rw [nextItem, ← show b :: more = skipSpace bytes from h]
        dsimp only
        rw [if_neg hclose, if_pos rfl]
    | false =>
        obtain ⟨after, hcomma, hafter⟩ := h
        rw [nextItem, hcomma]
        dsimp only
        rw [if_neg (by decide), if_neg (by decide), if_pos rfl, ← hafter]
        dsimp only
        rw [if_neg hclose]

theorem nextMember_eq_done_iff :
    nextMember first bytes = .ok (.done rest) ↔ skipSpace bytes = byte '\x7d' :: rest := by
  constructor
  · intro h
    have hmeets := meets_nextMember first bytes
    rw [h] at hmeets
    exact hmeets
  · intro h
    rw [nextMember, h]
    dsimp only
    rw [if_pos rfl]

theorem nextMember_eq_more_iff : nextMember first bytes = .ok (.more start) ↔
    Comes first bytes (byte '"' :: start) := by
  constructor
  · intro h
    have hmeets := meets_nextMember first bytes
    rw [h] at hmeets
    exact hmeets
  · intro h
    cases first with
    | true =>
        rw [nextMember, ← show byte '"' :: start = skipSpace bytes from h]
        dsimp only
        rw [if_neg (by decide), if_pos rfl, if_pos rfl]
    | false =>
        obtain ⟨after, hcomma, hafter⟩ := h
        rw [nextMember, hcomma]
        dsimp only
        rw [if_neg (by decide), if_neg (by decide), if_pos rfl, ← hafter]
        dsimp only
        rw [if_pos rfl]

variable {read : Bytes → Reading Value}
  (hread : ∀ bytes value rest, read bytes = .ok (value, rest) →
    Moves (Gives read value) bytes rest ∧ rest.length < bytes.length)
include hread

theorem moves_readsItems {items : List Value} (h : ReadsItems read first bytes items rest) :
    Moves (fun x y => ReadsItems read first x items y) bytes rest := by
  induction h with
  | done hnext =>
      exact (moves_skipSpace_cons (nextItem_eq_done_iff.mp hnext)).imp fun _ _ h =>
        .done (nextItem_eq_done_iff.mpr h)
  | more hnext hitem _ ih =>
      obtain ⟨hcomes, b, more, rfl, hb⟩ := nextItem_eq_more_iff.mp hnext
      obtain ⟨hmoves, hlength⟩ := hread _ _ _ hitem
      have hafter := ih.length_le
      refine (moves_comes ((hmoves.keepFirst hlength).comp ih) hcomes (by omega)).imp ?_
      rintro x y ⟨_, ⟨-, hcomes⟩, w, ⟨⟨z, rfl⟩, hitem⟩, hmore⟩
      exact .more (nextItem_eq_more_iff.mpr ⟨hcomes, b, z, rfl, hb⟩) hitem hmore

theorem moves_readItems {fuel : Nat} {items : List Value}
    (h : readItems read fuel true bytes = .ok (items, rest)) :
    Moves (Gives (fun x => readItems read (x.length + 1) true x) items) bytes rest :=
  (moves_readsItems hread (readsItems_of_readItems h)).imp fun _ _ hx =>
    hx.readItems_eq (fun _ _ _ h => (hread _ _ _ h).2) (Nat.lt_succ_self _)

/-- A member is read: its key, a colon and its value. -/
def GivesMember (read : Bytes → Reading Value) (member : Text × Value) : Rule := fun bytes rest =>
  ∃ start middle after, bytes = byte '"' :: start ∧ readString start = .ok (member.1, middle) ∧
    readColon middle = .ok after ∧ read after = .ok (member.2, rest)

theorem moves_givesMember {member : Text × Value} (h : GivesMember read member bytes rest) :
    Moves (GivesMember read member) bytes rest ∧ rest.length < bytes.length := by
  obtain ⟨start, middle, after, rfl, hkey, hcolon, hvalue⟩ := h
  obtain ⟨hmoves, -⟩ := hread _ _ _ hvalue
  have hmember := (moves_readString hkey).comp ((moves_readColon hcolon).comp hmoves)
  refine ⟨hmember.cons fun x y hx => ?_, Nat.lt_succ_of_le hmember.length_le⟩
  obtain ⟨_, hkey, _, hcolon, hvalue⟩ := hx
  exact ⟨x, _, _, rfl, hkey, hcolon, hvalue⟩

omit hread

theorem enters_of_readMembers : ∀ {fuel : Nat} {first : Bool} {bytes : Bytes}
    {members : List (Text × Value)}, readMembers read fuel first bytes = .ok (members, rest) →
      Enters '\x7d' (GivesMember read) first members bytes rest := by
  intro fuel
  induction fuel with
  | zero => exact nofun
  | succ fuel ih =>
      intro first bytes members h
      unfold readMembers at h
      split at h
      · cases h
      · rename_i hnext
        cases h
        exact .done (nextMember_eq_done_iff.mp hnext)
      rename_i start hnext
      split at h
      · cases h
      rename_i key middle hkey
      split at h
      · cases h
      rename_i after hcolon
      split at h
      · cases h
      rename_i value later hvalue
      split at h
      · cases h
      rename_i others last hothers
      cases h
      exact .more (nextMember_eq_more_iff.mp hnext)
        ⟨start, middle, after, rfl, hkey, hcolon, hvalue⟩ (ih hothers)

include hread

/-- There is fuel enough for all members when there is more of it than bytes. -/
theorem Enters.readMembers_eq {members : List (Text × Value)}
    (h : Enters '\x7d' (GivesMember read) first members bytes rest) :
    ∀ {fuel : Nat}, bytes.length < fuel →
      readMembers read fuel first bytes = .ok (members, rest) := by
  induction h with
  | done h =>
      intro fuel hfuel
      obtain ⟨fuel, rfl⟩ : ∃ k, fuel = k + 1 := ⟨fuel - 1, by omega⟩
      rw [readMembers, nextMember_eq_done_iff.mpr h]
  | more hcomes hmember _ ih =>
      intro fuel hfuel
      obtain ⟨fuel, rfl⟩ : ∃ k, fuel = k + 1 := ⟨fuel - 1, by omega⟩
      obtain ⟨-, hshorter⟩ := moves_givesMember hread hmember
      have hstart := Comes.length_le hcomes
      obtain ⟨_, _, _, rfl, hkey, hcolon, hvalue⟩ := hmember
      rw [readMembers, nextMember_eq_more_iff.mpr hcomes]
      dsimp only
      rw [hkey]
      dsimp only
      rw [hcolon]
      dsimp only
      rw [hvalue]
      dsimp only
      rw [ih (by omega)]

theorem moves_readMembers {fuel : Nat} {members : List (Text × Value)}
    (h : readMembers read fuel true bytes = .ok (members, rest)) :
    Moves (Gives (fun x => readMembers read (x.length + 1) true x) members) bytes rest := by
  refine ((enters_of_readMembers h).moves ?_).imp fun _ _ hx =>
    hx.readMembers_eq hread (Nat.lt_succ_self _)
  exact fun _ _ _ => moves_givesMember hread

end Entries

/-! ### Values -/

section Values

variable {depth : Nat} {b : UInt8} {value : Value} {bytes rest : Bytes}

/-- A word, told by its first letter. -/
theorem moves_word {word : Value} {letters : Text}
    (hopens : ∀ x, readValue depth (b :: x) = readWord word letters x)
    (h : readValue depth (b :: bytes) = .ok (value, rest)) :
    Moves (Gives (readValue depth) value) (b :: bytes) rest := by
  rw [hopens] at h
  exact (moves_readWord h).cons fun x y hx => (hopens x).trans hx

/-- What a reader of its own takes, told by the first byte. -/
theorem moves_told {α : Type} {read : Bytes → Reading α} {f : α → Value}
    (hopens : ∀ x, readValue depth (b :: x) = wrap f (read x))
    (hread : ∀ a, read bytes = .ok (a, rest) → Moves (Gives read a) bytes rest)
    (h : readValue depth (b :: bytes) = .ok (value, rest)) :
    Moves (Gives (readValue depth) value) (b :: bytes) rest := by
  rw [hopens] at h
  obtain ⟨a, ha, rfl⟩ := exists_of_wrap h
  refine (hread a ha).cons fun x y hx => ?_
  dsimp only [Gives] at hx ⊢
  rw [hopens, hx]
  rfl

theorem moves_digit (hb : isDigit b = true) (h : readValue depth (b :: bytes) = .ok (value, rest)) :
    Moves (Gives (readValue depth) value) (b :: bytes) rest := by
  have hlength := (past_of_readValue h).length_lt
  rw [readValue_digit hb] at h
  obtain ⟨n, hnumber, rfl⟩ := exists_of_wrap h
  refine ((moves_readNumber hnumber).keepFirst hlength).imp ?_
  rintro _ y ⟨⟨x, rfl⟩, hx⟩
  dsimp only [Gives] at hx ⊢
  rw [readValue_digit hb, hx]
  rfl

/-- A value that begins with no blank, when those less deep are read again. -/
theorem moves_readValue_cons (hinner : ∀ inner < depth, ∀ bytes value rest,
      readValue inner bytes = .ok (value, rest) →
        Moves (Gives (readValue inner) value) bytes rest)
    (hb : isSpace b = false) (h : readValue depth (b :: bytes) = .ok (value, rest)) :
    Moves (Gives (readValue depth) value) (b :: bytes) rest := by
  have hopens : ∀ x, skipSpace (b :: x) = b :: x := fun x => skipSpace_cons hb x
  have hcases := h
  rw [readValue.eq_def, hopens] at hcases
  dsimp only at hcases
  split at hcases
  · rename_i hn
    subst hn
    exact moves_word (fun x => readValue_null depth (hopens x)) h
  split at hcases
  · rename_i ht
    subst ht
    exact moves_word (fun x => by rw [readValue.eq_def, hopens]; rfl) h
  split at hcases
  · rename_i hf
    subst hf
    exact moves_word (fun x => by rw [readValue.eq_def, hopens]; rfl) h
  split at hcases
  · rename_i hminus
    subst hminus
    exact moves_told (fun x => by rw [readValue.eq_def, hopens]; rfl)
      (fun _ => moves_readNumber) h
  split at hcases
  · rename_i hdigit
    exact moves_digit hdigit h
  split at hcases
  · rename_i hquote
    subst hquote
    exact moves_told (fun x => by rw [readValue.eq_def, hopens]; rfl)
      (fun _ => moves_readString) h
  split at hcases
  · rename_i hbracket
    subst hbracket
    cases depth with
    | zero => cases hcases
    | succ inner =>
        have hread := fun bytes value rest h => And.intro
          (hinner inner (Nat.lt_succ_self inner) bytes value rest h) (past_of_readValue h).length_lt
        exact moves_told (fun x => readValue_array inner (hopens x))
          (fun _ => moves_readItems hread) h
  split at hcases
  · rename_i hbrace
    subst hbrace
    cases depth with
    | zero => cases hcases
    | succ inner =>
        have hread := fun bytes value rest h => And.intro
          (hinner inner (Nat.lt_succ_self inner) bytes value rest h) (past_of_readValue h).length_lt
        exact moves_told (fun x => readValue_object inner (hopens x))
          (fun _ => moves_readMembers hread) h
  · cases hcases

/-- **A value is read again** wherever it stands. -/
theorem moves_readValue (depth : Nat) : ∀ {bytes rest : Bytes} {value : Value},
    readValue depth bytes = .ok (value, rest) →
      Moves (Gives (readValue depth) value) bytes rest := by
  induction depth using Nat.strong_induction_on with
  | _ depth ih =>
      intro bytes rest value h
      rw [← readValue_skipSpace] at h
      have hlength := (past_of_readValue h).length_lt
      have hopened : Moves (Gives (readValue depth) value) (skipSpace bytes) rest := by
        cases hspace : skipSpace bytes with
        | nil =>
            rw [hspace] at hlength
            exact absurd hlength (Nat.not_lt_zero _)
        | cons b more =>
            rw [hspace] at h
            exact moves_readValue_cons (fun inner hlt _ _ _ => ih inner hlt)
              (eq_false_of_dropWhile hspace) h
      exact (hopened.skipSpace hlength).imp fun x y hx => by
        dsimp only [Gives] at hx ⊢
        rwa [readValue_skipSpace] at hx

end Values

end VarlinkClient.Json
