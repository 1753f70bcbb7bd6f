/-
How far a value goes.

Only a number can be cut short or continued: a container, a string and a word show where they end.
So a value ends in one place in front of bytes that do not continue a number (`Follows`), and
that is where the passing over stops.  It passes over whatever the grammar takes for a value,
however deep (`skipWithin_of_value`); there is one lemma for each function that skips, in the
order in which the functions call each other.  As it can stop only once, two values that are read
from the same bytes end together (`value_unique`).
-/
import VarlinkClient.Proofs.Json.Encoding
import VarlinkClient.Proofs.Json.Skip
import VarlinkClient.Proofs.Json.Spelling

namespace VarlinkClient.Json

open Grammar

variable {test : Bytes → Prop} {bytes rest : Bytes}

/-! ### Where values begin and end -/

/-- Nothing that begins with blanks and then such a byte continues a number. -/
theorem follows_of_skipSpace {b : UInt8} (h : skipSpace bytes = b :: rest)
    (hb : isDigit b = false ∧ b ≠ byte '.' ∧ b ≠ byte 'e' ∧ b ≠ byte 'E') : Follows bytes := by
  cases bytes with
  | nil => cases h
  | cons c bytes =>
      cases hc : isSpace c with
      | false =>
          rw [skipSpace_cons hc] at h
          cases h
          exact follows_cons hb
      | true =>
          refine follows_cons ?_
          simp only [isSpace, Bool.or_eq_true, beq_iff_eq] at hc
          rcases hc with ((rfl | rfl) | rfl) | rfl <;> decide

theorem follows_of_afterEntry {close : Char} {entry : Rule}
    (hclose : isDigit (byte close) = false ∧ byte close ≠ byte '.' ∧ byte close ≠ byte 'e' ∧
      byte close ≠ byte 'E') (h : AfterEntry close entry bytes rest) : Follows bytes := by
  cases h with
  | done h => exact follows_of_skipSpace h hclose
  | more h => exact follows_of_skipSpace h (by decide)

/-- The bytes begin with one that is no blank and closes nothing. -/
def Begins (bytes : Bytes) : Prop :=
  ∃ b rest, bytes = b :: rest ∧ isSpace b = false ∧ b ≠ byte ']' ∧ b ≠ byte '\x7d'

theorem begins_of_isDigit {b : UInt8} (h : isDigit b = true) (rest : Bytes) : Begins (b :: rest) :=
  ⟨b, rest, rfl, isSpace_of_isDigit h, ne_of_isDigit h (by decide), ne_of_isDigit h (by decide)⟩

theorem begins_magnitude (h : Magnitude bytes rest) : Begins bytes := by
  cases h with
  | zero _ => exact begins_of_isDigit (by decide) _
  | digits hb _ _ _ => exact begins_of_isDigit hb _

theorem begins_scalar (h : Scalar test bytes rest) : Begins bytes := by
  cases h with
  | word h =>
      simp only [words, List.mem_cons, List.not_mem_nil, or_false] at h
      rcases h with rfl | rfl | rfl <;> exact ⟨_, _, rfl, by decide⟩
  | number h => exact begins_magnitude h
  | negative _ => exact ⟨_, _, rfl, by decide⟩
  | string _ => exact ⟨_, _, rfl, by decide⟩

theorem begins_value {depth : Nat} (h : Grammar.Value test depth bytes rest) : Begins bytes := by
  cases depth with
  | zero => exact begins_scalar h
  | succ depth =>
      rcases h with h | h
      · exact begins_scalar h
      cases h with
      | array _ => exact ⟨_, _, rfl, by decide⟩
      | object _ => exact ⟨_, _, rfl, by decide⟩

theorem Begins.skipSpace_eq (h : Begins bytes) : skipSpace bytes = bytes := by
  obtain ⟨b, rest, rfl, hb, -⟩ := h
  exact skipSpace_cons hb rest

/-! ### Numbers -/

theorem dropWhile_of_maybeDigits (h : MaybeDigits bytes rest)
    (hrest : startsWithDigit rest = false) : bytes.dropWhile isDigit = rest := by
  obtain ⟨taken, htaken, rfl⟩ := h
  rw [List.dropWhile_append_of_pos htaken]
  cases rest with
  | nil => rfl
  | cons b rest => exact List.dropWhile_cons_of_neg (by simpa [startsWithDigit] using hrest)

/-- What follows the digits of a number begins with no digit. -/
theorem startsWithDigit_exponent (h : Exponent bytes rest) (hrest : Follows rest) :
    startsWithDigit bytes = false := by
  cases h with
  | absent => exact hrest.startsWithDigit
  | power he _ => rcases he with rfl | rfl <;> rfl

theorem startsWithDigit_afterWhole (h : AfterWhole bytes rest) (hrest : Follows rest) :
    startsWithDigit bytes = false := by
  cases h with
  | exponent h => exact startsWithDigit_exponent h hrest
  | fraction _ _ => rfl

theorem skipExponent_of_withoutSign {b : UInt8} {more : Bytes} (h : withoutSign bytes = b :: more)
    (hb : isDigit b = true) : skipExponent bytes = .ok (more.dropWhile isDigit) := by
  unfold skipExponent
  dsimp only
  split
  · rename_i hunsigned
    cases h.symm.trans hunsigned
  · rename_i c after hunsigned
    cases h.symm.trans hunsigned
    rw [if_pos hb]

theorem skipExponent_of_power (h : Power bytes rest) (hrest : Follows rest) :
    skipExponent bytes = .ok rest := by
  cases h with
  | plain h =>
      obtain @⟨b, _, _, hb, hmore⟩ := h
      have hsign : ¬ (b = byte '+' ∨ b = byte '-') := by
        rintro (hsign | hsign)
        · exact ne_of_isDigit hb (by decide) hsign
        · exact ne_of_isDigit hb (by decide) hsign
      rw [skipExponent_of_withoutSign (by rw [withoutSign, if_neg hsign]) hb,
        dropWhile_of_maybeDigits hmore hrest.startsWithDigit]
  | signed hsign h =>
      obtain ⟨hb, hmore⟩ := h
      rw [skipExponent_of_withoutSign (by rw [withoutSign, if_pos hsign]) hb,
        dropWhile_of_maybeDigits hmore hrest.startsWithDigit]

theorem skipTail_of_exponent (h : Exponent bytes rest) (hrest : Follows rest) :
    skipTail bytes = .ok rest := by
  cases h with
  | absent =>
      cases bytes with
      | nil => rfl
      | cons b bytes =>
          obtain ⟨-, -, hsmall, hlarge⟩ := hrest b rfl
          rw [skipTail, if_neg (by simp [hsmall, hlarge])]
  | power he h => rw [skipTail, if_pos he, skipExponent_of_power h hrest]

theorem skipAfterWhole_of_afterWhole (h : AfterWhole bytes rest) (hrest : Follows rest) :
    skipAfterWhole bytes = .ok rest := by
  cases h with
  | exponent h =>
      rw [← skipTail_of_exponent h hrest]
      cases h with
      | absent =>
          cases bytes with
          | nil => rfl
          | cons b bytes => rw [skipAfterWhole, if_neg (hrest b rfl).2.1]
      | power he _ =>
          rw [skipAfterWhole, if_neg (by rcases he with rfl | rfl <;> decide)]
  | fraction hdigits h =>
      have hmiddle := startsWithDigit_exponent h hrest
      obtain ⟨hb, hmore⟩ := id hdigits
      rw [skipAfterWhole, if_pos rfl, if_pos (by simpa [startsWithDigit] using hb),
        dropWhile_of_maybeDigits hdigits.maybe hmiddle, skipTail_of_exponent h hrest]

theorem skipNumber_of_magnitude (h : Magnitude bytes rest) (hrest : Follows rest) :
    skipNumber bytes = .ok rest := by
  cases h with
  | zero h =>
      rw [skipNumber, if_pos rfl, if_neg (by simp [startsWithDigit_afterWhole h hrest]),
        skipAfterWhole_of_afterWhole h hrest]
  | digits hb hzero hdigits h =>
      rw [skipNumber, if_neg hzero, if_pos hb,
        dropWhile_of_maybeDigits hdigits (startsWithDigit_afterWhole h hrest),
        skipAfterWhole_of_afterWhole h hrest]

/-! ### Strings -/

theorem isSome_escaped? : ∀ c ∈ escapeLetters, (escaped? (byte c)).isSome := by
  decide

theorem skipEscape_of_escape (h : Escape bytes rest) : skipEscape bytes = .ok rest := by
  cases h with
  | letter hletter => rw [skipEscape, if_pos (isSome_escaped? _ hletter)]
  | @unicode a b c d rest hhex =>
      obtain ⟨n, hread⟩ : ∃ n, readHex (a :: b :: c :: d :: rest) = .ok (n, rest) := by
        obtain ⟨w, hw⟩ := Option.isSome_iff_exists.mp (hhex a (by simp))
        obtain ⟨x, hx⟩ := Option.isSome_iff_exists.mp (hhex b (by simp))
        obtain ⟨y, hy⟩ := Option.isSome_iff_exists.mp (hhex c (by simp))
        obtain ⟨z, hz⟩ := Option.isSome_iff_exists.mp (hhex d (by simp))
        exact ⟨_, by rw [readHex, hw, hx, hy, hz]⟩
      rw [skipEscape, if_neg (by decide), if_pos rfl, hread]

theorem dropWhile_of_stretch {b : UInt8} (hb : isPlain b = false)
    (h : Stretch (IsPlainStretch test) bytes (b :: rest)) :
    bytes.dropWhile isPlain = b :: rest := by
  obtain ⟨taken, ⟨-, hplain⟩, rfl⟩ := h
  rw [List.dropWhile_append_of_pos hplain, List.dropWhile_cons_of_neg (by simp [hb])]

theorem skipStringWithin_of_stringTail (h : StringTail test bytes rest) :
    ∀ fuel, bytes.length < fuel → skipStringWithin fuel bytes = .ok rest := by
  induction h with
  | close h =>
      intro fuel hfuel
      obtain ⟨fuel, rfl⟩ : ∃ k, fuel = k + 1 := ⟨fuel - 1, by omega⟩
      rw [skipStringWithin, dropWhile_of_stretch (by decide) h]
      dsimp only
      rw [if_neg (by decide), if_pos rfl]
  | escape h hescape hmore ih =>
      intro fuel hfuel
      obtain ⟨fuel, rfl⟩ : ∃ k, fuel = k + 1 := ⟨fuel - 1, by omega⟩
      have hmiddle := (h.past (by decide)).length_lt
      have hafter := hescape.past.length_lt
      rw [skipStringWithin, dropWhile_of_stretch (by decide) h]
      dsimp only
      rw [if_neg (by decide), if_neg (by decide), skipEscape_of_escape hescape]
      dsimp only
      exact ih fuel (by omega)

theorem skipString_of_stringTail (h : StringTail test bytes rest) :
    skipString bytes = .ok rest :=
  skipStringWithin_of_stringTail h _ (Nat.lt_succ_self _)

/-! ### Containers -/

theorem readColon_of_skipSpace (h : skipSpace bytes = byte ':' :: rest) :
    readColon bytes = .ok rest := by
  rw [readColon, h]
  dsimp only
  rw [if_pos rfl]

/-- A key and its colon are taken in front of the value of a member. -/
theorem exists_skipKey {value : Rule} (bytes : Bytes)
    (h : ObjectMember test value (skipSpace bytes) rest) :
    ∃ start, skipKey bytes = .ok start ∧ value (skipSpace start) rest ∧
      start.length < bytes.length := by
  generalize hspace : skipSpace bytes = opened at h
  obtain ⟨hkey, hcolon, hvalue⟩ := h
  rename_i inner middle start
  have hinner := (past_of_skipSpace (by decide) hspace).length_lt
  have hmiddle := hkey.past.length_lt
  have hstart := (past_of_skipSpace (by decide) hcolon).length_lt
  refine ⟨start, ?_, hvalue, by omega⟩
  rw [skipKey, hspace]
  dsimp only
  rw [if_pos rfl, skipString_of_stringTail hkey]
  exact readColon_of_skipSpace hcolon

section Entries

variable {skip : Bytes → Except Fault Bytes} {value : Rule} {limit : Nat}
  (hskip : ∀ bytes rest, bytes.length ≤ limit → value (skipSpace bytes) rest → Follows rest →
    skip bytes = .ok rest)
  (hpast : ∀ bytes rest, value bytes rest → Past bytes rest)

include hskip hpast

theorem skipItems_of_afterEntry (h : AfterEntry ']' value bytes rest) :
    ∀ fuel, bytes.length < fuel → bytes.length ≤ limit → skipItems skip fuel bytes = .ok rest := by
  induction h with
  | done h =>
      intro fuel hfuel _
      obtain ⟨fuel, rfl⟩ : ∃ k, fuel = k + 1 := ⟨fuel - 1, by omega⟩
      rw [skipItems, h]
      dsimp only
      rw [if_pos rfl]
  | @more bytes after middle rest hcomma hitem hmore ih =>
      intro fuel hfuel hlimit
      obtain ⟨fuel, rfl⟩ : ∃ k, fuel = k + 1 := ⟨fuel - 1, by omega⟩
      have hafter := (past_of_skipSpace (by decide) hcomma).length_lt
      have hmiddle := ((after_skipSpace after).trans_past (hpast _ _ hitem)).length_lt
      have hread := hskip after middle (by omega) hitem (follows_of_afterEntry (by decide) hmore)
      rw [skipItems, hcomma]
      dsimp only
      rw [if_neg (by decide), if_pos rfl, hread]
      exact ih fuel (by omega) (by omega)

theorem skipMembers_of_afterEntry (h : AfterEntry '\x7d' (ObjectMember test value) bytes rest) :
    ∀ fuel, bytes.length < fuel → bytes.length ≤ limit →
      skipMembers skip fuel bytes = .ok rest := by
  induction h with
  | done h =>
      intro fuel hfuel _
      obtain ⟨fuel, rfl⟩ : ∃ k, fuel = k + 1 := ⟨fuel - 1, by omega⟩
      rw [skipMembers, h]
      dsimp only
      rw [if_pos rfl]
  | @more bytes after middle rest hcomma hmember hmore ih =>
      intro fuel hfuel hlimit
      obtain ⟨fuel, rfl⟩ : ∃ k, fuel = k + 1 := ⟨fuel - 1, by omega⟩
      have hafter := (past_of_skipSpace (by decide) hcomma).length_lt
      obtain ⟨start, hkey, hvalue, hstart⟩ := exists_skipKey after hmember
      have hmiddle := ((after_skipSpace start).trans_past (hpast _ _ hvalue)).length_lt
      have hread := hskip start middle (by omega) hvalue (follows_of_afterEntry (by decide) hmore)
      rw [skipMembers, hcomma]
      dsimp only
      rw [if_neg (by decide), if_pos rfl, hkey]
      dsimp only
      rw [hread]
      exact ih fuel (by omega) (by omega)

theorem skipArray_of_entries (hbegins : ∀ bytes rest, value bytes rest → Begins bytes)
    (h : Entries ']' value bytes rest) (hlimit : bytes.length ≤ limit) :
    skipArray skip bytes = .ok rest := by
  cases h with
  | none h =>
      rw [skipArray, h]
      dsimp only
      rw [if_pos rfl]
  | @some bytes middle rest hitem hmore =>
      obtain ⟨b, more, hspace, hb, hclose, -⟩ := hbegins _ _ hitem
      have hmiddle := ((after_skipSpace bytes).trans_past (hpast _ _ hitem)).length_lt
      have hlength : (b :: more).length ≤ bytes.length := by
        rw [← hspace]
        exact List.length_dropWhile_le _ _
      have hread : skip (b :: more) = .ok middle := by
        refine hskip _ _ (by omega) ?_ (follows_of_afterEntry (by decide) hmore)
        rwa [skipSpace_cons hb, ← hspace]
      rw [skipArray, hspace]
      dsimp only
      rw [if_neg hclose, hread]
      exact skipItems_of_afterEntry hskip hpast hmore _ (Nat.lt_succ_self _) (by omega)

theorem skipObject_of_entries (h : Entries '\x7d' (ObjectMember test value) bytes rest)
    (hlimit : bytes.length ≤ limit) : skipObject skip bytes = .ok rest := by
  cases h with
  | none h =>
      rw [skipObject, h]
      dsimp only
      rw [if_pos rfl]
  | @some bytes middle rest hmember hmore =>
      obtain ⟨start, hkey, hvalue, hstart⟩ := exists_skipKey (skipSpace bytes)
        (by rwa [skipSpace_skipSpace])
      have hmiddle := ((after_skipSpace start).trans_past (hpast _ _ hvalue)).length_lt
      have hlength : (skipSpace bytes).length ≤ bytes.length := List.length_dropWhile_le _ _
      have hread := hskip start middle (by omega) hvalue (follows_of_afterEntry (by decide) hmore)
      generalize hspace : skipSpace bytes = opened at hmember hkey
      cases hmember
      rw [skipObject, hspace]
      dsimp only
      rw [if_neg (by decide), hkey]
      dsimp only
      rw [hread]
      exact skipMembers_of_afterEntry hskip hpast hmore _ (Nat.lt_succ_self _) (by omega)

end Entries

/-! ### Values -/

theorem readRest_map (letters : Text) (rest : Bytes) :
    readRest letters (letters.map byte ++ rest) = .ok rest := by
  induction letters with
  | nil => rfl
  | cons c letters ih => rw [List.map_cons, List.cons_append, readRest, if_pos rfl, ih]

theorem skipWithin_of_scalar {limit : Nat} (h : Scalar test (skipSpace bytes) rest)
    (hrest : Follows rest) : skipWithin limit bytes = .ok rest := by
  rw [skipWithin.eq_def]
  generalize skipSpace bytes = opened at h
  cases h with
  | word h =>
      simp only [words, List.mem_cons, List.not_mem_nil, or_false] at h
      rcases h with rfl | rfl | rfl
      · exact readRest_map "ull" rest
      · exact readRest_map "rue" rest
      · exact readRest_map "alse" rest
  | number h =>
      obtain ⟨b, more, rfl, hb⟩ : ∃ b more, opened = b :: more ∧ isDigit b = true := by
        cases h with
        | zero _ => exact ⟨_, _, rfl, by decide⟩
        | digits hb _ _ _ => exact ⟨_, _, rfl, hb⟩
      dsimp only
      rw [if_neg (ne_of_isDigit hb (by decide)), if_neg (ne_of_isDigit hb (by decide)),
        if_neg (ne_of_isDigit hb (by decide)), if_neg (ne_of_isDigit hb (by decide)), if_pos hb,
        skipNumber_of_magnitude h hrest]
  | negative h => exact skipNumber_of_magnitude h hrest
  | string h => exact skipString_of_stringTail h

/-- **Every value is passed over**, however deep it is, when there is room for its bytes. -/
theorem skipWithin_of_value (depth : Nat) : ∀ limit bytes rest, bytes.length ≤ limit →
    Grammar.Value test depth (skipSpace bytes) rest → Follows rest →
      skipWithin limit bytes = .ok rest := by
  induction depth with
  | zero => exact fun limit bytes rest _ h hrest => skipWithin_of_scalar h hrest
  | succ depth ih =>
      rintro limit bytes rest hlimit (h | h) hrest
      · exact skipWithin_of_scalar h hrest
      have hbegins : ∀ bytes rest, Grammar.Value test depth bytes rest → Begins bytes :=
        fun _ _ => begins_value
      have hpast : ∀ bytes rest, Grammar.Value test depth bytes rest → Past bytes rest :=
        fun _ _ => Grammar.Value.past
      have hlength : (skipSpace bytes).length ≤ limit :=
        Nat.le_trans (List.length_dropWhile_le _ _) hlimit
      rw [skipWithin.eq_def]
      generalize skipSpace bytes = opened at h hlength
      cases h with
      | array h =>
          obtain ⟨inner, rfl⟩ : ∃ k, limit = k + 1 := ⟨limit - 1, by simp at hlength; omega⟩
          exact skipArray_of_entries (ih inner) hpast hbegins h (Nat.le_of_succ_le_succ hlength)
      | object h =>
          obtain ⟨inner, rfl⟩ : ∃ k, limit = k + 1 := ⟨limit - 1, by simp at hlength; omega⟩
          exact skipObject_of_entries (ih inner) hpast h (Nat.le_of_succ_le_succ hlength)

theorem skipValue_of_anyValue (h : AnyValue test (skipSpace bytes) rest) (hrest : Follows rest) :
    skipValue bytes = .ok rest := by
  obtain ⟨depth, h⟩ := h
  exact skipWithin_of_value depth bytes.length bytes rest (Nat.le_refl _) h hrest

/-- **A value ends in one place** in front of bytes that do not continue a number. -/
theorem value_unique {test' : Bytes → Prop} {rest' : Bytes} (h : AnyValue test bytes rest)
    (h' : AnyValue test' bytes rest') (hrest : Follows rest) (hrest' : Follows rest') :
    rest = rest' := by
  obtain ⟨depth, hvalue⟩ := id h
  have hspace := (begins_value hvalue).skipSpace_eq
  have hskip := skipValue_of_anyValue (hspace.symm ▸ h) hrest
  rw [skipValue_of_anyValue (hspace.symm ▸ h') hrest'] at hskip
  cases hskip
  rfl

end VarlinkClient.Json
