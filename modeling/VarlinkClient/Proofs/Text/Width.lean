/-
The width of a text and the widths of its characters.

Two measures of a text are in use: a line is wrapped by what its characters take one by one, and
members are measured exactly, with what is drawn as one.  On plain text, which has no controls
and asks for no emoji, the exact width is at most the sum of what the characters take
(`text_le_columns`), and that is at most the number of bytes of the text (`columns_le_encode`).
-/
import VarlinkClient.Proofs.Text.Utf8
import VarlinkClient.Text.Width

namespace VarlinkClient

namespace Ranges

/-- The ranges have no code point in common with the others. -/
def areApart (ranges others : Ranges) : Bool :=
  ranges.all fun range => others.all fun other => range.2.blt other.1 || other.2.blt range.1

theorem contains_eq_false {ranges others : Ranges} (hapart : ranges.areApart others = true)
    {n : Nat} (h : ranges.contains n = true) : others.contains n = false := by
  obtain ⟨range, hrange, hin⟩ := List.any_eq_true.mp h
  refine List.any_eq_false.mpr fun other hother => ?_
  have hends := List.all_eq_true.mp (List.all_eq_true.mp hapart range hrange) other hother
  simp at hin hends ⊢
  omega

end Ranges

namespace Width

/-! ### The sum of what characters take -/

/-- How many columns the characters of a text take, one by one. -/
def columns : Text → Nat
  | [] => 0
  | c :: rest => char c + columns rest

@[simp] theorem columns_nil : columns [] = 0 := rfl

@[simp] theorem columns_cons (c : Char) (t : Text) : columns (c :: t) = char c + columns t := rfl

@[simp] theorem columns_append (s t : Text) : columns (s ++ t) = columns s + columns t := by
  induction s with
  | nil => exact (Nat.zero_add _).symm
  | cons c rest ih => rw [List.cons_append, columns_cons, columns_cons, ih, Nat.add_assoc]

theorem columns_replicate_blank (n : Nat) : columns (List.replicate n ' ') = n := by
  induction n with
  | zero => rfl
  | succ n ih =>
      have hblank : char ' ' = 1 := by decide
      rw [List.replicate_succ, columns_cons, ih, hblank, Nat.add_comm]

/-- A text without escape characters has no escape sequences. -/
theorem glyphs_of_free {t : Text} (h : '\x1b' ∉ t) : glyphs t = t.map Glyph.shown := by
  induction t with
  | nil => rfl
  | cons c rest ih =>
      have hc : c ≠ '\x1b' := fun heq => h (heq ▸ List.mem_cons_self)
      have hrest := ih fun hmem => h (List.mem_cons_of_mem _ hmem)
      rw [glyphs, split]
      rw [if_neg hc, List.map_cons, ← hrest, glyphs]

theorem line_of_free {t : Text} (h : '\x1b' ∉ t) : line t = columns t := by
  rw [line, glyphs_of_free h]
  clear h
  induction t with
  | nil => rfl
  | cons c rest ih => rw [List.map_cons, List.foldr_cons, ih, columns_cons, Glyph.width]

/-! ### Bounds on single characters -/

/-- No character takes more than three columns. -/
theorem shownChar_le (c : Char) : shownChar c ≤ 3 := by
  unfold shownChar
  dsimp only
  split_ifs <;> omega

/-- One takes three, and no other more than two. -/
theorem shownChar_le_two {c : Char} (h : c ≠ '\u17d8') : shownChar c ≤ 2 := by
  have hn : c.toNat ≠ 0x17D8 := fun heq => h (Char.toNat_inj.mp heq)
  unfold shownChar
  dsimp only
  rw [if_neg hn]
  split_ifs <;> omega

theorem char_le_shownChar (c : Char) : char c ≤ shownChar c := by
  unfold char
  split_ifs
  · exact Nat.zero_le _
  · exact Nat.le_refl _

/-- No character takes more columns than bytes. -/
theorem shownChar_le_encodeChar (c : Char) : shownChar c ≤ (Utf8.encodeChar c).length := by
  unfold shownChar Utf8.encodeChar
  dsimp only
  split_ifs <;> simp <;> omega

/-- **A text takes no more columns than bytes.** -/
theorem columns_le_encode (t : Text) : columns t ≤ (Utf8.encode t).length := by
  induction t with
  | nil => exact Nat.le_refl _
  | cons c rest ih =>
      have hc := Nat.le_trans (char_le_shownChar c) (shownChar_le_encodeChar c)
      rw [columns_cons, Utf8.encode_cons, List.length_append]
      exact Nat.add_le_add hc ih

/-! ### The exact width -/

/-- The text has no controls and asks for no emoji. -/
def IsPlain (t : Text) : Prop :=
  ∀ c ∈ t, isControl c = false ∧ c ≠ '\uFE0F'

/-- What follows asks for an emoji. -/
def Following.asksForEmoji : Following → Bool
  | emojiSelector | joinedEmojiSelector => true
  | _ => false

theorem asksForEmoji_kind {c : Char} (h : c ≠ '\uFE0F') : (kind c).asksForEmoji = false := by
  have hn : c.toNat ≠ 0xFE0F := fun heq => h (Char.toNat_inj.mp heq)
  unfold kind
  dsimp only
  split_ifs <;> rfl

/-- An emoji that is shown as one anyway takes a column at least. -/
theorem one_le_shownChar {c : Char} (h : emojiPresentationRanges.contains c.toNat = true) :
    1 ≤ shownChar c := by
  have hapart : emojiPresentationRanges.areApart zeroWidthRanges = true := by decide +kernel
  have hzero := Ranges.contains_eq_false hapart h
  unfold shownChar
  dsimp only
  rw [hzero]
  split_ifs <;> simp at *

/-- In front of what asks for no emoji, a character adds no more than it takes. -/
theorem before_le {c : Char} {next : Following} (hc : c ≠ '\uFE0F')
    (hnext : next.asksForEmoji = false) :
    (before c next).1 ≤ shownChar c ∧ (before c next).2.asksForEmoji = false := by
  have hn : c.toNat ≠ 0xFE0F := fun heq => hc (Char.toNat_inj.mp heq)
  have hown : (onItsOwn c).1 ≤ shownChar c ∧ (onItsOwn c).2.asksForEmoji = false :=
    ⟨Int.le_refl _, asksForEmoji_kind hc⟩
  have hzero : ∀ {found : Following}, found.asksForEmoji = false →
      ((0, found) : Int × Following).1 ≤ shownChar c ∧
        ((0, found) : Int × Following).2.asksForEmoji = false := fun hfound =>
    ⟨Int.natCast_nonneg _, hfound⟩
  unfold before
  dsimp only
  cases next with
  | emojiSelector => simp [Following.asksForEmoji] at hnext
  | joinedEmojiSelector => simp [Following.asksForEmoji] at hnext
  | textSelector =>
      dsimp only
      split_ifs with hemoji
      · exact ⟨by have hone := one_le_shownChar hemoji; dsimp only; omega, rfl⟩
      · exact hown
  | khmerLetter =>
      dsimp only
      split_ifs
      · exact ⟨by dsimp only; omega, rfl⟩
      · exact hown
  | joinedEmoji => dsimp only; rw [if_neg hn]; split_ifs; exacts [hzero rfl, hzero rfl, hown]
  | plain => exact hown
  | lineFeed => dsimp only; split_ifs; exacts [hzero rfl, hown]
  | modifier => dsimp only; split_ifs; exacts [hzero rfl, hzero rfl, hown]
  | emoji => dsimp only; split_ifs; exacts [hzero rfl, hown]
  | alef => dsimp only; split_ifs; exacts [hzero rfl, hzero rfl, hown]
  | lisuTone => dsimp only; split_ifs; exacts [hzero rfl, hown]

/-- **The exact width of plain text is at most the sum of what its characters take.** -/
theorem text_le_columns {t : Text} (h : IsPlain t) : text t ≤ columns t := by
  have hscan : (scan t).1 ≤ columns t ∧ (scan t).2.asksForEmoji = false := by
    induction t with
    | nil => exact ⟨Int.le_refl _, rfl⟩
    | cons c rest ih =>
        obtain ⟨hcontrol, hc⟩ := h c List.mem_cons_self
        obtain ⟨hrest, hnext⟩ := ih fun d hd => h d (List.mem_cons_of_mem _ hd)
        obtain ⟨hle, hfound⟩ := before_le hc hnext
        have hchar : char c = shownChar c := by rw [char, hcontrol]; rfl
        rw [scan]
        dsimp only
        rw [columns_cons, hchar]
        exact ⟨by push_cast; omega, hfound⟩
  rw [text]
  omega

end Width

end VarlinkClient
