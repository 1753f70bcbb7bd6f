/-
The layout of values, with and without colour.

Items and members are joined by commas, each with its indentation in front.  Keys and strings
are quoted before they are painted, and a quoted text has no control character in it, no escape
character above all, so colour adds to a layout nothing but its own sequences, whatever the
value holds.
-/
import VarlinkClient.Json.Layout
import VarlinkClient.Proofs.Json.Numbers
import VarlinkClient.Proofs.Palette

namespace VarlinkClient.Json

/-! ### Joined entries -/

theorem mem_indent {depth : Nat} {c : Char} (h : c ∈ indent depth) : c = ' ' :=
  List.eq_of_mem_replicate h

theorem itemsLayout_eq (palette : Palette) (depth : Nat) (items : List Value) :
    itemsLayout palette depth items = Text.join ",\n"
      (items.map fun item => indent depth ++ item.layout palette depth) := by
  induction items with
  | nil => rfl
  | cons item items ih =>
      cases items with
      | nil => simp [itemsLayout, Text.join]
      | cons next others =>
          rw [itemsLayout, ih]
          · simp [Text.join]
          · exact List.cons_ne_nil next others

/-- The line of a member, without the indentation. -/
def memberLayout (palette : Palette) (depth : Nat) (member : Text × Value) : Text :=
  palette.paint .key (quote member.1) ++ ": " ++ member.2.layout palette depth

theorem membersLayout_eq (palette : Palette) (depth : Nat) (members : List (Text × Value)) :
    membersLayout palette depth members = Text.join ",\n"
      (members.map fun member => indent depth ++ memberLayout palette depth member) := by
  induction members with
  | nil => rfl
  | cons member members ih =>
      cases members with
      | nil => simp [membersLayout, memberLayout, Text.join]
      | cons next others =>
          rw [membersLayout, ih]
          · simp [Text.join, memberLayout]
          · exact List.cons_ne_nil next others

/-! ### No control characters -/

/-- The text has no control characters. -/
def IsClean (t : Text) : Prop :=
  ∀ c ∈ t, 0x20 ≤ c.toNat

instance (t : Text) : Decidable (IsClean t) :=
  inferInstanceAs (Decidable (∀ c ∈ t, 0x20 ≤ c.toNat))

theorem IsClean.notMem {t : Text} (h : IsClean t) {c : Char} (hc : c.toNat < 0x20) : c ∉ t :=
  fun hmem => absurd (h c hmem) (Nat.not_le.mpr hc)

theorem IsClean.append {t u : Text} (ht : IsClean t) (hu : IsClean u) : IsClean (t ++ u) :=
  List.forall_mem_append.mpr ⟨ht, hu⟩

theorem IsClean.cons {c : Char} (hc : 0x20 ≤ c.toNat) {t : Text} (ht : IsClean t) :
    IsClean (c :: t) :=
  List.forall_mem_cons.mpr ⟨hc, ht⟩

theorem isClean_ofNat (n : Nat) : IsClean (Text.ofNat n) := by
  intro c hc
  have hdigit := toNat_of_isDigit (Text.isDigit_of_mem_ofNat hc)
  omega

theorem isClean_escape (c : Char) : IsClean (escape c) := by
  have hdigit : ∀ n, 0x20 ≤ (hexDigit n).toNat := by
    have hall : ∀ k < 16, 0x20 ≤ (Nat.digitChar k).toNat := by decide
    exact fun n => hall (n % 16) (Nat.mod_lt n (by decide))
  unfold escape
  split
  · decide
  split
  · decide
  split
  · decide
  split
  · decide
  split
  · decide
  split
  · decide
  split
  · decide
  split
  · simp [IsClean, hdigit]
  · rename_i hspace
    simpa [IsClean] using hspace

theorem isClean_quote (t : Text) : IsClean (quote t) := by
  have hinner : IsClean (t.flatMap escape) := by
    intro c hc
    obtain ⟨d, -, hd⟩ := List.mem_flatMap.mp hc
    exact isClean_escape d c hd
  exact (hinner.cons (by decide)).append (by decide)

theorem isClean_positional {digits : Text} (h : IsClean digits) (point : Int) :
    IsClean (positional digits point) := by
  have hzeros : ∀ n, IsClean (List.replicate n '0') := by
    intro n c hc
    rw [List.eq_of_mem_replicate hc]
    decide
  have htake : ∀ n, IsClean (digits.take n) := fun _ c hc => h c (List.mem_of_mem_take hc)
  have hdrop : ∀ n, IsClean (digits.drop n) := fun _ c hc => h c (List.mem_of_mem_drop hc)
  have hstart : IsClean "0.".toList ∧ IsClean ".0".toList ∧ IsClean ".".toList := by decide
  rw [positional]
  split
  · exact (hstart.1.append (hzeros _)).append h
  · dsimp only
    split
    · exact (h.append (hzeros _)).append hstart.2.1
    · exact ((htake _).append hstart.2.2).append (hdrop _)

theorem isClean_scientific {digits : Text} (h : IsClean digits) (point : Int) :
    IsClean (scientific digits point) := by
  unfold scientific
  refine IsClean.append (IsClean.append ?_ ?_) (isClean_ofNat _)
  · split
    · rename_i first d rest
      have hfirst := h first (by simp)
      exact (IsClean.cons (by decide) fun c hc => h c (by simp [hc])).cons hfirst
    · exact h
  · split <;> decide

theorem isClean_realText (x : Binary64) : IsClean (realText x) := by
  have hmagnitude : ∀ point : Int,
      IsClean (positional (Text.ofNat (Shortest.digits x).digits) point) ∧
        IsClean (scientific (Text.ofNat (Shortest.digits x).digits) point) := fun point =>
    ⟨isClean_positional (isClean_ofNat _) point, isClean_scientific (isClean_ofNat _) point⟩
  have hsigned : ∀ {t : Text}, IsClean t → IsClean (if x.negative then '-' :: t else t) := by
    intro t ht
    split
    · exact ht.cons (by decide)
    · exact ht
  unfold realText
  dsimp only
  refine hsigned ?_
  split
  · exact (hmagnitude _).1
  · exact (hmagnitude _).2

theorem Number.isClean_text (n : Number) : IsClean n.text := by
  cases n with
  | whole n => exact isClean_ofNat _
  | negative below => exact (isClean_ofNat _).cons (by decide)
  | real x => exact isClean_realText x

/-! ### Colour -/

open Palette (Shows shows_of_notMem forall₂_shows_map)

theorem shows_indent (depth : Nat) : Shows (indent depth) (indent depth) :=
  shows_of_notMem fun h => absurd (mem_indent h) (by decide)

/-- Between its brackets a container shows its entries, when each of them shows itself. -/
theorem shows_container {α : Type} {first last : Text} (hfirst : '\x1b' ∉ first)
    (hlast : '\x1b' ∉ last) {colored plain : α → Text} {entries : List α}
    (h : ∀ a ∈ entries, Shows (colored a) (plain a)) (depth : Nat) :
    Shows
      (first ++ Text.join ",\n" (entries.map fun a => indent (depth + 1) ++ colored a) ++ "\n" ++
        indent depth ++ last)
      (first ++ Text.join ",\n" (entries.map fun a => indent (depth + 1) ++ plain a) ++ "\n" ++
        indent depth ++ last) := by
  have hcomma : Shows ",\n".toList ",\n".toList := shows_of_notMem (by decide)
  have hline : Shows "\n".toList "\n".toList := shows_of_notMem (by decide)
  have hentries := hcomma.join
    (forall₂_shows_map fun a ha => (shows_indent (depth + 1)).append (h a ha))
  exact ((((shows_of_notMem hfirst).append hentries).append hline).append
    (shows_indent depth)).append (shows_of_notMem hlast)

mutual

/-- **The layout with colour shows the layout without**, whatever the value. -/
theorem Value.shows_layout (depth : Nat) :
    (value : Value) → Shows (value.layout .colored depth) (value.layout .plain depth)
  | .array [] => shows_of_notMem (t := "[]") (by decide)
  | .array (item :: items) => by
      rw [Value.layout, Value.layout, itemsLayout_eq, itemsLayout_eq]
      exact shows_container (by decide) (by decide) (shows_items (depth + 1) (item :: items)) depth
  | .object [] => shows_of_notMem (t := "\x7b\x7d") (by decide)
  | .object (member :: members) => by
      rw [Value.layout, Value.layout, membersLayout_eq, membersLayout_eq]
      refine shows_container (by decide) (by decide) (fun m hm => ?_) depth
      have hkey := Palette.shows_paint .key ((isClean_quote m.1).notMem (by decide))
      exact (hkey.append (shows_of_notMem (by decide))).append
        (shows_members (depth + 1) (member :: members) m hm)
  | .string t => Palette.shows_paint .string ((isClean_quote t).notMem (by decide))
  | .null => shows_of_notMem (t := Value.text .null) (by decide)
  | .bool b => shows_of_notMem (t := Value.text (.bool b)) (by cases b <;> decide)
  | .number n => shows_of_notMem (t := Value.text (.number n)) (n.isClean_text.notMem (by decide))

theorem shows_items (depth : Nat) : (items : List Value) → ∀ v ∈ items,
    Shows (v.layout .colored depth) (v.layout .plain depth)
  | [], _, h => by cases h
  | item :: items, v, h => by
      rcases List.mem_cons.mp h with h | h
      · rw [h]
        exact item.shows_layout depth
      · exact shows_items depth items v h

theorem shows_members (depth : Nat) : (members : List (Text × Value)) → ∀ m ∈ members,
    Shows (m.2.layout .colored depth) (m.2.layout .plain depth)
  | [], _, h => by cases h
  | (key, value) :: members, m, h => by
      rcases List.mem_cons.mp h with h | h
      · rw [h]
        exact value.shows_layout depth
      · exact shows_members depth members m h

end

end VarlinkClient.Json
