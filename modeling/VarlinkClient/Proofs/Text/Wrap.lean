/-
Wrapping loses nothing but blanks at the ends of lines.

Each step that cuts a line gives back parts that make up what was cut: the glyphs, the
words, the parts between hyphens, the narrow parts.  So the pieces of a line, with the
blanks after them, are the line again, `full_pieces`.  The lines that it is wrapped to are
made of these pieces, and no character comes in that was not there.
-/
import Mathlib.Data.List.Induction
import VarlinkClient.Proofs.Text.Lines
import VarlinkClient.Text.Wrap

namespace VarlinkClient

/-! ### Glyphs -/

namespace Width

/-- Outside of an escape sequence nothing of one has been read. -/
theorem text_split (t : Text) : ∀ (place : Place) (taken : Text),
    (place = .outside → taken = []) →
      (split place taken t).flatMap Glyph.text = taken.reverse ++ t := by
  induction t with
  | nil =>
      intro place taken _
      by_cases h : taken = []
      · simp [split, h]
      · simp [split, h, Glyph.text]
  | cons c rest ih =>
      intro place taken houtside
      have hfinish : (Glyph.escape (c :: taken).reverse :: split .outside [] rest).flatMap
          Glyph.text = taken.reverse ++ c :: rest := by
        rw [List.flatMap_cons, ih .outside [] fun _ => rfl]
        simp [Glyph.text]
      have hgoOn : ∀ next, next ≠ .outside →
          (split next (c :: taken) rest).flatMap Glyph.text = taken.reverse ++ c :: rest := by
        intro next hnext
        rw [ih next (c :: taken) fun h => absurd h hnext]
        simp
      unfold split
      cases place with
      | outside =>
          rw [houtside rfl] at hgoOn ⊢
          dsimp only
          split
          · exact hgoOn .begun (by simp)
          · rw [List.flatMap_cons, ih .outside [] fun _ => rfl]
            rfl
      | begun =>
          dsimp only
          split
          · exact hgoOn .control (by simp)
          · split
            · exact hgoOn (.command ']') (by simp)
            · exact hfinish
      | control =>
          dsimp only
          split
          · exact hfinish
          · exact hgoOn .control (by simp)
      | command last =>
          dsimp only
          split
          · exact hfinish
          · exact hgoOn (.command c) (by simp)

/-- The glyphs of a line make up the line. -/
theorem text_glyphs (t : Text) : (glyphs t).flatMap Glyph.text = t :=
  text_split t .outside [] fun _ => rfl

end Width

namespace Wrap

open Width (Glyph)

/-! ### Words -/

theorem text_cells (glyphs : List Glyph) : ∀ escapes : Text,
    (cells escapes glyphs).flatMap Cell.text = escapes ++ glyphs.flatMap Glyph.text := by
  induction glyphs with
  | nil =>
      intro escapes
      by_cases h : escapes = []
      · simp [cells, h]
      · simp [cells, h]
  | cons glyph rest ih =>
      intro escapes
      cases glyph with
      | escape t => rw [cells, ih]; simp [Glyph.text]
      | shown c => rw [cells, List.flatMap_cons, ih]; simp [Glyph.text]

theorem flatten_group (cells : List Cell) : ∀ flags : List Bool,
    (group cells flags).flatten = cells.flatMap Cell.text := by
  induction cells with
  | nil => intro flags; rfl
  | cons cell cells ih =>
      intro flags
      have hrest := ih flags.tail
      rw [group]
      split
      next h => rw [h] at hrest; simp [← hrest]
      next t ts h _ => rw [h] at hrest; simp [← hrest]
      next t ts h _ => rw [h] at hrest; simp [← hrest]

/-- The words of a line make up the line. -/
theorem flatten_words (line : Text) : (words line).flatten = line := by
  rw [words, flatten_group, text_cells, Width.text_glyphs, List.nil_append]

/-! ### Pieces -/

/-- A text is its bare self and the blanks after it. -/
theorem full_ofText (t : Text) : (Piece.ofText t).full = t := by
  have hsplit : t = Text.trimEnd (· = ' ') t ++
      (t.reverse.takeWhile (· = ' ')).reverse := by
    rw [Text.trimEnd, ← List.reverse_append, List.takeWhile_append_dropWhile,
      List.reverse_reverse]
  have hblanks : ∀ c ∈ (t.reverse.takeWhile (· = ' ')).reverse, c = ' ' := by
    intro c hc
    have := List.mem_takeWhile_imp (List.mem_reverse.mp hc)
    simpa using this
  have hlength := congrArg List.length hsplit
  rw [List.length_append] at hlength
  have hreplicate : (t.reverse.takeWhile (· = ' ')).reverse =
      List.replicate (t.length - (Text.trimEnd (· = ' ') t).length) ' ' :=
    List.eq_replicate_iff.mpr ⟨by omega, hblanks⟩
  rw [Piece.full, Piece.ofText, ← hreplicate]
  exact hsplit.symm

theorem flatten_splitHyphens (t : Text) : ∀ previous : Option Char,
    (splitHyphens previous t).flatten = t := by
  induction t with
  | nil => intro previous; rfl
  | cons c rest ih =>
      intro previous
      have hrest := ih (some c)
      rw [splitHyphens]
      split
      next t ts h =>
        rw [h] at hrest
        split
        · simp [← hrest]
        · simp [← hrest]
      next h => rw [h] at hrest; simp [← hrest]

/-- The parts of a list are what comes before the last, and the last. -/
private theorem dropLast_append_getLastD (parts : List Text) :
    parts.dropLast.flatten ++ parts.getLastD [] = parts.flatten := by
  cases parts with
  | nil => rfl
  | cons part parts =>
      have h := List.dropLast_append_getLast (l := part :: parts) (by simp)
      conv_rhs => rw [← h]
      rw [List.flatten_append, List.getLastD_cons, List.flatten_singleton,
        List.getLast_eq_getLastD]

theorem full_hyphenated (word : Piece) : (hyphenated word).flatMap Piece.full = word.full := by
  have hparts : ∀ parts : List Text,
      (parts.map fun t => Piece.mk t (Width.line t) 0).flatMap Piece.full = parts.flatten := by
    intro parts
    induction parts with
    | nil => rfl
    | cons part parts ih => rw [List.map_cons, List.flatMap_cons, ih]; simp [Piece.full]
  rw [hyphenated, List.flatMap_append, hparts, List.flatMap_singleton, Piece.full,
    ← List.append_assoc, dropLast_append_getLastD, flatten_splitHyphens, Piece.full]

theorem text_chop (limit : Nat) (glyphs : List Glyph) : ∀ (taken : Text) (width : Nat),
    (chop limit taken width glyphs).flatMap Prod.fst = taken ++ glyphs.flatMap Glyph.text := by
  induction glyphs with
  | nil =>
      intro taken width
      by_cases h : taken = []
      · simp [chop, h]
      · simp [chop, h]
  | cons glyph rest ih =>
      intro taken width
      cases glyph with
      | escape t => rw [chop, ih]; simp [Glyph.text]
      | shown c =>
          rw [chop]
          split
          · rw [List.flatMap_cons, ih]; simp [Glyph.text]
          · rw [ih]; simp [Glyph.text]

/-- The width of the piece is what its text takes. -/
def Piece.IsMeasured (piece : Piece) : Prop :=
  piece.width = Width.line piece.text

theorem isMeasured_of_mem_hyphenated {word piece : Piece} (h : piece ∈ hyphenated word) :
    piece.IsMeasured := by
  rw [hyphenated, List.mem_append, List.mem_map, List.mem_singleton] at h
  rcases h with ⟨t, -, rfl⟩ | rfl
  · rfl
  · rfl

theorem full_narrowed (limit : Nat) {piece : Piece} (hmeasured : piece.IsMeasured) :
    (narrowed limit piece).flatMap Piece.full = piece.full := by
  have hparts : ∀ parts : List (Text × Nat),
      (parts.map fun part => Piece.mk part.1 part.2 0).flatMap Piece.full =
        parts.flatMap Prod.fst := by
    intro parts
    induction parts with
    | nil => rfl
    | cons part parts ih => rw [List.map_cons, List.flatMap_cons, ih]; simp [Piece.full]
  by_cases hfits : piece.width ≤ limit
  · simp [narrowed, hfits]
  · rw [narrowed, if_neg hfits]
    dsimp only
    have htext : piece.text ≠ [] := by
      intro hnil
      rw [hmeasured, hnil] at hfits
      exact hfits (Nat.zero_le limit)
    have hchop := text_chop limit (Width.glyphs piece.text) [] 0
    rw [Width.text_glyphs, List.nil_append] at hchop
    cases hcut : chop limit [] 0 (Width.glyphs piece.text) using List.reverseRecOn with
    | nil => rw [hcut] at hchop; exact absurd hchop.symm htext
    | append_singleton parts last _ =>
        rw [hcut, List.flatMap_append, List.flatMap_singleton] at hchop
        rw [List.dropLast_concat, List.getLast?_concat, List.flatMap_append, hparts,
          Option.map_some, Option.toList_some, List.flatMap_singleton, Piece.full,
          ← List.append_assoc, hchop, Piece.full]

/-- What the words of a line are cut into at hyphens makes up the line. -/
theorem full_hyphenated_words (line : Text) :
    (((words line).map Piece.ofText).flatMap hyphenated).flatMap Piece.full = line := by
  have hwords : ∀ ts : List Text,
      ((ts.map Piece.ofText).flatMap hyphenated).flatMap Piece.full = ts.flatten := by
    intro ts
    induction ts with
    | nil => rfl
    | cons t ts ih =>
        rw [List.map_cons, List.flatMap_cons, List.flatMap_append, full_hyphenated, full_ofText,
          ih, List.flatten_cons]
  rw [hwords, flatten_words]

/-- **The pieces of a line, and the blanks after them, make up the line.** -/
theorem full_pieces (limit : Nat) (line : Text) :
    (pieces limit line).flatMap Piece.full = line := by
  have hnarrowed : ∀ found : List Piece, (∀ piece ∈ found, piece.IsMeasured) →
      (found.flatMap (narrowed limit)).flatMap Piece.full = found.flatMap Piece.full := by
    intro found hfound
    induction found with
    | nil => rfl
    | cons piece found ih =>
        rw [List.flatMap_cons, List.flatMap_append, full_narrowed limit (hfound piece (by simp)),
          ih fun p hp => hfound p (by simp [hp]), List.flatMap_cons]
  rw [pieces, hnarrowed, full_hyphenated_words]
  intro piece hpiece
  obtain ⟨word, -, hmem⟩ := List.mem_flatMap.mp hpiece
  exact isMeasured_of_mem_hyphenated hmem

/-! ### Lines -/

/-- A line is made of the characters of its pieces and of blanks between them. -/
theorem mem_of_mem_lineText {found : List Piece} {c : Char} (h : c ∈ lineText found) :
    c ∈ found.flatMap Piece.full := by
  cases found using List.reverseRecOn with
  | nil => simp [lineText] at h
  | append_singleton before last _ =>
      rw [lineText, List.dropLast_concat, List.getLast?_concat] at h
      rw [List.flatMap_append, List.flatMap_singleton, List.mem_append]
      rcases List.mem_append.mp h with h | h
      · exact .inl h
      · refine .inr (List.mem_append_left _ ?_)
        simpa using h

theorem mem_of_mem_cutAt {places : List Nat} : ∀ {start : Nat} {found : List Piece} {line : Text},
    line ∈ cutAt start places found → ∀ c ∈ line, c ∈ found.flatMap Piece.full := by
  induction places with
  | nil => intro start found line h; simp [cutAt] at h
  | cons place places ih =>
      intro start found line h c hc
      have hsplit : found.flatMap Piece.full =
          (found.take (place - start)).flatMap Piece.full ++
            (found.drop (place - start)).flatMap Piece.full := by
        rw [← List.flatMap_append, List.take_append_drop]
      rw [hsplit, List.mem_append]
      rw [cutAt, List.mem_cons] at h
      rcases h with rfl | h
      · exact .inl (mem_of_mem_lineText hc)
      · exact .inr (ih h c hc)

/-- Wrapping a line brings in no character. -/
theorem mem_of_mem_wrapLine {limit : Nat} {line wrapped : Text}
    (h : wrapped ∈ wrapLine limit line) : ∀ c ∈ wrapped, c ∈ line := by
  intro c hc
  rw [wrapLine] at h
  split at h
  · rw [List.mem_singleton] at h
    subst h
    exact List.mem_reverse.mp (List.dropWhile_sublist _ |>.mem (List.mem_reverse.mp hc))
  · rw [← full_pieces limit line]
    unfold layOut at h
    split at h
    next => rw [List.mem_singleton] at h; subst h; simp at hc
    next => exact mem_of_mem_cutAt h c hc

/-- A line that a text is wrapped to has its characters from the text. -/
theorem mem_of_mem_wrap {limit : Nat} {t wrapped : Text} (h : wrapped ∈ wrap limit t) :
    ∀ c ∈ wrapped, c ∈ t ∧ c ≠ '\n' := by
  obtain ⟨line, hline, hwrapped⟩ := List.mem_flatMap.mp h
  intro c hc
  obtain ⟨hmem, hfree⟩ :=
    Text.mem_of_mem_splitOn hline c (mem_of_mem_wrapLine hwrapped c hc)
  exact ⟨hmem, by simpa using hfree⟩

/-- **A line that a text is wrapped to has no line feed.** -/
theorem lineFeed_notMem_of_mem_wrap {limit : Nat} {t wrapped : Text}
    (h : wrapped ∈ wrap limit t) : '\n' ∉ wrapped :=
  fun hmem => (mem_of_mem_wrap h _ hmem).2 rfl

end Wrap

end VarlinkClient
