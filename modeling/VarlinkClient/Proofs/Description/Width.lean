/-
How wide the comments of a layout are.

Documentation is wrapped to a width, and its lines are put on lines at least cost: a line may be
wider when blanks elsewhere would cost more.  The bound on that is the bound on wrapped lines, as
the `#` and the blank in front are left out of what is wrapped (`comments_width`).  At the width
that descriptions are laid out to, a line can be wider (`exists_wide_comment`).
-/
import VarlinkClient.Proofs.Description.Layout
import VarlinkClient.Proofs.Text.Fit

namespace VarlinkClient.Description

open Width (IsPlain columns)

/-- The documentation of a description: that of the interface, and that of each member. -/
def documentation (description : Description) : List (List Text) :=
  description.doc :: description.members.map Member.doc

/-- Comments are lines of the layout. -/
theorem mem_splitOn_layout {description : Description} {width : Nat} {doc : List Text}
    (hdoc : doc ∈ documentation description) {line : Text} (h : line ∈ docLines .plain width doc) :
    line ∈ Text.splitOn (· = '\n') (layout .plain width description) := by
  have hlines : line ∈ layoutLines .plain width description := by
    rw [layoutLines]
    rcases List.mem_cons.mp hdoc with rfl | hmember
    · exact List.mem_append_left _ (List.mem_append_left _ h)
    · obtain ⟨member, hmem, rfl⟩ := List.mem_map.mp hmember
      refine List.mem_append_right _ (List.mem_flatMap.mpr ⟨member, hmem, ?_⟩)
      exact List.mem_append_left _ (List.mem_append_right _ h)
  have hne : layoutLines .plain width description ≠ [] := List.ne_nil_of_mem hlines
  have hfeed : '\n' ∉ line := (mem_docLines h).2
  have hsplit : Text.splitOn (· = '\n') (layout .plain width description) =
      (layoutLines .plain width description).flatMap (Text.splitOn (· = '\n')) ++ [[]] :=
    Text.splitOn_join hne []
  rw [hsplit]
  refine List.mem_append_left _ (List.mem_flatMap.mpr ⟨line, hlines, ?_⟩)
  rw [Text.splitOn_line hfeed]
  exact List.mem_singleton.mpr rfl

/-- Every character of plain documentation fits on a line, if the width is four and the one wide
character is not there, or if the width is more. -/
theorem char_le_limit {width : Nat} (hwidth : 4 ≤ width) {said : Text}
    (hkhmer : width = 4 → '\u17d8' ∉ said) : ∀ c ∈ said, Width.char c ≤ width - 2 := by
  intro c hc
  refine Nat.le_trans (Width.char_le_shownChar c) ?_
  by_cases hfour : width = 4
  · have hne : c ≠ '\u17d8' := by
      rintro rfl
      exact hkhmer hfour hc
    have htwo := Width.shownChar_le_two hne
    omega
  · have hthree := Width.shownChar_le c
    omega

/-- **The comments about one line of plain documentation.** -/
theorem text_le_of_mem_commentLines {width : Nat} (hwidth : 4 ≤ width) {said : Text}
    (hplain : IsPlain said) (hkhmer : width = 4 → '\u17d8' ∉ said) {line : Text}
    (h : line ∈ commentLines width said) :
    (width < 30 → Width.text line ≤ width) ∧
      (Width.text line - width) * Wrap.overflowCost ≤
        2 * Wrap.lineCost + 2 * ((width - 2) * (width - 2)) := by
  unfold commentLines at h
  split at h
  next =>
    have hone : Width.text "#" = 1 := by decide
    rw [List.mem_singleton.mp h, hone, Nat.sub_eq_zero_of_le (by omega), Nat.zero_mul]
    exact ⟨fun _ => by omega, Nat.zero_le _⟩
  next =>
    obtain ⟨piece, hpiece, rfl⟩ := List.mem_map.mp h
    have hlimit : max (width - 2) 1 = width - 2 := by omega
    rw [hlimit] at hpiece
    have hfree : '\x1b' ∉ said := fun hmem => absurd (hplain _ hmem).1 (by decide)
    have hbound := Wrap.columns_le_of_mem_wrap (by omega) hfree (char_le_limit hwidth hkhmer)
      hpiece
    have hshown : IsPlain ("# " ++ piece) := by
      intro c hc
      rcases List.mem_append.mp hc with hmark | hc
      · revert hmark
        have hmarks : IsPlain "# " := by unfold IsPlain; decide
        exact hmarks c
      · exact hplain c (Wrap.mem_of_mem_wrap hpiece c hc).1
    have htext := Width.text_le_columns hshown
    have hmark : columns "# " = 2 := by decide
    rw [Width.columns_append, hmark] at htext
    by_cases hwide : width - 2 < columns piece
    · obtain ⟨hlarge, hle⟩ := hbound hwide
      have hover : Width.text ("# " ++ piece) - width ≤ columns piece - (width - 2) := by omega
      exact ⟨fun hsmall => by omega, Nat.le_trans (Nat.mul_le_mul_right _ hover) hle⟩
    · rw [Nat.sub_eq_zero_of_le (by omega), Nat.zero_mul]
      exact ⟨fun _ => by omega, Nat.zero_le _⟩

/-- **Comments are as wide as the width allows, or nearly.**  The documentation of what was read
is laid out as comments about each of its lines, and these are lines of the layout.  About a line
that is plain, no comment is wider than a width below 30.  At any width, the columns beyond it
cost no more than two lines and the blanks of two empty ones: at the default width that makes
four columns at most. -/
theorem comments_width {t : Text} {width : Nat} (hwidth : 4 ≤ width) :
    ∀ description, parse t = .ok description → ∀ doc ∈ documentation description,
      docLines .plain width doc = doc.flatMap (commentLines width) ∧
      ∀ said ∈ doc, IsPlain said → (width = 4 → '\u17d8' ∉ said) →
        ∀ line ∈ commentLines width said,
          line ∈ Text.splitOn (· = '\n') (layout .plain width description) ∧
          (width < 30 → Width.text line ≤ width) ∧
          (Width.text line - width) * Wrap.overflowCost ≤
            2 * Wrap.lineCost + 2 * ((width - 2) * (width - 2)) := by
  intro description _ doc hdoc
  refine ⟨docLines_plain width doc, fun said hsaid hplain hkhmer line hline => ⟨?_, ?_⟩⟩
  · refine mem_splitOn_layout hdoc ?_
    rw [docLines_plain]
    exact List.mem_flatMap.mpr ⟨said, hsaid, hline⟩
  · exact text_le_of_mem_commentLines hwidth hplain hkhmer hline

/-- A word of 68 letters behind a short one, at the default width. -/
theorem comments_width_default :
    let said : Text := "a " ++ List.replicate 68 'x'
    4 ≤ defaultWidth ∧ parse ("# " ++ said ++ "\ninterface a.b\n") = .ok ⟨[said], "a.b", []⟩ ∧
      ∀ line ∈ commentLines defaultWidth said, Width.text line ≤ defaultWidth + 4 := by
  intro said
  have hwidth : 4 ≤ defaultWidth := by decide
  have hparse : parse ("# " ++ said ++ "\ninterface a.b\n") = .ok ⟨[said], "a.b", []⟩ := by decide
  have hplain : IsPlain said := by unfold IsPlain; decide
  refine ⟨hwidth, hparse, fun line hline => ?_⟩
  obtain ⟨-, hcomments⟩ := comments_width hwidth _ hparse [said] List.mem_cons_self
  obtain ⟨-, -, hle⟩ := hcomments said List.mem_cons_self hplain (by decide) line hline
  simp only [defaultWidth, Wrap.overflowCost, Wrap.lineCost] at hle ⊢
  omega

/-- A short word and one that fills the width are left on one line. -/
theorem commentLines_wide : commentLines defaultWidth ("a " ++ List.replicate 68 'x') =
    [("# a " : Text) ++ List.replicate 68 'x'] := by
  have hwords : Wrap.words ("a " ++ List.replicate 68 'x') =
      [("a " : Text), List.replicate 68 'x'] := by decide +kernel
  have hpieces : Wrap.pieces 68 ("a " ++ List.replicate 68 'x') =
      [⟨"a", 1, 1⟩, ⟨List.replicate 68 'x', 68, 0⟩] := by
    rw [Wrap.pieces, hwords]
    decide +kernel
  have hlines : Wrap.layOut 68 [⟨"a", 1, 1⟩, ⟨List.replicate 68 'x', 68, 0⟩] =
      [("a " : Text) ++ List.replicate 68 'x'] := by decide +kernel
  have hsplit : Text.splitOn (· = '\n') (("a " : Text) ++ List.replicate 68 'x') =
      [("a " : Text) ++ List.replicate 68 'x'] := by decide +kernel
  have hbytes : ¬ (Utf8.encode ("a " ++ List.replicate 68 'x')).length < 68 := by decide +kernel
  have htrim : Text.trim ("a " ++ List.replicate 68 'x') ≠ [] := by decide +kernel
  have hlimit : max (defaultWidth - 2) 1 = 68 := rfl
  rw [commentLines, if_neg htrim, hlimit, Wrap.wrap, hsplit, List.flatMap_singleton, Wrap.wrapLine,
    if_neg hbytes, hpieces, hlines]
  rfl

/-- **A comment can be wider than the width that descriptions are laid out to.** -/
theorem exists_wide_comment : ∃ t description, parse t = .ok description ∧
    ∃ line ∈ docLines .plain defaultWidth description.doc, defaultWidth < Width.text line := by
  let said : Text := "a " ++ List.replicate 68 'x'
  refine ⟨"# " ++ said ++ "\ninterface a.b\n", ⟨[said], "a.b", []⟩, by decide, "# " ++ said, ?_, ?_⟩
  · rw [docLines_plain, List.flatMap_singleton, commentLines_wide]
    exact List.mem_singleton.mpr rfl
  · decide +kernel

end VarlinkClient.Description
