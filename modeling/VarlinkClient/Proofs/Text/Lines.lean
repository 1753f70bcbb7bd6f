/-
Cutting texts at marks, and taking the blanks off their ends.

What is put together with a mark between the pieces is cut at that mark into what its
pieces are cut into.  Trimming takes blanks off the ends and nothing else: a text is its
trimmed self between blanks, `exists_trim`, and what does not depend on blanks is the same
for both.

Lines are the pieces between line feeds.  A word without line feeds begins all of them when it
begins the text and stands behind each of its line feeds, `lines_begin_iff`.
-/
import Mathlib.Data.List.Basic
import Mathlib.Data.List.Induction
import Mathlib.Data.List.TakeWhile
import VarlinkClient.Text.Blank

namespace VarlinkClient.Text

/-! ### Cutting -/

section Split

variable {isMark : Char → Bool}

theorem splitOn_ne_nil (isMark : Char → Bool) (t : Text) : splitOn isMark t ≠ [] := by
  cases t with
  | nil => simp [splitOn]
  | cons c rest =>
      unfold splitOn
      split
      · simp
      · split <;> simp

theorem splitOn_cons_mark {c : Char} (h : isMark c = true) (t : Text) :
    splitOn isMark (c :: t) = [] :: splitOn isMark t := by
  rw [splitOn, if_pos h]

theorem splitOn_cons {c : Char} (h : isMark c = false) (t : Text) :
    splitOn isMark (c :: t) = (splitOn isMark t).modifyHead (c :: ·) := by
  rw [splitOn, if_neg (by simp [h])]
  cases hpieces : splitOn isMark t with
  | nil => exact absurd hpieces (splitOn_ne_nil isMark t)
  | cons piece pieces => rfl

/-- A text without marks belongs to the first piece of what follows it. -/
theorem splitOn_append_free {s : Text} (h : ∀ c ∈ s, isMark c = false) (t : Text) :
    splitOn isMark (s ++ t) = (splitOn isMark t).modifyHead (s ++ ·) := by
  induction s with
  | nil =>
      rw [List.nil_append]
      cases splitOn isMark t with
      | nil => rfl
      | cons piece pieces => rfl
  | cons c s ih =>
      have hc : isMark c = false := h c (by simp)
      rw [List.cons_append, splitOn_cons hc, ih fun d hd => h d (by simp [hd])]
      cases splitOn isMark t with
      | nil => rfl
      | cons piece pieces => rfl

/-- A text without marks is one piece. -/
theorem splitOn_free {t : Text} (h : ∀ c ∈ t, isMark c = false) : splitOn isMark t = [t] := by
  have hsplit := splitOn_append_free h []
  simpa [splitOn] using hsplit

/-- A mark separates the pieces before it from those after it. -/
theorem splitOn_append_mark {c : Char} (h : isMark c = true) (s t : Text) :
    splitOn isMark (s ++ c :: t) = splitOn isMark s ++ splitOn isMark t := by
  induction s with
  | nil => rw [List.nil_append, splitOn_cons_mark h]; rfl
  | cons d s ih =>
      cases hd : isMark d with
      | true => rw [List.cons_append, splitOn_cons_mark hd, splitOn_cons_mark hd, ih]; rfl
      | false =>
          rw [List.cons_append, splitOn_cons hd, splitOn_cons hd, ih]
          cases hpieces : splitOn isMark s with
          | nil => exact absurd hpieces (splitOn_ne_nil isMark s)
          | cons piece pieces => rfl

/-- A piece has its characters from the text, and no mark. -/
theorem mem_of_mem_splitOn {t piece : Text} (h : piece ∈ splitOn isMark t) :
    ∀ c ∈ piece, c ∈ t ∧ isMark c = false := by
  induction t generalizing piece with
  | nil =>
      have hpiece : piece = [] := by simpa [splitOn] using h
      simp [hpiece]
  | cons d t ih =>
      have htail : ∀ {piece}, piece ∈ splitOn isMark t →
          ∀ c ∈ piece, c ∈ d :: t ∧ isMark c = false := fun hpiece c hc =>
        ⟨List.mem_cons_of_mem d (ih hpiece c hc).1, (ih hpiece c hc).2⟩
      cases hd : isMark d with
      | true =>
          rw [splitOn_cons_mark hd] at h
          rcases List.mem_cons.mp h with rfl | h
          · simp
          · exact htail h
      | false =>
          rw [splitOn_cons hd] at h
          cases hpieces : splitOn isMark t with
          | nil => exact absurd hpieces (splitOn_ne_nil isMark t)
          | cons first pieces =>
              rw [hpieces, List.modifyHead_cons] at h
              rcases List.mem_cons.mp h with rfl | h
              · intro c hc
                rcases List.mem_cons.mp hc with rfl | hc
                · exact ⟨List.mem_cons_self, hd⟩
                · exact htail (by simp [hpieces]) c hc
              · exact htail (by simp [hpieces, h])

theorem free_of_mem_splitOn {t piece : Text} (h : piece ∈ splitOn isMark t) :
    ∀ c ∈ piece, isMark c = false :=
  fun c hc => (mem_of_mem_splitOn h c hc).2

/-- A character that is no mark is in one of the pieces. -/
theorem exists_of_mem_splitOn {t : Text} {c : Char} (hc : c ∈ t)
    (hmark : isMark c = false) : ∃ piece ∈ splitOn isMark t, c ∈ piece := by
  induction t with
  | nil => cases hc
  | cons d t ih =>
      cases hd : isMark d with
      | true =>
          rw [splitOn_cons_mark hd]
          rcases List.mem_cons.mp hc with rfl | hc
          · rw [hd] at hmark
            cases hmark
          · obtain ⟨piece, hpiece, hmem⟩ := ih hc
            exact ⟨piece, List.mem_cons_of_mem _ hpiece, hmem⟩
      | false =>
          rw [splitOn_cons hd]
          cases hpieces : splitOn isMark t with
          | nil => exact absurd hpieces (splitOn_ne_nil isMark t)
          | cons first pieces =>
              rw [List.modifyHead_cons]
              rcases List.mem_cons.mp hc with rfl | hc
              · exact ⟨c :: first, by simp, by simp⟩
              · obtain ⟨piece, hpiece, hmem⟩ := ih hc
                rw [hpieces] at hpiece
                rcases List.mem_cons.mp hpiece with rfl | hpiece
                · exact ⟨d :: piece, by simp, by simp [hmem]⟩
                · exact ⟨piece, by simp [hpiece], hmem⟩

end Split

/-! ### Lines -/

theorem join_cons (between piece : Text) {pieces : List Text} (h : pieces ≠ []) :
    join between (piece :: pieces) = piece ++ between ++ join between pieces := by
  cases pieces with
  | nil => exact absurd rfl h
  | cons next pieces => rfl

theorem join_modifyHead (between s : Text) {pieces : List Text} (h : pieces ≠ []) :
    join between (pieces.modifyHead (s ++ ·)) = s ++ join between pieces := by
  cases pieces with
  | nil => exact absurd rfl h
  | cons piece pieces =>
      cases pieces with
      | nil => rfl
      | cons next pieces => simp [join]

theorem exists_of_mem_join {between : Text} {pieces : List Text} {c : Char}
    (h : c ∈ join between pieces) : c ∈ between ∨ ∃ piece ∈ pieces, c ∈ piece := by
  induction pieces with
  | nil => simp [join] at h
  | cons piece pieces ih =>
      by_cases hlast : pieces = []
      · subst hlast
        exact Or.inr ⟨piece, by simp, h⟩
      · rw [join_cons _ _ hlast, List.mem_append, List.mem_append] at h
        rcases h with (h | h) | h
        · exact Or.inr ⟨piece, by simp, h⟩
        · exact Or.inl h
        · rcases ih h with hbetween | ⟨other, hother, hc⟩
          · exact Or.inl hbetween
          · exact Or.inr ⟨other, by simp [hother], hc⟩

theorem mem_join (between : Text) {piece : Text} {pieces : List Text} (h : piece ∈ pieces)
    {c : Char} (hc : c ∈ piece) : c ∈ join between pieces := by
  induction pieces with
  | nil => simp at h
  | cons first pieces ih =>
      by_cases hlast : pieces = []
      · rw [hlast] at h ⊢
        rw [List.mem_singleton.mp h] at hc
        exact hc
      · rw [join_cons between first hlast]
        rcases List.mem_cons.mp h with rfl | h
        · simp [hc]
        · exact List.mem_append_right _ (ih h)

theorem splitOn_line {line : Text} (h : '\n' ∉ line) : splitOn (· = '\n') line = [line] := by
  refine splitOn_free fun c hc => decide_eq_false ?_
  rintro rfl
  exact h hc

/-- Lines are not cut any further. -/
theorem flatMap_splitOn_lines {ls : List Text} (h : ∀ line ∈ ls, '\n' ∉ line) :
    ls.flatMap (splitOn (· = '\n')) = ls := by
  induction ls with
  | nil => rfl
  | cons line ls ih =>
      rw [List.flatMap_cons, splitOn_line (h line (by simp)), ih fun l hl => h l (by simp [hl])]
      rfl

/-- A line in front of others. -/
theorem splitOn_line_append {line : Text} (h : '\n' ∉ line) (t : Text) :
    splitOn (· = '\n') (line ++ '\n' :: t) = line :: splitOn (· = '\n') t := by
  rw [splitOn_append_mark (by simp), splitOn_line h]
  rfl

/-- Text without a line feed belongs to the first line of what follows it. -/
theorem splitOn_append_line {s : Text} (h : '\n' ∉ s) (t : Text) :
    splitOn (· = '\n') (s ++ t) = (splitOn (· = '\n') t).modifyHead (s ++ ·) := by
  refine splitOn_append_free (fun c hc => decide_eq_false ?_) t
  rintro rfl
  exact h hc

/-- Lines that are put together are cut into what each of them is cut into. -/
theorem splitOn_join {ls : List Text} (h : ls ≠ []) (t : Text) :
    splitOn (· = '\n') (join "\n" ls ++ '\n' :: t) =
      ls.flatMap (splitOn (· = '\n')) ++ splitOn (· = '\n') t := by
  induction ls with
  | nil => exact absurd rfl h
  | cons line ls ih =>
      by_cases hls : ls = []
      · simp [hls, join, splitOn_append_mark]
      · have hjoin : join "\n" (line :: ls) ++ '\n' :: t =
            line ++ '\n' :: (join "\n" ls ++ '\n' :: t) := by
          simp [join_cons _ _ hls]
        rw [hjoin, splitOn_append_mark (by simp), ih hls, List.flatMap_cons, List.append_assoc]

/-- Texts that are each ended by a line feed are cut into what each of them is cut into. -/
theorem splitOn_ended (ts : List Text) :
    splitOn (· = '\n') (ts.flatMap fun t => t ++ ['\n']) =
      ts.flatMap (splitOn (· = '\n')) ++ [[]] := by
  induction ts with
  | nil => rfl
  | cons t ts ih =>
      have hfirst : (t :: ts).flatMap (fun t => t ++ ['\n']) =
          t ++ '\n' :: ts.flatMap fun t => t ++ ['\n'] := by
        simp
      rw [hfirst, splitOn_append_mark (by simp), ih, List.flatMap_cons, List.append_assoc]

/-- What has no line feed begins a text if it begins the first line. -/
theorem isPrefix_line_iff {word line : Text} (hword : '\n' ∉ word) (t : Text) :
    word <+: line ++ '\n' :: t ↔ word <+: line := by
  refine ⟨fun h => ?_, fun h => h.trans (List.prefix_append _ _)⟩
  rcases List.prefix_or_prefix_of_prefix h (List.prefix_append line _) with hline | ⟨rest, rfl⟩
  · exact hline
  · cases rest with
    | nil => simp
    | cons c rest =>
        rw [List.prefix_append_right_inj] at h
        obtain ⟨rfl, -⟩ := List.cons_prefix_cons.mp h
        exact absurd (by simp) hword

/-- A text begins with its first line. -/
theorem exists_first_line (t : Text) : ∃ line ∈ splitOn (· = '\n') t, line <+: t := by
  by_cases h : '\n' ∈ t
  · obtain ⟨line, rest, rfl, hline⟩ := List.eq_append_cons_of_mem h
    refine ⟨line, ?_, List.prefix_append _ _⟩
    rw [splitOn_line_append hline]
    exact List.mem_cons_self
  · exact ⟨t, by rw [splitOn_line h]; exact List.mem_cons_self, List.prefix_refl t⟩

-- The induction is on the length, for it goes from line to line and not from character to
-- character.
private theorem forall_lines_begin (n : Nat) {word : Text} (hword : '\n' ∉ word) {t : Text}
    (hlength : t.length ≤ n) (hbegin : word <+: t)
    (hfeeds : ∀ before after, t = before ++ '\n' :: after → word <+: after) :
    ∀ line ∈ splitOn (· = '\n') t, word <+: line := by
  induction n generalizing t with
  | zero =>
      rw [List.length_eq_zero_iff.mp (Nat.le_zero.mp hlength)] at hbegin ⊢
      simpa [splitOn] using hbegin
  | succ n ih =>
      by_cases h : '\n' ∈ t
      · obtain ⟨first, rest, rfl, hfirst⟩ := List.eq_append_cons_of_mem h
        rw [splitOn_line_append hfirst]
        have hshort : rest.length ≤ n := by
          rw [List.length_append, List.length_cons] at hlength
          omega
        intro line hline
        rcases List.mem_cons.mp hline with rfl | hline
        · exact (isPrefix_line_iff hword rest).mp hbegin
        · refine ih hshort (hfeeds first rest rfl) (fun before after heq => ?_) line hline
          exact hfeeds (first ++ '\n' :: before) after (by simp [heq])
      · rw [splitOn_line h]
        simpa using hbegin

/-- **A word begins every line of a text** when it begins the text and stands behind each of its
line feeds. -/
theorem lines_begin_iff {word : Text} (hword : '\n' ∉ word) (t : Text) :
    (∀ line ∈ splitOn (· = '\n') t, word <+: line) ↔
      word <+: t ∧ ∀ before after, t = before ++ '\n' :: after → word <+: after := by
  have hfirst : ∀ {s : Text}, (∀ line ∈ splitOn (· = '\n') s, word <+: line) → word <+: s := by
    intro s h
    obtain ⟨line, hline, hprefix⟩ := exists_first_line s
    exact (h line hline).trans hprefix
  constructor
  · intro h
    refine ⟨hfirst h, ?_⟩
    rintro before after rfl
    rw [splitOn_append_mark (by simp)] at h
    exact hfirst fun line hline => h line (List.mem_append_right _ hline)
  · rintro ⟨hbegin, hfeeds⟩
    exact forall_lines_begin t.length hword (Nat.le_refl _) hbegin hfeeds

/-! ### Trimming -/

theorem trimLeft_cons_blank {c : Char} (h : isBlank c = true) (t : Text) :
    trimLeft (c :: t) = trimLeft t := by
  simp [trimLeft, h]

theorem trimLeft_cons {c : Char} (h : isBlank c = false) (t : Text) :
    trimLeft (c :: t) = c :: t := by
  simp [trimLeft, h]

theorem trim_eq (t : Text) : trim t = trimRight (trimLeft t) := rfl

/-- A text is what is left of it after trimming its start, behind blanks. -/
theorem exists_trimLeft (t : Text) : ∃ blanks, t = blanks ++ trimLeft t ∧
    ∀ c ∈ blanks, isBlank c = true :=
  ⟨t.takeWhile isBlank, List.takeWhile_append_dropWhile.symm, fun _ hc =>
    List.mem_takeWhile_imp hc⟩

/-- A text is what is left of it after trimming its end, in front of blanks. -/
theorem exists_trimRight (t : Text) : ∃ blanks, t = trimRight t ++ blanks ∧
    ∀ c ∈ blanks, isBlank c = true := by
  obtain ⟨blanks, h, hblanks⟩ := exists_trimLeft t.reverse
  refine ⟨blanks.reverse, ?_, fun c hc => hblanks c (List.mem_reverse.mp hc)⟩
  have hreverse := congrArg List.reverse h
  rwa [List.reverse_reverse, List.reverse_append] at hreverse

/-- **A text is its trimmed self between blanks.** -/
theorem exists_trim (t : Text) : ∃ before after, t = before ++ trim t ++ after ∧
    (∀ c ∈ before, isBlank c = true) ∧ ∀ c ∈ after, isBlank c = true := by
  obtain ⟨before, hbefore, hblank⟩ := exists_trimLeft t
  obtain ⟨after, hafter, hblank'⟩ := exists_trimRight (trimLeft t)
  refine ⟨before, after, ?_, hblank, hblank'⟩
  rw [trim_eq, List.append_assoc, ← hafter, ← hbefore]

/-- Characters that are not blank are not touched by trimming. -/
theorem filter_trim {p : Char → Bool} (h : ∀ c, isBlank c = true → p c = false) (t : Text) :
    (trim t).filter p = t.filter p := by
  obtain ⟨before, after, ht, hbefore, hafter⟩ := exists_trim t
  have hbefore' : before.filter p = [] :=
    List.filter_eq_nil_iff.mpr fun c hc => by simp [h c (hbefore c hc)]
  have hafter' : after.filter p = [] :=
    List.filter_eq_nil_iff.mpr fun c hc => by simp [h c (hafter c hc)]
  conv_rhs => rw [ht]
  rw [List.filter_append, List.filter_append, hbefore', hafter', List.nil_append,
    List.append_nil]

theorem filter_trimRight {p : Char → Bool} (h : ∀ c, isBlank c = true → p c = false)
    (t : Text) : (trimRight t).filter p = t.filter p := by
  obtain ⟨after, ht, hafter⟩ := exists_trimRight t
  have hafter' : after.filter p = [] :=
    List.filter_eq_nil_iff.mpr fun c hc => by simp [h c (hafter c hc)]
  conv_rhs => rw [ht]
  rw [List.filter_append, hafter', List.append_nil]

/-- Characters of a trimmed text are characters of the text. -/
theorem mem_of_mem_trim {t : Text} {c : Char} (h : c ∈ trim t) : c ∈ t := by
  obtain ⟨before, after, ht, -, -⟩ := exists_trim t
  rw [ht]
  simp [h]

/-- The text begins with something else than a blank, if with anything. -/
def StartsBare (t : Text) : Prop :=
  ∀ c, t.head? = some c → isBlank c = false

theorem startsBare_cons {c : Char} {t : Text} : StartsBare (c :: t) ↔ isBlank c = false := by
  simp [StartsBare]

theorem startsBare_trimLeft (t : Text) : StartsBare (trimLeft t) := by
  intro c hc
  have h := List.head?_dropWhile_not isBlank t
  rw [trimLeft] at hc
  rw [hc] at h
  simpa using h

/-- Trimming the start changes nothing where it begins with no blank. -/
theorem trimLeft_eq_self {t : Text} (h : StartsBare t) : trimLeft t = t := by
  cases t with
  | nil => rfl
  | cons c rest => exact trimLeft_cons (startsBare_cons.mp h) rest

theorem trimRight_append_bare {s : Text} {c : Char} (h : isBlank c = false) (t : Text) :
    trimRight (s ++ c :: t) = s ++ c :: trimRight t := by
  have key : ∀ r : Text, (r ++ c :: s.reverse).dropWhile isBlank =
      r.dropWhile isBlank ++ c :: s.reverse := by
    intro r
    induction r with
    | nil => simp [h]
    | cons d r ih =>
        cases hd : isBlank d with
        | true => simpa [hd] using ih
        | false => simp [hd]
  have hkey := key t.reverse
  unfold trimRight trimEnd
  rw [List.reverse_append, List.reverse_cons, List.append_assoc, List.singleton_append, hkey]
  simp

theorem trimRight_cons_bare {c : Char} (h : isBlank c = false) (t : Text) :
    trimRight (c :: t) = c :: trimRight t :=
  trimRight_append_bare (s := []) h t

/-- What is taken ends at a character that is not taken, whatever follows. -/
theorem takeWhile_append_stop {p : Char → Bool} {c : Char} (h : p c = false) (s t : Text) :
    (s ++ c :: t).takeWhile p = s.takeWhile p := by
  induction s with
  | nil => exact List.takeWhile_cons_of_neg (by simp [h])
  | cons d s ih =>
      cases hd : p d with
      | true => rw [List.cons_append, List.takeWhile_cons_of_pos hd, List.takeWhile_cons_of_pos hd,
          ih]
      | false => rw [List.cons_append, List.takeWhile_cons_of_neg (by simp [hd]),
          List.takeWhile_cons_of_neg (by simp [hd])]

/-- What is dropped does too. -/
theorem dropWhile_append_stop {p : Char → Bool} {c : Char} (h : p c = false) (s t : Text) :
    (s ++ c :: t).dropWhile p = s.dropWhile p ++ c :: t := by
  induction s with
  | nil => exact List.dropWhile_cons_of_neg (by simp [h])
  | cons d s ih =>
      cases hd : p d with
      | true => rw [List.cons_append, List.dropWhile_cons_of_pos hd, List.dropWhile_cons_of_pos hd,
          ih]
      | false => rw [List.cons_append, List.dropWhile_cons_of_neg (by simp [hd]),
          List.dropWhile_cons_of_neg (by simp [hd]), List.cons_append]

theorem trimLeft_append_bare {c : Char} (h : isBlank c = false) (s t : Text) :
    trimLeft (s ++ c :: t) = trimLeft s ++ c :: t :=
  dropWhile_append_stop h s t

/-- Trimming stops at what is not blank. -/
theorem trim_append_bare {c : Char} (h : isBlank c = false) (s t : Text) :
    trim (s ++ c :: t) = trimLeft s ++ c :: trimRight t := by
  rw [trim_eq, trimLeft_append_bare h, trimRight_append_bare h]

theorem startsBare_trim (t : Text) : StartsBare (trim t) := by
  rw [trim_eq]
  have h := startsBare_trimLeft t
  cases htrim : trimLeft t with
  | nil => intro c hc; simp [trimRight, trimEnd] at hc
  | cons c rest =>
      rw [htrim] at h
      rw [trimRight_cons_bare (startsBare_cons.mp h)]
      exact startsBare_cons.mpr (startsBare_cons.mp h)

theorem head?_trim (t : Text) : (trim t).head? = (trimLeft t).head? := by
  rw [trim_eq]
  have h := startsBare_trimLeft t
  cases htrim : trimLeft t with
  | nil => rfl
  | cons c rest =>
      rw [htrim] at h
      rw [trimRight_cons_bare (startsBare_cons.mp h)]
      rfl

/-- What a line in front begins with, blanks apart, the text begins with. -/
theorem head?_trim_of_front {line t : Text} (h : line <+: t) (hne : trim line ≠ []) :
    (trim line).head? = (trimLeft t).head? := by
  obtain ⟨rest, rfl⟩ := h
  obtain ⟨before, after, hline, hbefore, -⟩ := exists_trim line
  have hbare := startsBare_trim line
  obtain ⟨c, more, hcons⟩ := List.exists_cons_of_ne_nil hne
  rw [hcons] at hline hbare ⊢
  have hleft : trimLeft (line ++ rest) = c :: (more ++ after ++ rest) := by
    rw [hline, trimLeft, List.append_assoc, List.append_assoc,
      List.dropWhile_append_of_pos hbefore,
      List.cons_append, List.dropWhile_cons_of_neg (by simp [startsBare_cons.mp hbare])]
    simp
  rw [hleft]
  rfl

theorem trimRight_trimRight (t : Text) : trimRight (trimRight t) = trimRight t := by
  unfold trimRight trimEnd
  rw [List.reverse_reverse]
  exact congrArg List.reverse (trimLeft_eq_self (startsBare_trimLeft t.reverse))

theorem trim_trim (t : Text) : trim (trim t) = trim t := by
  rw [trim_eq (trim t), trimLeft_eq_self (startsBare_trim t), trim_eq, trimRight_trimRight]

/-- A text that begins with no blank is trimmed at its end only. -/
theorem trim_eq_trimRight {t : Text} (h : StartsBare t) : trim t = trimRight t := by
  rw [trim_eq, trimLeft_eq_self h]

theorem trimRight_append_blank {c : Char} (h : isBlank c = true) (t : Text) :
    trimRight (t ++ [c]) = trimRight t := by
  simp [trimRight, trimEnd, h]

theorem trim_append_blank {c : Char} (h : isBlank c = true) (t : Text) :
    trim (t ++ [c]) = trim t := by
  induction t with
  | nil => simp [trim_eq, trimLeft, h, trimRight, trimEnd]
  | cons d t ih =>
      cases hd : isBlank d with
      | true =>
          rw [List.cons_append, trim_eq, trim_eq, trimLeft_cons_blank hd,
            trimLeft_cons_blank hd, ← trim_eq, ← trim_eq, ih]
      | false =>
          rw [trim_eq, trim_eq, List.cons_append, trimLeft_cons hd, trimLeft_cons hd,
            ← List.cons_append, trimRight_append_blank h]

theorem trim_cons_blank {c : Char} (h : isBlank c = true) (t : Text) : trim (c :: t) = trim t := by
  rw [trim_eq, trimLeft_cons_blank h, ← trim_eq]

/-- More blanks at the ends are trimmed as well. -/
theorem trim_append_blanks {before after : Text} (hbefore : ∀ c ∈ before, isBlank c = true)
    (hafter : ∀ c ∈ after, isBlank c = true) (t : Text) : trim (before ++ t ++ after) = trim t := by
  induction before with
  | nil =>
      rw [List.nil_append]
      induction after using List.reverseRecOn with
      | nil => rw [List.append_nil]
      | append_singleton after c ih =>
          rw [← List.append_assoc, trim_append_blank (hafter c (by simp)),
            ih fun d hd => hafter d (by simp [hd])]
  | cons c before ih =>
      rw [List.cons_append, List.cons_append, trim_cons_blank (hbefore c List.mem_cons_self),
        ih fun d hd => hbefore d (List.mem_cons_of_mem _ hd)]

theorem trim_eq_nil_iff {t : Text} : trim t = [] ↔ t.filter (fun c => !isBlank c) = [] := by
  constructor
  · intro h
    rw [← filter_trim (p := fun c => !isBlank c) (by simp), h]
    rfl
  · intro h
    rw [← filter_trim (p := fun c => !isBlank c) (by simp)] at h
    cases htrim : trim t with
    | nil => rfl
    | cons c rest =>
        have hbare := startsBare_trim t
        rw [htrim] at h hbare
        simp [startsBare_cons.mp hbare] at h

theorem trim_blanks {t : Text} (h : ∀ c ∈ t, isBlank c = true) : trim t = [] :=
  trim_eq_nil_iff.mpr (List.filter_eq_nil_iff.mpr fun c hc => by simp [h c hc])

end VarlinkClient.Text
