/-
Signatures with balanced parentheses.

A balanced signature is a row of characters outside of parentheses and of groups in
parentheses, each of them balanced inside: `Balanced`.  Whatever the program does with a
signature goes along this structure, though it is written as a scan that counts depth.

Spreading writes each outermost group on lines of its own.  A group loses by it the
commas next to blank fields, and nothing else but blanks.
-/
import Mathlib.Data.List.Basic
import VarlinkClient.Description.Signature
import VarlinkClient.Proofs.Text.Lines

namespace VarlinkClient.Signature

/-! ### Canonical spacing -/

@[simp] theorem compact_append (s t : Text) : compact (s ++ t) = compact s ++ compact t :=
  List.filter_append ..

theorem compact_cons_blank {c : Char} (h : isBlank c = true) (t : Text) :
    compact (c :: t) = compact t := by
  simp [compact, h]

theorem compact_cons {c : Char} (h : isBlank c = false) (t : Text) :
    compact (c :: t) = c :: compact t := by
  simp [compact, h]

@[simp] theorem compact_compact (t : Text) : compact (compact t) = compact t := by
  simp [compact]

theorem compact_trim (t : Text) : compact (Text.trim t) = compact t :=
  Text.filter_trim (by simp) t

theorem compact_trimRight (t : Text) : compact (Text.trimRight t) = compact t :=
  Text.filter_trimRight (by simp) t

theorem not_blank_of_mem_compact {t : Text} {c : Char} (h : c ∈ compact t) :
    isBlank c = false := by
  have := (List.mem_filter.mp h).2
  simpa using this

/-- Spacing out adds blanks and nothing else. -/
@[simp] theorem compact_space (t : Text) : compact (space t) = compact t := by
  fun_induction space t with
  | case1 => rfl
  | case2 rest ih => exact congrArg (['-', '>'] ++ ·) ih
  | case3 rest ih => exact congrArg ([','] ++ ·) ih
  | case4 rest ih => exact congrArg ([':'] ++ ·) ih
  | case5 c rest _ _ _ ih =>
      cases hc : isBlank c with
      | true => rw [compact_cons_blank hc, compact_cons_blank hc, ih]
      | false => rw [compact_cons hc, compact_cons hc, ih]

@[simp] theorem compact_normalise (t : Text) : compact (normalise t) = compact t := by
  rw [normalise, compact_space, compact_compact]

/-- Signatures are the same in canonical spacing when they are the same without blanks. -/
theorem normalise_eq_iff {s t : Text} : normalise s = normalise t ↔ compact s = compact t := by
  constructor
  · intro h
    rw [← compact_normalise s, h, compact_normalise]
  · intro h
    rw [normalise, normalise, h]

theorem normalise_normalise (t : Text) : normalise (normalise t) = normalise t :=
  normalise_eq_iff.mpr (compact_normalise t)

/-- A character that begins nothing that is spaced out. -/
theorem space_cons {c : Char} {rest : Text} (hcomma : c ≠ ',') (hcolon : c ≠ ':')
    (harrow : c = '-' → rest.head? ≠ some '>') : space (c :: rest) = c :: space rest := by
  rw [space]
  · rintro tail rfl rfl
    exact harrow rfl rfl
  · exact hcomma
  · exact hcolon

/-- Only an arrow is more than its characters. -/
theorem space_append (s : Text) {t : Text} (h : t.head? ≠ some '>') :
    space (s ++ t) = space s ++ space t := by
  fun_induction space s with
  | case1 => rfl
  | case2 rest ih => exact congrArg (" -> ".toList ++ ·) ih
  | case3 rest ih => exact congrArg (", ".toList ++ ·) ih
  | case4 rest ih => exact congrArg (": ".toList ++ ·) ih
  | case5 c rest harrow hcomma hcolon ih =>
      rw [List.cons_append, space_cons hcomma hcolon, ih, List.cons_append]
      rintro rfl hhead
      cases rest with
      | nil => exact h hhead
      | cons d rest =>
          have hd : d = '>' := by simpa using hhead
          exact harrow rest rfl (by rw [hd])

theorem mem_of_mem_space {t : Text} {c : Char} (h : c ∈ space t) : c ∈ t ∨ c = ' ' := by
  fun_induction space t with
  | case1 => simp at h
  | case2 rest ih =>
      have h' : c = ' ' ∨ c = '-' ∨ c = '>' ∨ c = ' ' ∨ c ∈ space rest := by simpa using h
      grind
  | case3 rest ih =>
      have h' : c = ',' ∨ c = ' ' ∨ c ∈ space rest := by simpa using h
      grind
  | case4 rest ih =>
      have h' : c = ':' ∨ c = ' ' ∨ c ∈ space rest := by simpa using h
      grind
  | case5 d rest _ _ _ ih =>
      have h' : c = d ∨ c ∈ space rest := by simpa using h
      grind

/-- A signature in canonical spacing stands on one line. -/
theorem lineFeed_notMem_normalise (t : Text) : '\n' ∉ normalise t := by
  intro h
  rcases mem_of_mem_space h with h | h
  · exact absurd (not_blank_of_mem_compact h) (by decide)
  · exact absurd h (by decide)

/-! ### Depth -/

/-- The character is a parenthesis. -/
def isParenthesis (c : Char) : Bool :=
  c = '(' || c = ')'

theorem eq_of_isParenthesis {c : Char} (h : isParenthesis c = true) : c = '(' ∨ c = ')' := by
  simpa [isParenthesis] using h

theorem ne_of_isParenthesis {c : Char} (h : isParenthesis c = false) : c ≠ '(' ∧ c ≠ ')' := by
  simpa [isParenthesis] using h

theorem depthAfter_cons_plain {c : Char} (h : isParenthesis c = false) (d : Nat) (t : Text) :
    depthAfter d (c :: t) = depthAfter d t := by
  simp [depthAfter, ne_of_isParenthesis h]

@[simp] theorem depthAfter_open (d : Nat) (t : Text) :
    depthAfter d ('(' :: t) = depthAfter (d + 1) t := by
  simp [depthAfter]

@[simp] theorem depthAfter_close (d : Nat) (t : Text) :
    depthAfter (d + 1) (')' :: t) = depthAfter d t := by
  simp [depthAfter]

@[simp] theorem depthAfter_close_zero (t : Text) : depthAfter 0 (')' :: t) = none := by
  simp [depthAfter]

/-- Depth is counted through one text into the next. -/
theorem depthAfter_append (s : Text) : ∀ (d : Nat) (t : Text),
    depthAfter d (s ++ t) = (depthAfter d s).bind fun e => depthAfter e t := by
  induction s with
  | nil => intro d t; rfl
  | cons c s ih =>
      intro d t
      rw [List.cons_append]
      cases hc : isParenthesis c with
      | false => rw [depthAfter_cons_plain hc, depthAfter_cons_plain hc, ih]
      | true =>
          rcases eq_of_isParenthesis hc with rfl | rfl
          · rw [depthAfter_open, depthAfter_open, ih]
          · cases d with
            | zero => rw [depthAfter_close_zero, depthAfter_close_zero]; rfl
            | succ outer => rw [depthAfter_close, depthAfter_close, ih]

/-- Only parentheses count. -/
theorem depthAfter_filter (t : Text) : ∀ d : Nat,
    depthAfter d (t.filter isParenthesis) = depthAfter d t := by
  induction t with
  | nil => intro d; rfl
  | cons c t ih =>
      intro d
      cases hc : isParenthesis c with
      | false => rw [List.filter_cons_of_neg (by simp [hc]), ih, depthAfter_cons_plain hc]
      | true =>
          rw [List.filter_cons_of_pos hc]
          rcases eq_of_isParenthesis hc with rfl | rfl
          · rw [depthAfter_open, depthAfter_open, ih]
          · cases d with
            | zero => rw [depthAfter_close_zero, depthAfter_close_zero]
            | succ outer => rw [depthAfter_close, depthAfter_close, ih]

theorem depthAfter_congr {s t : Text} (h : s.filter isParenthesis = t.filter isParenthesis)
    (d : Nat) : depthAfter d s = depthAfter d t := by
  rw [← depthAfter_filter s, h, depthAfter_filter]

theorem depthAfter_free {t : Text} (h : ∀ c ∈ t, isParenthesis c = false) (d : Nat) :
    depthAfter d t = some d := by
  have hfilter : t.filter isParenthesis = [] :=
    List.filter_eq_nil_iff.mpr fun c hc => by simp [h c hc]
  rw [← depthAfter_filter, hfilter]
  rfl

/-- What stands in front without parentheses adds no depth. -/
theorem depthAfter_append_free {s : Text} (h : ∀ c ∈ s, isParenthesis c = false) (d : Nat)
    (t : Text) : depthAfter d (s ++ t) = depthAfter d t := by
  rw [depthAfter_append, depthAfter_free h, Option.bind_some]

theorem isParenthesis_of_blank {c : Char} (h : isBlank c = true) : isParenthesis c = false := by
  rw [isParenthesis, Bool.or_eq_false_iff, decide_eq_false_iff_not, decide_eq_false_iff_not]
  constructor <;> (rintro rfl; exact absurd h (by decide))

@[simp] theorem depthAfter_compact (d : Nat) (t : Text) :
    depthAfter d (compact t) = depthAfter d t := by
  refine depthAfter_congr ?_ d
  rw [compact, List.filter_filter]
  refine List.filter_congr fun c _ => ?_
  cases hc : isBlank c with
  | true => simp [isParenthesis_of_blank hc]
  | false => simp

/-- Texts that are the same but for blanks are equally deep. -/
theorem depthAfter_of_compact_eq {s t : Text} (h : compact s = compact t) (d : Nat) :
    depthAfter d s = depthAfter d t := by
  rw [← depthAfter_compact, h, depthAfter_compact]

/-! ### Balanced texts -/

/-- Every parenthesis in the text has its partner. -/
inductive Balanced : Text → Prop
  | nil : Balanced []
  | plain {c : Char} {t : Text} (hc : isParenthesis c = false) (ht : Balanced t) :
      Balanced (c :: t)
  | group {g t : Text} (hg : Balanced g) (ht : Balanced t) : Balanced ('(' :: (g ++ ')' :: t))

/-- The depth after a balanced text is the depth before it. -/
theorem Balanced.depthAfter {t : Text} (h : Balanced t) :
    ∀ d : Nat, Signature.depthAfter d t = some d := by
  induction h with
  | nil => intro d; rfl
  | plain hc ht ih => intro d; rw [depthAfter_cons_plain hc, ih]
  | group hg ht ihg iht =>
      intro d
      rw [depthAfter_open, depthAfter_append, ihg, Option.bind_some, depthAfter_close, iht]

/-- A text that ends further out than it begins closes a group, after a balanced text. -/
theorem exists_close (n : Nat) : ∀ {t : Text} {d e : Nat}, t.length ≤ n →
    depthAfter (d + 1) t = some e → e ≤ d →
      ∃ g rest, t = g ++ ')' :: rest ∧ Balanced g ∧ depthAfter d rest = some e := by
  induction n with
  | zero =>
      intro t d e hlength hdepth hout
      have ht : t = [] := List.length_eq_zero_iff.mp (by omega)
      rw [ht] at hdepth
      have : d + 1 = e := Option.some.inj hdepth
      omega
  | succ n ih =>
      intro t d e hlength hdepth hout
      cases t with
      | nil =>
          have : d + 1 = e := Option.some.inj hdepth
          omega
      | cons c t =>
          have hshort : t.length ≤ n := by simpa using hlength
          cases hc : isParenthesis c with
          | false =>
              rw [depthAfter_cons_plain hc] at hdepth
              obtain ⟨g, rest, rfl, hg, hrest⟩ := ih hshort hdepth hout
              exact ⟨c :: g, rest, rfl, .plain hc hg, hrest⟩
          | true =>
              rcases eq_of_isParenthesis hc with rfl | rfl
              · rw [depthAfter_open] at hdepth
                obtain ⟨g, rest, rfl, hg, hrest⟩ := ih hshort hdepth (by omega)
                have hshorter : rest.length ≤ n := by
                  rw [List.length_append, List.length_cons] at hshort
                  omega
                obtain ⟨g', rest', rfl, hg', hrest'⟩ := ih hshorter hrest hout
                exact ⟨'(' :: (g ++ ')' :: g'), rest', by simp, .group hg hg', hrest'⟩
              · rw [depthAfter_close] at hdepth
                exact ⟨[], t, rfl, .nil, hdepth⟩

private theorem balanced_of_depthAfter (n : Nat) : ∀ {t : Text}, t.length ≤ n →
    depthAfter 0 t = some 0 → Balanced t := by
  induction n with
  | zero =>
      intro t hlength _
      rw [List.length_eq_zero_iff.mp (by omega : t.length = 0)]
      exact .nil
  | succ n ih =>
      intro t hlength hdepth
      cases t with
      | nil => exact .nil
      | cons c t =>
          have hshort : t.length ≤ n := by simpa using hlength
          cases hc : isParenthesis c with
          | false =>
              rw [depthAfter_cons_plain hc] at hdepth
              exact .plain hc (ih hshort hdepth)
          | true =>
              rcases eq_of_isParenthesis hc with rfl | rfl
              · rw [depthAfter_open] at hdepth
                obtain ⟨g, rest, rfl, hg, hrest⟩ := exists_close n hshort hdepth (Nat.le_refl 0)
                have hshorter : rest.length ≤ n := by
                  rw [List.length_append, List.length_cons] at hshort
                  omega
                exact .group hg (ih hshorter hrest)
              · rw [depthAfter_close_zero] at hdepth
                exact absurd hdepth (by simp)

/-- **A text is balanced when the scan of depths comes back to where it began.** -/
theorem balanced_iff {t : Text} : Balanced t ↔ depthAfter 0 t = some 0 :=
  ⟨fun h => h.depthAfter 0, balanced_of_depthAfter t.length (Nat.le_refl _)⟩

theorem balanced_congr {s t : Text} (h : compact s = compact t) : Balanced s ↔ Balanced t := by
  rw [balanced_iff, balanced_iff, depthAfter_of_compact_eq h]

theorem Balanced.append {s t : Text} (hs : Balanced s) (ht : Balanced t) :
    Balanced (s ++ t) := by
  rw [balanced_iff, depthAfter_append, hs.depthAfter, Option.bind_some, ht.depthAfter]

private theorem not_balanced_of_closed {g : Text} (hg : Balanced g) (rest : Text) :
    ¬ Balanced (g ++ ')' :: rest) := by
  rw [balanced_iff, depthAfter_append, hg.depthAfter, Option.bind_some, depthAfter_close_zero]
  simp

/-- A group that has been opened is closed at one place only. -/
theorem group_unique {g g' t t' : Text} (hg : Balanced g) (hg' : Balanced g')
    (h : g ++ ')' :: t = g' ++ ')' :: t') : g = g' ∧ t = t' := by
  rcases List.append_eq_append_iff.mp h with ⟨a, rfl, ha⟩ | ⟨a, rfl, ha⟩
  · cases a with
    | nil => exact ⟨by simp, (List.cons.inj ha).2⟩
    | cons c a =>
        obtain ⟨rfl, -⟩ := List.cons.inj ha
        exact absurd hg' (not_balanced_of_closed hg a)
  · cases a with
    | nil => exact ⟨by simp, (List.cons.inj ha).2.symm⟩
    | cons c a =>
        obtain ⟨rfl, -⟩ := List.cons.inj ha
        exact absurd hg (not_balanced_of_closed hg' a)

/-! ### Groups -/

/-- The text stands in parentheses that are not inside of others. -/
def IsGroup (t g : Text) : Prop :=
  ∃ before after, t = before ++ '(' :: (g ++ ')' :: after) ∧ Balanced before ∧ Balanced g

theorem not_isGroup_nil (g : Text) : ¬ IsGroup [] g := by
  rintro ⟨before, after, h, -, -⟩
  simp at h

theorem isGroup_cons_plain {c : Char} (hc : isParenthesis c = false) (t g : Text) :
    IsGroup (c :: t) g ↔ IsGroup t g := by
  constructor
  · rintro ⟨before, after, h, hbefore, hg⟩
    cases hbefore with
    | nil =>
        obtain ⟨rfl, -⟩ := List.cons.inj h
        exact absurd hc (by decide)
    | plain _ hbefore =>
        obtain ⟨-, ht⟩ := List.cons.inj h
        exact ⟨_, after, ht, hbefore, hg⟩
    | group _ _ =>
        obtain ⟨rfl, -⟩ := List.cons.inj h
        exact absurd hc (by decide)
  · rintro ⟨before, after, rfl, hbefore, hg⟩
    exact ⟨c :: before, after, rfl, .plain hc hbefore, hg⟩

theorem isGroup_group {first : Text} (hfirst : Balanced first) (t g : Text) :
    IsGroup ('(' :: (first ++ ')' :: t)) g ↔ g = first ∨ IsGroup t g := by
  constructor
  · rintro ⟨before, after, h, hbefore, hg⟩
    cases hbefore with
    | nil =>
        obtain ⟨-, ht⟩ := List.cons.inj h
        exact .inl (group_unique hfirst hg ht).1.symm
    | plain hc _ =>
        obtain ⟨rfl, -⟩ := List.cons.inj h
        exact absurd hc (by decide)
    | group hg' hbefore =>
        rw [List.cons_append, List.append_assoc, List.cons_append] at h
        obtain ⟨-, rfl⟩ := group_unique hfirst hg' (List.cons.inj h).2
        exact .inr ⟨_, after, rfl, hbefore, hg⟩
  · rintro (rfl | ⟨before, after, rfl, hbefore, hg⟩)
    · exact ⟨[], t, rfl, .nil, hfirst⟩
    · exact ⟨'(' :: (first ++ ')' :: before), after, by simp, .group hfirst hbefore, hg⟩

/-- In canonical spacing a group without content has nothing in it. -/
theorem eq_nil_of_isGroup_normalise {t g : Text} (h : IsGroup (normalise t) g)
    (hblank : compact g = []) : g = [] := by
  obtain ⟨before, after, ht, -, -⟩ := h
  have hcompact : compact t = compact before ++ '(' :: ')' :: compact after := by
    rw [← compact_normalise t, ht, compact_append, compact_cons (by decide), compact_append,
      compact_cons (by decide), hblank, List.nil_append]
  have hspace : normalise t =
      space (compact before) ++ '(' :: ')' :: space (compact after) := by
    rw [normalise, hcompact, space_append _ (by simp), space_cons (by decide) (by decide) (by simp),
      space_cons (by decide) (by decide) (by simp)]
  rw [hspace] at ht
  -- The texts in front of the two groups are the same but for blanks, so neither goes on with
  -- the parenthesis of the other.
  have hrest : g ++ ')' :: after = ')' :: space (compact after) := by
    rcases List.append_eq_append_iff.mp ht with ⟨a, ha, hrest⟩ | ⟨a, ha, hrest⟩
    · cases a with
      | nil => exact (List.cons.inj hrest).2.symm
      | cons c a =>
          obtain ⟨rfl, -⟩ := List.cons.inj hrest
          have hlength := congrArg (fun s => (compact s).length) ha
          simp [compact_cons (show isBlank '(' = false by decide)] at hlength
    · cases a with
      | nil => exact (List.cons.inj hrest).2
      | cons c a =>
          obtain ⟨rfl, -⟩ := List.cons.inj hrest
          have hlength := congrArg (fun s => (compact s).length) ha
          simp [compact_cons (show isBlank '(' = false by decide)] at hlength
  cases g with
  | nil => rfl
  | cons c g =>
      obtain ⟨rfl, -⟩ := List.cons.inj hrest
      rw [compact_cons (by decide)] at hblank
      exact absurd hblank (by simp)

/-! ### Commas -/

theorem splitCommas_ne_nil (d : Nat) (t : Text) : splitCommas d t ≠ [] := by
  cases t with
  | nil => simp [splitCommas]
  | cons c rest =>
      unfold splitCommas
      split
      · simp
      · split <;> simp

theorem splitCommas_comma (t : Text) : splitCommas 0 (',' :: t) = [] :: splitCommas 0 t := by
  simp [splitCommas]

theorem splitCommas_cons {c : Char} {d : Nat} (h : ¬ (c = ',' ∧ d = 0)) (t : Text) :
    splitCommas d (c :: t) = (splitCommas (stepDepth d c) t).modifyHead (c :: ·) := by
  rw [splitCommas, if_neg h]
  cases hpieces : splitCommas (stepDepth d c) t with
  | nil => exact absurd hpieces (splitCommas_ne_nil _ t)
  | cons piece pieces => rfl

theorem stepDepth_plain {c : Char} (h : isParenthesis c = false) (d : Nat) :
    stepDepth d c = d := by
  obtain ⟨hopen, hclose⟩ := ne_of_isParenthesis h
  rw [stepDepth, if_neg hopen, if_neg hclose]

/-- The commas inside of parentheses separate nothing. -/
theorem splitCommas_inner {g : Text} (hg : Balanced g) : ∀ (d : Nat) (t : Text),
    splitCommas (d + 1) (g ++ t) = (splitCommas (d + 1) t).modifyHead (g ++ ·) := by
  induction hg with
  | nil =>
      intro d t
      cases h : splitCommas (d + 1) t with
      | nil => exact absurd h (splitCommas_ne_nil _ t)
      | cons piece pieces => exact h
  | plain hc ht ih =>
      intro d t
      rw [List.cons_append, splitCommas_cons (by simp), stepDepth_plain hc, ih,
        List.modifyHead_modifyHead]
      rfl
  | @group g s hg ht ihg iht =>
      intro d t
      have hopen : '(' :: (g ++ ')' :: s) ++ t = '(' :: (g ++ ')' :: (s ++ t)) := by simp
      rw [hopen, splitCommas_cons (by simp), show stepDepth (d + 1) '(' = d + 1 + 1 from rfl, ihg,
        splitCommas_cons (by simp), show stepDepth (d + 1 + 1) ')' = d + 1 from rfl, iht,
        List.modifyHead_modifyHead, List.modifyHead_modifyHead, List.modifyHead_modifyHead]
      congr 1
      funext piece
      simp

theorem splitCommas_plain {c : Char} (hc : isParenthesis c = false) (hcomma : c ≠ ',')
    (t : Text) : splitCommas 0 (c :: t) = (splitCommas 0 t).modifyHead (c :: ·) := by
  rw [splitCommas_cons (by simp [hcomma]), stepDepth_plain hc]

/-- A group belongs to one piece. -/
theorem splitCommas_group {g : Text} (hg : Balanced g) (t : Text) :
    splitCommas 0 ('(' :: (g ++ ')' :: t)) =
      (splitCommas 0 t).modifyHead (('(' :: (g ++ [')'])) ++ ·) := by
  rw [splitCommas_cons (by simp), show stepDepth 0 '(' = 0 + 1 from rfl, splitCommas_inner hg,
    splitCommas_cons (by simp), show stepDepth (0 + 1) ')' = 0 from rfl,
    List.modifyHead_modifyHead, List.modifyHead_modifyHead]
  congr 1
  funext piece
  simp

/-- Put together again, the pieces are the text. -/
theorem join_splitCommas (t : Text) : ∀ d : Nat, Text.join "," (splitCommas d t) = t := by
  induction t with
  | nil => intro d; rfl
  | cons c t ih =>
      intro d
      by_cases h : c = ',' ∧ d = 0
      · obtain ⟨rfl, rfl⟩ := h
        rw [splitCommas_comma, Text.join_cons _ _ (splitCommas_ne_nil 0 t), ih]
        rfl
      · rw [splitCommas_cons h]
        have hjoin := Text.join_modifyHead "," [c] (splitCommas_ne_nil (stepDepth d c) t)
        rw [ih] at hjoin
        exact hjoin

/-- The pieces of a balanced text are balanced. -/
theorem balanced_of_mem_splitCommas {t : Text} (h : Balanced t) :
    ∀ piece ∈ splitCommas 0 t, Balanced piece := by
  have hhead : ∀ (s : Text) (pieces : List Text), (∀ piece : Text, Balanced piece →
      Balanced (s ++ piece)) → (∀ piece ∈ pieces, Balanced piece) →
      ∀ piece ∈ pieces.modifyHead (s ++ ·), Balanced piece := by
    intro s pieces hs hpieces piece hpiece
    cases pieces with
    | nil => simp at hpiece
    | cons first others =>
        rcases List.mem_cons.mp hpiece with rfl | hpiece
        · exact hs first (hpieces first (by simp))
        · exact hpieces piece (by simp [hpiece])
  induction h with
  | nil =>
      intro piece hpiece
      rw [List.mem_singleton.mp hpiece]
      exact .nil
  | @plain c t hc ht ih =>
      by_cases hcomma : c = ','
      · rw [hcomma, splitCommas_comma]
        intro piece hpiece
        rcases List.mem_cons.mp hpiece with rfl | hpiece
        · exact .nil
        · exact ih piece hpiece
      · rw [splitCommas_plain hc hcomma]
        exact hhead [c] _ (fun piece hpiece => .plain hc hpiece) ih
  | group hg ht ihg iht =>
      rw [splitCommas_group hg]
      refine hhead _ _ (fun piece hpiece => ?_) iht
      simpa using Balanced.group hg hpiece

/-! ### Spreading -/

theorem spreadFrom_succ_plain {c : Char} (hc : isParenthesis c = false) (d : Nat) (since t : Text) :
    spreadFrom (d + 1) since (c :: t) = spreadFrom (d + 1) (since ++ [c]) t := by
  obtain ⟨hopen, hclose⟩ := ne_of_isParenthesis hc
  rw [spreadFrom, if_neg hopen, if_neg hclose, if_neg (by simp)]

/-- What stands in a group is kept until it is closed. -/
theorem spreadFrom_inner {g : Text} (hg : Balanced g) : ∀ (d : Nat) (since t : Text),
    spreadFrom (d + 1) since (g ++ t) = spreadFrom (d + 1) (since ++ g) t := by
  induction hg with
  | nil => intro d since t; simp
  | plain hc ht ih =>
      intro d since t
      rw [List.cons_append, spreadFrom_succ_plain hc, ih, List.append_assoc, List.singleton_append]
  | @group g s hg ht ihg iht =>
      intro d since t
      have hopen : '(' :: (g ++ ')' :: s) ++ t = '(' :: (g ++ ')' :: (s ++ t)) := by simp
      have hclose : ∀ since rest : Text, spreadFrom (d + 1 + 1) since (')' :: rest) =
          spreadFrom (d + 1) (since ++ [')']) rest := by
        intro since rest
        simp [spreadFrom]
      rw [hopen, spreadFrom, if_pos rfl, if_neg (by simp), ihg, hclose, iht]
      congr 1
      simp

theorem spreadFrom_zero_plain {c : Char} (hc : isParenthesis c = false) (since t : Text) :
    spreadFrom 0 since (c :: t) = c :: spreadFrom 0 (since ++ [c]) t := by
  obtain ⟨hopen, hclose⟩ := ne_of_isParenthesis hc
  rw [spreadFrom, if_neg hopen, if_neg hclose, if_pos rfl]

theorem spreadFrom_zero_group {g : Text} (hg : Balanced g) (since t : Text) :
    spreadFrom 0 since ('(' :: (g ++ ')' :: t)) =
      spreadGroup g ++ spreadFrom 0 (g ++ [')']) t := by
  rw [spreadFrom, if_pos rfl, if_pos rfl, spreadFrom_inner hg]
  simp [spreadFrom]

/-- As long as no parenthesis is closed that was not opened, what has been read makes no
difference. -/
theorem spreadFrom_zero {t : Text} (h : Balanced t) (since : Text) :
    spreadFrom 0 since t = spread t := by
  induction h generalizing since with
  | nil => rfl
  | plain hc ht ih => rw [spread, spreadFrom_zero_plain hc, spreadFrom_zero_plain hc, ih, ih]
  | group hg ht ihg iht => rw [spread, spreadFrom_zero_group hg, spreadFrom_zero_group hg]

theorem spread_plain {c : Char} (hc : isParenthesis c = false) {t : Text} (ht : Balanced t) :
    spread (c :: t) = c :: spread t := by
  rw [spread, spreadFrom_zero_plain hc, spreadFrom_zero ht]

theorem spread_group {g t : Text} (hg : Balanced g) (ht : Balanced t) :
    spread ('(' :: (g ++ ')' :: t)) = spreadGroup g ++ spread t := by
  rw [spread, spreadFrom_zero_group hg, spreadFrom_zero ht]

/-- Without balance, what is closed is all that has been read since the last group was opened. -/
example : spread "(a)b)" = "(\n  a\n)b(\n  a)b\n)" := by decide

end VarlinkClient.Signature
