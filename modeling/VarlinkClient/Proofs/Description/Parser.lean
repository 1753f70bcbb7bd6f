/-
What the reader of descriptions makes sure of.

While lines are read, every declaration but the last is balanced and the last is as deep
as the scan says: `Scan.IsSound`.  At the end the depth is zero, so all are balanced, and
so is what is taken out of them: a description that was read has a name on one line and
members with proper names and balanced signatures in canonical spacing.
-/
import Mathlib.Data.List.Induction
import VarlinkClient.Description.Parser
import VarlinkClient.Proofs.Description.Signature

namespace VarlinkClient.Description

open Signature (Balanced depthAfter depthAfter_append_free isParenthesis)

/-! ### Characters of names -/

private theorem toNat_of_isNameChar {c : Char} (h : isNameChar c = true) :
    48 ≤ c.toNat ∧ c.toNat ≤ 122 := by
  have hrange : ∀ {low high : Char}, 48 ≤ low.toNat → high.toNat ≤ 122 →
      low.val ≤ c.val → c.val ≤ high.val → 48 ≤ c.toNat ∧ c.toNat ≤ 122 :=
    fun hlow hhigh hge hle => ⟨hlow.trans (UInt32.le_iff_toNat_le.mp hge),
      (UInt32.le_iff_toNat_le.mp hle).trans hhigh⟩
  rcases Bool.or_eq_true_iff.mp h with halphanum | hunderscore
  · rcases Bool.or_eq_true_iff.mp halphanum with halpha | hdigit
    · rcases Bool.or_eq_true_iff.mp halpha with hupper | hlower
      · obtain ⟨hge, hle⟩ : 'A'.val ≤ c.val ∧ c.val ≤ 'Z'.val := of_decide_eq_true hupper
        exact hrange (by decide) (by decide) hge hle
      · obtain ⟨hge, hle⟩ := Bool.and_eq_true_iff.mp hlower
        exact hrange (by decide) (by decide) (of_decide_eq_true hge) (of_decide_eq_true hle)
    · obtain ⟨hge, hle⟩ := Bool.and_eq_true_iff.mp hdigit
      exact hrange (by decide) (by decide) (of_decide_eq_true hge) (of_decide_eq_true hle)
  · rw [eq_of_beq hunderscore]
    decide

theorem isBlank_of_isNameChar {c : Char} (h : isNameChar c = true) : isBlank c = false := by
  obtain ⟨hlow, hhigh⟩ := toNat_of_isNameChar h
  simp [isBlank]
  omega

theorem isParenthesis_of_isNameChar {c : Char} (h : isNameChar c = true) :
    isParenthesis c = false := by
  rw [isParenthesis, Bool.or_eq_false_iff, decide_eq_false_iff_not, decide_eq_false_iff_not]
  constructor <;> (rintro rfl; exact absurd h (by decide))

/-! ### Keywords -/

/-- Keywords are written with letters. -/
theorem Keyword.isNameChar_of_mem (keyword : Keyword) :
    ∀ c ∈ keyword.text, isNameChar c = true := by
  rw [← List.all_eq_true]
  cases keyword with
  | interface => rfl
  | member kind => cases kind <;> rfl

/-- A keyword is written with letters, one at least. -/
theorem Keyword.exists_cons (keyword : Keyword) :
    ∃ c rest, keyword.text = c :: rest ∧ isNameChar c = true := by
  cases h : keyword.text with
  | nil => cases keyword with
    | interface => exact absurd h (by decide)
    | member kind => cases kind <;> exact absurd h (by decide)
  | cons c rest => exact ⟨c, rest, rfl, keyword.isNameChar_of_mem c (by simp [h])⟩

/-- The keyword in front of a blank is found. -/
theorem keyword?_append (keyword : Keyword) (rest : Text) :
    keyword? (keyword.text ++ ' ' :: rest) = some keyword := by
  have hword : firstWord (keyword.text ++ ' ' :: rest) = keyword.text := by
    obtain ⟨c, letters, htext, hc⟩ := keyword.exists_cons
    have hbare : ∀ d ∈ keyword.text, (!isBlank d) = true := fun d hd => by
      simp [isBlank_of_isNameChar (keyword.isNameChar_of_mem d hd)]
    have hstart : Text.trimLeft (keyword.text ++ ' ' :: rest) = keyword.text ++ ' ' :: rest := by
      rw [htext]
      exact Text.trimLeft_cons (isBlank_of_isNameChar hc) _
    rw [firstWord, hstart, List.takeWhile_append_of_pos hbare,
      List.takeWhile_cons_of_neg (by decide), List.append_nil]
  rw [keyword?, hword]
  cases keyword with
  | interface => decide
  | member kind => cases kind <;> decide

/-- A text in which a keyword is found begins with it. -/
theorem exists_of_keyword? {t : Text} {keyword : Keyword} (h : keyword? t = some keyword)
    (hbare : Text.StartsBare t) : ∃ rest, t = keyword.text ++ rest := by
  have hword : keyword.text = firstWord t := by simpa using List.find?_some h
  refine ⟨t.dropWhile fun c => !isBlank c, ?_⟩
  rw [hword, firstWord, Text.trimLeft_eq_self hbare, List.takeWhile_append_dropWhile]

/-! ### Reading lines -/

namespace Scan

theorem readLines_cons {scan next : Scan} {line : Text}
    (h : scan.readLine (Text.trim line) = .ok next) (lines : List Text) :
    scan.readLines (line :: lines) = next.readLines lines := by
  rw [readLines, h]

/-- Lines are read one part after the other. -/
theorem readLines_append {scan next : Scan} {before : List Text}
    (h : scan.readLines before = .ok next) (after : List Text) :
    scan.readLines (before ++ after) = next.readLines after := by
  induction before generalizing scan with
  | nil =>
      have hscan : scan = next := Except.ok.inj h
      rw [hscan, List.nil_append]
  | cons line before ih =>
      rw [readLines] at h
      cases hline : scan.readLine (Text.trim line) with
      | error error => rw [hline] at h; exact absurd h (by simp)
      | ok middle =>
          rw [hline] at h
          rw [List.cons_append, readLines_cons hline, ih h]

/-- Blanks at the ends of lines make no difference. -/
theorem readLines_congr {lines lines' : List Text}
    (h : lines.map Text.trim = lines'.map Text.trim) (scan : Scan) :
    scan.readLines lines = scan.readLines lines' := by
  induction lines generalizing lines' scan with
  | nil =>
      have hnil : lines' = [] := by simpa using h.symm
      rw [hnil]
  | cons line lines ih =>
      cases lines' with
      | nil => simp at h
      | cons line' lines' =>
          rw [List.map_cons, List.map_cons] at h
          obtain ⟨hline, hlines⟩ := List.cons.inj h
          rw [readLines, readLines, hline]
          cases scan.readLine (Text.trim line') with
          | error error => rfl
          | ok next => exact ih hlines next

/-- A blank line at the end says nothing. -/
theorem readLines_append_blank (scan : Scan) (lines : List Text) :
    scan.readLines (lines ++ [[]]) = scan.readLines lines := by
  cases h : scan.readLines lines with
  | ok next => rw [readLines_append h]; rfl
  | error error =>
      induction lines generalizing scan with
      | nil => exact absurd h (by simp [readLines])
      | cons line lines ih =>
          rw [readLines] at h
          rw [List.cons_append, readLines]
          cases hline : scan.readLine (Text.trim line) with
          | error error' => rw [hline] at h; exact h
          | ok next => rw [hline] at h; exact ih next h

private theorem trim_stripEnd (line : Text) :
    Text.trim ((Text.stripEnd ['\r'] line).getD line) = Text.trim line := by
  cases h : Text.stripEnd ['\r'] line with
  | none => rfl
  | some before =>
      have hline : before ++ ['\r'] = line := List.append_eq_of_isSuffixOf?_eq_some h
      rw [← hline]
      exact (Text.trim_append_blank (by decide) before).symm

/-- Reading does not depend on how lines end. -/
theorem readLines_lines (scan : Scan) (t : Text) :
    scan.readLines (Text.lines t) = scan.readLines (Text.splitOn (· = '\n') t) := by
  cases hpieces : Text.splitOn (· = '\n') t using List.reverseRecOn with
  | nil => exact absurd hpieces (Text.splitOn_ne_nil _ t)
  | append_singleton ended last _ =>
      have htrim : (ended.map fun line => (Text.stripEnd ['\r'] line).getD line).map Text.trim =
          ended.map Text.trim := by
        rw [List.map_map]
        exact List.map_congr_left fun line _ => trim_stripEnd line
      rw [Text.lines, hpieces, List.dropLast_concat, List.getLast?_concat]
      cases last with
      | nil => rw [readLines_append_blank, readLines_congr htrim]
      | cons c last => exact readLines_congr (by rw [List.map_append, htrim, List.map_append]) scan

end Scan

/-! ### What has been read

A declaration begins where its first line does, with something else than a blank, and its
lines have become one.
-/

/-- A declaration on one line. -/
structure Declaration.IsSound (declaration : Declaration) : Prop where
  /-- It begins with something. -/
  nonempty : declaration.text ≠ []
  /-- What it begins with is not a blank. -/
  bare : Text.StartsBare declaration.text
  /-- It has no line feed. -/
  line : '\n' ∉ declaration.text

/-- Every declaration but the last is balanced, and the last is as deep as the scan. -/
inductive Scan.IsSound : Scan → Prop
  | start (doc : List Text) : IsSound ⟨[], doc, 0⟩
  | going {before : List Declaration} {last : Declaration} {doc : List Text} {depth : Nat}
      (hbefore : ∀ d ∈ before, d.IsSound ∧ Balanced d.text) (hlast : last.IsSound)
      (hdepth : depthAfter 0 last.text = some depth) : IsSound ⟨before ++ [last], doc, depth⟩

theorem continueLast_concat (line : Text) (before : List Declaration) (last : Declaration) :
    continueLast line (before ++ [last]) =
      before ++ [{ last with text := last.text ++ ' ' :: line }] := by
  induction before with
  | nil => rfl
  | cons first before ih =>
      rw [List.cons_append, List.cons_append, ← ih]
      cases before <;> rfl

namespace Scan.IsSound

/-- Documentation makes no difference. -/
theorem withDoc {scan : Scan} (h : scan.IsSound) (doc : List Text) :
    ({ scan with doc } : Scan).IsSound := by
  cases h with
  | start => exact .start doc
  | going hbefore hlast hdepth => exact .going hbefore hlast hdepth

/-- At depth zero, all declarations are balanced. -/
theorem balanced {scan : Scan} (h : scan.IsSound) (hdepth : scan.depth = 0) :
    ∀ d ∈ scan.declarations, d.IsSound ∧ Balanced d.text := by
  cases h with
  | start => simp
  | @going before last doc depth hbefore hlast hlastDepth =>
      intro d hd
      rcases List.mem_append.mp hd with hd | hd
      · exact hbefore d hd
      · rw [List.mem_singleton.mp hd]
        have hzero : depth = 0 := hdepth
        exact ⟨hlast, Signature.balanced_iff.mpr (hzero ▸ hlastDepth)⟩

/-- A line that is placed belongs to the last declaration. -/
theorem place {scan placed : Scan} {c : Char} {rest : Text} {depth : Nat} (h : scan.IsSound)
    (hc : isBlank c = false) (hline : '\n' ∉ c :: rest)
    (hplaced : scan.place (c :: rest) = .ok placed)
    (hdepth : depthAfter scan.depth (c :: rest) = some depth) :
    ({ placed with depth } : Scan).IsSound := by
  rw [Scan.place] at hplaced
  by_cases hzero : scan.depth = 0
  · rw [if_pos hzero] at hplaced
    by_cases hkeyword : (keyword? (c :: rest)).isSome
    · rw [if_pos hkeyword] at hplaced
      rw [← Except.ok.inj hplaced]
      exact .going (h.balanced hzero) ⟨by simp, Text.startsBare_cons.mpr hc, hline⟩
        (hzero ▸ hdepth)
    · rw [if_neg hkeyword] at hplaced
      exact absurd hplaced (by simp)
  · rw [if_neg hzero] at hplaced
    rw [← Except.ok.inj hplaced]
    cases h with
    | start => exact absurd rfl hzero
    | @going before last doc outer hbefore hlast hlastDepth =>
        rw [continueLast_concat]
        refine .going hbefore ⟨by simp, ?_, ?_⟩ ?_
        · intro d hd
          refine hlast.bare d ?_
          cases htext : last.text with
          | nil => exact absurd htext hlast.nonempty
          | cons e text =>
              rw [htext] at hd
              exact hd
        · intro hmem
          rcases List.mem_append.mp hmem with hmem | hmem
          · exact hlast.line hmem
          · rcases List.mem_cons.mp hmem with heq | hmem
            · exact absurd heq (by decide)
            · exact hline hmem
        · rw [Signature.depthAfter_append, hlastDepth, Option.bind_some,
            Signature.depthAfter_cons_plain (by decide)]
          exact hdepth

/-- Reading one line keeps the scan sound. -/
theorem readLine {scan next : Scan} {line : Text} (h : scan.IsSound)
    (hbare : Text.StartsBare line) (hline : '\n' ∉ line)
    (hread : scan.readLine line = .ok next) : next.IsSound := by
  unfold Scan.readLine at hread
  split at hread
  next => rw [← Except.ok.inj hread]; exact h
  next comment =>
    by_cases hzero : scan.depth = 0
    · rw [if_pos hzero] at hread
      rw [← Except.ok.inj hread]
      exact h.withDoc _
    · rw [if_neg hzero] at hread
      rw [← Except.ok.inj hread]
      exact h
  next line hnil _ =>
    obtain ⟨c, rest, rfl⟩ := List.exists_cons_of_ne_nil hnil
    cases hplaced : scan.place (c :: rest) with
    | error error => rw [hplaced] at hread; exact absurd hread (by simp)
    | ok placed =>
        rw [hplaced] at hread
        cases hdepth : depthAfter scan.depth (c :: rest) with
        | none => simp [hdepth] at hread
        | some depth =>
            simp only [hdepth] at hread
            rw [← Except.ok.inj hread]
            exact h.place (Text.startsBare_cons.mp hbare) hline hplaced hdepth

/-- **Reading lines keeps the scan sound.** -/
theorem readLines {lines : List Text} (hlines : ∀ line ∈ lines, '\n' ∉ line) {scan next : Scan}
    (h : scan.IsSound) (hread : scan.readLines lines = .ok next) : next.IsSound := by
  induction lines generalizing scan with
  | nil => rw [← Except.ok.inj hread]; exact h
  | cons line lines ih =>
      rw [Scan.readLines] at hread
      cases hline : scan.readLine (Text.trim line) with
      | error error => rw [hline] at hread; exact absurd hread (by simp)
      | ok middle =>
          rw [hline] at hread
          have hmiddle : middle.IsSound :=
            h.readLine (Text.startsBare_trim line)
              (fun hmem => hlines line (by simp) (Text.mem_of_mem_trim hmem)) hline
          exact ih (fun l hl => hlines l (by simp [hl])) hmiddle hread

end Scan.IsSound

/-- The declarations are what the lines come to, when they lead back to depth zero and no
declaration after the first is that of an interface. -/
theorem declarations_eq_ok_iff {t : Text} {ds : List Declaration} :
    declarations t = .ok ds ↔
      ∃ doc, Scan.start.readLines (Text.splitOn (· = '\n') t) = .ok ⟨ds, doc, 0⟩ ∧
        ∀ d ∈ ds.tail, keyword? d.text ≠ some .interface := by
  rw [declarations, Scan.readLines_lines]
  constructor
  · intro h
    cases hread : Scan.start.readLines (Text.splitOn (· = '\n') t) with
    | error error => rw [hread] at h; exact absurd h (by simp)
    | ok scan =>
        obtain ⟨found, doc, depth⟩ := scan
        rw [hread] at h
        dsimp only at h
        by_cases hdepth : depth = 0
        · rw [if_neg (by simp [hdepth])] at h
          split at h
          next => exact absurd h (by simp)
          next hunique =>
            obtain rfl : found = ds := Except.ok.inj h
            exact ⟨doc, by rw [hdepth], by simpa using hunique⟩
        · rw [if_pos hdepth] at h
          exact absurd h (by simp)
  · rintro ⟨doc, hread, hunique⟩
    rw [hread]
    dsimp only
    rw [if_neg (by simp), if_neg (by simpa using hunique)]

/-- The declarations of a description are balanced. -/
theorem declarations_sound {t : Text} {ds : List Declaration} (h : declarations t = .ok ds) :
    ∀ d ∈ ds, d.IsSound ∧ Balanced d.text := by
  obtain ⟨doc, hread, -⟩ := declarations_eq_ok_iff.mp h
  have hsound : (⟨ds, doc, 0⟩ : Scan).IsSound := by
    refine Scan.IsSound.readLines (fun line hline hmem => ?_) (.start []) hread
    have := Text.free_of_mem_splitOn hline '\n' hmem
    simp at this
  exact hsound.balanced rfl

/-! ### Descriptions that were read -/

/-- A member with a proper name and a balanced signature in canonical spacing. -/
structure IsProperMember (member : Member) : Prop where
  named : member.name ≠ []
  name : ∀ c ∈ member.name, isNameChar c = true
  canonical : Signature.normalise member.signature = member.signature
  balanced : Balanced member.signature

/-- A description with a name on one line and proper members. -/
structure IsProper (description : Description) : Prop where
  named : description.name ≠ []
  trimmed : Text.trim description.name = description.name
  line : '\n' ∉ description.name
  balanced : Balanced description.name
  members : ∀ member ∈ description.members, IsProperMember member

theorem isProperMember_of_readMember {declaration : Declaration} {member : Member}
    (hsound : declaration.IsSound) (hbalanced : Balanced declaration.text)
    (h : readMember declaration = .ok member) : IsProperMember member := by
  unfold readMember at h
  split at h
  next kind hkeyword =>
    obtain ⟨rest, htext⟩ := exists_of_keyword? hkeyword hsound.bare
    have hdrop : declaration.text.drop kind.keyword.length = rest := by
      rw [htext]
      exact List.drop_left
    rw [hdrop] at h
    dsimp only at h
    split at h
    next => exact absurd h (by simp)
    next hnamed =>
      have hname : ∀ c ∈ (Text.trimLeft rest).takeWhile isNameChar, isNameChar c = true :=
        fun c hc => List.mem_takeWhile_imp hc
      rw [← Except.ok.inj h]
      refine ⟨hnamed, hname, Signature.normalise_normalise _, ?_⟩
      -- Keyword, blanks and name have no parentheses, so the signature has those of the text.
      obtain ⟨blanks, hrest, hblanks⟩ := Text.exists_trimLeft rest
      rw [Signature.balanced_congr (Signature.compact_normalise _), Signature.balanced_iff]
      have hdepth := hbalanced.depthAfter 0
      rw [htext, depthAfter_append_free fun c hc =>
          isParenthesis_of_isNameChar (Keyword.isNameChar_of_mem _ c hc),
        hrest, depthAfter_append_free fun c hc => Signature.isParenthesis_of_blank (hblanks c hc),
        ← List.takeWhile_append_dropWhile (p := isNameChar) (l := Text.trimLeft rest),
        depthAfter_append_free fun c hc => isParenthesis_of_isNameChar (hname c hc)] at hdepth
      exact hdepth
  next => exact absurd h (by simp)

theorem isProperMember_of_readMembers {ds : List Declaration} {members : List Member}
    (hds : ∀ d ∈ ds, d.IsSound ∧ Balanced d.text) (h : readMembers ds = .ok members) :
    ∀ member ∈ members, IsProperMember member := by
  induction ds generalizing members with
  | nil =>
      rw [← Except.ok.inj h]
      simp
  | cons d ds ih =>
      unfold readMembers at h
      cases hmember : readMember d with
      | error error => rw [hmember] at h; exact absurd h (by simp)
      | ok first =>
          rw [hmember] at h
          cases hmembers : readMembers ds with
          | error error => simp [hmembers] at h
          | ok others =>
              simp only [hmembers] at h
              rw [← Except.ok.inj h]
              intro member hmem
              rcases List.mem_cons.mp hmem with rfl | hmem
              · obtain ⟨hsound, hbalanced⟩ := hds d (by simp)
                exact isProperMember_of_readMember hsound hbalanced hmember
              · exact ih (fun e he => hds e (by simp [he])) hmembers member hmem

theorem interfaceName_isSound {declaration : Declaration} {name : Text}
    (hsound : declaration.IsSound) (hbalanced : Balanced declaration.text)
    (h : interfaceName? declaration.text = some name) :
    name ≠ [] ∧ Text.trim name = name ∧ '\n' ∉ name ∧ Balanced name := by
  unfold interfaceName? at h
  split at h
  next => exact absurd h (by simp)
  next rest hrest =>
    by_cases hblank : Text.trim rest = []
    · rw [if_pos hblank] at h
      exact absurd h (by simp)
    · rw [if_neg hblank] at h
      have hname : name = Text.trim rest := (Option.some.inj h).symm
      have htext : Keyword.interface.text ++ rest = declaration.text :=
        List.append_eq_of_isPrefixOf?_eq_some hrest
      rw [hname]
      refine ⟨hblank, Text.trim_trim rest, fun hmem => hsound.line ?_, ?_⟩
      · rw [← htext]
        exact List.mem_append_right _ (Text.mem_of_mem_trim hmem)
      · rw [Signature.balanced_congr (Signature.compact_trim rest), Signature.balanced_iff,
          ← hbalanced.depthAfter 0, ← htext,
          depthAfter_append_free fun c hc =>
            isParenthesis_of_isNameChar (Keyword.isNameChar_of_mem _ c hc)]

/-- A description is read from its declarations: the first names it, the others are members. -/
theorem parse_eq_ok_iff {t : Text} {description : Description} :
    parse t = .ok description ↔ ∃ first rest, declarations t = .ok (first :: rest) ∧
      interfaceName? first.text = some description.name ∧
      readMembers rest = .ok description.members ∧ description.doc = first.doc := by
  constructor
  · intro h
    unfold parse at h
    split at h
    next => exact absurd h (by simp)
    next => exact absurd h (by simp)
    next first rest hds =>
      split at h
      next => exact absurd h (by simp)
      next name hname =>
        split at h
        next => exact absurd h (by simp)
        next members hmembers =>
          rw [← Except.ok.inj h]
          exact ⟨first, rest, hds, hname, hmembers, rfl⟩
  · rintro ⟨first, rest, hds, hname, hmembers, hdoc⟩
    simp [parse, hds, hname, hmembers, ← hdoc]

/-- **A description that was read is proper.** -/
theorem isProper_of_parse {t : Text} {description : Description} (h : parse t = .ok description) :
    description.IsProper := by
  obtain ⟨first, rest, hds, hname, hmembers, -⟩ := parse_eq_ok_iff.mp h
  have hsound := declarations_sound hds
  obtain ⟨hfirst, hbalanced⟩ := hsound first (by simp)
  obtain ⟨hnamed, htrimmed, hline, hnameBalanced⟩ :=
    interfaceName_isSound hfirst hbalanced hname
  exact ⟨hnamed, htrimmed, hline, hnameBalanced,
    isProperMember_of_readMembers (fun d hd => hsound d (by simp [hd])) hmembers⟩

end VarlinkClient.Description
