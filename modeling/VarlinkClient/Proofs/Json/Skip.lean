/-
What is passed over keeps to the grammar.

Passing over a value takes what the grammar takes, with any bytes in its strings
(`meets_skipValue`).  So a text in which values are passed over has no other defect than strings
that are not UTF-8.
-/
import VarlinkClient.Json.Skip
import VarlinkClient.Proofs.Json.Grammar

namespace VarlinkClient.Json

open Grammar

/-- Any bytes at all. -/
def Grammar.AreAny (_ : Bytes) : Prop :=
  True

/-! ### Numbers -/

theorem meets_skipExponent (bytes : Bytes) : Meets (Power bytes) (skipExponent bytes) := by
  unfold skipExponent
  dsimp only
  split
  · trivial
  · rename_i b rest heq
    have hunsigned : withoutSign bytes = b :: rest := heq
    split
    · rename_i hb
      exact power_of_withoutSign (hunsigned ▸ .intro hb (maybeDigits_dropWhile rest))
    · trivial

theorem meets_skipTail (bytes : Bytes) : Meets (Exponent bytes) (skipTail bytes) := by
  unfold skipTail
  split
  · split
    · rename_i he
      exact (meets_skipExponent _).imp fun _ h => .power he h
    · exact .absent
  · exact .absent

theorem meets_skipAfterWhole (bytes : Bytes) :
    Meets (AfterWhole bytes) (skipAfterWhole bytes) := by
  unfold skipAfterWhole
  split
  · split
    · rename_i hpoint
      rw [hpoint]
      split
      · rename_i hdigits
        exact (meets_skipTail _).imp fun _ h => .fraction (digits_dropWhile hdigits) h
      · trivial
    · exact (meets_skipTail _).imp fun _ h => .exponent h
  · exact .exponent .absent

theorem meets_skipNumber (bytes : Bytes) : Meets (Magnitude bytes) (skipNumber bytes) := by
  unfold skipNumber
  split
  · trivial
  rename_i b rest
  split
  · rename_i hzero
    rw [hzero]
    split
    · trivial
    · exact (meets_skipAfterWhole rest).imp fun _ h => .zero h
  rename_i hzero
  split
  · rename_i hb
    exact (meets_skipAfterWhole _).imp fun _ h => .digits hb hzero (maybeDigits_dropWhile rest) h
  · trivial

/-! ### Strings -/

theorem meets_skipEscape (bytes : Bytes) : Meets (Escape bytes) (skipEscape bytes) := by
  unfold skipEscape
  split
  · trivial
  rename_i b rest
  split
  · rename_i hescaped
    obtain ⟨c, hc⟩ := Option.isSome_iff_exists.mp hescaped
    obtain ⟨letter, hletter, rfl⟩ := exists_letter_of_escaped? hc
    exact .letter hletter
  split
  · rename_i hu
    rw [hu]
    rcases (meets_readHex rest).error_or_ok with ⟨fault, hread, hfault⟩ | ⟨⟨n, after⟩, hread, hhex⟩
    · rw [hread]
      exact hfault
    · rw [hread]
      exact hhex
  · trivial

theorem meets_skipStringWithin : ∀ fuel bytes,
    Meets (StringTail AreAny bytes) (skipStringWithin fuel bytes) := by
  intro fuel
  induction fuel with
  | zero =>
      intro bytes
      trivial
  | succ fuel ih =>
      intro bytes
      unfold skipStringWithin
      split
      · trivial
      rename_i b rest hdrop
      have hplain : Stretch (IsPlainStretch AreAny) bytes (b :: rest) :=
        ⟨bytes.takeWhile isPlain, ⟨trivial, fun _ hb => List.mem_takeWhile_imp hb⟩,
          by rw [← hdrop, List.takeWhile_append_dropWhile]⟩
      split
      · trivial
      rename_i hcontrol
      split
      · rename_i hquote
        rw [hquote] at hplain
        exact .close hplain
      rename_i hquote
      rw [eq_backslash hdrop hcontrol hquote] at hplain
      rcases (meets_skipEscape rest).error_or_ok with
        ⟨fault, hskip, hfault⟩ | ⟨after, hskip, hescape⟩
      · rw [hskip]
        exact hfault
      · rw [hskip]
        exact (ih after).imp fun _ hmore => .escape hplain hescape hmore

theorem meets_skipString (bytes : Bytes) : Meets (StringTail AreAny bytes) (skipString bytes) :=
  meets_skipStringWithin _ bytes

/-! ### Containers -/

/-- A key and the colon after it. -/
theorem meets_skipKey (bytes : Bytes) :
    Meets (fun start => ∀ value rest, value (skipSpace start) rest →
      ObjectMember AreAny value (skipSpace bytes) rest) (skipKey bytes) := by
  unfold skipKey
  split
  · trivial
  rename_i b key hspace
  rw [hspace]
  split
  · rename_i hquote
    rw [hquote]
    rcases (meets_skipString key).error_or_ok with
      ⟨fault, hskip, hfault⟩ | ⟨middle, hskip, hkey⟩
    · rw [hskip]
      exact hfault
    · rw [hskip]
      exact (meets_readColon middle).imp fun start hcolon value rest hvalue =>
        .intro hkey hcolon hvalue
  · trivial

section Entries

variable {skip : Bytes → Except Fault Bytes} {value : Rule}
  (hskip : ∀ bytes, Meets (value (skipSpace bytes)) (skip bytes))
include hskip

theorem meets_skipItems : ∀ fuel bytes,
    Meets (AfterEntry ']' value bytes) (skipItems skip fuel bytes) := by
  intro fuel
  induction fuel with
  | zero =>
      intro bytes
      trivial
  | succ fuel ih =>
      intro bytes
      unfold skipItems
      split
      · trivial
      rename_i b rest hspace
      split
      · rename_i hclose
        rw [hclose] at hspace
        exact .done hspace
      split
      · rename_i hcomma
        rw [hcomma] at hspace
        rcases (hskip rest).error_or_ok with ⟨fault, hread, hfault⟩ | ⟨middle, hread, hitem⟩
        · rw [hread]
          exact hfault
        · rw [hread]
          exact (ih middle).imp fun _ hmore => .more hspace hitem hmore
      · trivial

theorem meets_skipMembers : ∀ fuel bytes,
    Meets (AfterEntry '\x7d' (ObjectMember AreAny value) bytes) (skipMembers skip fuel bytes) := by
  intro fuel
  induction fuel with
  | zero =>
      intro bytes
      trivial
  | succ fuel ih =>
      intro bytes
      unfold skipMembers
      split
      · trivial
      rename_i b rest hspace
      split
      · rename_i hclose
        rw [hclose] at hspace
        exact .done hspace
      split
      · rename_i hcomma
        rw [hcomma] at hspace
        rcases (meets_skipKey rest).error_or_ok with ⟨fault, hkey, hfault⟩ | ⟨start, hkey, hmember⟩
        · rw [hkey]
          exact hfault
        rw [hkey]
        dsimp only
        rcases (hskip start).error_or_ok with ⟨fault, hread, hfault⟩ | ⟨middle, hread, hvalue⟩
        · rw [hread]
          exact hfault
        · rw [hread]
          exact (ih middle).imp fun _ hmore => .more hspace (hmember value middle hvalue) hmore
      · trivial

theorem meets_skipArray (bytes : Bytes) :
    Meets (Entries ']' value bytes) (skipArray skip bytes) := by
  unfold skipArray
  split
  · trivial
  rename_i b rest hspace
  split
  · rename_i hclose
    rw [hclose] at hspace
    exact .none hspace
  · rw [← hspace]
    rcases (hskip (skipSpace bytes)).error_or_ok with
      ⟨fault, hread, hfault⟩ | ⟨middle, hread, hitem⟩
    · rw [hread]
      exact hfault
    · rw [skipSpace_skipSpace] at hitem
      rw [hread]
      exact (meets_skipItems hskip _ middle).imp fun _ hmore => .some hitem hmore

theorem meets_skipObject (bytes : Bytes) :
    Meets (Entries '\x7d' (ObjectMember AreAny value) bytes) (skipObject skip bytes) := by
  unfold skipObject
  split
  · trivial
  rename_i b rest hspace
  split
  · rename_i hclose
    rw [hclose] at hspace
    exact .none hspace
  · rw [← hspace]
    rcases (meets_skipKey (skipSpace bytes)).error_or_ok with
      ⟨fault, hkey, hfault⟩ | ⟨start, hkey, hmember⟩
    · rw [hkey]
      exact hfault
    rw [skipSpace_skipSpace] at hmember
    rw [hkey]
    dsimp only
    rcases (hskip start).error_or_ok with ⟨fault, hread, hfault⟩ | ⟨middle, hread, hvalue⟩
    · rw [hread]
      exact hfault
    · rw [hread]
      exact (meets_skipMembers hskip _ middle).imp fun _ hmore =>
        .some (hmember value middle hvalue) hmore

end Entries

/-! ### Values -/

theorem meets_skipWithin (depth : Nat) : ∀ bytes,
    Meets (Grammar.Value AreAny depth (skipSpace bytes)) (skipWithin depth bytes) := by
  induction depth using Nat.strong_induction_on with
  | _ depth ih =>
      intro bytes
      rw [skipWithin.eq_def]
      split
      · trivial
      rename_i b rest hspace
      rw [hspace]
      split
      · rename_i hb
        rw [hb]
        exact (meets_word (by decide) rest).imp fun _ => .scalar
      split
      · rename_i hb
        rw [hb]
        exact (meets_word (by decide) rest).imp fun _ => .scalar
      split
      · rename_i hb
        rw [hb]
        exact (meets_word (by decide) rest).imp fun _ => .scalar
      split
      · rename_i hb
        rw [hb]
        exact (meets_skipNumber rest).imp fun _ h => .scalar (.negative h)
      split
      · exact (meets_skipNumber _).imp fun _ h => .scalar (.number h)
      split
      · rename_i hb
        rw [hb]
        exact (meets_skipString rest).imp fun _ h => .scalar (.string h)
      split
      · rename_i hb
        rw [hb]
        split
        · trivial
        · rename_i inner
          exact (meets_skipArray (ih inner (Nat.lt_succ_self inner)) rest).imp
            fun _ h => Or.inr (.array h)
      split
      · rename_i hb
        rw [hb]
        split
        · trivial
        · rename_i inner
          exact (meets_skipObject (ih inner (Nat.lt_succ_self inner)) rest).imp
            fun _ h => Or.inr (.object h)
      · trivial

/-- **What is passed over keeps to the grammar**, with any bytes in its strings. -/
theorem meets_skipValue (bytes : Bytes) :
    Meets (Grammar.Value AreAny bytes.length (skipSpace bytes)) (skipValue bytes) :=
  meets_skipWithin bytes.length bytes

end VarlinkClient.Json
