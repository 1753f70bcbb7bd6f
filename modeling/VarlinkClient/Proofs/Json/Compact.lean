/-
The text of a value reads back.

Written without blanks, a value is the shortest of its spellings, so the reader takes the text
for the value it was written for.  And no control character stands in that text, whatever keys
and strings hold: it can be sent in a frame that a NUL ends.
-/
import VarlinkClient.Proofs.Json.Documents

namespace VarlinkClient.Json

/-! ### Joined entries -/

theorem itemsText_eq (items : List Value) :
    itemsText items = Text.join "," (items.map Value.text) := by
  induction items with
  | nil => rfl
  | cons item items ih =>
      cases items with
      | nil => simp [itemsText, Text.join]
      | cons next others =>
          rw [itemsText, ih]
          · simp [Text.join]
          · exact List.cons_ne_nil next others

/-- The text of a member. -/
def memberText (member : Text × Value) : Text :=
  quote member.1 ++ ':' :: member.2.text

theorem membersText_eq (members : List (Text × Value)) :
    membersText members = Text.join "," (members.map memberText) := by
  induction members with
  | nil => rfl
  | cons member members ih =>
      cases members with
      | nil => simp [membersText, memberText, Text.join]
      | cons next others =>
          rw [membersText, ih]
          · simp [Text.join, memberText]
          · exact List.cons_ne_nil next others

/-! ### No control characters -/

mutual

/-- **The text of a value has no control characters.** -/
theorem Value.isClean_text : (value : Value) → IsClean value.text
  | .null => by decide
  | .bool b => by cases b <;> decide
  | .number n => n.isClean_text
  | .string t => isClean_quote t
  | .array items => ((isClean_itemsText items).cons (by decide)).append (by decide)
  | .object members => ((isClean_membersText members).cons (by decide)).append (by decide)

theorem isClean_itemsText : (items : List Value) → IsClean (itemsText items)
  | [] => by decide
  | [item] => item.isClean_text
  | item :: next :: items =>
      item.isClean_text.append ((isClean_itemsText (next :: items)).cons (by decide))

theorem isClean_membersText : (members : List (Text × Value)) → IsClean (membersText members)
  | [] => by decide
  | [(key, value)] => (isClean_quote key).append (value.isClean_text.cons (by decide))
  | (key, value) :: next :: members => by
      have hothers := (isClean_membersText (next :: members)).cons (c := ',') (by decide)
      have hmember := (isClean_quote key).append (value.isClean_text.cons (c := ':') (by decide))
      exact hmember.append hothers

end

/-! ### Texts are spellings -/

theorem spellsMember_memberText {spells : Value → Text → Prop} {member : Text × Value}
    (h : spells member.2 member.2.text) : SpellsMember spells member (memberText member) := by
  have hspells : SpellsMember spells member _ := .intro spaces_nil spaces_nil h
  simpa [memberText] using hspells

/-- **The text of a value is a spelling of it.** -/
theorem spells_text : ∀ (nesting : Nat) (value : Value), value.isSound nesting = true →
    Spells nesting value value.text
  | nesting, .null, _ => SpellsScalar.null.spells nesting
  | nesting, .bool b, _ => (SpellsScalar.bool b).spells nesting
  | nesting, .number _, h =>
      (SpellsScalar.number (by simpa [Value.isSound] using h)).spells nesting
  | nesting, .string t, _ => (SpellsScalar.string t).spells nesting
  | 0, .array _, h => by simp [Value.isSound] at h
  | 0, .object _, h => by simp [Value.isSound] at h
  | nesting + 1, .array [], _ => Or.inr (.array (.nil spaces_nil))
  | nesting + 1, .array (item :: items), h => by
      have hitems : ∀ v ∈ item :: items, v.isSound nesting = true := by
        simpa [Value.isSound] using h
      have hrow := Row.join spaces_nil spaces_nil spaces_nil item items
        (fun v hv => spells_text nesting v (hitems v hv)) [] spaces_nil
      have hspells := SpellsContainer.array hrow
      refine Or.inr ?_
      rw [Value.text, itemsText_eq]
      simpa using hspells
  | nesting + 1, .object [], _ => Or.inr (.object (.nil spaces_nil))
  | nesting + 1, .object (member :: members), h => by
      obtain ⟨hkeys, hmembers⟩ : ((member :: members).map Prod.fst).Nodup ∧
          ∀ m ∈ member :: members, m.2.isSound nesting = true := by
        simpa [Value.isSound] using h
      have hrow := Row.join spaces_nil spaces_nil spaces_nil member members
        (fun m hm => spellsMember_memberText (spells_text nesting m.2 (hmembers m hm))) []
        spaces_nil
      have hspells := SpellsContainer.object hrow
      rw [Members.ofPairs_of_nodup hkeys] at hspells
      refine Or.inr ?_
      rw [Value.text, membersText_eq]
      simpa using hspells

/-- **A value is read as it is written.** -/
theorem read_text {value : Value} (h : value.isSound maxDepth = true) :
    read (Utf8.encode value.text) = .ok value := by
  obtain ⟨-, htaken⟩ := readValue_spells maxDepth value _ (spells_text maxDepth value h)
  have hread := htaken [] [] spaces_nil nofun
  rw [Utf8.encode_nil, List.nil_append, List.append_nil] at hread
  rw [read, hread]
  rfl

end VarlinkClient.Json
