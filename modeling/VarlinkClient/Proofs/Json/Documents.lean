/-
What is laid out reads back.

The plain layout of a value is a spelling of it: the line feeds and the indentation are blanks,
and items and members stand in rows.  So replies that are printed one after another, each on
lines of its own, are read back one after another, whatever their strings and keys hold.
-/
import VarlinkClient.Proofs.Json.Layout
import VarlinkClient.Proofs.Json.Spelling

namespace VarlinkClient.Json

/-! ### Values that have a spelling -/

/-- The numbers in the value are whole, no object has a key twice, and containers are nested at
most `depth` deep. -/
def Value.isSound : Nat → Value → Bool
  | _, .null | _, .bool _ | _, .string _ => true
  | _, .number n => n.isWhole
  | 0, .array _ | 0, .object _ => false
  | depth + 1, .array items => items.all (isSound depth)
  | depth + 1, .object members =>
    decide (members.map Prod.fst).Nodup && members.all fun member => isSound depth member.2

/-! ### Layouts are spellings -/

theorem spaces_nil : Spaces [] := by
  simp [Spaces]

theorem spaces_of_forall {t : Text} (h : ∀ c ∈ t, c = ' ' ∨ c = '\n') : Spaces t := by
  intro b hb
  induction t with
  | nil => simp at hb
  | cons c t ih =>
      have hspace : ∀ b ∈ Utf8.encodeChar ' ', isSpace b = true :=
        List.all_eq_true.mp (by decide)
      have hline : ∀ b ∈ Utf8.encodeChar '\n', isSpace b = true :=
        List.all_eq_true.mp (by decide)
      rw [Utf8.encode_cons, List.mem_append] at hb
      rcases hb with hb | hb
      · rcases h c (by simp) with rfl | rfl
        · exact hspace b hb
        · exact hline b hb
      · exact ih (fun d hd => h d (by simp [hd])) hb

theorem spaces_line : Spaces ['\n'] :=
  spaces_of_forall (by simp)

theorem spaces_indent (depth : Nat) : Spaces (indent depth) :=
  spaces_of_forall fun _ hc => Or.inl (mem_indent hc)

/-- Entries with blanks in front of each and after each comma stand in a row. -/
theorem Row.join {α : Type} {spells : α → Text → Prop} {entry : α → Text}
    {blank gap trail : Text} (hblank : Spaces blank) (hgap : Spaces gap) (htrail : Spaces trail)
    (a : α) (others : List α) (h : ∀ b ∈ a :: others, spells b (entry b)) :
    ∀ lead, Spaces lead → Row spells (a :: others)
      (lead ++ Text.join (',' :: gap) ((a :: others).map fun b => blank ++ entry b) ++
        trail) := by
  induction others generalizing a with
  | nil =>
      intro lead hlead
      have hrow := Row.last (hlead.append hblank) (h a (by simp)) htrail
      simpa [Text.join] using hrow
  | cons next others ih =>
      intro lead hlead
      have hrow := Row.cons (hlead.append hblank) (h a (by simp)) spaces_nil
        (ih next (fun b hb => h b (by simp [hb])) gap hgap)
      simpa [Text.join] using hrow

theorem spellsMember_memberLayout {spells : Value → Text → Prop} {depth : Nat}
    {member : Text × Value} (h : spells member.2 (member.2.layout .plain depth)) :
    SpellsMember spells member (memberLayout .plain depth member) := by
  have hblank : Spaces " ".toList := spaces_of_forall (by simp)
  have hspells : SpellsMember spells member _ := .intro spaces_nil hblank h
  simpa [memberLayout, Palette.paint] using hspells

theorem SpellsScalar.spells {value : Value} {t : Text} (h : SpellsScalar value t) :
    ∀ nesting, Spells nesting value t
  | 0 => h
  | _ + 1 => Or.inl h

/-- **The plain layout of a value is a spelling of it**, wherever it stands. -/
theorem spells_layout : ∀ (nesting : Nat) (value : Value) (depth : Nat),
    value.isSound nesting = true → Spells nesting value (value.layout .plain depth)
  | nesting, .null, _, _ => SpellsScalar.null.spells nesting
  | nesting, .bool b, _, _ => (SpellsScalar.bool b).spells nesting
  | nesting, .number _, _, h =>
      (SpellsScalar.number (by simpa [Value.isSound] using h)).spells nesting
  | nesting, .string t, _, _ => (SpellsScalar.string t).spells nesting
  | 0, .array _, _, h => by simp [Value.isSound] at h
  | 0, .object _, _, h => by simp [Value.isSound] at h
  | nesting + 1, .array [], _, _ => Or.inr (.array (.nil spaces_nil))
  | nesting + 1, .array (item :: items), depth, h => by
      have hitems : ∀ v ∈ item :: items, v.isSound nesting = true := by
        simpa [Value.isSound] using h
      have hrow := Row.join (spaces_indent (depth + 1)) spaces_line
        (spaces_line.append (spaces_indent depth)) item items
        (fun v hv => spells_layout nesting v (depth + 1) (hitems v hv)) _ spaces_line
      have hspells := SpellsContainer.array hrow
      refine Or.inr ?_
      rw [Value.layout, itemsLayout_eq]
      simpa using hspells
  | nesting + 1, .object [], _, _ => by
      exact Or.inr (.object (.nil spaces_nil))
  | nesting + 1, .object (member :: members), depth, h => by
      obtain ⟨hkeys, hmembers⟩ : ((member :: members).map Prod.fst).Nodup ∧
          ∀ m ∈ member :: members, m.2.isSound nesting = true := by
        simpa [Value.isSound] using h
      have hrow := Row.join (spaces_indent (depth + 1)) spaces_line
        (spaces_line.append (spaces_indent depth)) member members
        (fun m hm => spellsMember_memberLayout
          (spells_layout nesting m.2 (depth + 1) (hmembers m hm))) _ spaces_line
      have hspells := SpellsContainer.object hrow
      rw [Members.ofPairs_of_nodup hkeys] at hspells
      refine Or.inr ?_
      rw [Value.layout, membersLayout_eq]
      simpa using hspells

/-! ### Documents one after another -/

/-- The bytes are at an end or begin with a blank. -/
def isApart : Bytes → Bool
  | [] => true
  | b :: _ => isSpace b

/-- Reads values with blanks between them up to the end of the bytes, at most `fuel` of them. -/
def readDocumentsWithin : Nat → Bytes → Except Fault (List Value)
  | 0, _ => Fault.before .endOfValue []
  | fuel + 1, bytes =>
    match skipSpace bytes with
    | [] => .ok []
    | b :: rest =>
      match readValue maxDepth (b :: rest) with
      | .error fault => .error fault
      | .ok (value, rest) =>
        if isApart rest then
          match readDocumentsWithin fuel rest with
          | .error fault => .error fault
          | .ok values => .ok (value :: values)
        else Fault.inFirst .trailingCharacters rest

/-- Reads values with blanks between them up to the end of the bytes. -/
def readDocuments (bytes : Bytes) : Except Fault (List Value) :=
  readDocumentsWithin (bytes.length + 1) bytes

theorem Spaces.readDocumentsWithin_append {blank : Text} (h : Spaces blank) (fuel : Nat)
    (bytes : Bytes) :
    readDocumentsWithin fuel (Utf8.encode blank ++ bytes) = readDocumentsWithin fuel bytes := by
  cases fuel with
  | zero => rfl
  | succ fuel => rw [readDocumentsWithin, readDocumentsWithin, h.skipSpace_append]

/-- A spelling and a line feed in front of other documents. -/
theorem readDocumentsWithin_line {value : Value} {t : Text} (h : Spells maxDepth value t)
    {fuel : Nat} {bytes : Bytes} {values : List Value}
    (hread : readDocumentsWithin fuel bytes = .ok values) :
    readDocumentsWithin (fuel + 1) (Utf8.encode (t ++ ['\n']) ++ bytes) =
      .ok (value :: values) := by
  obtain ⟨⟨b, others, hbytes, hspace, -⟩, htaken⟩ := readValue_spells maxDepth value t h
  have hline : Utf8.encode ['\n'] = [byte '\n'] := by decide
  have hapart : isApart (byte '\n' :: bytes) = true := rfl
  have hvalue := htaken [] (byte '\n' :: bytes) spaces_nil (follows_cons (by decide))
  have hafter : readDocumentsWithin fuel (byte '\n' :: bytes) = .ok values := by
    rw [← hread, ← spaces_line.readDocumentsWithin_append fuel bytes]
    rfl
  rw [Utf8.encode_nil, List.nil_append, hbytes, List.cons_append] at hvalue
  rw [Utf8.encode_append, hline, List.append_assoc, List.singleton_append, hbytes,
    List.cons_append, readDocumentsWithin, skipSpace_cons hspace]
  dsimp only
  rw [hvalue]
  dsimp only
  rw [if_pos hapart, hafter]

theorem length_flatMap_lines (texts : List Text) :
    texts.length ≤ (Utf8.encode (texts.flatMap fun t => t ++ ['\n'])).length := by
  refine Nat.le_trans ?_ (Utf8.length_le_length_encode _)
  induction texts with
  | nil => simp
  | cons t texts ih =>
      simp at ih ⊢
      omega

/-- Documents on lines of their own are read one after another. -/
theorem readDocuments_lines {entries : List (Value × Text)}
    (h : ∀ entry ∈ entries, Spells maxDepth entry.1 entry.2) :
    readDocuments (Utf8.encode ((entries.map Prod.snd).flatMap fun t => t ++ ['\n'])) =
      .ok (entries.map Prod.fst) := by
  have hwithin : ∀ fuel, entries.length < fuel → readDocumentsWithin fuel
      (Utf8.encode ((entries.map Prod.snd).flatMap fun t => t ++ ['\n'])) =
        .ok (entries.map Prod.fst) := by
    induction entries with
    | nil =>
        intro fuel hfuel
        obtain ⟨fuel, rfl⟩ : ∃ k, fuel = k + 1 := ⟨fuel - 1, by simp at hfuel; omega⟩
        rfl
    | cons entry entries ih =>
        intro fuel hfuel
        obtain ⟨fuel, rfl⟩ : ∃ k, fuel = k + 1 := ⟨fuel - 1, by omega⟩
        have hrest := ih (fun e he => h e (by simp [he])) fuel (by simpa using hfuel)
        rw [List.map_cons, List.flatMap_cons, Utf8.encode_append]
        exact readDocumentsWithin_line (h entry (by simp)) hrest
  refine hwithin _ ?_
  have hlength := length_flatMap_lines (entries.map Prod.snd)
  rw [List.length_map] at hlength
  omega

/-- **Printed replies are read back.**  The parameters of replies, absent ones counting as an
empty object, have layouts; with a line feed after each they are read as these objects, in
order, and every object has its members in order. -/
theorem readDocuments_layoutParameters (replies : List (Option Members))
    (h : ∀ members ∈ replies, (Value.object (members.getD [])).isSound maxDepth = true) :
    ∃ texts : List Text,
      (replies.map fun members => layoutParameters .plain (members.map .object)) =
        texts.map .ok ∧
      readDocuments (Utf8.encode (texts.flatMap fun t => t ++ ['\n'])) =
        .ok (replies.map fun members => .object (members.getD [])) := by
  have hlayout : ∀ members : Option Members, layoutParameters .plain (members.map .object) =
      .ok ((Value.object (members.getD [])).layout .plain 0) := by
    rintro (_ | members) <;> rfl
  let entries := replies.map fun members : Option Members =>
    (Value.object (members.getD []), (Value.object (members.getD [])).layout .plain 0)
  have hentries : ∀ entry ∈ entries, Spells maxDepth entry.1 entry.2 := by
    intro entry hentry
    obtain ⟨members, hmembers, rfl⟩ := List.mem_map.mp hentry
    exact spells_layout maxDepth _ 0 (h members hmembers)
  refine ⟨entries.map Prod.snd, ?_, ?_⟩
  · simp [entries, hlayout]
  · rw [readDocuments_lines hentries]
    simp [entries]

/-- Two replies with containers in containers, empty ones, keys and strings of quotes, line feeds
and other control characters, and the least and the greatest whole number; between them one
without parameters. -/
theorem readDocuments_layoutParameters_nested :
    let first : Members :=
      [("z\n\"", .array [.object [("", .array [])], .null, .string "\x00\x1b[0m\\"]),
        ("a", .object [("least", .number (.negative ⟨9223372036854775807, by decide⟩)),
          ("empty", .object [])])]
    let last : Members := [("greatest", .number (.whole 18446744073709551615)), ("é", .bool false)]
    let replies := [some first, none, some last]
    (∀ members ∈ replies, (Value.object (members.getD [])).isSound maxDepth = true) ∧
      ∃ texts : List Text,
        (replies.map fun members => layoutParameters .plain (members.map .object)) =
          texts.map .ok ∧
        readDocuments (Utf8.encode (texts.flatMap fun t => t ++ ['\n'])) =
          .ok [.object first, .object [], .object last] := by
  intro first last replies
  have hsound : ∀ members ∈ replies,
      (Value.object (members.getD [])).isSound maxDepth = true := by decide
  exact ⟨hsound, readDocuments_layoutParameters replies hsound⟩

end VarlinkClient.Json
