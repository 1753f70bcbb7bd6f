/-
Spellings of JSON values.

A value can be written with blanks around its commas and colons and at the ends of its
containers, its strings with escapes, its numbers with a point or an exponent, and the keys of an
object more than once.  `Written` says how, and `readValue_written` that the reader takes every
such text for the value.  Both go by recursion on how deep containers are nested, as the reader
does; inside one container the items, or the members, stand in a row (`Row`), and one induction
over the row follows the reader along it.

The writer makes but a few of these texts: its numbers are whole, and of the escapes of a
character it knows one (`Spells`).
-/
import VarlinkClient.Proofs.Json.Members
import VarlinkClient.Proofs.Json.Numeral

namespace VarlinkClient.Json

/-! ### Blanks -/

/-- The text has no bytes but blanks. -/
def Spaces (t : Text) : Prop :=
  ∀ b ∈ Utf8.encode t, isSpace b = true

theorem Spaces.append {t u : Text} (ht : Spaces t) (hu : Spaces u) : Spaces (t ++ u) := by
  intro b hb
  rw [Utf8.encode_append] at hb
  rcases List.mem_append.mp hb with h | h
  · exact ht b h
  · exact hu b h

theorem Spaces.skipSpace_append {t : Text} (h : Spaces t) (bytes : Bytes) :
    skipSpace (Utf8.encode t ++ bytes) = skipSpace bytes :=
  List.dropWhile_append_of_pos h

theorem skipSpace_cons {b : UInt8} (h : isSpace b = false) (bytes : Bytes) :
    skipSpace (b :: bytes) = b :: bytes :=
  List.dropWhile_cons_of_neg (by simp [h])

/-- Bytes after blanks that do not begin with one. -/
theorem Spaces.skipSpace_cons {t : Text} (h : Spaces t) {b : UInt8} (hb : isSpace b = false)
    (bytes : Bytes) : skipSpace (Utf8.encode t ++ b :: bytes) = b :: bytes := by
  rw [h.skipSpace_append, Json.skipSpace_cons hb]

/-- Nothing that begins with a blank continues a number. -/
theorem Spaces.follows {t : Text} (h : Spaces t) {rest : Bytes} (hrest : Follows rest) :
    Follows (Utf8.encode t ++ rest) := by
  cases hbytes : Utf8.encode t with
  | nil => exact hrest
  | cons b bytes =>
      have hb : isSpace b = true := h b (by simp [hbytes])
      intro c hc
      cases hc
      simp only [isSpace, Bool.or_eq_true, beq_iff_eq] at hb
      rcases hb with ((rfl | rfl) | rfl) | rfl <;> decide

theorem follows_cons {b : UInt8} {rest : Bytes}
    (h : isDigit b = false ∧ b ≠ byte '.' ∧ b ≠ byte 'e' ∧ b ≠ byte 'E') :
    Follows (b :: rest) := by
  intro c hc
  cases hc
  exact h

/-! ### Rows -/

/-- Spellings in a row, with blanks around each and a comma between two. -/
inductive Row {α : Type} (spells : α → Text → Prop) : List α → Text → Prop
  | nil {blank : Text} (hblank : Spaces blank) : Row spells [] blank
  | last {a : α} {before t after : Text} (hbefore : Spaces before) (h : spells a t)
      (hafter : Spaces after) : Row spells [a] (before ++ t ++ after)
  | cons {a next : α} {others : List α} {before t after more : Text} (hbefore : Spaces before)
      (h : spells a t) (hafter : Spaces after) (hmore : Row spells (next :: others) more) :
      Row spells (a :: next :: others) (before ++ t ++ after ++ ',' :: more)

/-- A string as it can be written. -/
inductive WrittenString : Text → Text → Prop
  | intro {t u : Text} (h : WrittenChars t u) : WrittenString t ('"' :: u ++ ['"'])

/-- A member as it can be written: its key and its value, with a colon between them. -/
inductive WrittenMember (written : Value → Text → Prop) : Text × Value → Text → Prop
  | intro {key k before after t : Text} {value : Value} (hkey : WrittenString key k)
      (hbefore : Spaces before) (hafter : Spaces after) (h : written value t) :
      WrittenMember written (key, value) (k ++ before ++ ':' :: after ++ t)

/-- A value that is no container as it can be written. -/
inductive WrittenScalar : Value → Text → Prop
  | null : WrittenScalar .null "null"
  | true : WrittenScalar (.bool Bool.true) "true"
  | false : WrittenScalar (.bool Bool.false) "false"
  | number {numeral : Numeral} {n : Number} (h : numeral.number? = some n) :
      WrittenScalar (.number n) numeral.text
  | string {t u : Text} (h : WrittenString t u) : WrittenScalar (.string t) u

/-- A container as it can be written, given how the values in it can. -/
inductive WrittenContainer (written : Value → Text → Prop) : Value → Text → Prop
  | array {items : List Value} {t : Text} (h : Row written items t) :
      WrittenContainer written (.array items) ('[' :: t ++ [']'])
  | object {pairs : List (Text × Value)} {members : Members} {t : Text}
      (h : Row (WrittenMember written) pairs t) (hmembers : Members.Merges pairs members) :
      WrittenContainer written (.object members) ('\x7b' :: t ++ ['\x7d'])

/-- The text is JSON for the value, and containers are nested at most `depth` deep. -/
def Written : Nat → Value → Text → Prop
  | 0, value, t => WrittenScalar value t
  | depth + 1, value, t => WrittenScalar value t ∨ WrittenContainer (Written depth) value t

/-- The spelling of a member: its key and its value, with a colon between them. -/
inductive SpellsMember (spells : Value → Text → Prop) : Text × Value → Text → Prop
  | intro {key before after t : Text} {value : Value} (hbefore : Spaces before)
      (hafter : Spaces after) (h : spells value t) :
      SpellsMember spells (key, value) (quote key ++ before ++ ':' :: after ++ t)

/-- The spelling of a value that is no container. -/
inductive SpellsScalar : Value → Text → Prop
  | null : SpellsScalar .null (Value.text .null)
  | bool (b : Bool) : SpellsScalar (.bool b) (Value.text (.bool b))
  | number {n : Number} (h : n.isWhole = true) : SpellsScalar (.number n) n.text
  | string (t : Text) : SpellsScalar (.string t) (quote t)

/-- The spelling of a container, given those of the values in it. -/
inductive SpellsContainer (spells : Value → Text → Prop) : Value → Text → Prop
  | array {items : List Value} {t : Text} (h : Row spells items t) :
      SpellsContainer spells (.array items) ('[' :: t ++ [']'])
  | object {pairs : List (Text × Value)} {t : Text} (h : Row (SpellsMember spells) pairs t) :
      SpellsContainer spells (.object (Members.ofPairs pairs)) ('\x7b' :: t ++ ['\x7d'])

/-- The text is a spelling of the value, and containers are nested at most `depth` deep. -/
def Spells : Nat → Value → Text → Prop
  | 0, value, t => SpellsScalar value t
  | depth + 1, value, t => SpellsScalar value t ∨ SpellsContainer (Spells depth) value t

/-! ### Reading along a row -/

/-- The text begins with a byte that is no blank and closes nothing. -/
def Opens (t : Text) : Prop :=
  ∃ b bytes, Utf8.encode t = b :: bytes ∧ isSpace b = false ∧ b ≠ byte ']' ∧ b ≠ byte '\x7d'

/-- The reader takes the text for this, whatever follows that does not continue a number, and
whatever blanks stand in front of it. -/
def TakenFor {α : Type} (read : Bytes → Reading α) (a : α) (t : Text) : Prop :=
  ∀ before rest, Spaces before → Follows rest →
    read (Utf8.encode before ++ (Utf8.encode t ++ rest)) = .ok (a, rest)

/-- What a reader of entries does with a closing character, with an entry in front and with a
comma.  Its first argument is fuel, the second tells that no entry came before. -/
structure TakesRow {α : Type} (spells : α → Text → Prop) (close : Char)
    (run : Nat → Bool → Bytes → Reading (List α)) : Prop where
  opens : ∀ a t, spells a t → Opens t
  close : ∀ fuel first before rest, Spaces before →
    run (fuel + 1) first (Utf8.encode before ++ byte close :: rest) = .ok ([], rest)
  entry : ∀ a t, spells a t → ∀ fuel before rest, Spaces before → Follows rest →
    run (fuel + 1) true (Utf8.encode before ++ (Utf8.encode t ++ rest)) =
      wrap (a :: ·) (run fuel false rest)
  comma : ∀ a t, spells a t → ∀ fuel after before rest, Spaces after → Spaces before →
    run fuel false (Utf8.encode after ++ byte ',' ::
        (Utf8.encode before ++ (Utf8.encode t ++ rest))) =
      run fuel true (Utf8.encode before ++ (Utf8.encode t ++ rest))

section Row

variable {α : Type} {spells : α → Text → Prop}

theorem Row.exists_head {a : α} {others : List α} {t : Text} (h : Row spells (a :: others) t) :
    ∃ before u after, t = before ++ (u ++ after) ∧ Spaces before ∧ spells a u := by
  cases h with
  | last hbefore ha hafter => exact ⟨_, _, _, List.append_assoc _ _ _, hbefore, ha⟩
  | cons hbefore ha hafter hmore =>
      exact ⟨_, _, _, by rw [List.append_assoc, List.append_assoc], hbefore, ha⟩

theorem Row.imp {spells' : α → Text → Prop} (himp : ∀ a t, spells a t → spells' a t)
    {as : List α} {t : Text} (h : Row spells as t) : Row spells' as t := by
  induction h with
  | nil hblank => exact .nil hblank
  | last hbefore ha hafter => exact .last hbefore (himp _ _ ha) hafter
  | cons hbefore ha hafter _ ih => exact .cons hbefore (himp _ _ ha) hafter ih

/-- A row has no more entries than bytes. -/
theorem Row.length_le (hopens : ∀ a u, spells a u → Opens u) {as : List α} {t : Text}
    (h : Row spells as t) : as.length ≤ (Utf8.encode t).length := by
  have hpos : ∀ a u, spells a u → 0 < (Utf8.encode u).length := by
    intro a u hu
    obtain ⟨b, bytes, hbytes, -⟩ := hopens a u hu
    simp [hbytes]
  induction h with
  | nil _ => exact Nat.zero_le _
  | last _ ha _ =>
      have hu := hpos _ _ ha
      simp
      omega
  | cons _ ha _ _ ih =>
      have hu := hpos _ _ ha
      simp at ih ⊢
      omega

/-- **A row is read from its first entry to its last.** -/
theorem TakesRow.run_row {close : Char} (hclose : Follows [byte close])
    {run : Nat → Bool → Bytes → Reading (List α)} (hrun : TakesRow spells close run)
    {as : List α} {t : Text} (h : Row spells as t) : ∀ fuel rest, as.length < fuel →
      run fuel true (Utf8.encode t ++ byte close :: rest) = .ok (as, rest) := by
  have hfollows : ∀ rest, Follows (byte close :: rest) := fun rest => follows_cons (hclose _ rfl)
  induction h with
  | nil hblank =>
      intro fuel rest hfuel
      obtain ⟨fuel, rfl⟩ : ∃ k, fuel = k + 1 := ⟨fuel - 1, by simp at hfuel; omega⟩
      exact hrun.close fuel true _ rest hblank
  | @last a before t after hbefore ha hafter =>
      intro fuel rest hfuel
      obtain ⟨fuel, rfl⟩ : ∃ k, fuel = k + 2 := ⟨fuel - 2, by simp at hfuel; omega⟩
      rw [Utf8.encode_append, Utf8.encode_append, List.append_assoc, List.append_assoc,
        hrun.entry a t ha _ _ _ hbefore (hafter.follows (hfollows rest)),
        hrun.close fuel false after rest hafter]
      rfl
  | @cons a next others before t after more hbefore ha hafter hmore ih =>
      intro fuel rest hfuel
      obtain ⟨fuel, rfl⟩ : ∃ k, fuel = k + 1 := ⟨fuel - 1, by omega⟩
      have hcomma : Utf8.encodeChar ',' = [byte ','] := by decide
      have hend : Follows (Utf8.encode after ++ byte ',' :: (Utf8.encode more ++
          byte close :: rest)) := hafter.follows (follows_cons (by decide))
      have hread := ih fuel rest (by simpa using hfuel)
      -- After the comma the next entry is read as a first one is.
      obtain ⟨blank, u, later, rfl, hblank, hu⟩ := hmore.exists_head
      rw [Utf8.encode_append, Utf8.encode_append, List.append_assoc] at hread hend
      simp only [Utf8.encode_append, Utf8.encode_cons, hcomma, List.append_assoc,
        List.nil_append, List.cons_append] at hread hend ⊢
      rw [hrun.entry a t ha _ _ _ hbefore hend, hrun.comma next u hu _ _ _ _ hafter hblank, hread]
      rfl

end Row

/-! ### Items -/

section Items

variable {spells : Value → Text → Prop} {read : Bytes → Reading Value} {before after : Text}

theorem nextItem_close (h : Spaces before) (first : Bool) (rest : Bytes) :
    nextItem first (Utf8.encode before ++ byte ']' :: rest) = .ok (.done rest) := by
  rw [nextItem, h.skipSpace_cons (by decide)]
  dsimp only
  rw [if_pos rfl]

theorem nextItem_first (h : Spaces before) {t : Text} (ht : Opens t) (rest : Bytes) :
    nextItem true (Utf8.encode before ++ (Utf8.encode t ++ rest)) =
      .ok (.more (Utf8.encode t ++ rest)) := by
  obtain ⟨b, bytes, hbytes, hspace, hclose, -⟩ := ht
  rw [nextItem, hbytes, List.cons_append, h.skipSpace_cons hspace]
  dsimp only
  rw [if_neg hclose, if_pos rfl]

theorem nextItem_comma (h : Spaces after) (hbefore : Spaces before) {t : Text} (ht : Opens t)
    (rest : Bytes) :
    nextItem false (Utf8.encode after ++ byte ',' ::
        (Utf8.encode before ++ (Utf8.encode t ++ rest))) = .ok (.more (Utf8.encode t ++ rest)) := by
  obtain ⟨b, bytes, hbytes, hspace, hclose, -⟩ := ht
  rw [nextItem, h.skipSpace_cons (by decide)]
  dsimp only
  rw [if_neg (by decide), if_neg (by decide), if_pos rfl, hbytes, List.cons_append,
    hbefore.skipSpace_cons hspace]
  dsimp only
  rw [if_neg hclose]

theorem takesRow_readItems (hspells : ∀ v t, spells v t → Opens t ∧ TakenFor read v t) :
    TakesRow spells ']' (readItems read) where
  opens v t h := (hspells v t h).1
  close fuel first before rest h := by
    rw [readItems, nextItem_close h]
  entry v t hv fuel before rest hbefore hrest := by
    obtain ⟨hopens, htaken⟩ := hspells v t hv
    have hread : read (Utf8.encode t ++ rest) = .ok (v, rest) :=
      htaken [] rest (by simp [Spaces]) hrest
    rw [readItems, nextItem_first hbefore hopens]
    dsimp only
    rw [hread]
    dsimp only
    cases readItems read fuel false rest <;> rfl
  comma v t hv fuel after before rest hafter hbefore := by
    obtain ⟨hopens, -⟩ := hspells v t hv
    cases fuel with
    | zero => rfl
    | succ fuel =>
        rw [readItems, readItems, nextItem_comma hafter hbefore hopens,
          nextItem_first hbefore hopens]

end Items

/-! ### Members -/

section Members

variable {written : Value → Text → Prop} {read : Bytes → Reading Value} {before after : Text}

theorem nextMember_close (h : Spaces before) (first : Bool) (rest : Bytes) :
    nextMember first (Utf8.encode before ++ byte '\x7d' :: rest) = .ok (.done rest) := by
  rw [nextMember, h.skipSpace_cons (by decide)]
  dsimp only
  rw [if_pos rfl]

theorem nextMember_first (h : Spaces before) (rest : Bytes) :
    nextMember true (Utf8.encode before ++ byte '"' :: rest) = .ok (.more rest) := by
  rw [nextMember, h.skipSpace_cons (by decide)]
  dsimp only
  rw [if_neg (by decide), if_pos rfl, if_pos rfl]

theorem nextMember_comma (h : Spaces after) (hbefore : Spaces before) (rest : Bytes) :
    nextMember false (Utf8.encode after ++ byte ',' :: (Utf8.encode before ++ byte '"' :: rest)) =
      .ok (.more rest) := by
  rw [nextMember, h.skipSpace_cons (by decide)]
  dsimp only
  rw [if_neg (by decide), if_neg (by decide), if_pos rfl, hbefore.skipSpace_cons (by decide)]
  dsimp only
  rw [if_pos rfl]

theorem readColon_spaces (h : Spaces before) (rest : Bytes) :
    readColon (Utf8.encode before ++ byte ':' :: rest) = .ok rest := by
  rw [readColon, h.skipSpace_cons (by decide)]
  dsimp only
  rw [if_pos rfl]

/-- The bytes of a member begin with a quote, and then come its key and its value. -/
theorem WrittenMember.exists_bytes {member : Text × Value} {t : Text}
    (h : WrittenMember written member t) :
    ∃ k before after u, WrittenChars member.1 k ∧ Spaces before ∧ Spaces after ∧
      written member.2 u ∧ ∀ rest, Utf8.encode t ++ rest = byte '"' :: (Utf8.encode k ++
        byte '"' :: (Utf8.encode before ++ byte ':' :: (Utf8.encode after ++
          (Utf8.encode u ++ rest)))) := by
  obtain @⟨key, k, before, after, u, value, ⟨hkey⟩, hbefore, hafter, hvalue⟩ := h
  have hcolon : Utf8.encodeChar ':' = [byte ':'] := by decide
  have hquote : Utf8.encodeChar '"' = [byte '"'] := by decide
  refine ⟨_, before, after, u, hkey, hbefore, hafter, hvalue, fun rest => ?_⟩
  simp only [Utf8.encode_append, Utf8.encode_cons, hcolon, hquote, List.append_assoc,
    List.nil_append, List.cons_append]

theorem takesRow_readMembers (hwritten : ∀ v t, written v t → Opens t ∧ TakenFor read v t) :
    TakesRow (WrittenMember written) '\x7d' (readMembers read) where
  opens member t h := by
    obtain ⟨k, before, after, u, -, -, -, -, hbytes⟩ := h.exists_bytes
    exact ⟨byte '"', _, by simpa using hbytes [], by decide, by decide, by decide⟩
  close fuel first before rest h := by
    rw [readMembers, nextMember_close h]
  entry member t h fuel blank rest hblank hrest := by
    obtain ⟨k, before, after, u, hkey, hbefore, hafter, hu, hbytes⟩ := h.exists_bytes
    have hread := (hwritten member.2 u hu).2 after rest hafter hrest
    rw [hbytes, readMembers, nextMember_first hblank]
    dsimp only
    rw [hkey.readString_eq]
    dsimp only
    rw [readColon_spaces hbefore]
    dsimp only
    rw [hread]
    dsimp only
    cases readMembers read fuel false rest <;> rfl
  comma member t h fuel blank lead rest hblank hlead := by
    obtain ⟨k, before, after, u, -, -, -, -, hbytes⟩ := h.exists_bytes
    cases fuel with
    | zero => rfl
    | succ fuel =>
        rw [hbytes, readMembers, readMembers, nextMember_comma hblank hlead, nextMember_first hlead]

end Members

/-! ### Values -/

theorem Spaces.readValue_append {before : Text} (h : Spaces before) (depth : Nat) (bytes : Bytes) :
    readValue depth (Utf8.encode before ++ bytes) = readValue depth bytes := by
  rw [readValue.eq_def, readValue.eq_def depth bytes, h.skipSpace_append]

/-- Blanks in front of a text that is read aside, all that matters is what follows. -/
theorem takenFor_readValue {depth : Nat} {value : Value} {t : Text}
    (h : ∀ rest, Follows rest → readValue depth (Utf8.encode t ++ rest) = .ok (value, rest)) :
    TakenFor (readValue depth) value t := by
  intro before rest hbefore hrest
  rw [hbefore.readValue_append, h rest hrest]

theorem isSpace_of_isDigit {b : UInt8} (h : isDigit b = true) : isSpace b = false := by
  simp [isSpace, ne_of_isDigit (c := 0x20) h (by decide), ne_of_isDigit (c := 0x0A) h (by decide),
    ne_of_isDigit (c := 0x0D) h (by decide), ne_of_isDigit (c := 0x09) h (by decide)]

theorem readValue_digit {b : UInt8} (h : isDigit b = true) (depth : Nat) (rest : Bytes) :
    readValue depth (b :: rest) = wrap .number (readNumber false (b :: rest)) := by
  rw [readValue.eq_def, Json.skipSpace_cons (isSpace_of_isDigit h)]
  dsimp only
  rw [if_neg (ne_of_isDigit h (by decide)), if_neg (ne_of_isDigit h (by decide)),
    if_neg (ne_of_isDigit h (by decide)), if_neg (ne_of_isDigit h (by decide)), if_pos h]

theorem opens_of_isDigit {t : Text} {b : UInt8} {bytes : Bytes} (ht : Utf8.encode t = b :: bytes)
    (h : isDigit b = true) : Opens t :=
  ⟨b, bytes, ht, isSpace_of_isDigit h, ne_of_isDigit h (by decide), ne_of_isDigit h (by decide)⟩

theorem WrittenString.encode_append {t u : Text} (h : WrittenString t u) : ∃ v, WrittenChars t v ∧
    ∀ rest, Utf8.encode u ++ rest = byte '"' :: (Utf8.encode v ++ byte '"' :: rest) := by
  obtain ⟨h⟩ := h
  refine ⟨_, h, fun rest => ?_⟩
  rw [List.cons_append, encode_cons_ascii (by decide), Utf8.encode_append,
    encode_cons_ascii (by decide), Utf8.encode_nil]
  simp

/-- The bytes of a number without its sign begin with a digit. -/
theorem Numeral.exists_digit (n : Numeral) : ∃ b bytes, isDigit b = true ∧
    ∀ rest, Utf8.encode n.magnitude ++ rest = b :: (bytes ++ rest) := by
  obtain ⟨c, others, -, hc, -, -, -, hbytes⟩ := n.exists_digits
  refine ⟨byte c, Utf8.encode others ++
    Utf8.encode (fractionText n.fraction ++ powerText n.power), (digit_byte hc).2.1, fun rest => ?_⟩
  rw [hbytes, List.append_assoc]

theorem readNumber_numeral {numeral : Numeral} {n : Number} (h : numeral.number? = some n)
    {rest : Bytes} (hrest : Follows rest) :
    readNumber numeral.negative (Utf8.encode numeral.magnitude ++ rest) = .ok (n, rest) := by
  have hread := toOption_readNumber numeral hrest
  rw [h] at hread
  cases hresult : readNumber numeral.negative (Utf8.encode numeral.magnitude ++ rest) with
  | error fault =>
      rw [hresult] at hread
      cases hread
  | ok told =>
      rw [hresult] at hread
      exact congrArg Except.ok (Option.some.inj hread)

theorem readValue_minus (depth : Nat) (bytes : Bytes) :
    readValue depth (byte '-' :: bytes) = wrap .number (readNumber true bytes) := by
  cases depth <;> rfl

theorem readValue_quote (depth : Nat) (bytes : Bytes) :
    readValue depth (byte '"' :: bytes) = wrap .string (readString bytes) := by
  cases depth <;> rfl

/-- A numeral is read as a value. -/
theorem readValue_numeral {numeral : Numeral} {n : Number} (h : numeral.number? = some n)
    (depth : Nat) {rest : Bytes} (hrest : Follows rest) :
    readValue depth (Utf8.encode numeral.text ++ rest) = .ok (.number n, rest) := by
  have hread := readNumber_numeral h hrest
  rw [Numeral.text]
  by_cases hnegative : numeral.negative = true
  · rw [hnegative] at hread
    rw [if_pos hnegative, encode_cons_ascii (by decide), List.cons_append, readValue_minus, hread]
    rfl
  · obtain ⟨b, bytes, hdigit, hbytes⟩ := numeral.exists_digit
    rw [Bool.not_eq_true] at hnegative
    rw [hnegative] at hread
    rw [if_neg (by simp [hnegative])]
    rw [hbytes] at hread ⊢
    rw [readValue_digit hdigit, hread]
    rfl

theorem Numeral.opens (n : Numeral) : Opens n.text := by
  unfold Numeral.text
  split
  · exact ⟨byte '-', _, encode_cons_ascii (by decide) _, by decide⟩
  · obtain ⟨b, bytes, hdigit, hbytes⟩ := n.exists_digit
    exact opens_of_isDigit (by simpa using hbytes []) hdigit

theorem WrittenScalar.opens {value : Value} {t : Text} (h : WrittenScalar value t) : Opens t := by
  cases h with
  | null => exact ⟨byte 'n', _, rfl, by decide⟩
  | true => exact ⟨byte 't', _, rfl, by decide⟩
  | false => exact ⟨byte 'f', _, rfl, by decide⟩
  | @number numeral n _ => exact numeral.opens
  | string h =>
      obtain ⟨v, -, hbytes⟩ := h.encode_append
      exact ⟨byte '"', _, by simpa using hbytes [], by decide⟩

/-- A value that is no container is read at any depth. -/
theorem WrittenScalar.takenFor {value : Value} {t : Text} (h : WrittenScalar value t)
    (depth : Nat) : TakenFor (readValue depth) value t := by
  refine takenFor_readValue fun rest hrest => ?_
  cases h with
  | null => cases depth <;> rfl
  | true => cases depth <;> rfl
  | false => cases depth <;> rfl
  | number h => exact readValue_numeral h depth hrest
  | string h =>
      obtain ⟨v, hchars, hbytes⟩ := h.encode_append
      rw [hbytes, readValue_quote, hchars.readString_eq]
      rfl

theorem encode_bracketed {first last : Char} (hfirst : first.toNat < 0x80)
    (hlast : last.toNat < 0x80) (t : Text) (rest : Bytes) :
    Utf8.encode (first :: t ++ [last]) ++ rest =
      byte first :: (Utf8.encode t ++ byte last :: rest) := by
  simp only [Utf8.encode_append, Utf8.encode_cons, Utf8.encode_nil, Utf8.encodeChar_ascii hfirst,
    Utf8.encodeChar_ascii hlast, List.append_assoc, List.cons_append, List.nil_append]
  rfl

/-- **Every text of a value is read as this value.** -/
theorem readValue_written (depth : Nat) :
    ∀ value t, Written depth value t → Opens t ∧ TakenFor (readValue depth) value t := by
  induction depth with
  | zero => exact fun value t h => ⟨WrittenScalar.opens h, WrittenScalar.takenFor h 0⟩
  | succ depth ih =>
      rintro value t (h | h)
      · exact ⟨h.opens, h.takenFor _⟩
      cases h with
      | @array items t h =>
          refine ⟨⟨byte '[', _, rfl, by decide⟩, takenFor_readValue fun rest _ => ?_⟩
          have hrow := takesRow_readItems ih
          have hlength := h.length_le hrow.opens
          have hitems := hrow.run_row (follows_cons (by decide)) h
            ((Utf8.encode t ++ byte ']' :: rest).length + 1) rest
            (by rw [List.length_append]; omega)
          have hopen : ∀ bytes, readValue (depth + 1) (byte '[' :: bytes) =
              wrap .array (readItems (readValue depth) (bytes.length + 1) true bytes) :=
            fun _ => rfl
          rw [encode_bracketed (by decide) (by decide), hopen, hitems]
          rfl
      | @object pairs members t h hmembers =>
          refine ⟨⟨byte '\x7b', _, rfl, by decide⟩, takenFor_readValue fun rest _ => ?_⟩
          have hrow := takesRow_readMembers ih
          have hlength := h.length_le hrow.opens
          have hread := hrow.run_row (follows_cons (by decide)) h
            ((Utf8.encode t ++ byte '\x7d' :: rest).length + 1) rest
            (by rw [List.length_append]; omega)
          have hopen : ∀ bytes, readValue (depth + 1) (byte '\x7b' :: bytes) =
              wrap (fun pairs => .object (Members.ofPairs pairs))
                (readMembers (readValue depth) (bytes.length + 1) true bytes) := fun _ => rfl
          rw [encode_bracketed (by decide) (by decide), hopen, hread,
            Members.merges_iff.mp hmembers]
          rfl

/-! ### What the writer makes -/

theorem writtenString_quote (t : Text) : WrittenString t (quote t) :=
  .intro (writtenChars_escape t)

theorem SpellsScalar.written {value : Value} {t : Text} (h : SpellsScalar value t) :
    WrittenScalar value t := by
  cases h with
  | null => exact .null
  | bool b =>
      cases b with
      | false => exact .false
      | true => exact .true
  | number h =>
      obtain ⟨numeral, hnumber, htext⟩ := exists_numeral_of_isWhole h
      exact htext ▸ .number hnumber
  | string t => exact .string (writtenString_quote t)

theorem Spells.written {depth : Nat} : ∀ {value : Value} {t : Text}, Spells depth value t →
    Written depth value t := by
  induction depth with
  | zero => exact SpellsScalar.written
  | succ depth ih =>
      rintro value t (h | h)
      · exact Or.inl h.written
      refine Or.inr ?_
      cases h with
      | array h => exact .array (h.imp fun _ _ => ih)
      | object h =>
          refine .object (h.imp ?_) (Members.merges_ofPairs _)
          rintro member t ⟨hbefore, hafter, h⟩
          exact .intro (writtenString_quote _) hbefore hafter (ih h)

/-- **Every spelling of a value is read as the value it spells.** -/
theorem readValue_spells (depth : Nat) (value : Value) (t : Text) (h : Spells depth value t) :
    Opens t ∧ TakenFor (readValue depth) value t :=
  readValue_written depth value t h.written

end VarlinkClient.Json
