/-
How many columns a text takes.

A character takes no column, one or two.  A line of text takes the sum of what its
characters take, escape sequences of a terminal left out.  The exact width of a text also
knows what is drawn as one: a line feed after a carriage return, an emoji with its
modifiers and joiners, a letter and a vowel that join.
-/
import VarlinkClient.Text.WidthTable

namespace VarlinkClient.Width

/-! ### Characters -/

/-- The character controls the terminal and is not shown. -/
def isControl (c : Char) : Bool :=
  c.toNat < 0x20 || (0x7F ≤ c.toNat && c.toNat < 0xA0)

/-- How many columns a character takes that is no control. -/
def shownChar (c : Char) : Nat :=
  let n := c.toNat
  if n < 0xA0 then 1
  else if n = 0x17D8 then 3
  else if zeroWidthRanges.contains n then 0
  else if wideRanges.contains n then 2
  else 1

/-- How many columns a character takes; a control takes none. -/
def char (c : Char) : Nat :=
  if isControl c then 0 else shownChar c

/-! ### Lines with escape sequences -/

/-- A part of a line: a character, or an escape sequence. -/
inductive Glyph
  | shown (c : Char)
  | escape (t : Text)
  deriving DecidableEq, Repr

namespace Glyph

/-- The characters a part is made of. -/
def text : Glyph → Text
  | shown c => [c]
  | escape t => t

/-- How many columns a part takes. -/
def width : Glyph → Nat
  | shown c => char c
  | escape _ => 0

end Glyph

/-- Where a row of characters stands in an escape sequence. -/
inductive Place
  /-- Not in one. -/
  | outside
  /-- After the escape character. -/
  | begun
  /-- In a control sequence, which ends with a letter or the like. -/
  | control
  /-- In a command, which ends with a bell or an escaped backslash. -/
  | command (last : Char)
  deriving DecidableEq, Repr

/-- The parts of a line.  `taken` is what has been read of an escape sequence, last first. -/
def split (place : Place) (taken : Text) : Text → List Glyph
  | [] => if taken = [] then [] else [.escape taken.reverse]
  | c :: rest =>
    let finish := Glyph.escape (c :: taken).reverse :: split .outside [] rest
    match place with
    | .outside =>
      if c = '\x1b' then split .begun [c] rest else .shown c :: split .outside [] rest
    | .begun =>
      if c = '[' then split .control (c :: taken) rest
      else if c = ']' then split (.command ']') (c :: taken) rest
      else finish
    | .control =>
      if 0x40 ≤ c.toNat ∧ c.toNat ≤ 0x7E then finish else split .control (c :: taken) rest
    | .command last =>
      if c = '\x07' ∨ (c = '\\' ∧ last = '\x1b') then finish
      else split (.command c) (c :: taken) rest

/-- The parts of a line. -/
def glyphs (t : Text) : List Glyph :=
  split .outside [] t

/-- How many columns a line takes. -/
def line (t : Text) : Nat :=
  (glyphs t).foldr (fun glyph columns => glyph.width + columns) 0

/-! ### The exact width of a text -/

/-- What follows a character, as far as it matters for its width. -/
inductive Following
  | plain
  | lineFeed
  /-- A modifier of an emoji. -/
  | modifier
  /-- An emoji. -/
  | emoji
  /-- A joiner and an emoji. -/
  | joinedEmoji
  /-- The wish to be shown as an emoji. -/
  | emojiSelector
  /-- The same before a joiner and an emoji. -/
  | joinedEmojiSelector
  /-- The wish to be shown as text. -/
  | textSelector
  /-- An alef. -/
  | alef
  /-- A letter of Khmer that can be put below another. -/
  | khmerLetter
  /-- A second tone letter of Lisu. -/
  | lisuTone
  deriving DecidableEq, Repr

/-- The character is a modifier of emoji. -/
def isModifier (c : Char) : Bool :=
  0x1F3FB ≤ c.toNat && c.toNat ≤ 0x1F3FF

/-- The character is an alef. -/
def isAlef (c : Char) : Bool :=
  Ranges.contains
    [(0x622, 0x623), (0x625, 0x625), (0x627, 0x627), (0x671, 0x673), (0x675, 0x675),
      (0x773, 0x774), (0x870, 0x882)] c.toNat

/-- The character is a lam. -/
def isLam (c : Char) : Bool :=
  Ranges.contains [(0x644, 0x644), (0x6B5, 0x6B8), (0x76A, 0x76A), (0x8A6, 0x8A6), (0x8C7, 0x8C7)]
    c.toNat

/-- The character is a letter of Khmer that can be put below another. -/
def isKhmerLetter (c : Char) : Bool :=
  Ranges.contains
    [(0x1780, 0x1782), (0x1784, 0x1787), (0x1789, 0x178C), (0x178E, 0x1793), (0x1795, 0x1798),
      (0x179B, 0x179D), (0x17A0, 0x17A0), (0x17A2, 0x17A2), (0x17A7, 0x17A7), (0x17AB, 0x17AC),
      (0x17AF, 0x17AF)] c.toNat

/-- What a character is to the one before it. -/
def kind (c : Char) : Following :=
  let n := c.toNat
  if c = '\n' then .lineFeed
  else if n = 0xFE0F then .emojiSelector
  else if n = 0xFE0E then .textSelector
  else if isModifier c then .modifier
  else if emojiPresentationRanges.contains n then .emoji
  else if isAlef c then .alef
  else if isKhmerLetter c then .khmerLetter
  else if n = 0xA4FC ∨ n = 0xA4FD then .lisuTone
  else .plain

/-- The columns of a character on its own, and what it is to the one before it. -/
def onItsOwn (c : Char) : Int × Following :=
  (shownChar c, kind c)

/-- The columns that a character adds in front of what follows it. -/
def before (c : Char) (next : Following) : Int × Following :=
  let n := c.toNat
  let startsEmoji := emojiRanges.contains n
  match next with
  | .emojiSelector => if startsEmoji then (2, .emoji) else onItsOwn c
  | .joinedEmojiSelector => if startsEmoji then (0, .emoji) else onItsOwn c
  | .textSelector => if emojiPresentationRanges.contains n then (1, .plain) else onItsOwn c
  | .lineFeed => if c = '\r' then (0, .plain) else onItsOwn c
  | .modifier =>
    if emojiModifierBaseRanges.contains n then (0, .emoji)
    else if n = 0x200D then (0, .joinedEmoji)
    else onItsOwn c
  | .emoji => if n = 0x200D then (0, .joinedEmoji) else onItsOwn c
  | .joinedEmoji =>
    if n = 0xFE0F then (0, .joinedEmojiSelector)
    else if isModifier c then (0, .modifier)
    else if emojiPresentationRanges.contains n then (0, .emoji)
    else onItsOwn c
  | .alef =>
    if isLam c then (0, .plain)
    else if 0xA0 ≤ n ∧ shownChar c = 0 then (0, .alef)
    else onItsOwn c
  | .khmerLetter => if n = 0x17D2 then (-1, .plain) else onItsOwn c
  | .lisuTone => if 0xA4F8 ≤ n ∧ n ≤ 0xA4FB then (0, .plain) else onItsOwn c
  | .plain => onItsOwn c

/-- The columns of a text, and what its first character is to one before it. -/
def scan : Text → Int × Following
  | [] => (0, .plain)
  | c :: rest =>
    let (columns, next) := scan rest
    let (more, found) := before c next
    (columns + more, found)

/-- How many columns a text takes. -/
def text (t : Text) : Nat :=
  (scan t).1.toNat

end VarlinkClient.Width
