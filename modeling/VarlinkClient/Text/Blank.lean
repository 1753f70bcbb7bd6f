/-
Blank characters.

A character is blank when Unicode gives it the property White_Space.  Trimming, empty
input and the layout of signatures all go by this one class.
-/
import VarlinkClient.Text.Basic

namespace VarlinkClient

/-- The character has the Unicode property White_Space. -/
def isBlank (c : Char) : Bool :=
  let n := c.toNat
  (0x9 ≤ n && n ≤ 0xD) || n == 0x20 || n == 0x85 || n == 0xA0 || n == 0x1680 ||
    (0x2000 ≤ n && n ≤ 0x200A) || n == 0x2028 || n == 0x2029 || n == 0x202F ||
    n == 0x205F || n == 0x3000

namespace Text

/-- The text has no character that is not blank. -/
def isAllBlank (t : Text) : Bool :=
  t.all isBlank

/-- The text without the blanks at its start. -/
def trimLeft (t : Text) : Text :=
  t.dropWhile isBlank

/-- The text without the blanks at its end. -/
def trimRight (t : Text) : Text :=
  trimEnd isBlank t

/-- The text without the blanks at either end. -/
def trim (t : Text) : Text :=
  trimBoth isBlank t

end Text

end VarlinkClient
