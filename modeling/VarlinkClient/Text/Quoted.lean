/-
A text in double quotes, fit to be shown in a message.

Quotes, backslashes and the usual control characters are escaped by a backslash and a
letter; a character that cannot be shown, or that would join the one before it, is
written by its number in hexadecimal.
-/
import VarlinkClient.Text.Extending
import VarlinkClient.Text.Printable

namespace VarlinkClient.Quoted

/-- The character by its number. -/
def byNumber (c : Char) : Text :=
  "\\u\x7b" ++ Nat.toDigits 16 c.toNat ++ "\x7d"

/-- A character as it stands between the quotes. -/
def escape (c : Char) : Text :=
  if c = '\x00' then "\\0"
  else if c = '\t' then "\\t"
  else if c = '\r' then "\\r"
  else if c = '\n' then "\\n"
  else if c = '"' then "\\\""
  else if c = '\\' then "\\\\"
  else if isExtending c || !isPrintable c then byNumber c
  else [c]

/-- The text in quotes. -/
def text (t : Text) : Text :=
  '"' :: t.flatMap escape ++ ['"']

end VarlinkClient.Quoted
