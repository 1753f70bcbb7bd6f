/-
Percent escapes.

`%` and two hexadecimal digits stand for the byte of that number; a `%` that is not
followed by two hexadecimal digits stands for itself.
-/
import VarlinkClient.Text.Utf8

namespace VarlinkClient.Percent

/-- The bytes a text with percent escapes stands for. -/
def decodeBytes : Text → Bytes
  | [] => []
  | '%' :: high :: low :: rest =>
    match Text.hexValue? high, Text.hexValue? low with
    | some h, some l => UInt8.ofNat (16 * h + l) :: decodeBytes rest
    | _, _ => Utf8.encodeChar '%' ++ decodeBytes (high :: low :: rest)
  | c :: rest => Utf8.encodeChar c ++ decodeBytes rest

/-- The text a text with percent escapes stands for, when its bytes are UTF-8. -/
def decode? (t : Text) : Option Text :=
  Utf8.decode? (decodeBytes t)

end VarlinkClient.Percent
