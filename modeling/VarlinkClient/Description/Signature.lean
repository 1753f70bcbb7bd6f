/-
Signatures of members.

A signature in canonical spacing has a blank after every comma and colon, one on either
side of every arrow, and no other.  Blanks in what is read make no difference.  For
display, the groups at the outermost parentheses can be spread over lines, a field each.
-/
import VarlinkClient.Text.Blank

namespace VarlinkClient.Signature

/-! ### Canonical spacing -/

/-- Spaces out a text without blanks. -/
def space : Text → Text
  | [] => []
  | '-' :: '>' :: rest => " -> " ++ space rest
  | ',' :: rest => ", " ++ space rest
  | ':' :: rest => ": " ++ space rest
  | c :: rest => c :: space rest

/-- The text without its blanks. -/
def compact (t : Text) : Text :=
  t.filter fun c => !isBlank c

/-- The signature in canonical spacing. -/
def normalise (t : Text) : Text :=
  space (compact t)

/-! ### Parentheses -/

/-- How deep in parentheses a text ends that starts at `depth`; none when it closes one that
was not opened. -/
def depthAfter (depth : Nat) : Text → Option Nat
  | [] => some depth
  | c :: rest =>
    if c = '(' then depthAfter (depth + 1) rest
    else if c = ')' then
      match depth with
      | 0 => none
      | outer + 1 => depthAfter outer rest
    else depthAfter depth rest

/-- The depth after one more character; closing what was not opened changes nothing. -/
def stepDepth (depth : Nat) (c : Char) : Nat :=
  if c = '(' then depth + 1 else if c = ')' then depth - 1 else depth

/-! ### Spreading over lines -/

/-- The pieces between the commas outside of parentheses. -/
def splitCommas (depth : Nat) : Text → List Text
  | [] => [[]]
  | c :: rest =>
    if c = ',' ∧ depth = 0 then [] :: splitCommas 0 rest
    else match splitCommas (stepDepth depth c) rest with
      | piece :: pieces => (c :: piece) :: pieces
      | [] => [[c]]

/-- The fields of a group: what stands between its commas, unless that is blank. -/
def fields (inner : Text) : List Text :=
  ((splitCommas 0 inner).map Text.trim).filter fun field => field ≠ []

/-- A group in parentheses with a line for each field. -/
def spreadGroup (inner : Text) : Text :=
  match fields inner with
  | [] => "()"
  | found => "(\n" ++ Text.join ",\n" (found.map fun field => "  " ++ field) ++ "\n)"

/-- Spreads the outermost groups.  `depth` parentheses are open, and `since` has been read since
the last group was opened, or from the start when none was. -/
def spreadFrom (depth : Nat) (since : Text) : Text → Text
  | [] => []
  | c :: rest =>
    if c = '(' then spreadFrom (depth + 1) (if depth = 0 then [] else since ++ [c]) rest
    else if c = ')' then
      if depth - 1 = 0 then spreadGroup since ++ spreadFrom 0 (since ++ [c]) rest
      else spreadFrom (depth - 1) (since ++ [c]) rest
    else if depth = 0 then c :: spreadFrom 0 (since ++ [c]) rest
    else spreadFrom depth (since ++ [c]) rest

/-- The signature with its outermost groups spread over lines. -/
def spread (t : Text) : Text :=
  spreadFrom 0 [] t

end VarlinkClient.Signature
