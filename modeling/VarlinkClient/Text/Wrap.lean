/-
Wrapping a line of text.

A line is cut into pieces where it may be broken: at the breaks between words, at
hyphens within a word, and anywhere in a word that is wider than the line.  The pieces
are then put on lines so that the cost of all lines together is least: every line costs
something, columns beyond the width cost a lot, empty columns before the end of a line
cost their square, and so does a last line of one short piece.
-/
import VarlinkClient.Text.Alphanumeric
import VarlinkClient.Text.Breaks
import VarlinkClient.Text.Minima
import VarlinkClient.Text.Utf8
import VarlinkClient.Text.Width

namespace VarlinkClient.Wrap

/-- A piece of a line that is not broken further, and the blanks after it. -/
structure Piece where
  text : Text
  /-- How many columns the text takes. -/
  width : Nat
  /-- How many blanks follow. -/
  blanks : Nat
  deriving DecidableEq, Repr

/-- The characters of a piece, blanks included. -/
def Piece.full (piece : Piece) : Text :=
  piece.text ++ List.replicate piece.blanks ' '

/-- A text as a piece: the blanks at its end are those after it. -/
def Piece.ofText (t : Text) : Piece :=
  let bare := Text.trimEnd (· = ' ') t
  ⟨bare, Width.line bare, t.length - bare.length⟩

/-! ### Cutting between words -/

/-- A character of a line with the escape sequences in front of it; the sequences at the end
of a line have none. -/
structure Cell where
  text : Text
  shown : Option Char

/-- Joins escape sequences to the characters after them. -/
def cells (escapes : Text) : List Width.Glyph → List Cell
  | [] => if escapes = [] then [] else [⟨escapes, none⟩]
  | .escape t :: rest => cells (escapes ++ t) rest
  | .shown c :: rest => ⟨escapes ++ [c], some c⟩ :: cells [] rest

/-- A character that the end of a line is kept from following. -/
def keepsLine (c : Char) : Bool :=
  c = '-' || c = '\u00ad'

/-- For each character, whether a line is cut in front of it: where it may be broken, unless
after a hyphen. -/
def cuts (t : Text) : List Bool :=
  (Breaks.before t).zipWith (fun allowed keeps => allowed && !keeps)
    (false :: t.map keepsLine)

/-- The same without the last cut. -/
def dropLastCut (cuts : List Bool) : List Bool :=
  (cuts.reverse.dropWhile (!·)).drop 1
    |> fun rest => (List.replicate (cuts.length - rest.length) false ++ rest).reverse

/-- Cuts a line.  At its end there is a cut, too, unless a hyphen stands there; in that case
the last cut before it is left out instead. -/
def finalCuts (t : Text) : List Bool :=
  if (t.getLast?.map keepsLine).getD false then dropLastCut (cuts t) else cuts t

/-- Groups cells into texts, beginning a new one at each cut. -/
def group : List Cell → List Bool → List Text
  | [], _ => []
  | cell :: cells, flags =>
    match group cells flags.tail, flags.tail.headD false with
    | [], _ => [cell.text]
    | t :: ts, true => cell.text :: t :: ts
    | t :: ts, false => (cell.text ++ t) :: ts

/-- The words of a line, each with the blanks after it. -/
def words (line : Text) : List Text :=
  let found := cells [] (Width.glyphs line)
  group found (finalCuts (found.filterMap Cell.shown))

/-! ### Cutting within words -/

/-- Cuts a text after each hyphen between letters or digits; `previous` stands before it. -/
def splitHyphens (previous : Option Char) : Text → List Text
  | [] => [[]]
  | c :: rest =>
    let between :=
      c = '-' && (previous.map isAlphanumeric).getD false &&
        (rest.head?.map isAlphanumeric).getD false
    match splitHyphens (some c) rest with
    | t :: ts => if between then [c] :: t :: ts else (c :: t) :: ts
    | [] => [[c]]

/-- The pieces of a word; the blanks after it follow the last. -/
def hyphenated (word : Piece) : List Piece :=
  let parts := splitHyphens none word.text
  parts.dropLast.map (fun t => ⟨t, Width.line t, 0⟩) ++
    [⟨parts.getLastD [], Width.line (parts.getLastD []), word.blanks⟩]

/-- Cuts a row of characters wherever the next one would exceed the width. -/
def chop (limit : Nat) (taken : Text) (width : Nat) : List Width.Glyph → List (Text × Nat)
  | [] => if taken = [] then [] else [(taken, width)]
  | .escape t :: rest => chop limit (taken ++ t) width rest
  | .shown c :: rest =>
    let more := Width.char c
    if 0 < width ∧ limit < width + more then (taken, width) :: chop limit [c] more rest
    else chop limit (taken ++ [c]) (width + more) rest

/-- The parts of a piece, cut only if it is too wide; the blanks after it follow the last. -/
def narrowed (limit : Nat) (piece : Piece) : List Piece :=
  if piece.width ≤ limit then [piece]
  else
    let parts := chop limit [] 0 (Width.glyphs piece.text)
    (parts.dropLast.map fun part => ⟨part.1, part.2, 0⟩) ++
      (parts.getLast?.map fun part => ⟨part.1, part.2, piece.blanks⟩).toList

/-- The pieces of a line. -/
def pieces (limit : Nat) (line : Text) : List Piece :=
  (((words line).map Piece.ofText).flatMap hyphenated).flatMap (narrowed limit)

/-! ### The cost of lines -/

/-- What any line costs. -/
def lineCost : Nat :=
  1000

/-- What a column beyond the width costs. -/
def overflowCost : Nat :=
  2500

/-- What a last line of one piece costs, when the piece takes less than a quarter of it. -/
def shortLastLineCost : Nat :=
  25

/-- Where each piece begins, when all stand on one line, and where the last one ends. -/
def offsets (start : Nat) : List Piece → List Nat
  | [] => [start]
  | piece :: rest => start :: offsets (start + piece.width + piece.blanks) rest

/-- The cost of a line of the pieces from `i` to before `j`, given where all pieces begin. -/
def charge (limit : Nat) (pieces : Array Piece) (offsets : Array Nat) (i j : Nat) : Nat :=
  let blanks := ((pieces[j - 1]?).map Piece.blanks).getD 0
  let width := offsets.getD j 0 - offsets.getD i 0 - blanks
  let target := max limit 1
  if target < width then lineCost + (width - target) * overflowCost
  else if j < pieces.size then lineCost + (target - width) * (target - width)
  else if i + 1 = j ∧ 4 * width < target then lineCost + shortLastLineCost
  else lineCost

/-! ### Lines -/

/-- The places where lines end, last first: `previous` tells for each place where the line
that ends there begins. -/
def lineEnds (previous : Array Nat) : Nat → Nat → List Nat
  | 0, _ => []
  | fuel + 1, place =>
    if place = 0 then [] else place :: lineEnds previous fuel (previous.getD place 0)

/-- The text of a line: its pieces with their blanks, less those at its end. -/
def lineText (pieces : List Piece) : Text :=
  pieces.dropLast.flatMap Piece.full ++ (pieces.getLast?.map Piece.text).getD []

/-- Cuts a row of pieces at these places, given from the first. -/
def cutAt (start : Nat) : List Nat → List Piece → List Text
  | [], _ => []
  | place :: places, pieces =>
    lineText (pieces.take (place - start)) :: cutAt place places (pieces.drop (place - start))

/-- Puts pieces on lines at least cost. -/
def layOut (limit : Nat) (pieces : List Piece) : List Text :=
  match pieces with
  | [] => [[]]
  | _ =>
    let count := pieces.length
    let rows := Minima.rows (charge limit pieces.toArray (offsets 0 pieces).toArray) (count + 1)
    cutAt 0 (lineEnds rows.toArray count count).reverse pieces

/-- Wraps a line that has no line feed.  One that is shorter than the width, in bytes, only
loses the blanks at its end. -/
def wrapLine (limit : Nat) (line : Text) : List Text :=
  if (Utf8.encode line).length < limit then [Text.trimEnd (· = ' ') line]
  else layOut limit (pieces limit line)

/-- Wraps each line of a text. -/
def wrap (limit : Nat) (t : Text) : List Text :=
  (Text.splitOn (· = '\n') t).flatMap (wrapLine limit)

end VarlinkClient.Wrap
