/-
Column minima of a matrix, found while the matrix is being learnt.

The entry in row `i` and column `j > i` is the minimum of column `i` plus a charge for
going from `i` to `j`.  For each column the row of its minimum is sought.  When smaller
rows only get worse to the right, few entries have to be looked at: whole blocks of rows
and columns are searched at a time, and a row that loses a column is not tried further
right.  Which row is taken where the charges do not behave like that is also fixed by
this order of search.
-/
import VarlinkClient.Text.Basic

namespace VarlinkClient.Minima

/-! ### A block of rows and columns -/

/-- Drops rows from the end of `kept` that lose to `row` in the column at their place.
`kept` has the last row first. -/
def dropLosers (cost : Nat → Nat → Nat) (cols : List Nat) (row : Nat) : List Nat → List Nat
  | [] => []
  | top :: kept =>
    let col := cols.getD kept.length 0
    if cost row col < cost top col then dropLosers cost cols row kept else top :: kept

/-- Adds a row to those that can hold a minimum, of which there are no more than columns. -/
def keepRow (cost : Nat → Nat → Nat) (cols : List Nat) (kept : List Nat) (row : Nat) : List Nat :=
  let kept := dropLosers cost cols row kept
  if kept.length = cols.length then kept else row :: kept

/-- The rows that can hold a minimum. -/
def keepRows (cost : Nat → Nat → Nat) (cols rows : List Nat) : List Nat :=
  (rows.foldl (keepRow cost cols) []).reverse

/-- Every second element, beginning with the second. -/
def seconds : List Nat → List Nat
  | _ :: b :: rest => b :: seconds rest
  | _ => []

/-- Goes along the rows up to `last` and finds the first that is least in a column.  Gives
it and the rows from `last` on. -/
def advance (cost : Nat → Nat → Nat) (col last best : Nat) : List Nat → Nat × List Nat
  | [] => (best, [])
  | row :: rest =>
    let best := if cost row col < cost best col then row else best
    if row = last then (best, row :: rest) else advance cost col last best rest

/-- Fills in the minima between those of every second column. -/
def fillBetween (cost : Nat → Nat → Nat) (final : Nat) : List Nat → List Nat → List Nat → List Nat
  | _, [], _ => []
  | rows, [col], _ => [(advance cost col final (rows.headD final) rows).1]
  | rows, col :: _ :: cols, found :: others =>
    let (best, rows) := advance cost col found (rows.headD found) rows
    best :: found :: fillBetween cost final rows cols others
  | _, _ :: _ :: _, [] => []

/-- The rows of the minima of these columns.  Each step halves the columns, so `fuel` need
not exceed their number. -/
def inBlock (cost : Nat → Nat → Nat) : Nat → List Nat → List Nat → List Nat
  | 0, _, _ => []
  | _ + 1, _, [] => []
  | fuel + 1, rows, cols =>
    let rows := keepRows cost cols rows
    fillBetween cost (rows.getLastD 0) rows cols (inBlock cost fuel rows (seconds cols))

/-! ### The whole matrix -/

/-- A column's minimum: its row and its value. -/
structure Entry where
  row : Nat
  value : Nat
  deriving DecidableEq, Repr

/-- How far the search has come. -/
structure Search where
  /-- The minima found so far; those up to `finished` are final. -/
  entries : Array Entry
  /-- The last column whose minimum is final. -/
  finished : Nat
  /-- The least row that can still hold a minimum. -/
  base : Nat
  /-- The last column of which a minimum over some rows is known. -/
  tentative : Nat

namespace Search

/-- The minimum of column zero is given. -/
def start : Search :=
  ⟨#[⟨0, 0⟩], 0, 0, 0⟩

/-- The value of a column's minimum. -/
def value (s : Search) (col : Nat) : Nat :=
  (s.entries.getD col ⟨0, 0⟩).value

/-- The entry in a row and a column. -/
def cost (charge : Nat → Nat → Nat) (s : Search) (row col : Nat) : Nat :=
  s.value row + charge row col

/-- Records a minimum, unless a lower one is known. -/
def record (entries : Array Entry) (col row value : Nat) : Array Entry :=
  if h : col < entries.size then
    if value < entries[col].value then entries.set col ⟨row, value⟩ h else entries
  else entries.push ⟨row, value⟩

/-- Searches the next block: the rows from `base` and as many columns. -/
def searchBlock (charge : Nat → Nat → Nat) (size : Nat) (s : Search) : Search :=
  let rows := (List.range (s.finished + 1)).drop s.base
  let tentative := min (s.finished + rows.length) (size - 1)
  let cols := (List.range (tentative + 1)).drop (s.finished + 1)
  let found := inBlock (s.cost charge) cols.length rows cols
  let entries := (cols.zip found).foldl
    (fun entries (col, row) => record entries col row (s.cost charge row col)) s.entries
  { s with entries, tentative, finished := s.finished + 1 }

/-- Makes the minimum of one more column final. -/
def step (charge : Nat → Nat → Nat) (size : Nat) (s : Search) : Search :=
  let next := s.finished + 1
  if s.tentative < next then s.searchBlock charge size
  else
    let diagonal := s.cost charge s.finished next
    if diagonal < s.value next then
      { entries := s.entries.setIfInBounds next ⟨s.finished, diagonal⟩
        finished := next
        base := s.finished
        tentative := next }
    else if s.value s.tentative ≤ s.cost charge s.finished s.tentative then
      { s with finished := next }
    else { s with finished := next, base := s.finished, tentative := next }

/-- Makes as many steps. -/
def steps (charge : Nat → Nat → Nat) (size : Nat) : Nat → Search → Search
  | 0, s => s
  | n + 1, s => steps charge size n (s.step charge size)

end Search

/-- The rows of the minima of `size` columns. -/
def rows (charge : Nat → Nat → Nat) (size : Nat) : List Nat :=
  ((Search.start.steps charge size (size - 1)).entries.toList).map Entry.row

end VarlinkClient.Minima
