/-
How alike two texts are.

Characters of two texts match when they are equal and stand not too far apart; each
matches at most one other.  The likeness of the texts is the mean of three shares: how
much of either matches, and how much of what matches stands in the same order.  It is a
fraction, so comparing likenesses is exact.
-/
import VarlinkClient.Text.Basic

namespace VarlinkClient.Text

/-- Of a text, which characters have been matched. -/
abbrev Marked := List (Char × Bool)

/-- How far apart characters of two texts may stand and still match. -/
def reach (a b : Text) : Nat :=
  max a.length b.length / 2 - 1

/-- Matches `c` with the first free character equal to it, if there is one at a place from
`low` to `high`.  The text begins at place `i`. -/
def matchOne (low high : Nat) (c : Char) (i : Nat) : Marked → Option Marked
  | [] => none
  | (d, taken) :: rest =>
    if low ≤ i && i ≤ high && d = c && !taken then some ((d, true) :: rest)
    else (matchOne low high c (i + 1) rest).map ((d, taken) :: ·)

/-- Matches characters in order, the first of which stands at place `i`.  Gives those that
found a match, and what they matched. -/
def matchAll (within : Nat) (i : Nat) : Text → Marked → Text × Marked
  | [], marked => ([], marked)
  | c :: rest, marked =>
    match matchOne (i - within) (i + within) c 0 marked with
    | none => matchAll within (i + 1) rest marked
    | some marked =>
      let (matched, marked) := matchAll within (i + 1) rest marked
      (c :: matched, marked)

/-- A fraction. -/
structure Likeness where
  numerator : Nat
  denominator : Nat

namespace Likeness

/-- One fraction is not above another. -/
def le (x y : Likeness) : Bool :=
  x.numerator * y.denominator ≤ y.numerator * x.denominator

end Likeness

/-- How alike two texts are, from nothing to one. -/
def likeness (a b : Text) : Likeness :=
  let (matched, marked) := matchAll (reach a b) 0 a (b.map fun c => (c, false))
  let partners := (marked.filter Prod.snd).map Prod.fst
  let m := matched.length
  let misplaced := ((matched.zip partners).filter fun pair => pair.1 ≠ pair.2).length / 2
  if m = 0 then ⟨0, 1⟩
  else
    ⟨m * m * b.length + m * m * a.length + (m - misplaced) * a.length * b.length,
      3 * m * a.length * b.length⟩

/-- The likeness from which texts count as similar. -/
def similarFrom : Likeness :=
  ⟨7, 10⟩

/-- Of things with names, the one whose name is most like `t`, if any is similar; among equals
the last. -/
def mostSimilar {α : Type} (name : α → Text) (t : Text) (things : List α) : Option α :=
  (things.foldl
    (fun (best : Option (α × Likeness)) thing =>
      let likeness := likeness t (name thing)
      if !similarFrom.le likeness then best
      else match best with
        | none => some (thing, likeness)
        | some (_, reached) => if reached.le likeness then some (thing, likeness) else best)
    none).map Prod.fst

end VarlinkClient.Text
