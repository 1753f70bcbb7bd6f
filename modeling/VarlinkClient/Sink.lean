/-
Outputs that can fill up.

A sink takes bytes until its room is used up.  A write that does not fit leaves as much
of itself as fits, fails, and leaves no room.
-/
import VarlinkClient.Text.Utf8

namespace VarlinkClient

/-- An output and what was written to it. -/
structure Sink where
  /-- The bytes taken so far. -/
  written : Bytes
  /-- How many more bytes it takes; without a number, as many as come. -/
  room : Option Nat
  deriving DecidableEq, Repr

namespace Sink

/-- Nothing written yet, and room for so many bytes. -/
def empty (room : Option Nat) : Sink :=
  ⟨[], room⟩

/-- Writes bytes, and tells whether all of them fitted. -/
def write (sink : Sink) (bytes : Bytes) : Sink × Bool :=
  match sink.room with
  | none => (⟨sink.written ++ bytes, none⟩, true)
  | some room =>
    if bytes.length ≤ room then (⟨sink.written ++ bytes, some (room - bytes.length)⟩, true)
    else (⟨sink.written ++ bytes.take room, some 0⟩, false)

/-- Writes a text. -/
def writeText (sink : Sink) (t : Text) : Sink × Bool :=
  sink.write (Utf8.encode t)

/-- Writes a text and a line feed. -/
def writeLine (sink : Sink) (t : Text) : Sink × Bool :=
  sink.writeText (t ++ "\n")

/-- Writes a line whether or not it fits. -/
def note (sink : Sink) (t : Text) : Sink :=
  (sink.writeLine t).1

/-- What is said when a write does not fit. -/
def fullMessage : Text :=
  "output is full"

end Sink

end VarlinkClient
