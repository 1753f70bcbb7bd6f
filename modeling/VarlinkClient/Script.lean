/-
A channel that follows a script.

Each poll finds the next item of the script, and nothing once the script is used up.
What was done with the channel is noted, so that a wait can be followed step by step.
-/
import VarlinkClient.Wait

namespace VarlinkClient.Script

/-- What one poll finds. -/
inductive Item
  /-- A frame, to be decoded as a reply. -/
  | frame (bytes : Bytes)
  | pending
  | closed
  /-- The poll fails. -/
  | fail
  /-- Nothing, while the wait is interrupted. -/
  | cancel
  deriving DecidableEq, Repr

/-- What was done with the channel. -/
inductive Event
  /-- A poll found an item. -/
  | polled (item : Item)
  /-- A call was sent. -/
  | sent (frame : Bytes)
  /-- A call could not be sent. -/
  | sendFailed
  | closed
  deriving DecidableEq, Repr

/-- The channel. -/
structure State where
  /-- What the next polls find. -/
  items : List Item
  /-- The channel was given up. -/
  closed : Bool
  /-- Nothing can be sent. -/
  failSend : Bool
  /-- What was done. -/
  log : List Event

/-- What is said when the script wants a failure. -/
def scriptedFailure : Text :=
  "scripted failure"

/-- Finds the next item. -/
def poll (s : State) : Except Failure Poll × State :=
  match s.items with
  | [] => (.ok .pending, s)
  | item :: items =>
    let s := { s with items, log := s.log ++ [.polled item] }
    match item with
    | .frame bytes =>
      match Reply.decode bytes with
      | .ok reply => (.ok (.reply reply), s)
      | .error failure => (.error failure, s)
    | .pending | .cancel => (.ok .pending, s)
    | .closed => (.ok .closed, s)
    | .fail => (.error (.readFailed scriptedFailure), s)

/-- Notes a call. -/
def send (s : State) (call : Call) : Except Failure Unit × State :=
  if s.failSend then
    (.error (.sendFailed scriptedFailure), { s with log := s.log ++ [.sendFailed] })
  else (.ok (), { s with log := s.log ++ [.sent call.encode] })

/-- Gives the channel up. -/
def close (s : State) : State :=
  { s with closed := true, log := s.log ++ [.closed] }

/-- The channel of scripts. -/
def channel : Channel State :=
  ⟨send, poll, close, State.closed⟩

/-- The moments of a wait on a script: it is interrupted once an item has said so, or from
the start, and time passes only when the script is used up. -/
def moments (canceled : Bool) (items : List Item) : List Moment :=
  (List.range (items.length + 1)).map fun turn =>
    ⟨canceled || Item.cancel ∈ items.take turn,
      if turn < items.length then 0 else Wait.longest⟩

end VarlinkClient.Script
