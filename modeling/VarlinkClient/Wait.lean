/-
Waiting for replies.

A wait polls a channel and hands every reply to a handler until the handler has had
enough.  At the start of each turn it looks whether it was interrupted and how much time
has passed; both can end it, the interruption first.  What is seen at the turns is given
as a list of moments, so a wait is a function: when the moments are used up and nothing
has ended it, it is still waiting.
-/
import VarlinkClient.Call
import VarlinkClient.Reply

namespace VarlinkClient

/-- What one look at a channel finds. -/
inductive Poll
  /-- A reply. -/
  | reply (reply : Reply)
  /-- Nothing complete yet. -/
  | pending
  /-- The other side has hung up. -/
  | closed

/-- A way to one service, as operations on its states. -/
structure Channel (σ : Type) where
  /-- Sends a call. -/
  send : σ → Call → Except Failure Unit × σ
  /-- Looks for a reply. -/
  poll : σ → Except Failure Poll × σ
  /-- Gives the channel up. -/
  close : σ → σ
  /-- The channel was given up. -/
  isClosed : σ → Bool

/-- Whether a handler wants another reply. -/
inductive ReplyState
  | awaiting
  | done
  deriving DecidableEq, Repr

/-- What is seen at the start of a turn. -/
structure Moment where
  /-- The wait has been interrupted. -/
  canceled : Bool
  /-- How many milliseconds the wait has lasted. -/
  elapsed : Nat
  deriving DecidableEq, Repr

/-- Why there is no result. -/
inductive Stop
  /-- Something went wrong. -/
  | failed (failure : Failure)
  /-- The wait has not ended. -/
  | waiting
  deriving DecidableEq, Repr

namespace Wait

/-- The longest time, in milliseconds, after which a wait can be made to end. -/
def longest : Nat :=
  UInt64.size / 2 * 1000

/-- The time is up.  Without a limit, or with one beyond `longest`, it never is. -/
def expired (limit : Option Nat) (moment : Moment) : Bool :=
  limit.any fun limit => limit < longest && limit ≤ moment.elapsed

/-- Polls `channel` and hands the replies to `handle` until it is done, for at most as many
turns as there are moments.  The channel is given up when the handler is done, and when
the wait is interrupted or its time is up. -/
def run {σ η : Type} (channel : Channel σ) (handle : η → Reply → η × ReplyState)
    (limit : Option Nat) : List Moment → σ → η → Except Stop Unit × σ × η
  | [], s, h => (if channel.isClosed s then .ok () else .error .waiting, s, h)
  | moment :: moments, s, h =>
    if channel.isClosed s then (.ok (), s, h)
    else if moment.canceled then (.error (.failed .canceled), channel.close s, h)
    else if expired limit moment then (.error (.failed .timedOut), channel.close s, h)
    else match channel.poll s with
      | (.error failure, s) => (.error (.failed failure), s, h)
      | (.ok .pending, s) => run channel handle limit moments s h
      | (.ok .closed, s) => (.error (.failed .connectionClosed), s, h)
      | (.ok (.reply reply), s) =>
        match handle h reply with
        | (h, .done) => run channel handle limit moments (channel.close s) h
        | (h, .awaiting) => run channel handle limit moments s h

end Wait

end VarlinkClient
