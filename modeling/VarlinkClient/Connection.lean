/-
A connection to a service.

Messages on a connection end in a NUL byte.  Bytes arrive as they please: what has come
of a frame is held until the rest of it is there.  A poll gives one complete frame; a
frame that the other side breaks off never becomes a reply.
-/
import VarlinkClient.Wait

namespace VarlinkClient

/-- How the other side of a connection stands. -/
inductive FarEnd
  /-- It may send more. -/
  | open
  /-- It has hung up. -/
  | finished
  /-- It is cut off, for this reason. -/
  | broken (reason : Text)
  deriving DecidableEq, Repr

/-- It has hung up without having read all that was sent to it. -/
def FarEnd.reset : FarEnd :=
  .broken "Connection reset by peer (os error 104)"

/-- A connection. -/
structure Connection where
  /-- What has arrived and was not looked at. -/
  arrived : Bytes
  /-- What was looked at of a frame that is not complete. -/
  held : Bytes
  /-- How the other side stands. -/
  far : FarEnd
  /-- What was sent. -/
  sent : Bytes
  /-- This side has hung up. -/
  closed : Bool
  deriving DecidableEq, Repr

namespace Connection

/-- A connection on which nothing has happened. -/
def fresh : Connection :=
  ⟨[], [], .open, [], false⟩

/-- The connection with all that has arrived held. -/
def holdAll (c : Connection) : Connection :=
  { c with held := c.held ++ c.arrived, arrived := [] }

/-- Looks for a reply. -/
def poll (c : Connection) : Except Failure Poll × Connection :=
  if c.closed then (.ok .closed, c)
  else match c.arrived.dropWhile (· ≠ 0) with
    | _ :: rest =>
      let frame := c.held ++ c.arrived.takeWhile (· ≠ 0)
      let c := { c with arrived := rest, held := [] }
      match Reply.decode frame with
      | .ok reply => (.ok (.reply reply), c)
      | .error failure => (.error failure, c)
    | [] =>
      match c.far with
      | .open => (.ok .pending, c.holdAll)
      | .broken reason => (.error (.readFailed reason), { c.holdAll with far := .finished })
      | .finished =>
        if c.arrived ≠ [] then (.ok .pending, c.holdAll)
        else if c.held = [] then (.ok .closed, c)
        else (.error (.invalidMessage "connection closed inside a message"), c)

/-- Sends a call. -/
def send (c : Connection) (call : Call) : Except Failure Unit × Connection :=
  if c.closed then (.error .connectionClosed, c)
  else if c.far ≠ .open then (.error (.sendFailed "Broken pipe (os error 32)"), c)
  else (.ok (), { c with sent := c.sent ++ call.encode })

/-- Sends of a call so many bytes, after which the other side is gone. -/
def sendFront (c : Connection) (call : Call) (length : Nat) : Connection :=
  { c with sent := c.sent ++ call.encode.take length, far := .finished }

/-- Hangs up. -/
def close (c : Connection) : Connection :=
  { c with closed := true }

/-- Bytes arrive from the other side, as long as it has not hung up. -/
def receive (c : Connection) (bytes : Bytes) : Connection :=
  if c.far = .open then { c with arrived := c.arrived ++ bytes } else c

/-- The other side goes, and is like this from then on. -/
def leave (c : Connection) (far : FarEnd) : Connection :=
  if c.far = .open then { c with far } else c

/-- The connection as a channel. -/
def channel : Channel Connection :=
  ⟨send, poll, close, closed⟩

/-! ### Frames -/

/-- The frames in a row of bytes, each without the NUL that ends it. -/
def frames : Bytes → List Bytes
  | [] => []
  | b :: rest =>
    if b = 0 then [] :: frames rest
    else match frames rest with
      | frame :: others => (b :: frame) :: others
      | [] => []

end Connection

end VarlinkClient
