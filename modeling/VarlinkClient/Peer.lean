/-
The other side of a connection, acting on its own.

The other side reads what was sent to it and writes bytes when it likes.  Hanging up
with something unread resets the connection.
-/
import VarlinkClient.Connection

namespace VarlinkClient

/-- A connection together with the one who acts on its other side. -/
structure Peer where
  /-- The connection. -/
  connection : Connection
  /-- How much of what was sent it has read. -/
  read : Nat
  deriving DecidableEq, Repr

namespace Peer

/-- A peer of a connection on which nothing has happened. -/
def fresh : Peer :=
  ⟨.fresh, 0⟩

/-- What was sent and the peer has not read. -/
def unread (peer : Peer) : Bytes :=
  peer.connection.sent.drop peer.read

/-- The peer writes, which it cannot after either side has hung up. -/
def write (peer : Peer) (bytes : Bytes) : Peer × Bool :=
  if peer.connection.closed ∨ peer.connection.far ≠ .open then (peer, false)
  else ({ peer with connection := peer.connection.receive bytes }, true)

/-- The peer reads up to and with the next NUL, or all there is; nothing when it has hung up. -/
def readFrame (peer : Peer) : Peer × Option Bytes :=
  if peer.connection.far ≠ .open then (peer, none)
  else
    let frame := peer.unread.takeWhile (· ≠ 0)
    let frame := frame ++ (peer.unread.drop frame.length).take 1
    ({ peer with read := peer.read + frame.length }, some frame)

/-- The peer hangs up. -/
def close (peer : Peer) : Peer :=
  if peer.connection.far ≠ .open then peer
  else
    let far := if peer.unread = [] then FarEnd.finished else FarEnd.reset
    { peer with connection := { peer.connection with far } }

end Peer

end VarlinkClient
