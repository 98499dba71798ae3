import LinkTap.Frame.Codec
import LinkTap.Net.Host

/-!
# Frames over a connection

Reading frames from a byte stream until it ends or falls silent, and connecting to the monitor
port.
-/

set_option autoImplicit false

namespace LinkTap.Frame

/-- A byte stream as a frame reader finds it: the bytes the peer sent, then the end of the
stream or silence (the peer keeps the link open and sends nothing more). -/
structure Inbound where
  bytes : List UInt8
  closed : Bool := true
deriving DecidableEq, Repr

inductive ReadEnd where
  | failed (error : LinkError)
  | waiting
deriving DecidableEq, Repr

namespace Inbound

/-- The frames the stream delivers, in order, and how reading stops: at the end of the stream,
`closed` on a frame boundary and an incomplete frame otherwise; in silence, waiting. -/
def read (i : Inbound) : List Packet × ReadEnd :=
  let (frames, decoder) := (Decoder.feed {} i.bytes).drain
  if i.closed then
    let (more, failure, _) := decoder.drainAtEnd
    (frames ++ more, .failed (failure.getD .closed))
  else (frames, .waiting)

/-- Whether a read timeout ends the first read before any byte arrives: it is zero. -/
def expiresAtOnce : Option Duration → Bool
  | some after => after.nanos == 0
  | none => false

/-- The frames delivered under a read timeout, and how reading stops; a wait is still open. -/
def readFrom (i : Inbound) (timeout : Option Duration) : List Packet × ReadEnd :=
  match timeout with
  | some after => if expiresAtOnce timeout then ([], .failed (.timeout after)) else i.read
  | none => i.read

def readWithin (i : Inbound) (timeout : Option Duration) : List Packet × ReadEnd :=
  match i.readFrom timeout, timeout with
  | (frames, .waiting), some after => (frames, .failed (.timeout after))
  | result, _ => result

end Inbound

end LinkTap.Frame

namespace LinkTap.Frame

open LinkTap.Net

/-- The link failure a connection attempt to the monitor port at `target` ends with. -/
def connectFailure (host : Host) (target : String) : LinkError :=
  .io (host.connectTo target).kind

end LinkTap.Frame
