import LinkTap.Monitor.Basic
import LinkTap.Frame.Socket

/-!
# Monitoring one connection

A run starts the cursor and scanners afresh, announces the peer, then handles frames, looking at
its cancellation token before every read (`Monitor.serve`).
-/

set_option autoImplicit false

namespace LinkTap

open LinkTap.Frame LinkTap.Telemetry

inductive MonitorExit where
  | connectionEnded (error : LinkError)
  | shutdown
deriving DecidableEq, Repr

/-- When a run's token is cancelled: once the run has handled a number of frames, a number of
milliseconds after the run starts, or never. Frames already sent are read at once, so time only
passes while a read waits for more. -/
inductive Cancellation where
  | afterFrames (count : Nat)
  | atMillis (at_ : Nat)
  | never
deriving DecidableEq, Repr

namespace Cancellation

/-- Whether the token is cancelled when the run, before any wait, has handled `handled` frames. -/
def seen : Cancellation → Nat → Bool
  | afterFrames count, handled => count ≤ handled
  | atMillis at_, _ => at_ == 0
  | never, _ => false

end Cancellation

structure Session where
  peer : String
  inbound : Inbound
  readTimeout : Option Duration := none
  cancel : Cancellation := .never
deriving Repr

namespace Session

/-- How the run ends once reading has stopped: a failed read ends the connection; a waiting
read ends by its timeout or by cancellation, whichever comes first. A wait with neither never
ends. -/
def exit? (s : Session) : ReadEnd → Option MonitorExit
  | .failed error => some (.connectionEnded error)
  | .waiting =>
    match s.cancel, s.readTimeout with
    | .atMillis at_, some timeout =>
      if (Duration.ofMillis at_).nanos < timeout.nanos then some .shutdown
      else some (.connectionEnded (.timeout timeout))
    | .atMillis _, none => some .shutdown
    | _, some timeout => some (.connectionEnded (.timeout timeout))
    | _, none => none

end Session

namespace Monitor

def handleAll {σ : Type} (sink : Sink σ) (m : Monitor) (state : σ) (frames : List Packet) :
    Monitor × σ :=
  frames.foldl (fun (m, state) p => m.handlePacket sink state p) (m, state)

/-- The loop of a run that has handled `handled` frames and will read `frames`, then stop as
`stop`: before each read it looks at the token, and ends the run if it is cancelled. -/
def serve {σ : Type} (sink : Sink σ) (session : Session) (stop : ReadEnd) (handled : Nat)
    (frames : List Packet) (m : Monitor) (state : σ) : Option (Monitor × σ × MonitorExit) :=
  if session.cancel.seen handled then some (m, state, .shutdown)
  else
    match frames with
    | [] => (session.exit? stop).map fun exit => (m, state, exit)
    | p :: rest =>
      let (m, state) := m.handlePacket sink state p
      serve sink session stop (handled + 1) rest m state

/-- Serves one connection: the monitor and sink after it, and why it ended; none for a run
that waits forever. -/
def run {σ : Type} (sink : Sink σ) (m : Monitor) (state : σ) (session : Session) :
    Option (Monitor × σ × MonitorExit) :=
  let m := { m with cursor := {}, scanners := [] }
  let (m, state) := m.publish sink state [.status ("Connected to " ++ session.peer)]
  let (frames, stop) := session.inbound.readFrom session.readTimeout
  serve sink session stop 0 frames m state

end Monitor

end LinkTap
