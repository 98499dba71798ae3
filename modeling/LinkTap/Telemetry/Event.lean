import LinkTap.Traffic.Kind
import LinkTap.Mavlink.Message
import LinkTap.Text.Numbers
import LinkTap.Text.Utf8

/-!
# Telemetry events and sinks

A status line, a frame as seen on the link, or the MAVLink messages of one frame, each sent as one
JSON text to a sink that takes or refuses it.
-/

set_option autoImplicit false

namespace LinkTap.Telemetry

open LinkTap.Frame LinkTap.Traffic

inductive Event where
  | status (message : String)
  | frame (packet : Packet)
  | mavlinkBatch (cmd seq : UInt8) (source : Source) (messages : List Mavlink.Message)
deriving Repr

namespace Event

/-- The `data` of a frame's event. -/
def frameData (p : Packet) : Json.Value :=
  if (Command.ofByte p.cmd).kind = .state then .str (Utf8.toStringLossy p.payload)
  else .arr ((p.header.toBytes ++ p.payload).map fun b => .str (Hex.ofBytes [b]))

def toJson : Event → Json.Value
  | .status message => .obj [("type", .str "status"), ("message", .str message)]
  | .frame p =>
    let c := Command.ofByte p.cmd
    .obj [("type", .str "packet"), ("cmd", .int p.cmd.toNat), ("seq", .int p.seq.toNat),
      ("length", .int p.wireLen), ("data", frameData p), ("packet_type", .str c.kind.name),
      ("source", .str c.source.name)]
  | .mavlinkBatch cmd seq source messages =>
    .obj [("type", .str "packet"), ("cmd", .int cmd.toNat), ("seq", .int seq.toNat),
      ("data", .arr (messages.map fun m => .str m.jsonText)), ("packet_type", .str "mavlink"),
      ("source", .str source.name)]

def jsonText (e : Event) : String := e.toJson.render

end Event

/-- The batch event for the messages one frame completed; none when there are none. -/
def batchOf (p : Packet) (source : Source) (messages : List Mavlink.Message) : Option Event :=
  if messages.isEmpty then none else some (.mavlinkBatch p.cmd p.seq source messages)

end LinkTap.Telemetry

namespace LinkTap.Telemetry

/-- A sink whose state is `σ`: publishing an event gives the new state and whether the event
was taken. -/
structure Sink (σ : Type) where
  publish : σ → Event → σ × Bool

namespace Sink

variable {σ : Type}

def publishAll (sink : Sink σ) (state : σ) : List Event → σ × Nat
  | [] => (state, 0)
  | e :: rest =>
    let (next, taken) := sink.publish state e
    let (final, refused) := sink.publishAll next rest
    (final, if taken then refused else refused + 1)

end Sink

/-- A sink that keeps the text of every event it takes, and refuses all while offline. -/
structure Recorder where
  online : Bool := true
  texts : Array String := #[]
deriving Repr, Inhabited

def Recorder.sink : Sink Recorder where
  publish r e := if r.online then ({ r with texts := r.texts.push e.jsonText }, true) else (r, false)

end LinkTap.Telemetry
