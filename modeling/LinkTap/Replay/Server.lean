import LinkTap.Replay.Scheduler
import LinkTap.Frame.Socket

/-!
# The replay server

Starting the server, and the session it plays to its first client with the stream that client
reads.
-/

set_option autoImplicit false

namespace LinkTap.Replay

open LinkTap.Net LinkTap.Channel

inductive StartError where
  | openDump (path : String) (kind : ErrorKind)
  | listen (address : SocketAddress) (kind : ErrorKind)
deriving DecidableEq, Repr

namespace StartError

def message : StartError → String
  | openDump path _ => "Failed to open dump file " ++ path
  | listen address _ => "Failed to listen on " ++ address.text

def kind : StartError → ErrorKind
  | openDump _ kind | listen _ kind => kind

end StartError

/-- Starts the server on a host: the dump at `path` is opened, then `address` is listened on;
the result is the address clients connect to. -/
def startServer (host : Host) (path : String) (address : SocketAddress) : Except StartError SocketAddress :=
  match host.openFile path with
  | some kind => .error (.openDump path kind)
  | none =>
    match host.listen address with
    | some kind => .error (.listen address kind)
    | none => .ok address

end LinkTap.Replay

namespace LinkTap.Replay

open LinkTap.Frame LinkTap.Channel

/-- The stream a client reads from a session: the bytes the session wrote, then the end of the
stream. -/
def Outcome.clientStream (o : Outcome) : Inbound :=
  { bytes := o.sink.writes.toList.flatMap Prod.snd, closed := true }

/-- The session a server plays to its first client, on a new connection whose writes behave as
`script`, and the stream the client reads; `none` for a session that never ends. -/
def serveFirstClient (settings : Settings) (cancelAt : Option Nat) (script : SinkScript)
    (dump : List UInt8) : Option (Outcome × Inbound) :=
  (runSession settings cancelAt { script } dump).map fun o => (o, o.clientStream)

end LinkTap.Replay
