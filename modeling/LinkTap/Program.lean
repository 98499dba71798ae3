import LinkTap.Config
import LinkTap.Replay.Server
import LinkTap.Telemetry.Link

/-!
# The two programs

How the replay server and the tap start from their settings and arguments, and how a run that
stops at a fatal error reports it.
-/

set_option autoImplicit false

namespace LinkTap.Program

structure Failure where
  message : String
  cause : Option String := none
deriving DecidableEq, Repr

def Failure.report (f : Failure) : String :=
  let causeText := match f.cause with
    | some cause => "\nCaused by:\n    " ++ cause ++ "\n"
    | none => ""
  "Error: " ++ f.message ++ "\n" ++ causeText

/-- How a run looks from outside: whether it reached its steady state, its exit status and what
it wrote on the error stream. -/
structure Exit where
  ready : Bool
  code : Nat
  errorText : String
deriving DecidableEq, Repr

/-- The exit of a run that settles with a value or stops at a fatal error. A settled run is
stopped by an interrupt, and then exits cleanly. -/
def Exit.ofStart {α : Type} : Except Failure α → Exit
  | .ok _ => ⟨true, 0, ""⟩
  | .error f => ⟨false, 1, f.report⟩

end LinkTap.Program

namespace LinkTap.Program.Replay

open LinkTap.Config LinkTap.Net

/-- The settings of a run: the variables' settings, with the arguments applied. -/
def configure (lookup : Lookup) (args : List String) : Except Failure ReplayConfig := do
  let config ← (ReplayConfig.ofLookup lookup).mapError fun e => { message := e.message }
  let config := match args with
    | path :: _ => { config with dumpFile := path }
    | [] => config
  match args with
  | _ :: port :: _ =>
    match Text.parseUnsigned 16 port with
    | .ok n => pure { config with listenPort := n.toUInt16 }
    | .error e => throw { message := "Invalid port " ++ Text.quote port, cause := some e.message }
  | _ => pure config

def start (host : Host) (lookup : Lookup) (args : List String) : Except Failure SocketAddress := do
  let config ← configure lookup args
  (Replay.startServer host config.dumpFile config.listen).mapError fun e =>
    { message := e.message, cause := some e.kind.osMessage }

end LinkTap.Program.Replay

namespace LinkTap.Program.Tap

open LinkTap.Config LinkTap.Net

def configure (lookup : Lookup) : Except Failure MonitorConfig :=
  (MonitorConfig.ofLookup lookup).mapError fun e => { message := e.message }

/-- Starts the program on a host; the result is the settings and why the first session ended. -/
def start (host : Host) (lookup : Lookup) : Except Failure (MonitorConfig × Telemetry.OpenError) := do
  let config ← configure lookup
  pure (config, Telemetry.openLink host config.websocketUrl)

end LinkTap.Program.Tap
