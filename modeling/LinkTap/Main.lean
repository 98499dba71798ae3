import LinkTap.Program
import LinkTap.Text.Numbers

/-!
# Command line

`linktap replay [dump_file] [port]` and `linktap tap`, with their settings from the environment.
-/

set_option autoImplicit false

namespace LinkTap.Cli

open LinkTap.Net LinkTap.Program

def settingNames : List String :=
  ["TARGET_ADDR", "TARGET_PORT", "WEBSOCKET_SERVER", "RESTART_DELAY", "IO_TIMEOUT_SECS",
    "DUMP_FILE", "LISTEN_ADDR", "LISTEN_PORT"]

def readSettings : IO (List (String × String)) :=
  settingNames.filterMapM fun name => do
    pure ((← IO.getEnv name).map (name, ·))

def canOpen (path : String) : IO Bool := do
  try
    let _ ← IO.FS.Handle.mk path .read
    pure true
  catch _ => pure false

def fail (f : Failure) : IO UInt32 := do
  IO.eprint f.report
  pure 1

def runReplay (env : List (String × String)) (args : List String) : IO UInt32 := do
  let lookup := fun key => env.lookup key
  match Program.Replay.configure lookup args with
  | .error f => fail f
  | .ok config =>
    let host : Host := { files := if ← canOpen config.dumpFile then [config.dumpFile] else [] }
    match Program.Replay.start host lookup args with
    | .error f => fail f
    | .ok address =>
      IO.println ("Replay listening on " ++ address.text)
      pure 0

def runTap (env : List (String × String)) : IO UInt32 := do
  match Program.Tap.start { files := [] } (fun key => env.lookup key) with
  | .error f => fail f
  | .ok (config, e) =>
    IO.println ("Monitor session failed: " ++ e.message config.websocketUrl)
    IO.println ("Restarting in " ++ (Duration.ofSecs config.restartDelaySecs).text)
    pure 0

def usage : String := "usage: linktap replay [dump_file] [port]\n       linktap tap\n"

end LinkTap.Cli

def main (args : List String) : IO UInt32 := do
  let env ← LinkTap.Cli.readSettings
  match args with
  | "replay" :: rest => LinkTap.Cli.runReplay env rest
  | ["tap"] => LinkTap.Cli.runTap env
  | _ =>
    IO.eprint LinkTap.Cli.usage
    pure 2
