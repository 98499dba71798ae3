import LinkTap.Text.Quoted
import LinkTap.Text.Numbers
import LinkTap.Net.Address
import LinkTap.Replay.Scheduler

/-!
# Settings from variables

The tap's and the replay server's settings, each read from a variable with blanks trimmed at both
ends, or its default when the variable is unset.
-/

set_option autoImplicit false

namespace LinkTap.Text

def isBlank (c : Char) : Bool :=
  let n := c.toNat
  (0x09 ≤ n && n ≤ 0x0D) || n == 0x20 || n == 0x85 || n == 0xA0 || n == 0x1680 ||
    (0x2000 ≤ n && n ≤ 0x200A) || n == 0x2028 || n == 0x2029 || n == 0x202F || n == 0x205F ||
    n == 0x3000

theorem isBlank_of_isWhitespace (c : Char) (h : c.isWhitespace = true) : isBlank c = true := by
  simp only [Char.isWhitespace, Bool.or_eq_true, decide_eq_true_eq] at h
  simp only [isBlank, Bool.or_eq_true, Bool.and_eq_true, decide_eq_true_eq, beq_iff_eq]
  rcases h with ((h | h) | h) | h <;> subst h <;> decide

def trim (s : String) : String :=
  String.ofList ((s.toList.dropWhile isBlank).reverse.dropWhile isBlank).reverse

end LinkTap.Text

namespace LinkTap.Config

structure ConfigError where
  key : String
  value : String
deriving DecidableEq, Repr

def ConfigError.message (e : ConfigError) : String :=
  "Invalid value " ++ Text.quote e.value ++ " for " ++ e.key

abbrev Lookup := String → Option String

/-- Reads a variable with `read` after trimming; the default when it is unset. -/
def readOr {α : Type} (lookup : Lookup) (key : String) (read : String → Option α) (default : α) :
    Except ConfigError α :=
  match lookup key with
  | none => .ok default
  | some value =>
    match read (Text.trim value) with
    | some v => .ok v
    | none => .error { key, value }

def unsigned (bits : Nat) (s : String) : Option Nat :=
  (Text.parseUnsigned bits s).toOption

end LinkTap.Config

namespace LinkTap.Config

structure MonitorConfig where
  targetAddr : String := "127.0.0.1"
  targetPort : UInt16 := 14445
  websocketUrl : String := "ws://127.0.0.1:8000/ws"
  restartDelaySecs : Nat := 3
  ioTimeoutSecs : Nat := 3
deriving DecidableEq, Repr

namespace MonitorConfig

def ofLookup (lookup : Lookup) : Except ConfigError MonitorConfig := do
  let d : MonitorConfig := {}
  let targetPort ← readOr lookup "TARGET_PORT" (unsigned 16) d.targetPort.toNat
  let restartDelaySecs ← readOr lookup "RESTART_DELAY" (unsigned 64) d.restartDelaySecs
  let ioTimeoutSecs ← readOr lookup "IO_TIMEOUT_SECS" (unsigned 64) d.ioTimeoutSecs
  pure { targetAddr := (lookup "TARGET_ADDR").getD d.targetAddr
         targetPort := targetPort.toUInt16
         websocketUrl := (lookup "WEBSOCKET_SERVER").getD d.websocketUrl
         restartDelaySecs, ioTimeoutSecs }

/-- The monitor port as `address:port`. -/
def target (c : MonitorConfig) : String := c.targetAddr ++ ":" ++ toString c.targetPort.toNat

end MonitorConfig

end LinkTap.Config

namespace LinkTap.Config

open LinkTap.Net

structure ReplayConfig where
  dumpFile : String := "record_mon.dump"
  listenAddr : IpAddress := .v4 ⟨#v[0, 0, 0, 0]⟩
  listenPort : UInt16 := 14445
  ioTimeoutSecs : Nat := 3
deriving DecidableEq, Repr

namespace ReplayConfig

def ofLookup (lookup : Lookup) : Except ConfigError ReplayConfig := do
  let d : ReplayConfig := {}
  let listenAddr ← readOr lookup "LISTEN_ADDR" IpAddress.parse? d.listenAddr
  let listenPort ← readOr lookup "LISTEN_PORT" (unsigned 16) d.listenPort.toNat
  let ioTimeoutSecs ← readOr lookup "IO_TIMEOUT_SECS" (unsigned 64) d.ioTimeoutSecs
  pure { dumpFile := (lookup "DUMP_FILE").getD d.dumpFile
         listenAddr, listenPort := listenPort.toUInt16, ioTimeoutSecs }

def listen (c : ReplayConfig) : SocketAddress := { ip := c.listenAddr, port := c.listenPort }

def replaySettings (c : ReplayConfig) : Replay.Settings := { ioTimeout := c.ioTimeoutSecs * 1000 }

end ReplayConfig

end LinkTap.Config
