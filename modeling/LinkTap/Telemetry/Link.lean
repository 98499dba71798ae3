import LinkTap.Net.Host
import LinkTap.Net.Uri

/-!
# The link to the telemetry server

Why opening the web-socket connection to the server's URL fails on the modelled host.
-/

set_option autoImplicit false

namespace LinkTap.Telemetry

open LinkTap.Net

inductive OpenError where
  | badTarget (error : UriError)
  | noHostName
  | emptyHostName
  | unsupportedScheme
  | unreachable (error : ConnectError)
deriving DecidableEq, Repr

def OpenError.reason : OpenError → String
  | .badTarget e => "HTTP format error: " ++ e.message
  | .noHostName => "URL error: No host name in the URL"
  | .emptyHostName => "URL error: URL contains empty host name"
  | .unsupportedScheme => "URL error: URL scheme not supported"
  | .unreachable e => "IO error: " ++ e.message

/-- How a failed connection to `url` is reported. -/
def OpenError.message (url : String) (e : OpenError) : String :=
  "Could not connect telemetry sink to " ++ url ++ ": " ++ e.reason

/-- The port a target is connected on: its own, or the one its scheme implies. -/
def connectPort? (uri : Uri) : Option Nat :=
  uri.port?.orElse fun _ =>
    match uri.scheme with
    | some "wss" => some 443
    | some "ws" => some 80
    | _ => none

/-- Opens a link to the telemetry server at `url` on a host. -/
def openLink (host : Host) (url : String) : OpenError :=
  match Uri.parse url with
  | .error e => .badTarget e
  | .ok uri =>
    match uri.authority? with
    | none => .noHostName
    | some authority =>
      let chars := authority.toList
      let afterAt := if chars.contains '@' then (chars.dropWhile (· ≠ '@')).drop 1 else chars
      if afterAt.isEmpty then .emptyHostName
      else match uri.host?, connectPort? uri with
        | none, _ => .noHostName
        | some _, none => .unsupportedScheme
        | some name, some port => .unreachable (host.connectTo (name ++ ":" ++ toString port))

end LinkTap.Telemetry
