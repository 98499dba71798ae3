import LinkTap.Net.Address
import LinkTap.Net.Resolver
import LinkTap.Channel.ErrorKind
import LinkTap.Text.Numbers

/-!
# The host

The machine the programs run on: no network, a loopback interface that is down, and no privilege
for ports below 1024. What listening, connecting and a connection target give on it.
-/

set_option autoImplicit false

namespace LinkTap.Net

open LinkTap.Channel

/-- The loopback address `127.0.0.1`. -/
def loopbackIpv4 : IpAddress := .v4 ⟨#v[127, 0, 0, 1]⟩

/-- A host: the paths of the files that can be opened, the names it resolves, its interfaces
by name (numbered from 1), and the first port a program may listen on. -/
structure Host where
  files : List String
  names : List (String × IpAddress) := [("localhost", loopbackIpv4), ("runsc", loopbackIpv4),
    ("vm", loopbackIpv4)]
  interfaces : List String := ["lo"]
  firstUnprivilegedPort : Nat := 1024
deriving DecidableEq, Repr

inductive ConnectError where
  | invalidAddress
  | invalidPort
  | nulInHost
  | lookupFailed (error : LookupError)
  | system (kind : ErrorKind)
deriving DecidableEq, Repr

namespace ConnectError

def kind : ConnectError → ErrorKind
  | invalidAddress | invalidPort | nulInHost => .invalidInput
  | lookupFailed _ => .uncategorized
  | system kind => kind

def message : ConnectError → String
  | invalidAddress => "invalid socket address"
  | invalidPort => "invalid port value"
  | nulInHost => "file name contained an unexpected NUL byte"
  | lookupFailed e => "failed to lookup address information: " ++ e.message
  | system kind => kind.osMessage

end ConnectError

/-- Splits a text at its last occurrence of `sep`. -/
def splitLast (sep : Char) (text : String) : Option (String × String) :=
  let chars := text.toList
  (chars.reverse.findIdx? (· = sep)).map fun fromEnd =>
    let cut := chars.length - fromEnd - 1
    (String.ofList (chars.take cut), String.ofList (chars.drop (cut + 1)))

namespace Host

def openFile (h : Host) (path : String) : Option ErrorKind :=
  if h.files.contains path then none else some .notFound

/-- Whether listening on a port needs a privilege the program does not have. -/
def isPrivileged (h : Host) (port : UInt16) : Bool :=
  port != 0 && port.toNat < h.firstUnprivilegedPort

/-- Listening on an address (see the module documentation for the order of the checks). -/
def listen (h : Host) (address : SocketAddress) : Option ErrorKind :=
  match address.ip with
  | .v4 _ => if h.isPrivileged address.port then some .permissionDenied else none
  | .v6 a =>
    if a.isMulticast then some .invalidInput
    else if h.isPrivileged address.port then some .permissionDenied
    else if a.isUnspecified || a.isIpv4Mapped then none
    else if a.isLinkLocal && address.scope == 0 then some .invalidInput
    else if a.isLinkLocal && h.interfaces.length < address.scope.toNat then some .noSuchDevice
    else some .addrNotAvailable

/-- Connecting to an address: it never succeeds (see the module documentation). -/
def connect (_ : Host) (address : SocketAddress) : ErrorKind :=
  match address.ip with
  | .v4 _ => .networkUnreachable
  | .v6 a =>
    if a.isMulticast || a.isIpv4Mapped then .networkUnreachable
    else if a.isLinkLocal && address.scope == 0 then .invalidInput
    else .addrNotAvailable

open Resolver in
def resolve (h : Host) (name : String) (port : UInt16) : Except LookupError SocketAddress :=
  match classicIpv4? name with
  | some a => .ok { ip := .v4 a, port }
  | none =>
    let (address, zone) := splitFirst '%' name
    match readAll readIpv6 address, zone with
    | some a, none => .ok { ip := .v6 a, port }
    | some a, some z =>
      match zone? h.interfaces a z with
      | some scope => .ok { ip := .v6 a, port, scope := scope.toUInt32 }
      | none => .error .notKnown
    | none, _ =>
      match h.names.find? fun (entry : String × IpAddress) => entry.1.toLower = name.toLower with
      | some (_, ip) => .ok { ip, port }
      | none => .error (if isHostName name then .temporaryFailure else .notKnown)

def connectTo (h : Host) (target : String) : ConnectError :=
  match SocketAddress.parse? target with
  | some address => .system (h.connect address)
  | none =>
    match splitLast ':' target with
    | none => .invalidAddress
    | some (name, port) =>
      match Text.parseUnsigned 16 port with
      | .error _ => .invalidPort
      | .ok number =>
        if name.contains (Char.ofNat 0) then .nulInHost
        else match h.resolve name number.toUInt16 with
          | .ok address => .system (h.connect address)
          | .error e => .lookupFailed e

end Host

end LinkTap.Net
