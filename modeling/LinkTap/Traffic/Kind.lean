import LinkTap.Frame.Packet

/-!
# What a monitor frame carries, and from where

The kind of a frame's payload and the end of the link its traffic came from.
-/

set_option autoImplicit false

namespace LinkTap.Traffic

open LinkTap.Frame

inductive Kind where
  | plaintext
  | ciphertext
  | state
  | ping
  | unknown
deriving DecidableEq, Repr, Inhabited

inductive Source where
  | groundControl
  | flightController
  | securityModule
  | unknown
deriving DecidableEq, Repr, Inhabited

def Kind.name : Kind → String
  | .plaintext => "plaintext"
  | .ciphertext => "ciphertext"
  | .state => "state"
  | .ping => "ping"
  | .unknown => "unknown"

def Source.name : Source → String
  | .groundControl => "gcs"
  | .flightController => "fcc"
  | .securityModule => "dsm"
  | .unknown => "unknown"

def ipAndUdpHeaderLength : Nat := 28

end LinkTap.Traffic

namespace LinkTap.Frame.Command

open LinkTap.Traffic

/-- Traffic is plaintext or ciphertext as its command says; pings, state reports and
reserved codes are their own kinds. -/
def kind : Command → Kind
  | .traffic _ encrypted _ => if encrypted then .ciphertext else .plaintext
  | .ping => .ping
  | .state => .state
  | .reserved _ _ => .unknown

/-- Received traffic comes from the flight controller and sent traffic from the ground
station, except plaintext in packet mode, where it is the other way round. State reports
come from the security module. -/
def source : Command → Source
  | .traffic direction encrypted packetMode =>
    match direction, packetMode && !encrypted with
    | .recv, false => .flightController
    | .send, false => .groundControl
    | .recv, true => .groundControl
    | .send, true => .flightController
  | .state => .securityModule
  | _ => .unknown

/-- Where the content starts in the payload: after the IP and UDP header in packet mode. -/
def contentOffset (c : Command) : Nat :=
  if c.carriesIpPacket then ipAndUdpHeaderLength else 0

end LinkTap.Frame.Command

namespace LinkTap.Traffic

open LinkTap.Frame

/-- The content of a frame: its payload from the command's content offset on, empty if the
payload is shorter. -/
def content (p : Packet) : List UInt8 :=
  p.payload.drop (Command.ofByte p.cmd).contentOffset

end LinkTap.Traffic
