import LinkTap.Traffic.Kind
import LinkTap.Mavlink.Dialect

/-!
# Recognising the content of a frame

What a frame's content probably carries, from its first bytes: a TLS record, an OpenVPN data
packet or the start of a MAVLink frame.
-/

set_option autoImplicit false

namespace LinkTap.Traffic

open LinkTap.Frame

inductive TlsRecord where
  | changeCipherSpec
  | alert
  | handshake
  | appData
deriving DecidableEq, Repr

inductive TlsVersion where
  | tls12
  | tls13
  | dtls12
deriving DecidableEq, Repr

def TlsRecord.ofByte? (b : UInt8) : Option TlsRecord :=
  match b.toNat with
  | 20 => some .changeCipherSpec
  | 21 => some .alert
  | 22 => some .handshake
  | 23 => some .appData
  | _ => none

/-- The version a big-endian 16-bit number names. -/
def TlsVersion.ofNat? (n : Nat) : Option TlsVersion :=
  match n with
  | 0x0303 => some .tls12
  | 0x0304 => some .tls13
  | 0xFEFD => some .dtls12
  | _ => none

def TlsRecord.name : TlsRecord → String
  | .changeCipherSpec => "ChangeCipherSpec"
  | .alert => "Alert"
  | .handshake => "Handshake"
  | .appData => "AppData"

def TlsVersion.name : TlsVersion → String
  | .tls12 => "TLS1.2"
  | .tls13 => "TLS1.3"
  | .dtls12 => "DTLS1.2"

inductive Sniff where
  | tls (version : TlsVersion) (record : TlsRecord)
  | openVpnData
  | mavlink (msgid : UInt32)
deriving DecidableEq, Repr

def Sniff.text : Sniff → String
  | .tls version record => version.name ++ " " ++ record.name
  | .openVpnData => "OPENVPN P_DATA_V2"
  | .mavlink msgid => "MAV " ++ Mavlink.Dialect.messageName msgid.toNat

def sniffTls : List UInt8 → Option Sniff
  | kind :: high :: low :: _ => do
    let record ← TlsRecord.ofByte? kind
    let version ← TlsVersion.ofNat? (high.toNat * 256 + low.toNat)
    pure (.tls version record)
  | _ => none

/-- An OpenVPN data packet of key id 0 and peer id 0: `48 00 00 00`. -/
def sniffOpenVpn : List UInt8 → Option Sniff
  | 0x48 :: 0 :: 0 :: 0 :: _ => some .openVpnData
  | _ => none

def sniffMavlink : List UInt8 → Option Sniff
  | 0xFE :: len :: _ :: _ :: _ :: msgid :: _ =>
    if len ≠ 0 then some (.mavlink msgid.toUInt32) else none
  | 0xFD :: len :: _ :: _ :: _ :: _ :: _ :: id0 :: id1 :: id2 :: _ =>
    if len ≠ 0 then
      some (.mavlink (id0.toUInt32 ||| (id1.toUInt32 <<< 8) ||| (id2.toUInt32 <<< 16)))
    else none
  | _ => none

/-- Looks at a frame's content: for OpenVPN in packet mode, for TLS otherwise, and for MAVLink
when that finds nothing. -/
def sniffContent (p : Packet) : Option Sniff :=
  let data := content p
  let tunnel := if (Command.ofByte p.cmd).carriesIpPacket then sniffOpenVpn data else sniffTls data
  tunnel <|> sniffMavlink data

end LinkTap.Traffic
