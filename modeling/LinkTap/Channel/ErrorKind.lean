/-!
# Kinds of channel failure

The kinds of failure an operating system reports for files and sockets, with the name each
kind is reported under and, for the kinds that come from a system call, the system's own text
and error number (`No such file or directory (os error 2)`).
-/

set_option autoImplicit false

namespace LinkTap.Channel

/-- A kind of failure reported by the operating system for a file or a socket. -/
inductive ErrorKind where
  | notFound
  | permissionDenied
  | connectionRefused
  | connectionReset
  | hostUnreachable
  | networkUnreachable
  | connectionAborted
  | notConnected
  | addrInUse
  | addrNotAvailable
  | brokenPipe
  | alreadyExists
  | invalidInput
  | invalidData
  | timedOut
  | unexpectedEof
  | uncategorized
  | noSuchDevice
  | other
deriving DecidableEq, Repr, Inhabited

namespace ErrorKind

def name : ErrorKind → String
  | notFound => "NotFound"
  | permissionDenied => "PermissionDenied"
  | connectionRefused => "ConnectionRefused"
  | connectionReset => "ConnectionReset"
  | hostUnreachable => "HostUnreachable"
  | networkUnreachable => "NetworkUnreachable"
  | connectionAborted => "ConnectionAborted"
  | notConnected => "NotConnected"
  | addrInUse => "AddrInUse"
  | addrNotAvailable => "AddrNotAvailable"
  | brokenPipe => "BrokenPipe"
  | alreadyExists => "AlreadyExists"
  | invalidInput => "InvalidInput"
  | invalidData => "InvalidData"
  | timedOut => "TimedOut"
  | unexpectedEof => "UnexpectedEof"
  | uncategorized | noSuchDevice => "Uncategorized"
  | other => "Other"

/-- The system's text and error number for the kinds that a system call reports. -/
def systemText : ErrorKind → Option (String × Nat)
  | notFound => some ("No such file or directory", 2)
  | permissionDenied => some ("Permission denied", 13)
  | connectionRefused => some ("Connection refused", 111)
  | connectionReset => some ("Connection reset by peer", 104)
  | hostUnreachable => some ("No route to host", 113)
  | networkUnreachable => some ("Network is unreachable", 101)
  | connectionAborted => some ("Software caused connection abort", 103)
  | notConnected => some ("Transport endpoint is not connected", 107)
  | addrInUse => some ("Address already in use", 98)
  | addrNotAvailable => some ("Cannot assign requested address", 99)
  | brokenPipe => some ("Broken pipe", 32)
  | alreadyExists => some ("File exists", 17)
  | invalidInput => some ("Invalid argument", 22)
  | timedOut => some ("Connection timed out", 110)
  | noSuchDevice => some ("No such device", 19)
  | _ => none

/-- How a failure of this kind from a system call reads: the system's text and its number. -/
def osMessage (kind : ErrorKind) : String :=
  match kind.systemText with
  | some (text, code) => text ++ " (os error " ++ toString code ++ ")"
  | none => kind.name

end ErrorKind

end LinkTap.Channel
