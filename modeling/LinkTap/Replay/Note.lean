import LinkTap.Decimal.Rounding
import LinkTap.Replay.Dump
import LinkTap.Traffic.Sequence
import LinkTap.Frame.Error

/-!
# What a replay reports

The notes of a replay session, with the time since a pass's start in single-precision seconds.
-/

set_option autoImplicit false

namespace LinkTap.Replay

open LinkTap.Frame LinkTap.Traffic LinkTap.Decimal

/-- Seconds of a duration in milliseconds, as single precision computes them: whole seconds
and the nanoseconds divided by 10^9, each rounded to single precision, then their sum rounded. -/
def singleSeconds (ms : Nat) : Nat × Int :=
  let f := BinaryFormat.binary32
  let (sm, se) := f.roundRatio (ms / 1000) 1
  let (nm, ne) := f.roundRatio ((ms % 1000) * 1000000) 1
  let (nn, nd) := ratioOf nm ne
  let (fm, fe) := f.roundRatio nn (nd * 1000000000)
  let (an, ad) := ratioOf sm se
  let (bn, bd) := ratioOf fm fe
  f.roundRatio (an * bd + bn * ad) (ad * bd)

/-- The elapsed time of a sent frame: seconds with three decimals, seven places wide. -/
def elapsedText (ms : Nat) : String :=
  let (m, e) := singleSeconds ms
  fixedText 3 7 m e

inductive Level where
  | info
  | warn
deriving DecidableEq, Repr

/-- Which part of the replay a note is about: the scheduling of frames, or sequence numbers. -/
inductive Topic where
  | scheduler
  | sequence
deriving DecidableEq, Repr

inductive Note where
  | sent (elapsedMs : Nat) (label : String) (seq : UInt8) (contentLength : Nat)
      (head : List UInt8) (sniff : String)
  | recordTooShort (length : Nat)
  | lengthMismatch (cmd : UInt8) (declared held : Nat)
  | sequenceGap (gap : Gap)
  | endOfDump
  | badRecord (error : Dump.DumpError)
  | clientLost (error : LinkError)
deriving Repr

namespace Note

def level : Note → Level
  | sent .. | endOfDump => .info
  | _ => .warn

def topic : Note → Topic
  | sequenceGap _ => .sequence
  | _ => .scheduler

def message : Note → String
  | sent _ _ _ _ _ sniff => sniff
  | recordTooShort length => "Dump record holds " ++ toString length ++ " bytes, too short for a frame"
  | lengthMismatch _ declared held =>
    "Frame header declares " ++ toString declared ++ " payload bytes, record holds " ++ toString held
  | sequenceGap _ => "Sequence mismatch, frames dropped"
  | endOfDump => "End of dump, starting over"
  | badRecord error => "Bad dump record, starting over: " ++ error.message
  | clientLost error => "Replay client lost: " ++ error.message

def fields : Note → List (String × String)
  | sent elapsedMs label seq contentLength head _ =>
    [("elapsed", elapsedText elapsedMs), ("cmd", label), ("seq", toString seq.toNat),
      ("len", toString contentLength), ("head", Hex.ofBytes head)]
  | lengthMismatch cmd _ _ => [("cmd", toString cmd.toNat)]
  | sequenceGap gap =>
    [("dropped", toString gap.dropped), ("seq", toString gap.seen.toNat),
      ("expected", toString gap.expected.toNat)]
  | _ => []

end Note

end LinkTap.Replay
