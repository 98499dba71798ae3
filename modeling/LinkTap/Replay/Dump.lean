import LinkTap.Text.Numbers

/-!
# Dump files

A dump holds captured frames, one record each: a 32-bit big-endian length, a 32-bit big-endian
capture time in milliseconds, then the frame. A reader goes through it record by record.
-/

set_option autoImplicit false

namespace LinkTap.Dump

/-- Records are strictly shorter than this many bytes, length prefix excluded. -/
def maxRecordLength : Nat := 16 * 1024

def lengthPrefix : Nat := 4

def timestampLength : Nat := 4

structure Record where
  timestampMs : UInt32
  frame : List UInt8
deriving DecidableEq, Repr, Inhabited

/-- The four big-endian bytes of a 32-bit number. -/
def bigEndian32 (n : UInt32) : List UInt8 :=
  [(n >>> 24).toUInt8, (n >>> 16).toUInt8, (n >>> 8).toUInt8, n.toUInt8]

def readBigEndian (bytes : List UInt8) : Nat :=
  bytes.foldl (fun acc b => acc * 256 + b.toNat) 0

namespace Record

def isMarker (r : Record) : Bool := r.timestampMs == 0

/-- The record in dump file layout; the length is taken modulo 2^32. -/
def toBytes (r : Record) : List UInt8 :=
  bigEndian32 (UInt32.ofNat (timestampLength + r.frame.length)) ++ bigEndian32 r.timestampMs ++ r.frame

end Record

inductive DumpError where
  | shortRead (expected received : Nat)
  | corruptRecord (len offset : Nat)
deriving DecidableEq, Repr

namespace DumpError

def message : DumpError → String
  | shortRead expected received =>
    "Short read in dump file, expected " ++ toString expected ++ " bytes but got " ++ toString received
  | corruptRecord len offset =>
    "Corrupt dump record of " ++ toString len ++ " bytes at offset " ++ Hex.ofNatPrefixed offset

def isEndOfDump : DumpError → Bool
  | shortRead 4 0 => true
  | _ => false

end DumpError

end LinkTap.Dump

namespace LinkTap.Dump

structure Reader where
  data : List UInt8
  rest : List UInt8 := data
  offset : Nat := 0
deriving Repr

namespace Reader

def ofBytes (data : List UInt8) : Reader := { data }

def rewind (r : Reader) : Reader := { r with rest := r.data, offset := 0 }

def next (r : Reader) : Except DumpError Record × Reader :=
  let head := r.rest.take lengthPrefix
  if head.length < lengthPrefix then
    (.error (.shortRead lengthPrefix head.length), { r with rest := [] })
  else
    let len := readBigEndian head
    let after := r.rest.drop lengthPrefix
    if maxRecordLength ≤ len ∨ len < timestampLength then
      (.error (.corruptRecord len r.offset), { r with rest := after })
    else
      let body := after.take len
      if body.length < len then (.error (.shortRead len body.length), { r with rest := [] })
      else
        let record : Record :=
          { timestampMs := UInt32.ofNat (readBigEndian (body.take timestampLength))
            frame := body.drop timestampLength }
        (.ok record, { r with rest := after.drop len, offset := r.offset + lengthPrefix + len })

end Reader

end LinkTap.Dump

namespace LinkTap.Dump

/-- A byte source whose state is `σ`: a read asks for up to `wanted` bytes and gives the bytes
returned and the source after them. -/
structure Source (σ : Type) where
  read : σ → Nat → List UInt8 × σ

namespace Source

variable {σ : Type}

/-- Reads until `wanted` bytes have come or a read returns none. -/
def readFull (source : Source σ) (s : σ) (wanted : Nat) : List UInt8 × σ :=
  if wanted = 0 then ([], s)
  else
    match source.read s wanted with
    | ([], s) => ([], s)
    | (b :: more, s) =>
      let (rest, s) := source.readFull s (wanted - (b :: more).length)
      (b :: more ++ rest, s)
termination_by wanted
decreasing_by simp only [List.length_cons]; omega

/-- Reads the record at `offset`: the result, the source after it, and the offset of the next
record. -/
def nextFrom (source : Source σ) (s : σ) (offset : Nat) : Except DumpError Record × σ × Nat :=
  let (head, s) := source.readFull s lengthPrefix
  if head.length < lengthPrefix then (.error (.shortRead lengthPrefix head.length), s, offset)
  else
    let len := readBigEndian head
    if maxRecordLength ≤ len ∨ len < timestampLength then (.error (.corruptRecord len offset), s, offset)
    else
      let (body, s) := source.readFull s len
      if body.length < len then (.error (.shortRead len body.length), s, offset)
      else
        let record : Record :=
          { timestampMs := UInt32.ofNat (readBigEndian (body.take timestampLength))
            frame := body.drop timestampLength }
        (.ok record, s, offset + lengthPrefix + len)

end Source

end LinkTap.Dump
