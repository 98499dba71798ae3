/-!
# Sequence numbers of a link

A cursor keeps the last 8-bit sequence number seen and reports the frames missing before the next.
-/

set_option autoImplicit false

namespace LinkTap.Traffic

structure Gap where
  dropped : Nat
  expected : UInt8
  seen : UInt8
deriving DecidableEq, Repr

structure SequenceCursor where
  last : Option UInt8 := none
deriving DecidableEq, Repr, Inhabited

namespace SequenceCursor

/-- Moves the cursor to `seq`, reporting a gap if `seq` does not follow the last number. -/
def observe (c : SequenceCursor) (seq : UInt8) : Option Gap × SequenceCursor :=
  let next : SequenceCursor := { last := some seq }
  match c.last with
  | none => (none, next)
  | some last =>
    let expected := last + 1
    if seq = expected then (none, next)
    else (some { dropped := (seq - expected).toNat, expected, seen := seq }, next)

def reset (_ : SequenceCursor) : SequenceCursor := {}

end SequenceCursor

end LinkTap.Traffic
