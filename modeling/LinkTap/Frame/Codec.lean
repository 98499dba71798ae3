import LinkTap.Frame.Packet

/-!
# Encoding and decoding frames

A frame is a command byte, a sequence number, a big-endian 16-bit payload length and the payload.
-/

set_option autoImplicit false

namespace LinkTap.Frame

/-- The state of incremental frame decoding: a header already read, and the bytes after it. -/
structure Decoder where
  pending : Option Header := none
  buffer : List UInt8 := []
deriving DecidableEq, Repr, Inhabited

namespace Decoder

def feed (d : Decoder) (bytes : List UInt8) : Decoder :=
  { d with buffer := d.buffer ++ bytes }

/-- Twice the buffered bytes, plus one while a header is pending: every decoded frame makes it
smaller. -/
def measure (d : Decoder) : Nat :=
  2 * d.buffer.length + (if d.pending.isSome then 1 else 0)

/-- The next complete frame, if the buffer holds one. A header is taken out of the buffer as
soon as all four of its bytes are there, and remembered until its payload is complete. -/
def decode (d : Decoder) : Option Packet × Decoder :=
  match d.pending, d.buffer with
  | some h, buffer =>
    if h.payloadLen.toNat ≤ buffer.length then
      (some ⟨h.cmd, h.seq, buffer.take h.payloadLen.toNat⟩,
        { pending := none, buffer := buffer.drop h.payloadLen.toNat })
    else (none, d)
  | none, cmd :: seq :: high :: low :: rest =>
    let h := Header.ofBytes cmd seq high low
    if h.payloadLen.toNat ≤ rest.length then
      (some ⟨h.cmd, h.seq, rest.take h.payloadLen.toNat⟩,
        { pending := none, buffer := rest.drop h.payloadLen.toNat })
    else (none, { pending := some h, buffer := rest })
  | none, _ => (none, d)

theorem measure_decode_lt {d d' : Decoder} {p : Packet} (h : d.decode = (some p, d')) :
    d'.measure < d.measure := by
  obtain ⟨pending, buffer⟩ := d
  cases pending with
  | some hdr =>
    simp only [decode] at h
    split at h
    · cases h
      simp only [measure, List.length_drop, Option.isSome_none, Option.isSome_some,
        Bool.false_eq_true, ↓reduceIte]
      omega
    · cases h
  | none =>
    match buffer, h with
    | cmd :: seq :: high :: low :: rest, h =>
      simp only [decode] at h
      split at h
      · cases h
        simp only [measure, List.length_drop, List.length_cons, Option.isSome_none,
          Bool.false_eq_true, ↓reduceIte]
        omega
      · cases h
    | [], h => simp [decode] at h
    | [_], h => simp [decode] at h
    | [_, _], h => simp [decode] at h
    | [_, _, _], h => simp [decode] at h

/-- The complete frames at the front of the buffer, in order, and the decoder after them. -/
def drain (d : Decoder) : List Packet × Decoder :=
  match h : d.decode with
  | (some p, next) =>
    have : next.measure < d.measure := measure_decode_lt h
    let (rest, final) := drain next
    (p :: rest, final)
  | (none, next) => ([], next)
termination_by d.measure

/-- The next frame when no more bytes will come. A complete frame is returned as usual; a
remembered header whose payload is cut short, or one to three bytes of a header, are an
incomplete frame. The remembered header is forgotten; the buffered bytes stay. -/
def decodeAtEnd (d : Decoder) : Except LinkError (Option Packet) × Decoder :=
  match d.decode with
  | (some p, next) => (.ok (some p), next)
  | (none, next) =>
    match next.pending with
    | some h =>
      (.error (.incomplete (headerLen + h.payloadLen.toNat) (headerLen + next.buffer.length)),
        { next with pending := none })
    | none =>
      if next.buffer.isEmpty then (.ok none, next)
      else (.error (.incomplete headerLen next.buffer.length), next)

theorem measure_decodeAtEnd_lt {d d' : Decoder} {p : Packet}
    (h : d.decodeAtEnd = (.ok (some p), d')) : d'.measure < d.measure := by
  unfold decodeAtEnd at h
  split at h
  · rename_i p' next hd
    cases h
    exact measure_decode_lt hd
  · split at h
    · cases h
    · split at h <;> cases h

/-- The frames delivered when no more bytes will come, in order, then how decoding ended:
cleanly, or with an incomplete frame. -/
def drainAtEnd (d : Decoder) : List Packet × Option LinkError × Decoder :=
  match h : d.decodeAtEnd with
  | (.ok (some p), next) =>
    have : next.measure < d.measure := measure_decodeAtEnd_lt h
    let (rest, failure, final) := drainAtEnd next
    (p :: rest, failure, final)
  | (.ok none, next) => ([], none, next)
  | (.error e, next) => ([], some e, next)
termination_by d.measure

end Decoder

end LinkTap.Frame

namespace LinkTap.Frame

/-- The two bytes of a length below 65536, high byte first. -/
def lengthBytes (length : Nat) : List UInt8 :=
  [UInt8.ofNat (length / 256), UInt8.ofNat length]

namespace Packet

/-- Appends the frame to `out`; a payload longer than 65535 bytes is refused and `out` is left
as it was. -/
def encode (p : Packet) (out : List UInt8) : Except LinkError Unit × List UInt8 :=
  if p.payload.length ≤ maxPayloadLen then
    (.ok (), out ++ (p.cmd :: p.seq :: lengthBytes p.payload.length ++ p.payload))
  else (.error (.badLength p.payload.length maxPayloadLen), out)

/-- Encodes frames one after another into `out`: how each went, in order, and the buffer
after the last. -/
def encodeAll : List Packet → List UInt8 → List (Except LinkError Unit) × List UInt8
  | [], out => ([], out)
  | p :: rest, out =>
    let (result, out) := p.encode out
    let (results, out) := encodeAll rest out
    (result :: results, out)

end Packet

end LinkTap.Frame
