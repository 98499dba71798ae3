import Mathlib
import LinkTap.Proofs.Frame.Split

/-!
# Incremental decoding follows the greedy split

Whatever chunks the bytes come in, a decoder delivers the frames of `split`; main statement:
`decodeChunks_eq_split`.
-/

set_option autoImplicit false

namespace LinkTap.Frame

namespace Decoder

/-- The bytes a decoder stands for: its remembered header, then its buffer. -/
def stream (d : Decoder) : List UInt8 := (d.pending.map Header.toBytes).getD [] ++ d.buffer

/-- The decoder left with `rest`, a proper beginning of a frame: a whole header in it is
remembered, and only the bytes after it are buffered. -/
def holding (rest : List UInt8) : Decoder :=
  match rest with
  | cmd :: seq :: high :: low :: more => ⟨some (Header.ofBytes cmd seq high low), more⟩
  | _ => ⟨none, rest⟩

@[simp]
theorem stream_holding (rest : List UInt8) : (holding rest).stream = rest := by
  unfold holding
  split <;> simp [stream]

@[simp]
theorem stream_feed (d : Decoder) (bytes : List UInt8) : (d.feed bytes).stream = d.stream ++ bytes := by
  simp [stream, feed]

@[simp]
theorem stream_empty : ({} : Decoder).stream = [] := rfl

@[simp]
theorem stream_buffer (bytes : List UInt8) : ({ buffer := bytes } : Decoder).stream = bytes := by
  simp [stream]

theorem decode_eq (d : Decoder) :
    d.decode = (frontFrame d.stream).elim (none, holding d.stream)
      fun found => (some found.1, { buffer := found.2 }) := by
  obtain ⟨pending, buffer⟩ := d
  cases pending with
  | some h =>
      simp only [decode, stream, Option.map_some, Option.getD_some, Header.toBytes,
        List.cons_append, List.nil_append, frontFrame, Header.length_bytes_toNat, holding,
        Header.ofBytes_toBytes]
      split <;> rfl
  | none =>
      rcases buffer with _ | ⟨cmd, _ | ⟨seq, _ | ⟨high, _ | ⟨low, rest⟩⟩⟩⟩
      any_goals rfl
      simp only [decode, stream, Option.map_none, Option.getD_none, List.nil_append,
        frontFrame, holding, Header.payloadLen_ofBytes]
      split <;> rfl

theorem decode_of_frontFrame {d : Decoder} {p : Packet} {rest : List UInt8}
    (found : frontFrame d.stream = some (p, rest)) : d.decode = (some p, { buffer := rest }) := by
  rw [decode_eq, found]
  rfl

theorem decode_of_partial {d : Decoder} (noFrame : frontFrame d.stream = none) :
    d.decode = (none, holding d.stream) := by
  rw [decode_eq, noFrame]
  rfl

theorem drain_of_some {d next : Decoder} {p : Packet} (decoded : d.decode = (some p, next)) :
    d.drain = (p :: (drain next).1, (drain next).2) := by
  rw [drain]; split <;> simp_all

theorem drain_of_none {d next : Decoder} (decoded : d.decode = (none, next)) :
    d.drain = ([], next) := by
  rw [drain]; split <;> simp_all

theorem drain_eq (d : Decoder) : d.drain = ((split d.stream).1, holding (split d.stream).2) := by
  generalize streamed : d.stream = bytes
  induction bytes using split.induct generalizing d with
  | case1 bytes p rest found _ ih =>
      rw [drain_of_some (decode_of_frontFrame (streamed ▸ found)),
        ih { buffer := rest } (stream_buffer rest), split_of_some found]
  | case2 bytes noFrame =>
      rw [drain_of_none (decode_of_partial (streamed ▸ noFrame)), streamed, split_of_none noFrame]

/-! ## Decoding to the end of the stream -/

/-- How decoding ends on `rest`, a proper beginning of a frame: cleanly if it is empty, and
otherwise with an incomplete frame, counted against the length its header announces once the
header is whole. -/
def endError (rest : List UInt8) : Option LinkError :=
  if rest.isEmpty then none
  else if headerLen ≤ rest.length then some (.incomplete (headerLen + announced rest) rest.length)
  else some (.incomplete headerLen rest.length)

theorem decodeAtEnd_of_holding {d : Decoder} {rest : List UInt8}
    (decoded : d.decode = (none, holding rest)) :
    d.decodeAtEnd.1 = ((endError rest).map .error).getD (.ok none) := by
  unfold decodeAtEnd
  rw [decoded]
  rcases rest with _ | ⟨cmd, _ | ⟨seq, _ | ⟨high, _ | ⟨low, more⟩⟩⟩⟩
  all_goals simp [holding, endError, headerLen, announced, Header.payloadLen_ofBytes]
  omega

theorem drainAtEnd_of_partial {d : Decoder} (noFrame : frontFrame d.stream = none) :
    d.drainAtEnd.1 = [] ∧ d.drainAtEnd.2.1 = endError d.stream := by
  have ended := decodeAtEnd_of_holding (decode_of_partial noFrame)
  rw [drainAtEnd]
  split
  · rename_i p next atEnd
    rw [atEnd] at ended
    cases found : endError d.stream <;> simp [found] at ended
  · rename_i next atEnd
    rw [atEnd] at ended
    cases found : endError d.stream <;> simp_all
  · rename_i e next atEnd
    rw [atEnd] at ended
    cases found : endError d.stream <;> simp_all

theorem decodeAtEnd_of_some {d next : Decoder} {p : Packet} (decoded : d.decode = (some p, next)) :
    d.decodeAtEnd = (.ok (some p), next) := by
  simp [decodeAtEnd, decoded]

theorem drainAtEnd_of_frame {d next : Decoder} {p : Packet}
    (atEnd : d.decodeAtEnd = (.ok (some p), next)) :
    d.drainAtEnd = (p :: next.drainAtEnd.1, next.drainAtEnd.2) := by
  rw [drainAtEnd]; split <;> simp_all

theorem drainAtEnd_eq (d : Decoder) :
    d.drainAtEnd.1 = (split d.stream).1 ∧ d.drainAtEnd.2.1 = endError (split d.stream).2 := by
  generalize streamed : d.stream = bytes
  induction bytes using split.induct generalizing d with
  | case1 bytes p rest found _ ih =>
      have decoded : d.decode = (some p, { buffer := rest }) := decode_of_frontFrame (streamed ▸ found)
      obtain ⟨frames, failure⟩ := ih { buffer := rest } (stream_buffer rest)
      rw [drainAtEnd_of_frame (decodeAtEnd_of_some decoded), split_of_some found]
      exact ⟨by rw [frames], failure⟩
  | case2 bytes noFrame =>
      rw [split_of_none noFrame]
      exact streamed ▸ drainAtEnd_of_partial (streamed ▸ noFrame)

theorem drainAtEnd_holding {rest : List UInt8} (unfinished : IsPartialFrame rest) :
    (holding rest).drainAtEnd.1 = [] ∧ (holding rest).drainAtEnd.2.1 = endError rest := by
  have noFrame : frontFrame (holding rest).stream = none := by
    rw [stream_holding]
    exact (frontFrame_eq_none_iff rest).mpr unfinished
  have ended := drainAtEnd_of_partial noFrame
  rwa [stream_holding] at ended

/-! ## Decoding chunk by chunk -/

theorem length_buffer_holding (rest : List UInt8) :
    (holding rest).buffer.length =
      if headerLen ≤ rest.length then rest.length - headerLen else rest.length := by
  unfold headerLen
  rcases rest with _ | ⟨_, _ | ⟨_, _ | ⟨_, _ | ⟨_, more⟩⟩⟩⟩ <;> simp [holding]

theorem isSome_pending_holding (rest : List UInt8) :
    (holding rest).pending.isSome = decide (headerLen ≤ rest.length) := by
  unfold headerLen
  rcases rest with _ | ⟨_, _ | ⟨_, _ | ⟨_, _ | ⟨_, more⟩⟩⟩⟩ <;> simp [holding]

/-- Each chunk is appended to the buffer and decoded until no frame is left: the frames in the
order delivered, and the decoder after the last chunk. -/
def decodeChunks (d : Decoder) (chunks : List (List UInt8)) : List Packet × Decoder :=
  chunks.foldl (fun acc chunk => (acc.1 ++ (acc.2.feed chunk).drain.1, (acc.2.feed chunk).drain.2))
    ([], d)

theorem foldl_decode_holding (chunks : List (List UInt8)) (delivered : List Packet)
    (rest : List UInt8) (unfinished : IsPartialFrame rest) :
    chunks.foldl (fun acc chunk => (acc.1 ++ (acc.2.feed chunk).drain.1, (acc.2.feed chunk).drain.2))
        (delivered, holding rest) =
      (delivered ++ (split (rest ++ chunks.flatten)).1, holding (split (rest ++ chunks.flatten)).2) := by
  induction chunks generalizing delivered rest with
  | nil =>
      rw [List.flatten_nil, List.append_nil, split_of_none ((frontFrame_eq_none_iff rest).mpr unfinished)]
      simp
  | cons chunk more ih =>
      have left := (splits_of_split (rest ++ chunk)).2.2
      rw [List.foldl_cons, drain_eq, stream_feed, stream_holding, ih _ _ left, List.flatten_cons,
        ← List.append_assoc, split_append (rest ++ chunk)]
      simp

theorem decodeChunks_eq (chunks : List (List UInt8)) :
    decodeChunks {} chunks = ((split chunks.flatten).1, holding (split chunks.flatten).2) := by
  have fresh : ({} : Decoder) = holding [] := rfl
  rw [decodeChunks, fresh, foldl_decode_holding chunks [] [] (by simp [IsPartialFrame, headerLen])]
  simp

theorem stream_foldl_feed (d : Decoder) (chunks : List (List UInt8)) :
    (chunks.foldl feed d).stream = d.stream ++ chunks.flatten := by
  induction chunks generalizing d with
  | nil => simp
  | cons chunk more ih => rw [List.foldl_cons, ih, stream_feed, List.flatten_cons, List.append_assoc]

end Decoder

/-! ## Reading a closed connection -/

theorem read_closed (bytes : List UInt8) :
    Inbound.read ⟨bytes, true⟩ = ((split bytes).1, .failed ((Decoder.endError (split bytes).2).getD .closed)) := by
  obtain ⟨frames, failure⟩ := Decoder.drainAtEnd_holding (splits_of_split bytes).2.2
  simp only [Inbound.read, Decoder.drain_eq, Decoder.stream_feed, Decoder.stream_empty,
    List.nil_append, frames, failure, if_true, List.append_nil]

/-- Decoding a stream chunk by chunk follows its greedy split. The stream is its complete frames,
then a proper beginning of a frame, and no other cut of it has that form. The decoder delivers
those frames in order, each as soon as its last byte arrives. It keeps that beginning with its
header taken out once whole, and ending the stream then reports it as an incomplete frame.
Decoding only at the end, and reading a closed connection, deliver the same frames and end the
same way. -/
theorem decodeChunks_eq_split (chunks : List (List UInt8)) :
    (∀ packets rest, Splits chunks.flatten packets rest ↔ split chunks.flatten = (packets, rest)) ∧
    (Decoder.decodeChunks {} chunks).1 = (split chunks.flatten).1 ∧
    (∀ j k, (Decoder.decodeChunks {} (chunks.take j)).1 <+: (split chunks.flatten).1 ∧
      (k ≤ (split chunks.flatten).1.length →
        (k ≤ (Decoder.decodeChunks {} (chunks.take j)).1.length ↔
          (((split chunks.flatten).1.take k).flatMap Packet.wireBytes).length ≤
            (chunks.take j).flatten.length))) ∧
    (Decoder.decodeChunks {} chunks).2.buffer.length =
      (if headerLen ≤ (split chunks.flatten).2.length then (split chunks.flatten).2.length - headerLen
        else (split chunks.flatten).2.length) ∧
    ((Decoder.decodeChunks {} chunks).2.pending.isSome ↔ headerLen ≤ (split chunks.flatten).2.length) ∧
    (Decoder.decodeChunks {} chunks).2.drainAtEnd.1 = [] ∧
    (Decoder.decodeChunks {} chunks).2.drainAtEnd.2.1 = Decoder.endError (split chunks.flatten).2 ∧
    (chunks.foldl Decoder.feed {}).drainAtEnd.1 = (split chunks.flatten).1 ∧
    (chunks.foldl Decoder.feed {}).drainAtEnd.2.1 = Decoder.endError (split chunks.flatten).2 ∧
    Inbound.read ⟨chunks.flatten, true⟩ =
      ((split chunks.flatten).1, .failed ((Decoder.endError (split chunks.flatten).2).getD .closed)) := by
  have heldEnd := Decoder.drainAtEnd_holding (splits_of_split chunks.flatten).2.2
  have rawEnd := Decoder.drainAtEnd_eq (chunks.foldl Decoder.feed {})
  rw [Decoder.stream_foldl_feed, Decoder.stream_empty, List.nil_append] at rawEnd
  refine ⟨fun packets rest => (split_eq_iff _ _ _).symm, by rw [Decoder.decodeChunks_eq], ?_, ?_, ?_,
    ?_, ?_, rawEnd.1, rawEnd.2, read_closed _⟩
  · intro j k
    have whole : chunks.flatten = (chunks.take j).flatten ++ (chunks.drop j).flatten := by
      rw [← List.flatten_append, List.take_append_drop]
    rw [Decoder.decodeChunks_eq, whole]
    refine ⟨?_, le_length_split_iff _ _ k⟩
    rw [split_append]
    exact List.prefix_append _ _
  · rw [Decoder.decodeChunks_eq, Decoder.length_buffer_holding]
  · rw [Decoder.decodeChunks_eq, Decoder.isSome_pending_holding, decide_eq_true_iff]
  · rw [Decoder.decodeChunks_eq]
    exact heldEnd.1
  · rw [Decoder.decodeChunks_eq]
    exact heldEnd.2

end LinkTap.Frame
