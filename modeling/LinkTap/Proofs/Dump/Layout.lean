import Mathlib
import LinkTap.Replay.Dump
import LinkTap.Proofs.Dump.Records

/-!
# Reading the dump layout

However a byte source splits its reads, records are read off the bytes as the layout says; main
statement: `reads_follow_dump_layout`.
-/

set_option autoImplicit false

namespace LinkTap.Dump

namespace Source

variable {σ : Type}

/-- A source honest about the bytes `bytes s` it still holds: a read returns the first of them,
at most as many as were asked for, and returns none only when none were asked for or none are
left. -/
structure Honest (source : Source σ) (bytes : σ → List UInt8) : Prop where
  front : ∀ s wanted, (source.read s wanted).1 ++ bytes (source.read s wanted).2 = bytes s
  within : ∀ s wanted, (source.read s wanted).1.length ≤ wanted
  progress : ∀ s wanted, 0 < wanted → (source.read s wanted).1 = [] → bytes s = []

variable {source : Source σ} {bytes : σ → List UInt8}

theorem readFull_eq (honest : source.Honest bytes) (s : σ) (wanted : Nat) :
    (source.readFull s wanted).1 = (bytes s).take wanted ∧
      bytes (source.readFull s wanted).2 = (bytes s).drop wanted := by
  induction wanted using Nat.strong_induction_on generalizing s with
  | _ wanted ih =>
    rw [readFull]
    by_cases none : wanted = 0
    · simp [none]
    · have front := honest.front s wanted
      have within := honest.within s wanted
      rcases read : source.read s wanted with ⟨_ | ⟨b, more⟩, next⟩
      · have empty := honest.progress s wanted (Nat.pos_of_ne_zero none) (by rw [read])
        rw [read, List.nil_append] at front
        simp [none, empty, front]
      · rw [read] at front within
        obtain ⟨taken, left⟩ := ih (wanted - (b :: more).length) (by simp; omega) next
        simp only [none, ↓reduceIte, taken, left]
        rw [← front, List.take_append, List.drop_append, List.take_of_length_le within,
          List.drop_eq_nil_of_le within, List.nil_append]
        exact ⟨rfl, rfl⟩

theorem nextFrom_eq (honest : source.Honest bytes) (s : σ) (r : Reader) (holds : bytes s = r.rest) :
    (source.nextFrom s r.offset).1 = r.next.1 ∧
      bytes (source.nextFrom s r.offset).2.1 = r.next.2.rest ∧
      (source.nextFrom s r.offset).2.2 = r.next.2.offset := by
  rcases headRead : source.readFull s lengthPrefix with ⟨head, afterHead⟩
  obtain ⟨head_eq, headLeft⟩ := readFull_eq honest s lengthPrefix
  rw [headRead, holds] at head_eq headLeft
  dsimp only at head_eq headLeft
  subst head_eq
  rcases bodyRead : source.readFull afterHead (readBigEndian (r.rest.take lengthPrefix)) with ⟨body, afterBody⟩
  obtain ⟨body_eq, bodyLeft⟩ := readFull_eq honest afterHead (readBigEndian (r.rest.take lengthPrefix))
  rw [bodyRead, headLeft] at body_eq bodyLeft
  dsimp only at body_eq bodyLeft
  subst body_eq
  simp only [nextFrom, Reader.next, headRead, bodyRead]
  split_ifs with short bad shortBody
  · simp only [List.length_take] at short
    simp [headLeft, List.drop_eq_nil_of_le (show r.rest.length ≤ lengthPrefix by omega)]
  · simp [headLeft]
  · -- the body was cut short: nothing is left after it
    have gone : (r.rest.drop lengthPrefix).drop (readBigEndian (r.rest.take lengthPrefix)) = [] := by
      apply List.drop_eq_nil_of_le
      simp only [List.length_take] at shortBody
      omega
    exact ⟨rfl, by rw [bodyLeft, gone], rfl⟩
  · simp [bodyLeft]

end Source

/-- What reading the record at `offset` gives, the file from there on being `rest`: too few bytes
for a length prefix; a length, which counts the capture time and the frame, out of range; too few
bytes for the body; or the record. -/
def readAt (rest : List UInt8) (offset : Nat) : Except DumpError Record :=
  if rest.length < 4 then .error (.shortRead 4 rest.length)
  else
    let len := readBigEndian (rest.take 4)
    if 16384 ≤ len ∨ len < 4 then .error (.corruptRecord len offset)
    else if rest.length - 4 < len then .error (.shortRead len (rest.length - 4))
    else
      .ok { timestampMs := UInt32.ofNat (readBigEndian ((rest.drop 4).take 4))
            frame := (rest.drop 8).take (len - 4) }

theorem DumpError.isEndOfDump_iff (error : DumpError) :
    error.isEndOfDump = true ↔ error = .shortRead 4 0 := by
  unfold DumpError.isEndOfDump
  split <;> simp_all

theorem readBigEndian_eq_four_iff (a b c d : UInt8) :
    readBigEndian [a, b, c, d] = 4 ↔ [a, b, c, d] = [0, 0, 0, 4] := by
  have := a.toNat_lt
  have := b.toNat_lt
  have := c.toNat_lt
  have := d.toNat_lt
  simp only [readBigEndian, List.foldl_cons, List.foldl_nil, List.cons.injEq, ← UInt8.toNat_inj,
    UInt8.toNat_zero, UInt8.reduceToNat, and_true]
  omega

theorem readBigEndian_bigEndian32 (n : UInt32) : readBigEndian (bigEndian32 n) = n.toNat := by
  have := n.toNat_lt
  simp only [bigEndian32, readBigEndian, List.foldl_cons, List.foldl_nil, UInt32.toNat_toUInt8,
    UInt32.toNat_shiftRight, UInt32.reduceToNat, Nat.reduceMod, Nat.shiftRight_eq_div_pow, Nat.reducePow]
  omega

theorem length_bigEndian32 (n : UInt32) : (bigEndian32 n).length = 4 := rfl

namespace Record

theorem readBigEndian_length (record : Record) (fits : record.frame.length ≤ 4294967291) :
    readBigEndian (bigEndian32 (UInt32.ofNat (timestampLength + record.frame.length))) =
      4 + record.frame.length := by
  rw [readBigEndian_bigEndian32, UInt32.toNat_ofNat', timestampLength]
  exact Nat.mod_eq_of_lt (by omega)

theorem toBytes_append (record : Record) (more : List UInt8) :
    record.toBytes ++ more = bigEndian32 (UInt32.ofNat (timestampLength + record.frame.length)) ++
      (bigEndian32 record.timestampMs ++ (record.frame ++ more)) := by
  simp [toBytes]

theorem length_toBytes (record : Record) : record.toBytes.length = 8 + record.frame.length := by
  simp [toBytes, length_bigEndian32]
  omega

end Record

theorem readAt_eq_endOfDump_iff (rest : List UInt8) (offset : Nat) :
    readAt rest offset = .error (.shortRead 4 0) ↔ rest = [] ∨ rest = [0, 0, 0, 4] := by
  constructor
  · intro ended
    unfold readAt at ended
    by_cases short : rest.length < 4
    · simp only [short, ↓reduceIte, Except.error.injEq, DumpError.shortRead.injEq, true_and] at ended
      exact Or.inl (List.length_eq_zero_iff.mp ended)
    · simp only [short, ↓reduceIte] at ended
      by_cases bad : 16384 ≤ readBigEndian (rest.take 4) ∨ readBigEndian (rest.take 4) < 4
      · simp [bad] at ended
      · by_cases shortBody : rest.length - 4 < readBigEndian (rest.take 4)
        · -- a body cut short ends the dump only when it announced four bytes and none came
          simp only [bad, shortBody, ↓reduceIte, Except.error.injEq, DumpError.shortRead.injEq] at ended
          obtain ⟨a, b, c, d, four⟩ := List.length_eq_four.mp (show rest.length = 4 by omega)
          subst four
          exact Or.inr ((readBigEndian_eq_four_iff a b c d).mp (by simpa using ended.1))
        · simp [bad, shortBody] at ended
  · rintro (empty | announced)
    · subst empty
      rfl
    · subst announced
      simp [readAt, readBigEndian]

namespace Reader

theorem next_eq_readAt (r : Reader) : r.next.1 = readAt r.rest r.offset := by
  unfold next readAt
  simp only [lengthPrefix, maxRecordLength, timestampLength, Nat.reduceMul, List.length_take,
    List.length_drop]
  by_cases short : r.rest.length < 4
  · simp [short, Nat.min_eq_right short.le]
  · have whole : min 4 r.rest.length = 4 := by omega
    simp only [whole, short, lt_self_iff_false, ↓reduceIte]
    by_cases bad : 16384 ≤ readBigEndian (r.rest.take 4) ∨ readBigEndian (r.rest.take 4) < 4
    · simp only [bad, ↓reduceIte]
    · simp only [bad, ↓reduceIte]
      by_cases shortBody : r.rest.length - 4 < readBigEndian (r.rest.take 4)
      · have cut : min (readBigEndian (r.rest.take 4)) (r.rest.length - 4) = r.rest.length - 4 := by
          omega
        simp only [cut, shortBody, ↓reduceIte]
      · have body : min (readBigEndian (r.rest.take 4)) (r.rest.length - 4) = readBigEndian (r.rest.take 4) := by
          omega
        have stamp : min 4 (readBigEndian (r.rest.take 4)) = 4 := by omega
        simp only [body, shortBody, lt_self_iff_false, ↓reduceIte]
        simp [List.take_take, List.drop_take, List.drop_drop, stamp]

theorem next_toBytes_append (r : Reader) (record : Record) (fits : record.frame.length ≤ 16379)
    (more : List UInt8) :
    ({ r with rest := record.toBytes ++ more } : Reader).next =
      (.ok record, { r with rest := more, offset := r.offset + 8 + record.frame.length }) := by
  have announced := record.readBigEndian_length (by omega)
  have stamp := readBigEndian_bigEndian32 record.timestampMs
  have body : (bigEndian32 record.timestampMs ++ (record.frame ++ more)).take (4 + record.frame.length) =
      bigEndian32 record.timestampMs ++ record.frame := by
    rw [← List.append_assoc, List.take_left' (by simp [length_bigEndian32])]
  have left :
      (bigEndian32 record.timestampMs ++ (record.frame ++ more)).drop (4 + record.frame.length) = more := by
    rw [← List.append_assoc, List.drop_left' (by simp [length_bigEndian32])]
  simp only [next, Record.toBytes_append, lengthPrefix, List.take_left' (length_bigEndian32 _),
    List.drop_left' (length_bigEndian32 _), announced, body, left]
  rw [if_neg (by simp [length_bigEndian32]),
    if_neg (by simp only [maxRecordLength, timestampLength]; omega),
    if_neg (by simp [length_bigEndian32])]
  simp only [timestampLength, List.take_left' (length_bigEndian32 _),
    List.drop_left' (length_bigEndian32 _), stamp, UInt32.ofNat_toNat]
  congr 2
  omega

theorem next_toBytes_of_long (r : Reader) (record : Record) (long : 16380 ≤ record.frame.length)
    (fits : record.frame.length ≤ 4294967291) (more : List UInt8) :
    ({ r with rest := record.toBytes ++ more } : Reader).next.1 =
      .error (.corruptRecord (4 + record.frame.length) r.offset) := by
  have announced := record.readBigEndian_length fits
  simp only [next, Record.toBytes_append, lengthPrefix, List.take_left' (length_bigEndian32 _),
    announced]
  rw [if_neg (by simp [length_bigEndian32]),
    if_pos (by simp only [maxRecordLength]; omega)]

theorem next_of_ok {r next : Reader} {record : Record} (read : r.next = (.ok record, next)) :
    next.offset = r.offset + 8 + record.frame.length ∧
      next.rest = r.rest.drop (8 + record.frame.length) := by
  simp only [Reader.next] at read
  split_ifs at read with short bad shortBody
  · cases read
  · cases read
  · cases read
  · -- the body was whole: the frame is the body past the capture time
    cases read
    simp only [lengthPrefix, timestampLength, maxRecordLength, List.length_take, List.length_drop,
      not_or, not_lt] at short bad shortBody ⊢
    refine ⟨by omega, ?_⟩
    rw [List.drop_drop]
    congr 1
    omega

theorem offset_of_error {r next : Reader} {error : DumpError} (read : r.next = (.error error, next)) :
    next.offset = r.offset := by
  simp only [Reader.next] at read
  split_ifs at read <;> cases read <;> rfl

end Reader

namespace Source

variable {σ : Type} {source : Source σ} {bytes : σ → List UInt8}

/-- The results of `count` reads one after another, from the record at `offset`. -/
def reads (source : Source σ) (s : σ) (offset : Nat) : Nat → List (Except DumpError Record)
  | 0 => []
  | count + 1 =>
    (source.nextFrom s offset).1 ::
      source.reads (source.nextFrom s offset).2.1 (source.nextFrom s offset).2.2 count

theorem nextFrom_of_next (honest : source.Honest bytes) (s : σ) (offset : Nat)
    {result : Except DumpError Record} {after : Reader}
    (read : ({ data := [], rest := bytes s, offset } : Reader).next = (result, after)) :
    (source.nextFrom s offset).1 = result ∧ bytes (source.nextFrom s offset).2.1 = after.rest ∧
      (source.nextFrom s offset).2.2 = after.offset := by
  have same := nextFrom_eq honest s { data := [], rest := bytes s, offset } rfl
  rw [read] at same
  exact same

theorem nextFrom_fst (honest : source.Honest bytes) (s : σ) (offset : Nat) :
    (source.nextFrom s offset).1 = readAt (bytes s) offset := by
  rw [(nextFrom_eq honest s { data := [], rest := bytes s, offset } rfl).1, Reader.next_eq_readAt]

theorem reads_flatMap_toBytes (honest : source.Honest bytes) (records : List Record)
    (fit : ∀ record ∈ records, record.frame.length ≤ 16379) (count : Nat) :
    ∀ (s : σ) (offset : Nat) (more : List UInt8), bytes s = records.flatMap Record.toBytes ++ more →
      ∃ s', bytes s' = more ∧
        source.reads s offset (records.length + count) =
          records.map .ok ++ source.reads s' (offset + (records.flatMap Record.toBytes).length) count := by
  induction records with
  | nil =>
    intro s offset more holds
    exact ⟨s, by simpa using holds, by simp⟩
  | cons record later ih =>
    intro s offset more holds
    rw [List.flatMap_cons, List.append_assoc] at holds
    obtain ⟨read, left, moved⟩ := nextFrom_of_next honest s offset
      (holds ▸ Reader.next_toBytes_append { data := [], rest := [], offset } record
        (fit record (List.mem_cons_self ..)) (later.flatMap Record.toBytes ++ more))
    obtain ⟨s', rest, readLater⟩ := ih (fun x mem => fit x (List.mem_cons_of_mem _ mem))
      (source.nextFrom s offset).2.1 (source.nextFrom s offset).2.2 more left
    refine ⟨s', rest, ?_⟩
    rw [List.length_cons, Nat.add_right_comm, reads, read, readLater, moved, List.flatMap_cons,
      List.length_append, Record.length_toBytes]
    simp only [List.map_cons, List.cons_append]
    congr 3
    omega

/-- The file's bytes handed out at most `step` at a time. -/
def chunked (step : Nat) : Source (List UInt8) where
  read held wanted := (held.take (min step wanted), held.drop (min step wanted))

theorem chunked_honest (step : Nat) (positive : 0 < step) : (chunked step).Honest id where
  front held wanted := List.take_append_drop _ _
  within held wanted := by
    simp only [chunked, List.length_take]
    omega
  progress held wanted asked empty := by
    simp only [chunked, List.take_eq_nil_iff] at empty
    exact empty.resolve_left (by omega)

end Source

/-- Reading a dump through any honest source, however it splits its reads, from the offset of a
record: the read gives what the layout says of the bytes from that offset on; a record read moves
the offset past the record and the source to the bytes after it, and a failed read leaves the
offset where it was; the read reports the file ended between two records exactly when nothing is
left or all that is left is a length prefix announcing four bytes. Records whose frames fit are
read back in order from the concatenation of their bytes, then the end of the dump; a record after
them whose frame is too long for a dump is read as corrupt at its offset. -/
theorem reads_follow_dump_layout {σ : Type} (source : Source σ) (bytes : σ → List UInt8)
    (honest : source.Honest bytes) (data : List UInt8) (s : σ) (offset : Nat)
    (aligned : bytes s = data.drop offset) :
    (source.nextFrom s offset).1 = readAt (data.drop offset) offset ∧
    (∀ record, (source.nextFrom s offset).1 = .ok record →
      (source.nextFrom s offset).2.2 = offset + 8 + record.frame.length ∧
        bytes (source.nextFrom s offset).2.1 = data.drop (source.nextFrom s offset).2.2) ∧
    (∀ error, (source.nextFrom s offset).1 = .error error → (source.nextFrom s offset).2.2 = offset) ∧
    ((∃ error, (source.nextFrom s offset).1 = .error error ∧ error.isEndOfDump = true) ↔
      data.drop offset = [] ∨ data.drop offset = [0, 0, 0, 4]) ∧
    (∀ records : List Record, (∀ record ∈ records, record.frame.length ≤ 16379) →
      data.drop offset = records.flatMap Record.toBytes →
      source.reads s offset (records.length + 1) = records.map .ok ++ [.error (.shortRead 4 0)]) ∧
    (∀ (records : List Record) (long : Record) (more : List UInt8),
      (∀ record ∈ records, record.frame.length ≤ 16379) →
      16380 ≤ long.frame.length → long.frame.length ≤ 4294967291 →
      data.drop offset = records.flatMap Record.toBytes ++ long.toBytes ++ more →
      source.reads s offset (records.length + 1) =
        records.map .ok ++
          [.error (.corruptRecord (4 + long.frame.length) (offset + (records.flatMap Record.toBytes).length))]) := by
  obtain ⟨result, left, moved⟩ := Source.nextFrom_eq honest s { data, rest := data.drop offset, offset } aligned
  dsimp only at result left moved
  refine ⟨?_, ?_, ?_, ?_, ?_, ?_⟩
  · rw [Source.nextFrom_fst honest, aligned]
  · intro record read
    rw [result] at read
    obtain ⟨advanced, rest⟩ := Reader.next_of_ok (by rw [← read])
    dsimp only at advanced rest
    rw [moved, left, rest, advanced, List.drop_drop]
    exact ⟨rfl, by congr 1; omega⟩
  · intro error read
    rw [result] at read
    rw [moved, Reader.offset_of_error (by rw [← read])]
  · rw [Source.nextFrom_fst honest, aligned, ← readAt_eq_endOfDump_iff (data.drop offset) offset]
    simp only [DumpError.isEndOfDump_iff, exists_eq_right]
  · -- after the records nothing is left
    intro records fit whole
    obtain ⟨s', empty, readAll⟩ := Source.reads_flatMap_toBytes honest records fit 1 s offset []
      (by rw [aligned, whole, List.append_nil])
    rw [readAll, Source.reads, Source.reads, Source.nextFrom_fst honest, empty]
    rfl
  · -- after the records comes the one too long
    intro records long more fit tooLong fits whole
    obtain ⟨s', held, readAll⟩ := Source.reads_flatMap_toBytes honest records fit 1 s offset
      (long.toBytes ++ more) (by rw [aligned, whole, List.append_assoc])
    have corrupt := Reader.next_toBytes_of_long
      { data := [], rest := [], offset := offset + (records.flatMap Record.toBytes).length } long tooLong fits more
    rw [Reader.next_eq_readAt] at corrupt
    rw [readAll, Source.reads, Source.reads, Source.nextFrom_fst honest, held, corrupt]

theorem three_records_read_bytewise :
    (Source.chunked 1).reads ([⟨1000, [0, 1, 0, 0]⟩, ⟨0, []⟩, ⟨1500, [3, 2, 0, 1, 0x17]⟩].flatMap Record.toBytes) 0 4 =
      [.ok ⟨1000, [0, 1, 0, 0]⟩, .ok ⟨0, []⟩, .ok ⟨1500, [3, 2, 0, 1, 0x17]⟩, .error (.shortRead 4 0)] :=
  (reads_follow_dump_layout (Source.chunked 1) id (Source.chunked_honest 1 (by decide)) _ _ 0 rfl).2.2.2.2.1
    _ (by decide) rfl

/-- The file `00 00 00 04` holds only a length prefix announcing a record of four bytes: reading it
reports the file ended between two records. -/
theorem announced_record_reads_as_end_of_dump :
    (Reader.ofBytes [0, 0, 0, 4]).next.1 = .error (.shortRead 4 0) ∧
      (DumpError.shortRead 4 0).isEndOfDump = true := by
  decide

end LinkTap.Dump
