import Mathlib
import LinkTap.Replay.Dump

/-!
# The records of a dump

`Reader.records` lists the records a reader returns one after another until its first error.
Every record read takes at least eight bytes of the file (its length prefix and capture time),
so there are at most an eighth as many records as bytes left to read (`length_records_le`).
-/

set_option autoImplicit false

namespace LinkTap.Dump.Reader

theorem data_next (r : Reader) : r.next.2.data = r.data := by
  simp only [next]
  split_ifs <;> rfl

theorem data_of_next {r next : Reader} {result : Except DumpError Record}
    (read : r.next = (result, next)) : next.data = r.data := by
  rw [← data_next r, read]

theorem length_rest_of_next {r next : Reader} {record : Record}
    (read : r.next = (.ok record, next)) : next.rest.length + 8 ≤ r.rest.length := by
  simp only [Reader.next] at read
  split_ifs at read with short bad shortBody
  · cases read
  · cases read
  · cases read
  · -- a whole record: the prefix, then a body of at least the four bytes of its capture time
    cases read
    simp only [lengthPrefix, timestampLength, List.length_take, List.length_drop, not_or,
      not_lt] at short bad shortBody ⊢
    omega

def records (r : Reader) : List Record :=
  match read : r.next with
  | (.ok record, next) =>
    have : next.rest.length < r.rest.length := by
      have := length_rest_of_next read
      omega
    record :: records next
  | (.error _, _) => []
termination_by r.rest.length

theorem records_of_ok {r next : Reader} {record : Record} (read : r.next = (.ok record, next)) :
    r.records = record :: next.records := by
  rw [records]; split <;> simp_all

theorem records_of_error {r next : Reader} {error : DumpError} (read : r.next = (.error error, next)) :
    r.records = [] := by
  rw [records]; split <;> simp_all

theorem length_records_le (r : Reader) : r.records.length ≤ r.rest.length / 8 := by
  induction r using records.induct with
  | case1 r record next read _ ih =>
      have shorter := length_rest_of_next read
      rw [records_of_ok read, List.length_cons]
      omega
  | case2 r error next read =>
      rw [records_of_error read]
      exact Nat.zero_le _

end LinkTap.Dump.Reader
