/-!
# Command bytes of monitor frames

The first byte of a frame: traffic of the security module (direction, encryption, packet mode),
a ping, a state report, or a reserved code.
-/

set_option autoImplicit false

namespace LinkTap.Frame

inductive Direction where
  | recv
  | send
deriving DecidableEq, Repr, Inhabited

def IsReservedCode (code : UInt8) : Prop := 9 ≤ code.toNat ∧ code.toNat ≠ 16

inductive Command where
  | traffic (direction : Direction) (encrypted packetMode : Bool)
  | ping
  | state
  | reserved (code : UInt8) (isReserved : IsReservedCode code)

namespace Command

def toByte : Command → UInt8
  | traffic direction encrypted packetMode =>
    (match direction with | .recv => 0 | .send => 1) +
      (if encrypted then 2 else 0) + (if packetMode then 4 else 0)
  | ping => 8
  | state => 16
  | reserved code _ => code

def ofByte (b : UInt8) : Command :=
  if h : b.toNat < 8 then
    traffic (if b.toNat % 2 = 1 then .send else .recv) (b.toNat / 2 % 2 = 1) (b.toNat / 4 = 1)
  else if h8 : b.toNat = 8 then ping
  else if h16 : b.toNat = 16 then state
  else reserved b ⟨by omega, h16⟩

theorem ofByte_toByte (c : Command) : ofByte c.toByte = c := by
  cases c with
  | traffic direction encrypted packetMode =>
    cases direction <;> cases encrypted <;> cases packetMode <;> rfl
  | ping => rfl
  | state => rfl
  | reserved code isReserved =>
    have low : 9 ≤ code.toNat := isReserved.1
    have notState : code.toNat ≠ 16 := isReserved.2
    show ofByte code = _
    unfold ofByte
    rw [dif_neg (by omega), dif_neg (by omega), dif_neg notState]

theorem toByte_ofByte (b : UInt8) : (ofByte b).toByte = b := by
  unfold ofByte
  split
  · rename_i low
    apply UInt8.toNat_inj.mp
    have : b.toNat < 8 := low
    rcases (by omega : b.toNat = 0 ∨ b.toNat = 1 ∨ b.toNat = 2 ∨ b.toNat = 3 ∨
      b.toNat = 4 ∨ b.toNat = 5 ∨ b.toNat = 6 ∨ b.toNat = 7) with h | h | h | h | h | h | h | h <;>
      simp [h, toByte]
  · split
    · rename_i isPing
      apply UInt8.toNat_inj.mp
      simp [toByte, isPing]
    · split
      · rename_i isState
        apply UInt8.toNat_inj.mp
        simp [toByte, isState]
      · rfl

instance : DecidableEq Command := fun a b =>
  if h : a.toByte = b.toByte then
    isTrue (by rw [← ofByte_toByte a, h, ofByte_toByte])
  else isFalse (fun same => h (same ▸ rfl))

/-- The short label of a command in logs: `RCV`, `SND`, `P-RCV-S`, …, `PING`, `STATE`, and
`RSVD` with the code in at least two decimal digits for reserved codes. -/
def label : Command → String
  | traffic direction encrypted packetMode =>
    (if packetMode then "P-" else "") ++
      (match direction with | .recv => "RCV" | .send => "SND") ++
      (if encrypted then "-S" else "")
  | ping => "PING"
  | state => "STATE"
  | reserved code _ =>
    let digits := toString code.toNat
    "RSVD" ++ (if digits.length < 2 then "0" ++ digits else digits)

/-- Whether the frame's payload starts with an IP and UDP header before its content. -/
def carriesIpPacket : Command → Bool
  | traffic _ _ packetMode => packetMode
  | _ => false

end Command

end LinkTap.Frame
