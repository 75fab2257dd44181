import RobotControlRuntime.FirmwareCan

-- A frame as the controller's registers hold it. The transmit mailboxes and the
-- receive FIFO share one layout.
namespace RobotControlRuntime.Firmware

structure ReceiveFifo where
  rir : UInt32 := 0
  rdtr : UInt32 := 0
  rdlr : UInt32 := 0
  rdhr : UInt32 := 0
  deriving DecidableEq, Repr

def ReceiveFifo.frame (fifo : ReceiveFifo) (monotonicMs : UInt32) : RcrCanFrame :=
  let extended := fifo.rir &&& ((1 : UInt32) <<< 2) != 0
  {extended := extended
   rtr := fifo.rir &&& ((1 : UInt32) <<< 1) != 0
   canId := if extended then (fifo.rir >>> 3) &&& 0x1fffffff else (fifo.rir >>> 21) &&& 0x7ff
   dlc := (fifo.rdtr &&& 0xf).toUInt8
   receiveMs := monotonicMs
   data := #v[fifo.rdlr.toUInt8,(fifo.rdlr >>> 8).toUInt8,(fifo.rdlr >>> 16).toUInt8,(fifo.rdlr >>> 24).toUInt8,
     fifo.rdhr.toUInt8,(fifo.rdhr >>> 8).toUInt8,(fifo.rdhr >>> 16).toUInt8,(fifo.rdhr >>> 24).toUInt8]}

structure TxMailbox where
  offset : UInt32
  tir : UInt32
  tdtr : UInt32
  tdlr : UInt32
  tdhr : UInt32
  deriving DecidableEq, Repr

def mailboxOffset (tsr : UInt32) : Option UInt32 :=
  if tsr &&& ((1 : UInt32) <<< 26) ≠ 0 then some 0
  else if tsr &&& ((1 : UInt32) <<< 27) ≠ 0 then some 0x10
  else if tsr &&& ((1 : UInt32) <<< 28) ≠ 0 then some 0x20
  else none

def mailboxWord (data : Vector UInt8 8) (first : Nat) (inside : first + 3 < 8) : UInt32 :=
  (data.get ⟨first,by omega⟩).toUInt32 ||| ((data.get ⟨first + 1,by omega⟩).toUInt32 <<< 8) |||
    ((data.get ⟨first + 2,by omega⟩).toUInt32 <<< 16) ||| ((data.get ⟨first + 3,inside⟩).toUInt32 <<< 24)

def tryLoadTxMailbox (frame : RcrCanFrame) (tsr : UInt32) : Option TxMailbox :=
  match mailboxOffset tsr with
  | none => none
  | some offset =>
    some {offset := offset
          tir := ((frame.canId &&& 0x7ff) <<< 21) ||| 1
          tdtr := canV1Dlc.toUInt32
          tdlr := mailboxWord frame.data 0 (by decide)
          tdhr := mailboxWord frame.data 4 (by decide)}

def TxMailbox.frame (mailbox : TxMailbox) : RcrCanFrame :=
  ReceiveFifo.frame ⟨mailbox.tir,mailbox.tdtr,mailbox.tdlr,mailbox.tdhr⟩ 0

-- What the bus carries of a frame: eleven bits of its identifier, and no time.
def RcrCanFrame.onBus (frame : RcrCanFrame) : RcrCanFrame := {frame with canId := frame.canId &&& 0x7ff,receiveMs := 0}

def RcrCanFrame.Sendable (frame : RcrCanFrame) : Prop := frame.extended = false ∧ frame.rtr = false ∧ frame.dlc = canV1Dlc

theorem word_bytes (data : Vector UInt8 8) (first : Nat) (inside : first + 3 < 8) :
    (mailboxWord data first inside).toUInt8 = data.get ⟨first,by omega⟩ ∧
      (mailboxWord data first inside >>> 8).toUInt8 = data.get ⟨first + 1,by omega⟩ ∧
      (mailboxWord data first inside >>> 16).toUInt8 = data.get ⟨first + 2,by omega⟩ ∧
      (mailboxWord data first inside >>> 24).toUInt8 = data.get ⟨first + 3,inside⟩ := by
  unfold mailboxWord
  generalize data.get _ = a,data.get _ = b,data.get _ = c,data.get _ = d
  refine ⟨?_,?_,?_,?_⟩ <;> apply UInt8.toBitVec_inj.mp <;> ext i inside <;> simp <;> grind

theorem standard_mask {i : Nat} (inside : i < 32) : (0x7ff : BitVec 32)[i] = decide (i < 11) := by
  revert i
  decide

theorem extended_mask {i : Nat} (inside : i < 32) : (4 : BitVec 32)[i] = decide (i = 2) := by
  revert i
  decide

theorem remote_mask {i : Nat} (inside : i < 32) : (2 : BitVec 32)[i] = decide (i = 1) := by
  revert i
  decide

theorem identifier_bits (canId : UInt32) :
    ((((canId &&& 0x7ff) <<< 21) ||| (1 : UInt32)) >>> 21) &&& 0x7ff = canId &&& 0x7ff := by
  apply UInt32.toBitVec_inj.mp
  ext i inside
  simp
  grind [standard_mask]

theorem format_bits (canId : UInt32) :
    (((canId &&& 0x7ff) <<< 21) ||| (1 : UInt32)) &&& ((1 : UInt32) <<< 2) = 0 ∧
      (((canId &&& 0x7ff) <<< 21) ||| (1 : UInt32)) &&& ((1 : UInt32) <<< 1) = 0 := by
  constructor <;> apply UInt32.toBitVec_inj.mp <;> ext i inside <;> simp <;> grind [extended_mask,remote_mask]

theorem words_data (data : Vector UInt8 8) (low high : UInt32) (first : low = mailboxWord data 0 (by decide))
    (second : high = mailboxWord data 4 (by decide)) :
    #v[low.toUInt8,(low >>> 8).toUInt8,(low >>> 16).toUInt8,(low >>> 24).toUInt8,
      high.toUInt8,(high >>> 8).toUInt8,(high >>> 16).toUInt8,(high >>> 24).toUInt8] = data := by
  obtain ⟨a,b,c,d⟩ := word_bytes data 0 (by decide)
  obtain ⟨e,f,g,h⟩ := word_bytes data 4 (by decide)
  subst first second
  apply Vector.ext
  intro i inside
  match i with
  | 0 => exact a
  | 1 => exact b
  | 2 => exact c
  | 3 => exact d
  | 4 => exact e
  | 5 => exact f
  | 6 => exact g
  | 7 => exact h

-- A loaded mailbox is the frame, but for the bits of its identifier that a
-- standard frame has no room for.
theorem loaded_frame {frame : RcrCanFrame} (sendable : frame.Sendable) (loaded : tryLoadTxMailbox frame tsr = some mailbox) :
    mailbox.frame = frame.onBus := by
  obtain ⟨extended,rtr,dlc⟩ := sendable
  unfold tryLoadTxMailbox at loaded
  split at loaded
  · cases loaded
  · cases loaded
    obtain ⟨ide,remote⟩ := format_bits frame.canId
    have data := words_data frame.data _ _ rfl rfl
    simp only [TxMailbox.frame,ReceiveFifo.frame,RcrCanFrame.onBus,data,ide,remote,identifier_bits,
      extended,rtr,dlc,bne_self_eq_false,Bool.false_eq_true,if_false]
    rfl

theorem onBus_standard {frame : RcrCanFrame} (standard : frame.canId < 0x800) : frame.onBus = {frame with receiveMs := 0} := by
  have same : frame.canId &&& 0x7ff = frame.canId := by
    apply UInt32.toNat_inj.mp
    have small : frame.canId.toNat < 2048 := standard
    rw [UInt32.toNat_and]
    show frame.canId.toNat &&& 2 ^ 11 - 1 = _
    rw [Nat.and_two_pow_sub_one_eq_mod]
    exact Nat.mod_eq_of_lt small
  rw [RcrCanFrame.onBus,same]

end RobotControlRuntime.Firmware
