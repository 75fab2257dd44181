import RobotControlRuntime.CanIoLoop
import RobotControlRuntime.Library.FixedWidth

namespace RobotControlRuntime
open FixedWidth

-- What a received frame says of the command it was made from, in the widths of
-- the runtime.
section Truncation

structure Untruncated (received : CanV1.WireOutputCommand) (command : OutputCommand) : Prop where
  session : received.sessionId.toUInt64 = command.sessionId
  mask : received.mask.toUInt32 = command.mask
  values : received.values.toUInt32 = command.values

theorem low_byte_exact (word : UInt32) : (word &&& 0xFF).toUInt8.toUInt32 = word ↔ word ≤ 0xFF := by
  have low : (word &&& 0xFF).toUInt8.toUInt32.toNat = word.toNat % 256 := by
    rw [UInt8.toNat_toUInt32,UInt32.toNat_toUInt8,UInt32.toNat_and]
    exact (congrArg (· % 256) (Nat.and_two_pow_sub_one_eq_mod word.toNat 8)).trans (Nat.mod_mod _ _)
  rw [← UInt32.toNat_inj,low,UInt32.le_iff_toNat_le]
  change word.toNat % 256 = word.toNat ↔ word.toNat ≤ 255
  omega

theorem session_exact (session : UInt64) (small : session ≤ 0xFFFF) : session.toUInt16.toUInt64 = session := by
  have small : session.toNat ≤ 65535 := UInt64.le_iff_toNat_le.mp small
  apply UInt64.toNat_inj.mp
  rw [UInt16.toNat_toUInt64,UInt64.toNat_toUInt16]
  omega

-- The session is checked against its width; of the mask and the values only the
-- low byte is looked at.
theorem wire_fields (wired : toWireCommand command nodeId nowNs = .ok wire) :
    command.sessionId ≤ 0xFFFF ∧ wire.sessionId = command.sessionId.toUInt16 ∧
      wire.mask = (command.mask &&& 0xFF).toUInt8 ∧ wire.values = (command.values &&& 0xFF).toUInt8 := by
  simp only [toWireCommand] at wired
  split at wired
  · cases wired
  · rename_i fits
    simp only [not_or,UInt64.not_lt] at fits
    split at wired
    · cases wired
    · cases wired
      exact ⟨fits.2.1,rfl,rfl,rfl⟩

-- A command whose mask and values have nothing above their low byte, and no
-- other, reaches the node as it was published.
theorem wire_untruncated (wired : toWireCommand command nodeId nowNs = .ok wire)
    (framed : CanV1.encodeOutputCommand wire = .ok frame) :
    ∃ received, CanV1.decodeOutputCommand frame = .ok received ∧
      (Untruncated received command ↔ command.mask ≤ 0xFF ∧ command.values ≤ 0xFF) := by
  obtain ⟨small,session,mask,values⟩ := wire_fields wired
  refine ⟨wire,CanV1.command_roundtrip wire framed,?_⟩
  rw [← low_byte_exact,← low_byte_exact,← mask,← values]
  constructor
  · rintro ⟨_,mask,values⟩
    exact ⟨mask,values⟩
  · rintro ⟨mask,values⟩
    exact ⟨by rw [session]; exact session_exact _ small,mask,values⟩

theorem wire_untruncated_byte :
    ∃ wire frame received, toWireCommand ⟨7,1,900000000,0xFF,0xA5⟩ 1 100 = .ok wire ∧
      CanV1.encodeOutputCommand wire = .ok frame ∧ CanV1.decodeOutputCommand frame = .ok received ∧
      Untruncated received ⟨7,1,900000000,0xFF,0xA5⟩ := by
  obtain ⟨received,decoded,exact⟩ := wire_untruncated
    (show toWireCommand ⟨7,1,900000000,0xFF,0xA5⟩ 1 100 = .ok _ from rfl) rfl
  exact ⟨_,_,received,rfl,rfl,decoded,exact.mpr (by decide)⟩

-- Bit 8 of the mask and of the values is accepted by the runtime and cut off
-- before the node.
theorem mask_truncated :
    ∃ r command now wire frame received, (LinuxRuntime.publishOutputCommand r command now).2 = .ok () ∧
      toWireCommand command 1 100 = .ok wire ∧ CanV1.encodeOutputCommand wire = .ok frame ∧
      CanV1.decodeOutputCommand frame = .ok received ∧ received.mask.toUInt32 ≠ command.mask ∧
      received.values.toUInt32 ≠ command.values :=
  ⟨LinuxRuntime.run {} [.start (.ok ()),.handle .boot,.setInterlockReady true,.handle .activateRequest],
    ⟨7,1,900000000,0x101,0x100⟩,.ok 100,_,_,_,rfl,rfl,rfl,rfl,by decide,by decide⟩

end Truncation

-- The conversion of deadlines in the int64 arithmetic of the source: `none` is an
-- overflow. Division truncates.
section Deadline

def int64 (value : Int) : Option Int := checked (2 ^ 63) value

def validityInt64 (nowNs deadlineNs : Int) : Option (Result UInt8) := do
  let remaining ← int64 (deadlineNs - nowNs)
  if remaining < CanV1.validityUnitNs then return .error (CanV1.invalid "deadline remaining below 10 ms")
  let raised ← int64 (remaining + CanV1.validityUnitNs)
  let rounded ← int64 (raised - 1)
  let units ← int64 (rounded.tdiv CanV1.validityUnitNs)
  if (CanV1.maxValidity10ms.toNat : Int) < units then
    return .error (CanV1.invalid "deadline remaining above 2500 ms")
  return .ok (UInt8.ofNat units.toNat)

def deadlineInt64 (receiveNs : Int) (validity10ms : UInt8) : Option Int := do
  let span ← int64 ((validity10ms.toNat : Int) * CanV1.validityUnitNs)
  int64 (receiveNs + span)

theorem fits_int64 (value : Int) (low : -9223372036854775808 ≤ value) (high : value < 9223372036854775808) :
    int64 value = some value := checked_fits ⟨low,high⟩

theorem validity_int64 (nowNs deadlineNs : Int) (up : CanV1.validityUnitNs ≤ nowNs)
    (range : Fits (2 ^ 63) deadlineNs) (later : nowNs < deadlineNs) :
    validityInt64 nowNs deadlineNs = some (CanV1.validity10msFromDeadline nowNs deadlineNs) := by
  have unit : CanV1.validityUnitNs = 10000000 := rfl
  have top : deadlineNs < 9223372036854775808 := range.2
  rw [unit] at up
  have remaining := fits_int64 (deadlineNs - nowNs) (by omega) (by omega)
  have raised := fits_int64 (deadlineNs - nowNs + CanV1.validityUnitNs) (by omega) (by omega)
  have rounded := fits_int64 (deadlineNs - nowNs + CanV1.validityUnitNs - 1) (by omega) (by omega)
  have divided := fits_int64 ((deadlineNs - nowNs + CanV1.validityUnitNs - 1) / CanV1.validityUnitNs)
    (by rw [unit]; omega) (by rw [unit]; omega)
  have truncates : (deadlineNs - nowNs + CanV1.validityUnitNs - 1).tdiv CanV1.validityUnitNs =
      (deadlineNs - nowNs + CanV1.validityUnitNs - 1) / CanV1.validityUnitNs :=
    Int.tdiv_eq_ediv_of_nonneg (by omega)
  simp only [validityInt64,remaining,raised,rounded,truncates,divided,Option.bind_eq_bind,Option.bind_some,Option.pure_def,
    CanV1.validity10msFromDeadline]
  split
  · rfl
  · split <;> rfl

theorem deadline_int64 (receiveNs : Int) (v : UInt8) (known : v ≤ CanV1.maxValidity10ms)
    (range : Fits (2 ^ 63) receiveNs) (room : Fits (2 ^ 63) (receiveNs + 2500000000)) :
    deadlineInt64 receiveNs v = some (CanV1.deadlineFromValidity10ms receiveNs v) := by
  have unit : CanV1.validityUnitNs = 10000000 := rfl
  have known : v.toNat ≤ 250 := UInt8.le_iff_toNat_le.mp known
  have bottom : -9223372036854775808 ≤ receiveNs := range.1
  have top : receiveNs + 2500000000 < 9223372036854775808 := room.2
  have span := fits_int64 ((v.toNat : Int) * CanV1.validityUnitNs) (by rw [unit]; omega) (by rw [unit]; omega)
  have sum := fits_int64 (receiveNs + (v.toNat : Int) * CanV1.validityUnitNs) (by rw [unit]; omega) (by rw [unit]; omega)
  simp only [deadlineInt64,span,sum,Option.bind_eq_bind,Option.bind_some,CanV1.deadlineFromValidity10ms]

-- The lease the receiver counts is never shorter than what was left at the
-- sender, and longer by less than one unit.
structure LeaseCovers (nowNs deadlineNs : Int) (v : UInt8) : Prop where
  low : CanV1.minValidity10ms ≤ v
  high : v ≤ CanV1.maxValidity10ms
  covers : ∀ receiveNs, Fits (2 ^ 63) receiveNs → Fits (2 ^ 63) (receiveNs + 2500000000) →
    ∃ lease, deadlineInt64 receiveNs v = some lease ∧ deadlineNs - nowNs ≤ lease - receiveNs ∧
      lease - receiveNs < deadlineNs - nowNs + CanV1.validityUnitNs

theorem deadline_conversion (nowNs deadlineNs : Int) (up : CanV1.validityUnitNs ≤ nowNs)
    (range : Fits (2 ^ 63) deadlineNs) (later : nowNs < deadlineNs) :
    ∃ result, validityInt64 nowNs deadlineNs = some result ∧
      ((∃ v, result = .ok v) ↔
        CanV1.validityUnitNs ≤ deadlineNs - nowNs ∧ deadlineNs - nowNs ≤ 250 * CanV1.validityUnitNs) ∧
      ∀ v, result = .ok v → LeaseCovers nowNs deadlineNs v := by
  refine ⟨_,validity_int64 nowNs deadlineNs up range later,⟨?_,?_⟩,?_⟩
  · rintro ⟨v,converted⟩
    obtain ⟨least,_,known,rounded,_⟩ := CanV1.validity_exact nowNs deadlineNs v converted
    have known : v.toNat ≤ 250 := UInt8.le_iff_toNat_le.mp known
    have unit : CanV1.validityUnitNs = 10000000 := rfl
    refine ⟨least,?_⟩
    rw [unit] at rounded ⊢
    omega
  · rintro ⟨low,high⟩
    exact CanV1.validity_within nowNs deadlineNs low high
  · intro v converted
    obtain ⟨_,low,high,rounded,tight⟩ := CanV1.validity_exact nowNs deadlineNs v converted
    refine ⟨low,high,?_⟩
    intro receiveNs inside room
    refine ⟨_,deadline_int64 receiveNs v high inside room,?_,?_⟩
    · rw [CanV1.deadlineFromValidity10ms]; omega
    · rw [CanV1.deadlineFromValidity10ms]; omega

theorem deadline_conversion_last :
    ∃ result, validityInt64 9223372036844775807 9223372036854775807 = some result ∧ ∃ v, result = .ok v := by
  obtain ⟨result,computed,success,_⟩ := deadline_conversion 9223372036844775807 9223372036854775807 (by decide)
    (by decide) (by decide)
  exact ⟨result,computed,success.mpr (by decide)⟩

end Deadline

end RobotControlRuntime
