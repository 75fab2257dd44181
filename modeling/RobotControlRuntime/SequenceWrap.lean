import RobotControlRuntime.CanIoLoop
import RobotControlRuntime.Library.FixedWidth
import RobotControlRuntime.NodeSim

namespace RobotControlRuntime
open StepHistory FixedWidth

def wireSequence (sequence : UInt64) : UInt16 := ((sequence - 1) % 0xFFFF + 1).toUInt16

theorem wire_sequence (wired : toWireCommand command nodeId nowNs = .ok wire) :
    command.sequence ≠ 0 ∧ wire.sequence = wireSequence command.sequence := by
  simp only [toWireCommand] at wired
  split at wired
  · cases wired
  · rename_i fits
    simp only [not_or] at fits
    split at wired
    · cases wired
    · cases wired
      exact ⟨fits.2.2.1,rfl⟩

theorem wireSequence_value (sequence : UInt64) (nonzero : sequence ≠ 0) :
    1 ≤ sequence.toNat ∧ (wireSequence sequence).toNat = skipZero 32768 sequence.toNat := by
  have positive : 1 ≤ sequence.toNat :=
    Nat.one_le_iff_ne_zero.mpr fun zero => nonzero (UInt64.toNat_inj.mp zero)
  have before : (sequence - 1).toNat = sequence.toNat - 1 :=
    UInt64.toNat_sub_of_le _ _ (UInt64.le_iff_toNat_le.mpr positive)
  refine ⟨positive,?_⟩
  simp only [wireSequence,skipZero,UInt64.toNat_toUInt16,UInt64.toNat_add,UInt64.toNat_mod,before,UInt64.reduceToNat]
  omega

theorem newer_ahead (a b : UInt16) : CanV1.seqNewer a b = true ↔ 0 < ahead 32768 a.toNat b.toNat := by
  have distance : (a - b).toInt16.toInt = ahead 32768 a.toNat b.toNat := difference_ahead a.toBitVec b.toBitVec
  have positive : (0 : Int16) < (a - b).toInt16 ↔ 0 < ahead 32768 a.toNat b.toNat := by
    rw [Int16.lt_iff_toInt_lt,distance]
    rfl
  simp only [CanV1.seqNewer,Bool.and_eq_true,bne_iff_ne,decide_eq_true_eq,positive]
  constructor
  · exact fun newer => newer.2
  · intro forward
    refine ⟨?_,forward⟩
    rintro rfl
    simp [ahead] at forward

-- Less than half the ring apart, the order of two wire sequences is the order of
-- the 64-bit ones they stand for.
def Near (a b : UInt64) : Prop := a.toNat ≤ b.toNat + 32766 ∧ b.toNat ≤ a.toNat + 32766

theorem newer_order (a b : UInt64) (left : a ≠ 0) (right : b ≠ 0) (near : Near a b) :
    CanV1.seqNewer (wireSequence a) (wireSequence b) = true ↔ b < a := by
  obtain ⟨leftPositive,leftValue⟩ := wireSequence_value a left
  obtain ⟨rightPositive,rightValue⟩ := wireSequence_value b right
  obtain ⟨above,below⟩ := near
  rw [newer_ahead,leftValue,rightValue,UInt64.lt_iff_toNat_lt]
  exact skip_order a.toNat b.toNat ⟨leftPositive,rightPositive⟩ (by omega) (by omega)

-- A node that receives frames, with the 64-bit sequences of the commands it has
-- applied, the last one first. The node sees no more than the frame.
structure Receiver where
  node : CanNodeLogic
  applied : List UInt64 := []

structure Receipt where
  sequence : UInt64
  frame : CanFrame
  receiveNs : Int
  nowNs : Int

namespace Receiver

def applies (s : Receiver) (receipt : Receipt) : Bool :=
  let answer := (s.node.handleFrame receipt.frame receipt.receiveNs receipt.nowNs).2
  answer.sendStatus && answer.status.result == .applied

def step (s : Receiver) (receipt : Receipt) : Option Receiver :=
  some {node := (s.node.handleFrame receipt.frame receipt.receiveNs receipt.nowNs).1
        applied := if s.applies receipt then receipt.sequence :: s.applied else s.applied}

abbrev ReceiverMoment := Moment Receiver Receipt

-- The frame is a command of this session, within its validity, and its sequence
-- is near the last one applied. It may be a duplicate, late or out of order.
structure Eligible (s : Receiver) (receipt : Receipt) (wire : CanV1.WireOutputCommand) : Prop where
  framed : CanV1.encodeOutputCommand wire = .ok receipt.frame
  node : wire.nodeId = s.node.config.nodeId
  session : wire.sessionId = s.node.sessionId
  nonzero : receipt.sequence ≠ 0
  sequence : wire.sequence = wireSequence receipt.sequence
  fresh : receipt.nowNs < CanV1.deadlineFromValidity10ms receipt.receiveNs wire.validity10ms
  near : ∀ last, s.applied.head? = some last → Near receipt.sequence last

def ReceivesEligible (m : ReceiverMoment) (_ : List ReceiverMoment) : Prop := ∃ wire, Eligible m.before m.action wire

def AppliesNewer (m : ReceiverMoment) (_ : List ReceiverMoment) : Prop :=
  m.before.applies m.action = true ↔ ∀ last, m.before.applied.head? = some last → last < m.action.sequence

structure ReceiverInvariant (s : Receiver) : Prop where
  ready : s.node.config.interlockReady = true
  accepted : s.node.hasAcceptedSequence = s.applied.head?.isSome
  last : ∀ last, s.applied.head? = some last → last ≠ 0 ∧ s.node.lastAcceptedSequence = wireSequence last
  increasing : s.applied.Pairwise fun later earlier => earlier < later

theorem eligible_newer (invariant : ReceiverInvariant s) (eligible : Eligible s receipt wire) :
    s.node.Admissible wire receipt.receiveNs receipt.nowNs ↔
      ∀ last, s.applied.head? = some last → last < receipt.sequence := by
  have newer : ∀ last, s.applied.head? = some last →
      (CanV1.seqNewer wire.sequence s.node.lastAcceptedSequence = true ↔ last < receipt.sequence) := by
    intro last first
    obtain ⟨nonzero,known⟩ := invariant.last last first
    rw [eligible.sequence,known]
    exact newer_order receipt.sequence last eligible.nonzero nonzero (eligible.near last first)
  constructor
  · intro admitted last first
    exact (newer last first).mp (admitted.newer (by rw [invariant.accepted,first]; rfl))
  · intro later
    refine ⟨eligible.session,invariant.ready,?_,eligible.fresh⟩
    intro accepted
    rw [invariant.accepted] at accepted
    obtain ⟨last,first⟩ := Option.isSome_iff_exists.mp accepted
    exact (newer last first).mpr (later last first)

theorem eligible_answered (eligible : Eligible s receipt wire) :
    CanNodeLogic.Answers s.node wire receipt.receiveNs receipt.nowNs
      (s.node.handleFrame receipt.frame receipt.receiveNs receipt.nowNs).1
      (s.node.handleFrame receipt.frame receipt.receiveNs receipt.nowNs).2 := by
  rw [s.node.addressed_answered eligible.framed eligible.node]
  exact s.node.apply_exact wire receipt.receiveNs receipt.nowNs

theorem applies_admissible (eligible : Eligible s receipt wire) :
    s.applies receipt = true ↔ s.node.Admissible wire receipt.receiveNs receipt.nowNs := by
  have answered := eligible_answered eligible
  simp only [applies]
  generalize (s.node.handleFrame receipt.frame receipt.receiveNs receipt.nowNs).1 = next at answered
  generalize (s.node.handleFrame receipt.frame receipt.receiveNs receipt.nowNs).2 = answer at answered
  cases answered with
  | rejected refused _ _ _ negative => simp [refused,negative]
  | applied admitted _ _ _ => simp [admitted]

theorem receiver_applies (invariant : ReceiverInvariant s) (eligible : Eligible s receipt wire) :
    AppliesNewer ⟨s,receipt,next⟩ past :=
  (applies_admissible eligible).trans (eligible_newer invariant eligible)

theorem receiver_preserved (invariant : ReceiverInvariant s) (taken : step s receipt = some next)
    (eligible : Eligible s receipt wire) : ReceiverInvariant next := by
  have answered := eligible_answered eligible
  have applies := applies_admissible eligible
  have newer := eligible_newer invariant eligible
  cases taken
  generalize (s.node.handleFrame receipt.frame receipt.receiveNs receipt.nowNs).1 = next at answered ⊢
  generalize (s.node.handleFrame receipt.frame receipt.receiveNs receipt.nowNs).2 = answer at answered
  cases answered with
  | rejected refused same history last _ =>
      rw [if_neg (fun applied => refused (applies.mp applied))]
      exact ⟨by rw [same.config]; exact invariant.ready,history.trans invariant.accepted,
        fun earlier first => by rw [last]; exact invariant.last earlier first,invariant.increasing⟩
  | applied admitted same history last =>
      rw [if_pos (applies.mpr admitted)]
      refine ⟨by rw [same.config]; exact invariant.ready,history,?_,?_⟩
      · intro first equal
        cases equal
        exact ⟨eligible.nonzero,last.trans eligible.sequence⟩
      · -- Everything applied before is at most the last one.
        refine List.pairwise_cons.mpr ⟨?_,invariant.increasing⟩
        intro earlier member
        cases applied : s.applied with
        | nil => rw [applied] at member; cases member
        | cons last rest =>
            have later := newer.mp admitted last (by rw [applied]; rfl)
            have ordered := invariant.increasing
            rw [applied] at member ordered
            rcases List.mem_cons.mp member with rfl | behind
            · exact later
            · exact UInt64.lt_trans ((List.pairwise_cons.mp ordered).1 earlier behind) later

theorem start_receiver (node : CanNodeLogic) (ready : node.config.interlockReady = true)
    (fresh : node.hasAcceptedSequence = false) : ReceiverInvariant ⟨node,[]⟩ :=
  ⟨ready,fresh,fun _ first => (by cases first),.nil⟩

theorem applies_in_order (node : CanNodeLogic) (ready : node.config.interlockReady = true)
    (fresh : node.hasAcceptedSequence = false) (path : Reached step ⟨node,[]⟩ history s)
    (met : Throughout ReceivesEligible history) :
    Throughout AppliesNewer history ∧ s.applied.Pairwise fun later earlier => earlier < later := by
  have preserved : ∀ (past : List ReceiverMoment) s receipt next, ReceiverInvariant s → step s receipt = some next →
      ReceivesEligible ⟨s,receipt,next⟩ past → ReceiverInvariant next :=
    fun _ _ _ _ invariant taken ⟨_,eligible⟩ => receiver_preserved invariant taken eligible
  refine ⟨?_,?_⟩
  · exact throughout_under (fun _ s => ReceiverInvariant s) (start_receiver node ready fresh) preserved
      (fun _ _ _ _ invariant _ ⟨_,eligible⟩ => receiver_applies invariant eligible) path met
  · exact (reached_under (fun _ s => ReceiverInvariant s) (start_receiver node ready fresh) preserved
      path met).increasing

def wrapped : List Receipt :=
  [⟨65535,⟨CanV1.makeCanId .outputCommand 1,8,#v[0x01,0x01,0x00,0x01,0xFF,0xFF,0x01,0x05]⟩,100,100⟩,
   ⟨65536,⟨CanV1.makeCanId .outputCommand 1,8,#v[0x01,0x01,0x00,0x01,0x00,0x01,0x00,0x05]⟩,200,200⟩,
   ⟨65535,⟨CanV1.makeCanId .outputCommand 1,8,#v[0x01,0x01,0x00,0x01,0xFF,0xFF,0x01,0x05]⟩,100,300⟩]

theorem applies_in_order_wrapped :
    ∃ history s, Reached step ⟨.construct {},[]⟩ history s ∧ history.length = 3 ∧ s.applied = [65536,65535] ∧
      Throughout AppliesNewer history := by
  have path : Reached step ⟨.construct {},[]⟩ _ _ := replay_reached wrapped .start rfl
  refine ⟨_,_,path,rfl,rfl,(applies_in_order (.construct {}) rfl rfl path ⟨?_,?_,?_,trivial⟩).1⟩
  · refine ⟨⟨1,1,1,65535,1,5⟩,rfl,rfl,rfl,by decide,rfl,by decide,?_⟩
    rintro last ⟨rfl⟩
    exact ⟨by decide,by decide⟩
  · refine ⟨⟨1,1,1,1,0,5⟩,rfl,rfl,rfl,by decide,rfl,by decide,?_⟩
    rintro last ⟨rfl⟩
    exact ⟨by decide,by decide⟩
  · refine ⟨⟨1,1,1,65535,1,5⟩,rfl,rfl,rfl,by decide,rfl,by decide,?_⟩
    intro last none
    cases none

end Receiver

end RobotControlRuntime
