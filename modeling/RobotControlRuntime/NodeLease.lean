import Mathlib.Data.Int.Order.Basic
import RobotControlRuntime.Library.Lease
import RobotControlRuntime.Library.StepHistory
import RobotControlRuntime.NodeSim

namespace RobotControlRuntime
open StepHistory Lease

structure OutputWrite where
  mask : UInt8
  values : UInt8

def OutputWrite.apply (write : OutputWrite) (bits : UInt8) : UInt8 :=
  (bits &&& ~~~write.mask) ||| (write.values &&& write.mask)

inductive NodeCall where
  | applyCommand (cmd : CanV1.WireOutputCommand) (receiveNs nowNs : Int)
  | expireOutputLease (nowNs : Int)
  | setInterlockReady (ready : Bool)
  | softRestart

def NodeCall.now : NodeCall → Option Int
  | .applyCommand _ _ nowNs => some nowNs
  | .expireOutputLease nowNs => some nowNs
  | .setInterlockReady _ => none
  | .softRestart => none

namespace CanNodeLogic

def call (node : CanNodeLogic) : NodeCall → CanNodeLogic
  | .applyCommand cmd receiveNs nowNs => (node.applyCommand cmd receiveNs nowNs).1
  | .expireOutputLease nowNs => (node.expireOutputLease nowNs).1
  | .setInterlockReady ready => node.setInterlockReady ready
  | .softRestart => node.softRestart

def step (node : CanNodeLogic) (action : NodeCall) : Option CanNodeLogic := some (node.call action)

abbrev NodeMoment := Moment CanNodeLogic NodeCall

def applies (node : CanNodeLogic) (cmd : CanV1.WireOutputCommand) (receiveNs nowNs : Int) : Bool :=
  (node.applyCommand cmd receiveNs nowNs).2.status.result == .applied

-- The lease contract of the protocol, in terms of the calls and their answers:
-- a timed call reads the clock, an applied command grants its write until its
-- validity after reception, a lost interlock and a restart revoke.
def granted (cmd : CanV1.WireOutputCommand) (receiveNs : Int) : Event Int OutputWrite :=
  .granted ⟨cmd.mask,cmd.values⟩ (receiveNs + cmd.validity10ms.toNat * 10000000)

def leaseEvents (node : CanNodeLogic) : NodeCall → List (Event Int OutputWrite)
  | .applyCommand cmd receiveNs nowNs =>
    if node.applies cmd receiveNs nowNs then [granted cmd receiveNs,.observed nowNs] else [.observed nowNs]
  | .expireOutputLease nowNs => [.observed nowNs]
  | .setInterlockReady ready => if ready then [] else [.revoked]
  | .softRestart => [.revoked]

def leaseHistory (history : List NodeMoment) : List (Event Int OutputWrite) :=
  history.flatMap fun m => m.before.leaseEvents m.action

def lastApplied : List NodeMoment → Option (CanV1.WireOutputCommand × Int)
  | [] => none
  | m :: past =>
    match m.action with
    | .applyCommand cmd receiveNs nowNs =>
      if m.before.applies cmd receiveNs nowNs then some (cmd,receiveNs) else lastApplied past
    | _ => lastApplied past

structure LeaseBounds (m : NodeMoment) (past : List NodeMoment) (nowNs : Int) : Prop where
  active : m.after.outputLeaseActive = true
  open_ : nowNs < m.after.outputLeaseDeadlineNs
  ready : m.after.config.interlockReady = true
  last : ∃ cmd receiveNs, lastApplied (m :: past) = some (cmd,receiveNs) ∧
    m.after.outputLeaseDeadlineNs = receiveNs + cmd.validity10ms.toNat * 10000000 ∧
    (cmd.validity10ms ≤ CanV1.maxValidity10ms ↔ m.after.outputLeaseDeadlineNs ≤ receiveNs + 2500000000)

structure LeasedFold (m : NodeMoment) (past : List NodeMoment) : Prop where
  output : m.after.outputBits = (writes (leaseHistory (m :: past))).foldr OutputWrite.apply 0
  bounded : ∀ nowNs, m.action.now = some nowNs → m.after.outputBits ≠ 0 → LeaseBounds m past nowNs
  rejected : ∀ cmd receiveNs nowNs, m.action = .applyCommand cmd receiveNs nowNs →
    m.before.applies cmd receiveNs nowNs = false → m.after = (m.before.expireOutputLease nowNs).1

def register (node : CanNodeLogic) : Register Int UInt8 :=
  ⟨node.outputBits,if node.outputLeaseActive then some node.outputLeaseDeadlineNs else none⟩

theorem expire_register (node : CanNodeLogic) (nowNs : Int) :
    (node.expireOutputLease nowNs).1.register = node.register.next 0 OutputWrite.apply (.observed nowNs) := by
  unfold expireOutputLease Register.next register reached
  cases active : node.outputLeaseActive with
  | false => simp [active]
  | true =>
      rcases Int.lt_or_le nowNs node.outputLeaseDeadlineNs with before | ended
      · simp [active,before]
      · simp [ended,Int.not_lt.mpr ended,clearOutput]

theorem expire_open (node : CanNodeLogic) (nowNs : Int)
    (active : (node.expireOutputLease nowNs).1.outputLeaseActive = true) :
    nowNs < (node.expireOutputLease nowNs).1.outputLeaseDeadlineNs ∧ node.outputLeaseActive = true ∧
      (node.expireOutputLease nowNs).1 = node := by
  unfold expireOutputLease at active ⊢
  split at active
  · rename_i kept
    have held : node.outputLeaseActive = true := active
    rw [if_pos kept]
    simp only [held,Bool.not_true,Bool.false_or,decide_eq_true_eq] at kept
    exact ⟨kept,held,rfl⟩
  · cases active

inductive Settles (node : CanNodeLogic) (cmd : CanV1.WireOutputCommand) (receiveNs nowNs : Int) :
    CanNodeLogic → Bool → Prop where
  | rejected : Settles node cmd receiveNs nowNs (node.expireOutputLease nowNs).1 false
  | applied (ready : node.config.interlockReady = true)
      (fresh : nowNs < CanV1.deadlineFromValidity10ms receiveNs cmd.validity10ms) :
      Settles node cmd receiveNs nowNs ((node.expireOutputLease nowNs).1.accept cmd receiveNs) true

theorem apply_settles (node : CanNodeLogic) (cmd : CanV1.WireOutputCommand) (receiveNs nowNs : Int) :
    Settles node cmd receiveNs nowNs (node.applyCommand cmd receiveNs nowNs).1 (node.applies cmd receiveNs nowNs) := by
  have judged := node.apply_judges cmd receiveNs nowNs
  unfold applies
  generalize node.applyCommand cmd receiveNs nowNs = outcome at judged ⊢
  cases judged with
  | rejected _ negative =>
      rw [beq_eq_false_iff_ne.mpr negative]
      exact .rejected
  | applied admitted => exact .applied admitted.ready admitted.fresh

theorem call_register (node : CanNodeLogic) (action : NodeCall) :
    (node.call action).register =
      (node.leaseEvents action).foldr (fun event held => held.next 0 OutputWrite.apply event) node.register := by
  cases action with
  | applyCommand cmd receiveNs nowNs =>
      have settles := node.apply_settles cmd receiveNs nowNs
      simp only [call,leaseEvents]
      generalize (node.applyCommand cmd receiveNs nowNs).1 = next at settles ⊢
      generalize node.applies cmd receiveNs nowNs = positive at settles ⊢
      cases settles with
      | rejected => exact node.expire_register nowNs
      | applied =>
          simp only [if_true,List.foldr_cons,List.foldr_nil]
          rw [← node.expire_register nowNs]
          rfl
  | expireOutputLease nowNs => exact node.expire_register nowNs
  | setInterlockReady ready => cases ready <;> rfl
  | softRestart => rfl

structure Held (past : List NodeMoment) (node : CanNodeLogic) : Prop where
  ready : node.config.interlockReady = true
  last : ∃ cmd receiveNs, lastApplied past = some (cmd,receiveNs) ∧
    node.outputLeaseDeadlineNs = receiveNs + cmd.validity10ms.toNat * 10000000

structure LeaseInvariant (past : List NodeMoment) (node : CanNodeLogic) : Prop where
  settled : node.register = settled 0 OutputWrite.apply (leaseHistory past)
  held : node.outputLeaseActive = true → Held past node

theorem expire_held (invariant : LeaseInvariant past node)
    (active : (node.expireOutputLease nowNs).1.outputLeaseActive = true) :
    Held past (node.expireOutputLease nowNs).1 := by
  obtain ⟨_,before,same⟩ := node.expire_open nowNs active
  rw [same]
  exact invariant.held before

theorem apply_held (invariant : LeaseInvariant past node) (cmd : CanV1.WireOutputCommand) (receiveNs nowNs : Int)
    (active : (node.applyCommand cmd receiveNs nowNs).1.outputLeaseActive = true) :
    Held (⟨node,.applyCommand cmd receiveNs nowNs,next⟩ :: past) (node.applyCommand cmd receiveNs nowNs).1 := by
  have settles := node.apply_settles cmd receiveNs nowNs
  generalize (node.applyCommand cmd receiveNs nowNs).1 = after at settles active ⊢
  generalize verdict : node.applies cmd receiveNs nowNs = positive at settles
  cases settles with
  | rejected =>
      obtain ⟨ready,last⟩ := expire_held invariant active
      refine ⟨ready,?_⟩
      simpa only [lastApplied,verdict,Bool.false_eq_true,if_false] using last
  | applied ready _ =>
      refine ⟨?_,cmd,receiveNs,by simp only [lastApplied,verdict,if_true],rfl⟩
      have same := (node.expire_same nowNs).1.config
      exact (congrArg CanNodeConfig.interlockReady same).trans ready

theorem lease_preserved (invariant : LeaseInvariant past node) (taken : node.step action = some next) :
    LeaseInvariant (⟨node,action,next⟩ :: past) next := by
  cases taken
  refine ⟨?_,?_⟩
  · rw [call_register,invariant.settled,run_settled]
    rfl
  · intro active
    cases action with
    | applyCommand cmd receiveNs nowNs => exact apply_held invariant cmd receiveNs nowNs active
    | expireOutputLease nowNs =>
        obtain ⟨ready,last⟩ := expire_held invariant active
        exact ⟨ready,last⟩
    | setInterlockReady ready =>
        cases ready with
        | false => cases active
        | true => exact ⟨rfl,(invariant.held active).last⟩
    | softRestart => cases active

theorem timed_open (node : CanNodeLogic) (action : NodeCall) (timed : action.now = some nowNs)
    (active : (node.call action).outputLeaseActive = true) : nowNs < (node.call action).outputLeaseDeadlineNs := by
  cases action with
  | applyCommand cmd receiveNs time =>
      cases timed
      have settles := node.apply_settles cmd receiveNs nowNs
      simp only [call] at active ⊢
      generalize (node.applyCommand cmd receiveNs nowNs).1 = next at settles active ⊢
      generalize node.applies cmd receiveNs nowNs = positive at settles
      cases settles with
      | rejected => exact (node.expire_open nowNs active).1
      | applied _ fresh => exact fresh
  | expireOutputLease time =>
      cases timed
      exact (node.expire_open nowNs active).1
  | setInterlockReady _ | softRestart => cases timed

theorem output_leased (invariant : LeaseInvariant past node) (nonzero : node.outputBits ≠ 0) :
    node.outputLeaseActive = true := by
  cases active : node.outputLeaseActive with
  | true => rfl
  | false =>
      refine absurd ?_ nonzero
      have unleased : node.register.lease = none := by simp only [register,active,Bool.false_eq_true,if_false]
      rw [invariant.settled] at unleased
      have neutral := settled_neutral 0 OutputWrite.apply (leaseHistory past) unleased
      rw [← invariant.settled] at neutral
      exact neutral

theorem lease_folds (invariant : LeaseInvariant past node) (taken : node.step action = some next) :
    LeasedFold ⟨node,action,next⟩ past := by
  have after := lease_preserved invariant taken
  cases taken
  refine ⟨congrArg Register.value after.settled,?_,?_⟩
  · intro nowNs timed nonzero
    have active := output_leased after nonzero
    obtain ⟨ready,cmd,receiveNs,last,deadline⟩ := after.held active
    refine ⟨active,timed_open node action timed active,ready,cmd,receiveNs,last,deadline,?_⟩
    have decoded : cmd.validity10ms ≤ CanV1.maxValidity10ms ↔ cmd.validity10ms.toNat ≤ 250 := UInt8.le_iff_toNat_le
    rw [decoded,deadline]
    omega
  · rintro cmd receiveNs nowNs rfl negative
    have settles := node.apply_settles cmd receiveNs nowNs
    rw [negative] at settles
    simp only [call]
    generalize (node.applyCommand cmd receiveNs nowNs).1 = next at settles ⊢
    cases settles
    rfl

theorem output_leased_fold (config : CanNodeConfig) (path : Reached step (construct config) history node) :
    Throughout LeasedFold history :=
  throughout_invariant LeaseInvariant ⟨rfl,fun active => (by cases active)⟩
    (fun _ _ _ _ invariant taken => lease_preserved invariant taken)
    (fun _ _ _ _ invariant taken => lease_folds invariant taken) path

-- A second command refreshes the lease of the first and keeps its bit; the third
-- finds the lease over and starts from neutral.
def leasedCalls : List NodeCall :=
  [.applyCommand ⟨1,0x01,1,1,0x01,10⟩ 0 0,.applyCommand ⟨1,0x02,1,2,0x02,10⟩ 50000000 60000000,
   .expireOutputLease 120000000,.applyCommand ⟨1,0x04,1,3,0x04,10⟩ 140000000 150000000]

theorem output_leased_fold_refreshed :
    ∃ history node, Reached step (construct {}) history node ∧ history.length = 4 ∧ node.outputBits = 0x04 ∧
      Throughout LeasedFold history := by
  have path : Reached step (construct {}) _ _ := replay_reached leasedCalls .start rfl
  exact ⟨_,_,path,rfl,rfl,output_leased_fold {} path⟩

def longValidity : CanV1.WireOutputCommand := ⟨1,0x01,1,1,0x01,255⟩

theorem long_validity_leased :
    ∃ history node, Reached step (construct {}) history node ∧ lastApplied history = some (longValidity,0) ∧
      node.outputBits ≠ 0 ∧ 0 + 2500000000 < node.outputLeaseDeadlineNs := by
  have path : Reached step (construct {}) _ _ := replay_reached [.applyCommand longValidity 0 0] .start rfl
  exact ⟨_,_,path,rfl,by decide,by decide⟩

end CanNodeLogic

end RobotControlRuntime
