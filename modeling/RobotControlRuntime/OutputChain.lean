import RobotControlRuntime.CommandLine
import RobotControlRuntime.NodeLease
import RobotControlRuntime.SequenceAgreement

-- From a command of the runtime to an output of the node.
namespace RobotControlRuntime
open StepHistory

namespace NodeLink
open CommandLine (SentFor Traced LineInvariant)

def line (s : NodeLink) : CommandLine := ⟨s.io,s.downlink,s.sends⟩

def lineAction (s : NodeLink) : LinkAction → Option LineAction
  | .io action => some (.io action)
  | .deliverCommand _ _ | .loseCommand => some .take
  | .deliverStatus nowNs =>
    match s.uplink with
    | [] => none
    | sent :: _ => (statusCall s.io.io.nodeId sent.frame nowNs).map fun call => .io (.call call)
  | _ => none

def lineHistory (past : List LinkMoment) : List CommandLine.LineMoment := projected line lineAction past

theorem line_simulates : Simulates line lineAction step CommandLine.step := by
  intro s action next taken
  cases step_exact taken with
  | @io action _ moved other =>
      have none : placed s.io action = none := by
        cases placed : placed s.io action with
        | none => rfl
        | some frame => exact absurd (CommandLine.placed_exact placed).1 other
      simp only [lineAction,CommandLine.step,line,moved,none]
  | sent moved stage _ _ => simp only [lineAction,CommandLine.step,line,moved,placed,stage]
  | @commandDelivered sent rest receiveNs nowNs waiting =>
      obtain ⟨_,downlink⟩ := deliver_parts s sent rest receiveNs nowNs
      obtain ⟨io,sends,_⟩ := deliver_frame s sent rest receiveNs nowNs
      simp only [lineAction,CommandLine.step,line,waiting,io,downlink,sends]
  | commandLost waiting => simp only [lineAction,CommandLine.step,line,waiting]
  | statusLost _ | expired | interlocked | restarted => rfl
  | @statusDelivered sent rest nowNs waiting =>
      simp only [lineAction,waiting,deliverStatus]
      cases called : statusCall s.io.io.nodeId sent.frame nowNs with
      | none => rfl
      | some call =>
          obtain ⟨_,_,rfl⟩ := status_observes called
          rfl

def Carried (command : OutputCommand) (sentNs receiveNs : Int) (m : LinkMoment) (past : List LinkMoment) : Prop :=
  ∃ nowNs sent rest, m.action = .deliverCommand receiveNs nowNs ∧ m.before.downlink = sent :: rest ∧
    (m.before.node.handleFrame sent.frame receiveNs nowNs).2.status.result = .applied ∧
    Once (SentFor command sentNs sent) (lineHistory past)

def nodeTime : LinkAction → Option Int
  | .deliverCommand _ nowNs | .expireOutputLease nowNs => some nowNs
  | _ => none

-- What the node drives stands on commands of the runtime: every bit that is on
-- was set by one, and one that was carried to the node keeps them all on, for
-- no longer than its deadline, the time on the bus and one unit of the wire.
structure Authorised (m : LinkMoment) (past : List LinkMoment) : Prop where
  bits : ∀ i, m.after.node.outputBits.toNat.testBit i = true →
    ∃ command sentNs receiveNs, Once (Carried command sentNs receiveNs) (m :: past) ∧
      command.mask.toNat.testBit i = true ∧ command.values.toNat.testBit i = true
  lease : m.after.node.outputBits ≠ 0 →
    ∃ command sentNs receiveNs, Once (Carried command sentNs receiveNs) (m :: past) ∧ sentNs < command.deadlineNs ∧
      ∀ nowNs, nodeTime m.action = some nowNs →
        nowNs < command.deadlineNs + (receiveNs - sentNs) + 10000000 ∧ nowNs < receiveNs + 2500000000

structure Bounds (command : OutputCommand) (sentNs receiveNs deadlineNs : Int) : Prop where
  fresh : sentNs < command.deadlineNs
  deadline : deadlineNs < command.deadlineNs + (receiveNs - sentNs) + 10000000
  longest : deadlineNs ≤ receiveNs + 2500000000

theorem wire_bounds (wired : toWireCommand command nodeId sentNs = .ok wire) (receiveNs : Int) :
    Bounds command sentNs receiveNs (CanV1.deadlineFromValidity10ms receiveNs wire.validity10ms) := by
  obtain ⟨fresh,most,left⟩ := wire_left wired
  have unit : CanV1.validityUnitNs = 10000000 := rfl
  refine ⟨fresh,?_,?_⟩ <;> rw [CanV1.deadlineFromValidity10ms,unit] <;> omega

structure Backed (past : List LinkMoment) (node : CanNodeLogic) : Prop where
  leased : node.outputBits ≠ 0 → node.outputLeaseActive = true
  bits : ∀ i, node.outputBits.toNat.testBit i = true →
    ∃ command sentNs receiveNs, Once (Carried command sentNs receiveNs) past ∧
      command.mask.toNat.testBit i = true ∧ command.values.toNat.testBit i = true
  lease : node.outputLeaseActive = true →
    ∃ command sentNs receiveNs, Once (Carried command sentNs receiveNs) past ∧
      Bounds command sentNs receiveNs node.outputLeaseDeadlineNs

theorem Backed.later {node : CanNodeLogic} (backed : Backed past node) : Backed (m :: past) node where
  leased := backed.leased
  bits := by
    intro i on
    obtain ⟨command,sentNs,receiveNs,carried,masked,value⟩ := backed.bits i on
    exact ⟨command,sentNs,receiveNs,carried.later,masked,value⟩
  lease := by
    intro active
    obtain ⟨command,sentNs,receiveNs,carried,bounds⟩ := backed.lease active
    exact ⟨command,sentNs,receiveNs,carried.later,bounds⟩

theorem cleared_backed (node : CanNodeLogic) (past : List LinkMoment) : Backed past node.clearOutput := by
  refine ⟨fun nonzero => absurd rfl nonzero,?_,fun active => (by cases active)⟩
  intro i on
  simp [CanNodeLogic.clearOutput] at on

theorem expired_backed {node : CanNodeLogic} (backed : Backed past node) (nowNs : Int) : Backed past (node.expireOutputLease nowNs).1 := by
  unfold CanNodeLogic.expireOutputLease
  split
  · exact backed
  · exact cleared_backed node past

structure ChainInvariant (past : List LinkMoment) (s : NodeLink) : Prop where
  line : LineInvariant s.node.config.nodeId (lineHistory past) s.line
  backed : Backed past s.node

theorem chain_framed (invariant : ChainInvariant past s) (taken : step s action = some next)
    (config : next.node.config.nodeId = s.node.config.nodeId) (backed : Backed (⟨s,action,next⟩ :: past) next.node) :
    ChainInvariant (⟨s,action,next⟩ :: past) next := by
  refine ⟨?_,backed⟩
  rw [config]
  exact projected_invariant line_simulates (LineInvariant _) (fun _ _ _ _ => CommandLine.line_preserved) invariant.line taken

theorem delivered_backed (invariant : ChainInvariant past s) (waiting : s.downlink = sent :: rest) (next : NodeLink)
    (receiveNs nowNs : Int) : Backed (⟨s,.deliverCommand receiveNs nowNs,next⟩ :: past) (s.node.handleFrame sent.frame receiveNs nowNs).1 ∧
      ((s.node.handleFrame sent.frame receiveNs nowNs).1.outputLeaseActive = true →
        nowNs < (s.node.handleFrame sent.frame receiveNs nowNs).1.outputLeaseDeadlineNs) := by
  have present : sent ∈ s.line.frames := by rw [show s.line.frames = sent :: rest from waiting]; exact List.mem_cons_self
  obtain ⟨command,sentNs,wire,wired,encoded,once⟩ := invariant.line.traced sent present
  have judged := s.node.addressed_answered encoded (wire_parts wired).1 receiveNs nowNs
  have timed := fun active => s.node.timed_open (.applyCommand wire receiveNs nowNs) rfl active
  have expired := expired_backed invariant.backed nowNs
  have settles := s.node.apply_settles wire receiveNs nowNs
  refine ⟨?_,by rw [judged]; exact timed⟩
  have carried : s.node.applies wire receiveNs nowNs = true →
      Once (Carried command sentNs receiveNs) (⟨s,.deliverCommand receiveNs nowNs,next⟩ :: past) := by
    intro positive
    refine .now ⟨nowNs,sent,rest,rfl,waiting,?_,once⟩
    rw [judged]
    exact beq_iff_eq.mp positive
  rw [judged]
  generalize (s.node.applyCommand wire receiveNs nowNs).1 = after at settles ⊢
  generalize verdict : s.node.applies wire receiveNs nowNs = positive at settles carried
  cases settles with
  | rejected => exact expired.later
  | applied _ _ =>
      refine ⟨fun _ => rfl,?_,fun _ => ⟨command,sentNs,receiveNs,carried rfl,wire_bounds wired receiveNs⟩⟩
      intro i on
      rcases FixedWidth.merged_bit _ _ _ i on with kept | ⟨masked,value⟩
      · exact expired.later.bits i kept
      · exact ⟨command,sentNs,receiveNs,carried rfl,wire_bit wired i masked value⟩

theorem chain_preserved (invariant : ChainInvariant past s) (taken : step s action = some next) :
    ChainInvariant (⟨s,action,next⟩ :: past) next := by
  cases step_exact taken with
  | io _ _ | sent _ _ _ _ | commandLost _ | statusLost _ => exact chain_framed invariant taken rfl invariant.backed.later
  | commandDelivered waiting =>
      obtain ⟨node,_⟩ := deliver_parts s _ _ _ _
      refine chain_framed invariant taken ?_ ?_
      · rw [node,s.node.frame_config]
      · rw [node]
        exact (delivered_backed invariant waiting _ _ _).1
  | statusDelivered _ =>
      obtain ⟨_,node,_⟩ := status_frame s _ _ _
      refine chain_framed invariant taken (by rw [node]) ?_
      rw [node]
      exact invariant.backed.later
  | @expired nowNs =>
      refine chain_framed invariant taken ?_ (expired_backed invariant.backed nowNs).later
      rw [(s.node.expire_same nowNs).1.config]
  | @interlocked ready =>
      cases ready with
      | true =>
          have same : Backed past (s.node.setInterlockReady true) := ⟨invariant.backed.leased,invariant.backed.bits,
            invariant.backed.lease⟩
          exact chain_framed invariant taken rfl same.later
      | false => exact chain_framed invariant taken rfl (cleared_backed _ _)
  | restarted =>
      have cleared := cleared_backed s.node past
      have same : Backed past s.node.softRestart := ⟨cleared.leased,cleared.bits,cleared.lease⟩
      exact chain_framed invariant taken rfl same.later

theorem timed_leased (invariant : ChainInvariant past s) (taken : step s action = some next)
    (timed : nodeTime action = some nowNs) (active : next.node.outputLeaseActive = true) :
    nowNs < next.node.outputLeaseDeadlineNs := by
  cases step_exact taken with
  | commandDelivered waiting =>
      cases timed
      obtain ⟨node,_⟩ := deliver_parts s _ _ _ _
      rw [node] at active ⊢
      exact (delivered_backed invariant waiting s _ _).2 active
  | expired =>
      cases timed
      exact (s.node.expire_open nowNs active).1
  | _ => cases timed

theorem chain_authorised (invariant : ChainInvariant past s) (taken : step s action = some next) :
    Authorised ⟨s,action,next⟩ past := by
  have after := chain_preserved invariant taken
  refine ⟨after.backed.bits,?_⟩
  intro nonzero
  have active := after.backed.leased nonzero
  obtain ⟨command,sentNs,receiveNs,carried,bounds⟩ := after.backed.lease active
  refine ⟨command,sentNs,receiveNs,carried,bounds.fresh,?_⟩
  intro nowNs timed
  have open_ := timed_leased invariant taken timed active
  exact ⟨Int.lt_trans open_ bounds.deadline,Int.lt_of_lt_of_le open_ bounds.longest⟩

theorem launched_chain (config : RuntimeConfig) (queue : BoundedInputQueue) (nodeConfig : CanNodeConfig) :
    ChainInvariant [] (launched config queue nodeConfig) := by
  refine ⟨CommandLine.launched_line config queue nodeConfig.nodeId,fun nonzero => absurd rfl nonzero,?_,?_⟩
  · intro i on
    simp [launched,CanNodeLogic.construct] at on
  · intro active
    cases active

theorem outputs_authorised (config : RuntimeConfig) (queue : BoundedInputQueue) (nodeConfig : CanNodeConfig)
    (path : Reached step (launched config queue nodeConfig) history s) : Throughout Authorised history :=
  throughout_invariant ChainInvariant (launched_chain config queue nodeConfig)
    (fun _ _ _ _ invariant taken => chain_preserved invariant taken)
    (fun _ _ _ _ invariant taken => chain_authorised invariant taken) path

theorem outputs_authorised_driven :
    ∃ history s, Reached step session7 history s ∧ (∃ m ∈ history, m.after.node.outputBits = 1) ∧
      s.node.outputBits = 0 ∧ Throughout Authorised history := by
  have path : Reached step session7 _ _ := replay_reached
    (activated ++ transmitted ⟨7,1,900000000,1,1⟩ 100 ++ [.deliverCommand 110 110,.expireOutputLease 1000000000]) .start rfl
  exact ⟨_,_,path,⟨_,List.mem_cons_of_mem _ List.mem_cons_self,rfl⟩,rfl,outputs_authorised {} _ {sessionId := 7} path⟩

end NodeLink

end RobotControlRuntime
