import RobotControlRuntime.CanHealth
import RobotControlRuntime.CellAppProtocol
import RobotControlRuntime.SupervisionLoop

-- The heartbeat progress of the health test when its snapshots come over CEL1: a
-- 16-bit sequence read as a count.
namespace RobotControlRuntime
open StepHistory

def NodeSupervisor.deviceView (node : NodeSupervisor) (nodeId : UInt8) (now : Result Int) : DeviceView where
  nodeId := nodeId
  deviceId := text "CAN_NODE_" ++ decimal nodeId.toNat
  everSeen := node.everSeen
  online := node.online
  restartLatched := node.restartLatched
  overflowFaultLatched := node.overflowFaultLatched
  commLossLatched := node.commLossLatched
  bootId := node.bootId
  sessionId := node.sessionId
  lastHeartbeatSequence := node.lastHbSeq
  deviceFaultCode := node.nodeFaultCode
  inputBits := node.inputBits
  lastOutputMirror := node.lastOutputMirror
  heartbeats := node.heartbeats
  statusUpdates := node.statusUpdates
  protocolRejects := node.protocolRejects
  heartbeatAgeNs :=
    match now with
    | .error _ => -1
    | .ok nowNs =>
      if node.everSeen ∧ 0 < node.lastHeartbeatNs then
        Int64.ofInt (if node.lastHeartbeatNs ≤ nowNs then nowNs - node.lastHeartbeatNs else 0)
      else -1

def throughCel1 (snapshot : RuntimeTelemetrySnapshot) : Option RuntimeTelemetrySnapshot :=
  match encodeCellAppStatus (projectCellAppStatus snapshot) with
  | none => none
  | some payload =>
    match decodeCellAppStatus payload with
    | .ok status => some (cellStatusToSnapshot status)
    | .error _ => none

theorem throughCel1_rebuilt (snapshot : RuntimeTelemetrySnapshot) :
    throughCel1 snapshot = some (cellStatusToSnapshot (projectCellAppStatus snapshot)) := by
  obtain ⟨payload,encoded,_⟩ := status_encodes (projectCellAppStatus snapshot)
  simp only [throughCel1,encoded,status_decodes encoded]

namespace Supervision

def ownHeartbeat (s : Supervision) (action : SupervisionAction) : Option RuntimeInputEvent :=
  (s.handles action).filter fun event =>
    event.kind == .heartbeat && (event.nodeId == 0 || event.nodeId == s.supervisor.config.nodeId)

def heartbeats (history : List SupervisionMoment) : List RuntimeInputEvent :=
  history.filterMap fun m => m.before.ownHeartbeat m.action

def Consecutive (first : UInt16) (k : Nat) (history : List SupervisionMoment) : Prop :=
  (heartbeats history).reverse.map (·.hbSeq) = (List.range k).map fun i => first + UInt16.ofNat i

theorem event_sequence (s : NodeSupervisor) (event : RuntimeInputEvent) (nowNs : Int) :
    (s.applyEvent event nowNs).1.lastHbSeq =
      if event.kind = .heartbeat ∧ (event.nodeId = 0 ∨ event.nodeId = s.config.nodeId) then event.hbSeq
      else s.lastHbSeq := by
  unfold NodeSupervisor.applyEvent
  dsimp only
  split
  · rename_i foreign
    rw [if_neg (by grind)]
  · rename_i own
    cases kind : event.kind with
    | heartbeat =>
        rw [if_pos ⟨rfl,by grind⟩]
        simp only [NodeSupervisor.applyHeartbeat,NodeSupervisor.noteNodeRestart]
        split <;> rfl
    | nodeStatus =>
        rw [if_neg (by simp)]
        simp only [NodeSupervisor.applyNodeStatus,NodeSupervisor.noteNodeRestart]
        split <;> rfl
    | outputStatus | protocolReject | ioError => rw [if_neg (by simp)]

theorem step_sequence {s next : Supervision} (taken : s.step action = some next) :
    next.supervisor.lastHbSeq = ((s.ownHeartbeat action).map (·.hbSeq)).getD s.supervisor.lastHbSeq := by
  obtain ⟨handled,middle,made,same,_,moves,rfl⟩ := step_exact taken
  rw [ownHeartbeat,same,driven_supervisor]
  cases moves with
  | handled _ _ _ _ =>
      rw [event_sequence]
      simp only [Option.filter]
      split <;> split <;> simp_all
  | began _ =>
      simp only [NodeSupervisor.afterOverflow,NodeSupervisor.applyOverflowFault]
      split
      · split <;> rfl
      · rfl
  | finished _ =>
      simp only [NodeSupervisor.applyCommLoss]
      split_ifs <;> rfl
  | acknowledged =>
      simp only [NodeSupervisor.acknowledgeFaultClear]
      split_ifs <;> rfl
  | pushed | spent | emptied | unlatched | called => rfl

theorem reached_sequence {before after : Supervision} (path : Reached step before history after) :
    after.supervisor.lastHbSeq = ((heartbeats history).head?.map (·.hbSeq)).getD before.supervisor.lastHbSeq := by
  induction path with
  | start => rfl
  | @step past s action next _ taken ih =>
      rw [step_sequence taken]
      cases beat : s.ownHeartbeat action with
      | none => simpa [heartbeats,beat] using ih
      | some event => simp [heartbeats,beat]

theorem consecutive_last {before after : Supervision} (path : Reached step before history after)
    (consecutive : Consecutive first k history) :
    after.supervisor.lastHbSeq = if k = 0 then before.supervisor.lastHbSeq else first + UInt16.ofNat (k - 1) := by
  rw [reached_sequence path,← List.head?_map]
  have newest := congrArg List.getLast? consecutive
  rw [List.map_reverse,List.getLast?_reverse] at newest
  rw [newest]
  cases k with
  | zero => rfl
  | succ n => simp [List.range_succ]

end Supervision

theorem checkedDelta_sequence (before after : UInt16) (bounded : k < 65536) (name : String) :
    checkedDelta before.toUInt64 after.toUInt64 name = ⟨UInt64.ofNat k,{}⟩ ↔ after.toNat = before.toNat + k := by
  unfold checkedDelta
  have low := before.toNat_lt
  have high := after.toNat_lt
  split
  · rename_i backwards
    rw [UInt64.lt_iff_toNat_lt,UInt16.toNat_toUInt64,UInt16.toNat_toUInt64] at backwards
    refine ⟨fun same => ?_,fun same => by omega⟩
    cases congrArg (·.error.code) same
  · rename_i forwards
    rw [UInt64.lt_iff_toNat_lt,UInt16.toNat_toUInt64,UInt16.toNat_toUInt64] at forwards
    have order : before.toUInt64 ≤ after.toUInt64 := by
      rw [UInt64.le_iff_toNat_le,UInt16.toNat_toUInt64,UInt16.toNat_toUInt64]
      omega
    rw [CallResult.mk.injEq,← UInt64.toNat_inj,UInt64.toNat_sub_of_le _ _ order,UInt16.toNat_toUInt64,
      UInt16.toNat_toUInt64,UInt64.toNat_ofNat',Nat.mod_eq_of_lt (by omega)]
    refine ⟨fun same => ?_,fun same => ⟨?_,rfl⟩⟩
    · omega
    · omega

theorem sequence_advance (baseline first : UInt16) (bounded : k < 65536) :
    (if k = 0 then baseline else first + UInt16.ofNat (k - 1)).toNat = baseline.toNat + k ↔
      (k = 0 ∨ first = baseline + 1) ∧ baseline.toNat + k < 65536 := by
  have low := baseline.toNat_lt
  have high := first.toNat_lt
  split
  · rename_i none
    subst none
    simp [low]
  · rename_i some
    rw [UInt16.toNat_add,UInt16.toNat_ofNat',← UInt16.toNat_inj,UInt16.toNat_add,UInt16.toNat_one]
    omega

namespace CanCommunicationHealthTest
variable {R : Type} [IntCast R] [Div R] {test : CanCommunicationHealthTest}

def ReportsRegression (calls : List (ContextCall R)) : Prop :=
  ∃ event, .addDiagnostic event ∈ calls ∧ event.code = text "COUNTER_REGRESSION"

theorem closeWindow_regression {o : ObservationState} (runId : List UInt8) (delta : o.heartbeatDelta.ok = true) :
    ¬ReportsRegression (test.closeWindow runId o : Callback R Unit).calls := by
  rintro ⟨event,listed,_⟩
  unfold closeWindow at listed
  simp only [delta,Bool.not_true,Bool.false_eq_true,if_false] at listed
  split_ifs at listed <;> simp [addMeasurement] at listed

theorem observed_ends {observed : Observed} {latest : RuntimeTelemetrySnapshot}
    (window : test.observeWindow deadlineNs startNs (.started baseline) rounds = some observed)
    (last : observed.sampled.getLast? = some latest) :
    observed.observation.baseline = baseline ∧ observed.observation.latest = latest := by
  have folds := observeWindow_folds window
  obtain ⟨earlier,same⟩ := List.getLast?_eq_some_iff.mp last
  refine ⟨?_,?_⟩
  · rw [folds,ObservationState.folded_baseline]
    rfl
  · rw [folds,same,List.foldl_append]
    rfl

theorem heartbeat_delta_iff {before after : Supervision} {observed : Observed} (runId : List UInt8)
    (path : Reached Supervision.step before beats after) (consecutive : Supervision.Consecutive first k beats)
    (bounded : k < 65536)
    (oldest : runtimeBaseline.device = before.supervisor.deviceView nodeId baselineNow)
    (newest : runtimeLatest.device = after.supervisor.deviceView nodeId latestNow)
    (received : throughCel1 runtimeBaseline = some baseline)
    (window : test.observeWindow deadlineNs startNs (.started baseline) rounds = some observed)
    (last : observed.sampled.getLast? = throughCel1 runtimeLatest) :
    (observed.observation.heartbeatDelta = ⟨UInt64.ofNat k,{}⟩ ∧
        ¬ReportsRegression (test.closeWindow runId observed.observation : Callback R Unit).calls) ↔
      (k = 0 ∨ first = before.supervisor.lastHbSeq + 1) ∧ before.supervisor.lastHbSeq.toNat + k < 65536 := by
  rw [throughCel1_rebuilt] at received last
  obtain ⟨rebuilt,latest⟩ := observed_ends window last
  cases received
  have counted : observed.observation.heartbeatDelta =
      checkedDelta before.supervisor.lastHbSeq.toUInt64 after.supervisor.lastHbSeq.toUInt64 "heartbeat" := by
    simp only [ObservationState.heartbeatDelta,rebuilt,latest,cellStatusToSnapshot,projectCellAppStatus,oldest,newest,
      NodeSupervisor.deviceView]
  have exact := checkedDelta_sequence before.supervisor.lastHbSeq after.supervisor.lastHbSeq bounded "heartbeat"
  rw [Supervision.consecutive_last path consecutive,sequence_advance _ _ bounded,
    ← Supervision.consecutive_last path consecutive,← counted] at exact
  rw [← exact]
  refine ⟨And.left,fun delta => ⟨delta,closeWindow_regression runId ?_⟩⟩
  rw [delta]
  rfl

def beat (sequence : UInt16) : RuntimeInputEvent := {nodeId := 1,bootId := 7,sessionId := 3,hbSeq := sequence}

def beatTick (sequences : List UInt16) : List SupervisionAction :=
  sequences.map (fun sequence => .push (beat sequence)) ++ [.begin 5] ++ List.replicate (sequences.length + 1) .pop ++ [.finish]

def heard (s : Supervision) (sequences : List UInt16) : Option (List Supervision.SupervisionMoment × Supervision) :=
  replay Supervision.step [] s (beatTick sequences)

def runtimeSnapshot (s : Supervision) : RuntimeTelemetrySnapshot := {device := s.supervisor.deviceView 1 (.ok 10)}

def cel1Snapshot (s : Supervision) : RuntimeTelemetrySnapshot := cellStatusToSnapshot (projectCellAppStatus (runtimeSnapshot s))

def cel1Window (before after : Supervision) : Option Observed :=
  observeWindow {} 1000000000 0 (.started (cel1Snapshot before)) [{snapshot := cel1Snapshot after},{now := ⟨500000000,{}⟩}]

def heardSeven : Supervision := ((heard (.launched {} {} 4) [7]).get (by decide +kernel)).2

def heardNine : List Supervision.SupervisionMoment × Supervision := (heard heardSeven [8,9]).get (by decide +kernel)

def countedTwo : Observed := (cel1Window heardSeven heardNine.2).get (by decide +kernel)

theorem heartbeat_delta_two :
    countedTwo.observation.heartbeatDelta = ⟨2,{}⟩ ∧
      ¬ReportsRegression (closeWindow {} [] countedTwo.observation : Callback ℚ Unit).calls :=
  have path : Reached Supervision.step heardSeven heardNine.1 heardNine.2 := replayed_reached _ (by decide +kernel)
  have consecutive : Supervision.Consecutive 8 2 heardNine.1 := show (_ : List UInt16) = _ by decide +kernel
  have last : countedTwo.sampled.getLast? = throughCel1 (runtimeSnapshot heardNine.2) := by
    rw [throughCel1_rebuilt]
    decide +kernel
  have oldest : (runtimeSnapshot heardSeven).device = heardSeven.supervisor.deviceView 1 (.ok 10) := rfl
  have newest : (runtimeSnapshot heardNine.2).device = heardNine.2.supervisor.deviceView 1 (.ok 10) := rfl
  (heartbeat_delta_iff [] path consecutive (by decide) oldest newest (throughCel1_rebuilt _) (Option.some_get _).symm last).mpr
    (by decide +kernel)

def heardLast : Supervision := ((heard (.launched {} {} 4) [65535]).get (by decide +kernel)).2

def heardWrap : List Supervision.SupervisionMoment × Supervision := (heard heardLast [0]).get (by decide +kernel)

def countedWrap : Observed := (cel1Window heardLast heardWrap.2).get (by decide +kernel)

theorem delta_lost_at_wrap :
    Reached Supervision.step heardLast heardWrap.1 heardWrap.2 ∧ heardLast.supervisor.everSeen = true ∧
      heardLast.supervisor.lastHbSeq = 65535 ∧ Supervision.Consecutive (65535 + 1) 1 heardWrap.1 ∧
      (∀ event ∈ Supervision.heartbeats heardWrap.1,
        event.bootId = heardLast.supervisor.bootId ∧ event.sessionId = heardLast.supervisor.sessionId) ∧
      countedWrap.observation.heartbeatDelta =
        ⟨0,.rejected,text "heartbeat counter moved backwards; Runtime likely restarted"⟩ :=
  ⟨replayed_reached _ (by decide +kernel),by decide +kernel,by decide +kernel,
    show (_ : List UInt16) = _ by decide +kernel,by decide +kernel,by decide +kernel⟩

end CanCommunicationHealthTest

end RobotControlRuntime
