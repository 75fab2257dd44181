import RobotControlRuntime.TestLifecycle

-- The CAN communication health test: a call of TestRunner::run whose callbacks
-- sample Runtime snapshots over a window. Durations are whole milliseconds.
namespace RobotControlRuntime
open StepHistory

structure CanHealthCriteria where
  expectedEvidence : EvidenceClass := .vcan
  observationWindow : Int := 500
  sampleInterval : Int := 20
  testTimeout : Int := 1000
  minHeartbeatDelta : UInt64 := 3
  maxHeartbeatAge : Int := 200
  maxDecodeRejectDelta : UInt64 := 0
  maxQueueRejectDelta : UInt64 := 0
  maxInputQueueDropDelta : UInt64 := 0
  deriving DecidableEq, Repr

-- The two callbacks of the test are here their presence.
structure CanCommunicationHealthTest where
  criteria : CanHealthCriteria := {}
  snapshotProvider : Bool := true
  wait : Bool := true
  deriving DecidableEq, Repr

structure ObservationState where
  baseline : RuntimeTelemetrySnapshot := {}
  latest : RuntimeTelemetrySnapshot := {}
  samples : UInt64 := 0
  maxHeartbeatAgeNs : Int := -1
  offlineAfterSeen : Bool := false
  deriving DecidableEq, Repr

def qualityFor : EvidenceClass → MeasurementQuality
  | .physical => .valid
  | .mock | .vcan | .loopback => .simulated
  | .unspecified | .unlisted _ => .invalid

def durationNs (milliseconds : Int) : Int := milliseconds * 1000000

def validateCriteria (criteria : CanHealthCriteria) : CallResult Unit :=
  if criteria.expectedEvidence = .unspecified then
    ⟨(),.invalidArgument,text "CAN health evidence class must be explicit"⟩
  else if criteria.observationWindow ≤ 0 ∨ criteria.sampleInterval ≤ 0 ∨
      criteria.testTimeout ≤ criteria.observationWindow ∨ criteria.maxHeartbeatAge ≤ 0 ∨ criteria.minHeartbeatDelta = 0 then
    ⟨(),.invalidArgument,text "CAN health durations and heartbeat threshold are invalid"⟩
  else ⟨(),{}⟩

def checkedDelta (before after : UInt64) (name : String) : CallResult UInt64 :=
  if after < before then ⟨0,.rejected,text name ++ text " counter moved backwards; Runtime likely restarted"⟩
  else ⟨after - before,{}⟩

namespace ObservationState

def heartbeatDelta (o : ObservationState) : CallResult UInt64 :=
  checkedDelta o.baseline.device.heartbeats o.latest.device.heartbeats "heartbeat"

def decodeDelta (o : ObservationState) : CallResult UInt64 :=
  checkedDelta o.baseline.communication.decodeRejects o.latest.communication.decodeRejects "decode reject"

def queueDelta (o : ObservationState) : CallResult UInt64 :=
  checkedDelta o.baseline.communication.queueRejects o.latest.communication.queueRejects "queue reject"

def dropDelta (o : ObservationState) : CallResult UInt64 :=
  checkedDelta o.baseline.communication.inputQueueDropCount o.latest.communication.inputQueueDropCount "input queue drop"

def observe (o : ObservationState) (snapshot : RuntimeTelemetrySnapshot) : ObservationState :=
  {o with
    latest := snapshot
    samples := o.samples + 1
    maxHeartbeatAgeNs :=
      if 0 ≤ snapshot.device.heartbeatAgeNs.toInt then max o.maxHeartbeatAgeNs snapshot.device.heartbeatAgeNs.toInt
      else o.maxHeartbeatAgeNs
    offlineAfterSeen := (snapshot.device.everSeen && !snapshot.device.online) || o.offlineAfterSeen}

def started (baseline : RuntimeTelemetrySnapshot) : ObservationState := {baseline := baseline,latest := baseline}

theorem folded_baseline (o : ObservationState) (sampled : List RuntimeTelemetrySnapshot) :
    (sampled.foldl observe o).baseline = o.baseline := by
  induction sampled generalizing o with
  | nil => rfl
  | cons snapshot rest ih => exact ih (o.observe snapshot)

end ObservationState

-- One pass of the sampling loop: what it reads, and how the wait of a given
-- length ends.
structure ObservationRound where
  cancelled : Bool := false
  deadline : CallResult Int := ⟨0,{}⟩
  now : CallResult Int := ⟨0,{}⟩
  wait : Int → CallResult Unit := fun _ => ⟨(),{}⟩
  snapshot : RuntimeTelemetrySnapshot := {}

structure Observed where
  observation : ObservationState
  sampled : List RuntimeTelemetrySnapshot := []
  returns : Option (CallResult Unit) := none

structure Callback (R α : Type) where
  calls : List (ContextCall R) := []
  result : CallResult α

namespace CanCommunicationHealthTest
variable {test : CanCommunicationHealthTest}

def windowNs (test : CanCommunicationHealthTest) : Int := durationNs test.criteria.observationWindow

def intervalNs (test : CanCommunicationHealthTest) : Int := durationNs test.criteria.sampleInterval

-- None as long as there is no answer for the next pass.
def observeWindow (test : CanCommunicationHealthTest) (deadlineNs startNs : Int) :
    ObservationState → List ObservationRound → Option Observed
  | _, [] => none
  | o, round :: rest =>
    if round.cancelled then some {observation := o,returns := some ⟨(),{}⟩}
    else if !round.deadline.ok then some {observation := o,returns := some ⟨(),round.deadline.error⟩}
    else if deadlineNs ≤ round.deadline.value then some {observation := o,returns := some ⟨(),{}⟩}
    else if !round.now.ok then some {observation := o,returns := some ⟨(),round.now.error⟩}
    else
      let elapsedNs := round.now.value - startNs
      if test.windowNs ≤ elapsedNs then some {observation := o}
      else
        let waited := round.wait (min test.intervalNs (test.windowNs - elapsedNs))
        if !waited.ok then some {observation := o,returns := some ⟨(),waited.error⟩}
        else (test.observeWindow deadlineNs startNs (o.observe round.snapshot) rest).map fun observed =>
          {observed with sampled := round.snapshot :: observed.sampled}

theorem observeWindow_folds (done : test.observeWindow deadlineNs startNs o rounds = some observed) :
    observed.observation = observed.sampled.foldl ObservationState.observe o := by
  induction rounds generalizing o observed with
  | nil => cases done
  | cons round rest ih =>
      unfold observeWindow at done
      dsimp only at done
      split at done
      · cases done; rfl
      split at done
      · cases done; rfl
      split at done
      · cases done; rfl
      split at done
      · cases done; rfl
      split at done
      · cases done; rfl
      split at done
      · cases done; rfl
      · obtain ⟨later,sampled,rfl⟩ := Option.map_eq_some_iff.mp done
        have folded := ih sampled
        exact folded

def testCase (test : CanCommunicationHealthTest) : TestCaseDefinition where
  id := text "can.communication_health"
  name := text "CAN Communication Health"
  version := text "1"
  timeoutNs := durationNs test.criteria.testTimeout

section Callbacks
variable {R : Type}

def criterion (name : String) (passed : Bool) (expected actual : List UInt8) : CriterionResult :=
  ⟨text name,passed,expected,actual⟩

def addMeasurement (name unit : String) (value : R) (timestamp : Int64) (quality : MeasurementQuality) : ContextCall R :=
  .addMeasurement ⟨text name,text unit,value,timestamp.toInt,quality⟩

def addDiagnostic (runId : List UInt8) (snapshot : RuntimeTelemetrySnapshot) (source : DiagnosticSource)
    (severity : DiagnosticSeverity) (code : String) (message : List UInt8) (extraContext : List UInt8 := []) :
    ContextCall R :=
  .addDiagnostic
    {observedMonotonicNs := snapshot.observedMonotonicNs.toInt
     source := source
     severity := severity
     code := text code
     message := message
     deviceId := snapshot.device.deviceId
     runId := runId
     context := extraContext}

def copySnapshotDiagnostics (runId : List UInt8) (snapshot : RuntimeTelemetrySnapshot) : List (ContextCall R) :=
  snapshot.diagnostics.map fun event => .addDiagnostic {event with
    runId := if event.runId.isEmpty then runId else event.runId
    deviceId := if event.deviceId.isEmpty then snapshot.device.deviceId else event.deviceId}

def recordParameters (criteria : CanHealthCriteria) : List (ContextCall R) :=
  [.addParameter (text "observation_window_ms") (decimal criteria.observationWindow),
    .addParameter (text "sample_interval_ms") (decimal criteria.sampleInterval),
    .addParameter (text "test_timeout_ms") (decimal criteria.testTimeout),
    .addParameter (text "min_heartbeat_delta") (decimal criteria.minHeartbeatDelta.toNat),
    .addParameter (text "max_heartbeat_age_ms") (decimal criteria.maxHeartbeatAge),
    .addParameter (text "max_decode_reject_delta") (decimal criteria.maxDecodeRejectDelta.toNat)]

def prepare (test : CanCommunicationHealthTest) (runId : List UInt8) (o : ObservationState)
    (sampled : RuntimeTelemetrySnapshot) : ObservationState × Callback R Unit :=
  if !(validateCriteria test.criteria).ok then (o,{result := validateCriteria test.criteria})
  else if !test.snapshotProvider || !test.wait then
    (o,{result := ⟨(),.invalidArgument,text "CAN health provider and wait callback are required"⟩})
  else
    let o := {o with baseline := sampled,latest := sampled}
    let recorded := recordParameters test.criteria ++ [.setEnvironment
      ⟨sampled.communication.backend,sampled.communication.interfaceName,sampled.device.deviceId,
        text "can.communication_health",test.criteria.expectedEvidence⟩]
    if !sampled.runtime.started || !sampled.runtime.schedulerRunning then
      (o,
        {calls := recorded ++ copySnapshotDiagnostics runId sampled ++
          [addDiagnostic runId sampled .test .error "RUNTIME_NOT_RUNNING"
            (text "Runtime and scheduler must be running before CAN health")]
         result := ⟨(),.notOpen,text "Runtime and scheduler must be running before CAN health"⟩})
    else if sampled.communication.evidence ≠ test.criteria.expectedEvidence then
      (o,
        {calls := recorded ++ copySnapshotDiagnostics runId sampled ++
          [addDiagnostic runId sampled .test .error "EVIDENCE_MISMATCH"
            (text "observed evidence class does not match test criteria")
            (text "expected=" ++ test.criteria.expectedEvidence.toText ++ text ";actual=" ++
              sampled.communication.evidence.toText)]
         result := ⟨(),.rejected,text "observed evidence class does not match test criteria"⟩})
    else (o,{calls := recorded,result := ⟨(),{}⟩})

theorem prepare_observation (test : CanCommunicationHealthTest) (runId : List UInt8) (sampled : RuntimeTelemetrySnapshot) :
    ∃ baseline, (test.prepare (R := R) runId {} sampled).1 = .started baseline := by
  unfold prepare
  split
  · exact ⟨{},rfl⟩
  split
  · exact ⟨{},rfl⟩
  dsimp only
  split
  · exact ⟨sampled,rfl⟩
  split
  · exact ⟨sampled,rfl⟩
  · exact ⟨sampled,rfl⟩

variable [IntCast R] [Div R]

def closeWindow (test : CanCommunicationHealthTest) (runId : List UInt8) (o : ObservationState) : Callback R Unit :=
  let quality := qualityFor test.criteria.expectedEvidence
  let measured : List (ContextCall R) :=
    [addMeasurement "sample_count" "count" (o.samples.toNat : Int) o.latest.observedMonotonicNs quality,
      addMeasurement "max_heartbeat_age" "ms"
        (if o.maxHeartbeatAgeNs < 0 then ((-1 : Int) : R) else (o.maxHeartbeatAgeNs : R) / ((1000000 : Int) : R))
        o.latest.observedMonotonicNs quality]
  if !o.heartbeatDelta.ok then
    {calls := measured ++
      [addDiagnostic runId o.latest .test .error "COUNTER_REGRESSION" o.heartbeatDelta.error.message]
     result := ⟨(),o.heartbeatDelta.error⟩}
  else if !o.decodeDelta.ok then {calls := measured,result := ⟨(),o.decodeDelta.error⟩}
  else if !o.queueDelta.ok then {calls := measured,result := ⟨(),o.queueDelta.error⟩}
  else {calls := measured,result := ⟨(),o.dropDelta.error⟩}

def execute (test : CanCommunicationHealthTest) (runId : List UInt8) (deadlineNs : Int) (o : ObservationState)
    (start : CallResult Int) (rounds : List ObservationRound) :
    Option (ObservationState × List RuntimeTelemetrySnapshot × Callback R Unit) :=
  if !start.ok then some (o,[],{result := ⟨(),start.error⟩})
  else (test.observeWindow deadlineNs start.value o rounds).map fun observed =>
    (observed.observation,observed.sampled,
      match observed.returns with
      | some result => {result := result}
      | none => test.closeWindow runId observed.observation)

theorem execute_folds {done : Callback R Unit}
    (ran : test.execute runId deadlineNs o clock rounds = some (after,sampled,done)) :
    after = sampled.foldl ObservationState.observe o := by
  unfold execute at ran
  split at ran
  · cases ran; rfl
  · obtain ⟨observed,watched,same⟩ := Option.map_eq_some_iff.mp ran
    cases same
    exact observeWindow_folds watched

def communicationHealthy (snapshot : RuntimeTelemetrySnapshot) : Bool :=
  !snapshot.communication.inputQueueOverflowLatched && !snapshot.device.commLossLatched &&
    !snapshot.device.overflowFaultLatched && snapshot.device.deviceFaultCode == 0 &&
    snapshot.communication.stopReason == .none

def runtimeHealthy (snapshot : RuntimeTelemetrySnapshot) : Bool :=
  snapshot.runtime.started && snapshot.runtime.schedulerRunning && snapshot.runtime.fault == .none

def fresh (test : CanCommunicationHealthTest) (o : ObservationState) : Bool :=
  0 ≤ o.maxHeartbeatAgeNs && o.maxHeartbeatAgeNs ≤ durationNs test.criteria.maxHeartbeatAge

def judgements (test : CanCommunicationHealthTest) (o : ObservationState) : List CriterionResult :=
  [criterion "heartbeat progress" (test.criteria.minHeartbeatDelta ≤ o.heartbeatDelta.value)
      (text ">=" ++ decimal test.criteria.minHeartbeatDelta.toNat) (decimal o.heartbeatDelta.value.toNat),
    criterion "heartbeat freshness" (test.fresh o) (text "0.." ++ decimal test.criteria.maxHeartbeatAge ++ text " ms")
      (if o.maxHeartbeatAgeNs < 0 then text "unavailable" else decimal (o.maxHeartbeatAgeNs / 1000000) ++ text " ms"),
    criterion "device remained online" (o.latest.device.online && !o.offlineAfterSeen)
      (text "online for observation window")
      (if o.latest.device.online && !o.offlineAfterSeen then text "online" else text "offline observed"),
    criterion "decode rejects" (o.decodeDelta.value ≤ test.criteria.maxDecodeRejectDelta)
      (text "<=" ++ decimal test.criteria.maxDecodeRejectDelta.toNat) (decimal o.decodeDelta.value.toNat),
    criterion "queue rejects" (o.queueDelta.value ≤ test.criteria.maxQueueRejectDelta)
      (text "<=" ++ decimal test.criteria.maxQueueRejectDelta.toNat) (decimal o.queueDelta.value.toNat),
    criterion "input queue drops" (o.dropDelta.value ≤ test.criteria.maxInputQueueDropDelta)
      (text "<=" ++ decimal test.criteria.maxInputQueueDropDelta.toNat) (decimal o.dropDelta.value.toNat),
    criterion "runtime remained healthy" (runtimeHealthy o.latest) (text "started, scheduler running, fault NONE")
      o.latest.runtime.fault.toText,
    criterion "communication fault flags" (communicationHealthy o.latest)
      (text "no latched fault and I/O stop reason NONE")
      (if communicationHealthy o.latest then text "clear" else text "fault or I/O stop observed")]

def complaints (test : CanCommunicationHealthTest) (runId : List UInt8) (o : ObservationState) : List (ContextCall R) :=
  (if o.heartbeatDelta.value < test.criteria.minHeartbeatDelta then
      [addDiagnostic runId o.latest .communication .error "HEARTBEAT_STALLED"
        (text "heartbeat count did not increase enough")]
    else []) ++
  (if test.fresh o then []
    else [addDiagnostic runId o.latest .communication .error "HEARTBEAT_STALE"
      (text "heartbeat age exceeded freshness threshold")]) ++
  (if !o.latest.device.online || o.offlineAfterSeen then
      [addDiagnostic runId o.latest .device .error "DEVICE_OFFLINE"
        (text "device left the online state during the window")]
    else []) ++
  if test.criteria.maxDecodeRejectDelta < o.decodeDelta.value then
    [addDiagnostic runId o.latest .communication .error "MALFORMED_FRAME"
      (text "decode rejects increased during the observation window")
      (text "delta=" ++ decimal o.decodeDelta.value.toNat)]
  else []

def failedCriteria (runId : List UInt8) (snapshot : RuntimeTelemetrySnapshot) (criteria : List CriterionResult) :
    List (ContextCall R) :=
  (criteria.filter (!·.passed)).map fun item =>
    addDiagnostic runId snapshot .test .error "CRITERION_FAILED"
      (item.name ++ text " expected " ++ item.expected ++ text " actual " ++ item.actual) (text "criterion=" ++ item.name)

def evaluate (test : CanCommunicationHealthTest) (runId : List UInt8) (o : ObservationState) :
    Callback R TestEvaluation :=
  if !o.heartbeatDelta.ok then {result := ⟨{},o.heartbeatDelta.error⟩}
  else if !o.decodeDelta.ok then {result := ⟨{},o.decodeDelta.error⟩}
  else if !o.queueDelta.ok then {result := ⟨{},o.queueDelta.error⟩}
  else if !o.dropDelta.ok then {result := ⟨{},o.dropDelta.error⟩}
  else
    let quality := qualityFor test.criteria.expectedEvidence
    let measure (name : String) (delta : CallResult UInt64) : ContextCall R :=
      addMeasurement name "count" (delta.value.toNat : Int) o.latest.observedMonotonicNs quality
    let criteria := test.judgements o
    let passed := criteria.all (·.passed)
    {calls :=
      [measure "heartbeat_delta" o.heartbeatDelta,measure "decode_reject_delta" o.decodeDelta,
        measure "queue_reject_delta" o.queueDelta,measure "input_queue_drop_delta" o.dropDelta] ++
        copySnapshotDiagnostics runId o.latest ++ test.complaints runId o ++
        if passed then [] else failedCriteria runId o.latest criteria
     result :=
      ⟨{passed := passed
        summary :=
          if passed then text "CAN communication health criteria passed" else text "CAN communication health criteria failed"
        criteria := criteria},{}⟩}

end Callbacks

def Passing (test : CanCommunicationHealthTest) (o : ObservationState) : Prop :=
  (test.judgements o).all (·.passed) = true

theorem evaluate_passing {R : Type} [IntCast R]
    (passed : (test.evaluate (R := R) runId o).result.value.passed = true) : test.Passing o := by
  unfold evaluate at passed
  split at passed
  · cases passed
  split at passed
  · cases passed
  split at passed
  · cases passed
  split at passed
  · cases passed
  · exact passed

end CanCommunicationHealthTest

-- The run with the observation its callbacks share, and the snapshots execute
-- took from the provider, the oldest first.
structure HealthRun (R : Type) where
  run : RunState R
  observation : ObservationState := {}
  sampled : List RuntimeTelemetrySnapshot := []
  deriving DecidableEq

structure HealthInputs where
  running : Bool := false
  cancelled : Bool := false
  clock : CallResult Int := ⟨0,{}⟩
  wall : CallResult Int := ⟨0,{}⟩
  baseline : RuntimeTelemetrySnapshot := {}
  rounds : List ObservationRound := []

namespace CanCommunicationHealthTest
section Runs
variable {R : Type}

def start (test : CanCommunicationHealthTest) (runId : List UInt8) : HealthRun R := {run := RunState.start runId test.testCase}

structure Watched (test : CanCommunicationHealthTest) (s : HealthRun R) : Prop where
  undecided : 7 ≤ s.run.point.rank → s.run.result.outcome = .error
  untouched : 19 ≤ s.run.point.rank → s.observation = {} ∧ s.sampled = []
  folds : s.observation = s.sampled.foldl ObservationState.observe (.started s.observation.baseline)
  checking : ∀ evaluation, s.run.point.checking = some evaluation → evaluation.passed = true → test.Passing s.observation
  passed : s.run.result.outcome = .passed → test.Passing s.observation

theorem start_watched (test : CanCommunicationHealthTest) (runId : List UInt8) : Watched test (test.start runId : HealthRun R) where
  undecided := fun _ => rfl
  untouched := fun _ => ⟨rfl,rfl⟩
  folds := rfl
  checking := by
    intro evaluation absurdity
    cases absurdity
  passed := by
    intro absurdity
    cases absurdity

variable [Zero R] {test : CanCommunicationHealthTest} {s next : HealthRun R}

-- A callback runs before anything is decided, and before any check but its own.
theorem called_watched (watched : Watched test s) (ran : runStep test.testCase s.run call = some next.run)
    (called : 11 ≤ s.run.point.rank ∧ s.run.point.rank ≤ 19)
    (folds : next.observation = next.sampled.foldl ObservationState.observe (.started next.observation.baseline))
    (checking : ∀ evaluation, next.run.point.checking = some evaluation → evaluation.passed = true →
      test.Passing next.observation) : Watched test next where
  undecided := step_undecided watched.undecided ran
  untouched := by
    have fewer := step_rank ran
    intro early
    omega
  folds := folds
  checking := checking
  passed := fun passed => absurd passed (early_unpassed watched.undecided ran called.1)

theorem unevaluated_checking (ran : runStep test.testCase s.run call = some next.run)
    (point : s.run.point = .prepare ∨ s.run.point = .execute) : next.run.point.checking ≠ some evaluation := by
  intro checking
  rcases step_checking ran checking with ⟨before,_⟩ | ⟨before,_⟩ <;> rw [before] at point <;> simp at point

variable [IntCast R] [Div R]

def step (test : CanCommunicationHealthTest) (s : HealthRun R) (inputs : HealthInputs) : Option (HealthRun R) :=
  match s.run.point with
  | .prepare =>
    let (o,done) := test.prepare s.run.result.runId s.observation inputs.baseline
    (runStep test.testCase s.run {calls := done.calls,step := done.result}).map fun run =>
      {s with run := run,observation := o}
  | .execute =>
    match test.execute s.run.result.runId s.run.deadlineNs s.observation inputs.clock inputs.rounds with
    | none => none
    | some (o,sampled,done) =>
      (runStep test.testCase s.run {calls := done.calls,step := done.result}).map fun run =>
        ⟨run,o,s.sampled ++ sampled⟩
  | .evaluate =>
    let done := test.evaluate s.run.result.runId s.observation
    (runStep test.testCase s.run {calls := done.calls,evaluation := done.result}).map fun run => {s with run := run}
  | .cleanup => (runStep test.testCase s.run {}).map fun run => {s with run := run}
  | _ =>
    (runStep test.testCase s.run
      {running := inputs.running,cancelled := inputs.cancelled,clock := inputs.clock,wall := inputs.wall}).map fun run =>
        {s with run := run}

variable {inputs : HealthInputs}

inductive Steps (test : CanCommunicationHealthTest) (s next : HealthRun R) (call : RunInputs R) : Prop where
  | prepared (sampled : RuntimeTelemetrySnapshot) (point : s.run.point = .prepare)
      (observation : next.observation = (test.prepare (R := R) s.run.result.runId s.observation sampled).1)
      (kept : next.sampled = s.sampled)
  | executed (sampled : List RuntimeTelemetrySnapshot) (point : s.run.point = .execute)
      (observation : next.observation = sampled.foldl ObservationState.observe s.observation)
      (more : next.sampled = s.sampled ++ sampled)
  | evaluated (point : s.run.point = .evaluate) (observation : next.observation = s.observation)
      (kept : next.sampled = s.sampled)
      (verdict : call.evaluation = (test.evaluate (R := R) s.run.result.runId s.observation).result)
  | other (point : s.run.point ≠ .evaluate) (observation : next.observation = s.observation)
      (kept : next.sampled = s.sampled)

theorem step_exact (taken : test.step s inputs = some next) :
    ∃ call, runStep test.testCase s.run call = some next.run ∧ Steps test s next call := by
  unfold step at taken
  split at taken
  · rename_i point
    obtain ⟨run,ran,rfl⟩ := Option.map_eq_some_iff.mp taken
    exact ⟨_,ran,.prepared inputs.baseline point rfl rfl⟩
  · rename_i point
    split at taken
    · cases taken
    · rename_i executed
      obtain ⟨run,ran,rfl⟩ := Option.map_eq_some_iff.mp taken
      exact ⟨_,ran,.executed _ point (execute_folds executed) rfl⟩
  · rename_i point
    obtain ⟨run,ran,rfl⟩ := Option.map_eq_some_iff.mp taken
    exact ⟨_,ran,.evaluated point rfl rfl rfl⟩
  · rename_i point
    obtain ⟨run,ran,rfl⟩ := Option.map_eq_some_iff.mp taken
    exact ⟨_,ran,.other (by simp [point]) rfl rfl⟩
  · rename_i point _
    obtain ⟨run,ran,rfl⟩ := Option.map_eq_some_iff.mp taken
    exact ⟨_,ran,.other point rfl rfl⟩

theorem watched_step (watched : Watched test s) (taken : test.step s inputs = some next) : Watched test next := by
  obtain ⟨call,ran,steps⟩ := step_exact taken
  cases steps with
  | prepared sampled point observation kept =>
      have rank : s.run.point.rank = 19 := by
        rw [point]
        rfl
      obtain ⟨untouched,empty⟩ := watched.untouched (by omega)
      obtain ⟨baseline,started⟩ := prepare_observation (R := R) test s.run.result.runId sampled
      rw [untouched,started] at observation
      refine called_watched watched ran (by omega) ?_ fun _ checking => absurd checking (unevaluated_checking ran (.inl point))
      rw [kept,empty,observation]
      rfl
  | executed sampled point observation more =>
      have rank : s.run.point.rank = 15 := by
        rw [point]
        rfl
      refine called_watched watched ran (by omega) ?_ fun _ checking => absurd checking (unevaluated_checking ran (.inr point))
      rw [more,List.foldl_append,observation,ObservationState.folded_baseline,← watched.folds]
  | evaluated point observation kept verdict =>
      have rank : s.run.point.rank = 11 := by
        rw [point]
        rfl
      refine called_watched watched ran (by omega) ?_ fun evaluation checking passes => ?_
      · rw [observation,kept]
        exact watched.folds
      · rcases step_checking ran checking with ⟨_,_,value,_⟩ | ⟨before,_⟩
        · rw [verdict] at value
          rw [← value] at passes
          rw [observation]
          exact evaluate_passing passes
        · rw [point] at before
          cases before
  | other point observation kept =>
      have fewer := step_rank ran
      constructor
      · exact step_undecided watched.undecided ran
      · intro early
        rw [observation,kept]
        exact watched.untouched (by omega)
      · rw [observation,kept]
        exact watched.folds
      · intro evaluation checking passes
        rw [observation]
        rcases step_checking ran checking with ⟨before,_⟩ | ⟨before,_⟩
        · exact absurd before point
        · exact watched.checking evaluation (by rw [before]; rfl) passes
      · intro passed
        rw [observation]
        rcases passed_step ran passed with before | ⟨evaluation,checking,passes⟩
        · exact watched.passed before
        · exact watched.checking evaluation checking passes

theorem reached_watched (path : Reached test.step (test.start runId : HealthRun R) history s) : Watched test s :=
  reached_invariant (fun _ s => Watched test s) (start_watched test runId) (fun _ _ _ _ watched taken => watched_step watched taken)
    path

end Runs

variable {test : CanCommunicationHealthTest}

structure Healthy (snapshot : RuntimeTelemetrySnapshot) : Prop where
  online : snapshot.device.online = true
  started : snapshot.runtime.started = true
  scheduled : snapshot.runtime.schedulerRunning = true
  unfaulted : snapshot.runtime.fault = .none

theorem passing_latest {o : ObservationState} (passing : test.Passing o) :
    Healthy o.latest ∧ o.offlineAfterSeen = false := by
  simp only [Passing,judgements,criterion,List.all_cons,Bool.and_eq_true,runtimeHealthy,beq_iff_eq,
    Bool.not_eq_true'] at passing
  obtain ⟨_,_,⟨online,seen⟩,_,_,_,⟨⟨started,scheduled⟩,unfaulted⟩,_⟩ := passing
  exact ⟨⟨online,started,scheduled,unfaulted⟩,seen⟩

theorem folded_offline (o : ObservationState) (sampled : List RuntimeTelemetrySnapshot) :
    (sampled.foldl ObservationState.observe o).offlineAfterSeen = false ↔
      o.offlineAfterSeen = false ∧ ∀ snapshot ∈ sampled, snapshot.device.everSeen = true → snapshot.device.online = true := by
  induction sampled generalizing o with
  | nil => simp
  | cons snapshot rest ih =>
      rw [List.foldl_cons,ih,List.forall_mem_cons,← and_assoc]
      refine and_congr_left fun _ => ?_
      cases seen : snapshot.device.everSeen <;> simp [ObservationState.observe,seen,and_comm]

section Verdict
variable {R : Type} [Zero R] [IntCast R] [Div R] {s : HealthRun R}

theorem remained_healthy_iff (path : Reached test.step (test.start runId : HealthRun R) history s)
    (passed : s.run.result.outcome = .passed) :
    (∀ snapshot ∈ s.sampled, Healthy snapshot) ↔
      ∀ snapshot ∈ s.sampled.dropLast, (snapshot.device.everSeen = true ∨ snapshot.device.online = true) ∧
        snapshot.runtime.started = true ∧ snapshot.runtime.schedulerRunning = true ∧ snapshot.runtime.fault = .none := by
  have watched := reached_watched path
  obtain ⟨latest,seen⟩ := passing_latest (watched.passed passed)
  have folds := watched.folds
  rw [folds,folded_offline] at seen
  constructor
  · intro healthy snapshot earlier
    obtain ⟨online,started,scheduled,unfaulted⟩ := healthy snapshot ((List.dropLast_sublist _).subset earlier)
    exact ⟨.inr online,started,scheduled,unfaulted⟩
  · intro earlier snapshot sampled
    rcases List.eq_nil_or_concat' s.sampled with none | ⟨before,last,same⟩
    · rw [none] at sampled
      cases sampled
    rw [same,List.dropLast_concat] at earlier
    rw [same,List.foldl_append] at folds
    have newest : s.observation.latest = last := by rw [folds]; rfl
    rw [same,List.mem_append,List.mem_singleton] at sampled
    rcases sampled with member | rfl
    · obtain ⟨known,started,scheduled,unfaulted⟩ := earlier snapshot member
      have online := known.elim (seen.2 snapshot (by rw [same]; exact List.mem_append_left _ member)) id
      exact ⟨online,started,scheduled,unfaulted⟩
    · exact newest ▸ latest

end Verdict

def steadySnapshot (heartbeats : UInt64) : RuntimeTelemetrySnapshot where
  runtime := {started := true,schedulerRunning := true}
  communication := {evidence := .vcan}
  device := {everSeen := true,online := true,heartbeatAgeNs := 1000000,heartbeats := heartbeats}

def sampling (snapshots : List RuntimeTelemetrySnapshot) : HealthInputs where
  baseline := steadySnapshot 10
  rounds := (snapshots.map fun snapshot => {snapshot := snapshot}) ++ [{now := ⟨500000000,{}⟩}]

def sampledRun (snapshots : List RuntimeTelemetrySnapshot) :
    Option (List (Moment (HealthRun ℚ) HealthInputs) × HealthRun ℚ) :=
  replay (step {}) [] (start {} (text "run")) (List.replicate 27 (sampling snapshots))

def steadyRun : List (Moment (HealthRun ℚ) HealthInputs) × HealthRun ℚ :=
  (sampledRun [steadySnapshot 11,steadySnapshot 14]).get (by decide +kernel)

theorem remained_healthy_steady :
    steadyRun.2.run.point = .returned ∧ steadyRun.2.run.result.outcome = .passed ∧ steadyRun.2.sampled.length = 2 ∧
      ((∀ snapshot ∈ steadyRun.2.sampled, Healthy snapshot) ↔
        ∀ snapshot ∈ steadyRun.2.sampled.dropLast, (snapshot.device.everSeen = true ∨ snapshot.device.online = true) ∧
          snapshot.runtime.started = true ∧ snapshot.runtime.schedulerRunning = true ∧ snapshot.runtime.fault = .none) :=
  have path : Reached (step {}) (start {} (text "run")) steadyRun.1 steadyRun.2 := replayed_reached _ (by decide +kernel)
  ⟨by decide +kernel,by decide +kernel,by decide +kernel,remained_healthy_iff path (by decide +kernel)⟩

def lostSampleRun : List (Moment (HealthRun ℚ) HealthInputs) × HealthRun ℚ :=
  (sampledRun [steadySnapshot 11,{},steadySnapshot 14]).get (by decide +kernel)

theorem pass_over_lost_sample :
    Reached (step {}) (start {} (text "run")) lostSampleRun.1 lostSampleRun.2 ∧
      lostSampleRun.2.run.point = .returned ∧ lostSampleRun.2.run.result.outcome = .passed ∧
      ∃ snapshot ∈ lostSampleRun.2.sampled, snapshot.device.online = false ∧ snapshot.runtime.started = false ∧
        snapshot.runtime.schedulerRunning = false :=
  ⟨replayed_reached _ (by decide +kernel),by decide +kernel,by decide +kernel,{},by decide +kernel,rfl,rfl,rfl⟩

end CanCommunicationHealthTest

end RobotControlRuntime
