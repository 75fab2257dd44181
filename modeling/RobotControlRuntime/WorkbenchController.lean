import RobotControlRuntime.CellApp

-- The Modbus side of the Qt workbench: the controller of the UI thread, the agent
-- worker on its own thread and the two queues of signals between them.
namespace RobotControlRuntime
open StepHistory

inductive ModbusBackend where
  | mock | physical
  deriving DecidableEq, Repr

def allModbusIoChannels : UInt8 := 0xff

structure ModbusIoCommandReply where
  status : ModbusIoCommandStatus := .rejected
  channel : UInt8 := allModbusIoChannels
  requested : Bool := false
  confirmed : Bool := false
  message : List UInt8 := []
  deriving DecidableEq, Repr

structure WorkbenchIoSnapshot extends ModbusIoSnapshot where
  agentPeer : List UInt8 := text "n/a"
  deriving DecidableEq, Repr

-- A QString is a list of characters. Nothing is assumed of what Qt makes of one.
structure QtString where
  toStdString : List Char → List UInt8
  trimmed : List Char → List Char
  toInt : List Char → Option Int

variable (qt : QtString)

def makeUnprobedPhysical (peer : List Char) : WorkbenchIoSnapshot where
  backend := text "PHYSICAL"
  evidence := .physical
  noPhysicalRs485 := false
  transport := text "Modbus RTU"
  serialPort := text "NOT CONNECTED"
  agentPeer := qt.toStdString peer
  sku := text "MR0-IOR08"
  baudRate := 9600
  baudRatePlaceholder := 9600
  parity := text "None"
  parityPlaceholder := text "None"
  deviceState := .unknown
  scanState := .unknown
  digitalInputs := .ofFn fun channel => {channel := UInt8.ofNat channel.val}
  digitalOutputs := .ofFn fun channel => {channel := UInt8.ofNat channel.val}

inductive WorkerRequest where
  | probe (host : List Char) (port : UInt16) | readDi | writeDo (channel : Int) (active : Bool) | allOff
  deriving DecidableEq, Repr

inductive MockCall where
  | beginScan | writeDigitalOutput (channel : Int) (active : Bool) | writeAllOutputsOff
  deriving DecidableEq, Repr

inductive ControllerSignal where
  | commandCompleted (reply : ModbusIoCommandReply)
  | snapshotReady (snapshot : WorkbenchIoSnapshot)
  | mockSnapshotReady
  | mock (call : MockCall)
  | requested (request : WorkerRequest)
  deriving DecidableEq

def ControllerSignal.request : ControllerSignal → Option WorkerRequest
  | .requested request => some request
  | _ => none

structure WorkerResult where
  snapshot : WorkbenchIoSnapshot
  reply : ModbusIoCommandReply
  userVisible : Bool
  deriving DecidableEq

-- Whether there is an edge application is fixed when the controller is made.
structure WorkbenchController where
  cellPeer : Bool
  backend : ModbusBackend := .mock
  agentPeer : List Char := "192.168.1.22:5740".toList
  physicalSnapshot : WorkbenchIoSnapshot
  requestRunning : Bool := false
  commandBlocked : Bool := false
  cellReadyMapper : CellReadyMapper := {}
  deriving DecidableEq

namespace WorkbenchController

def construct (cellPeer : Bool) : WorkbenchController where
  cellPeer := cellPeer
  physicalSnapshot := makeUnprobedPhysical qt "192.168.1.22:5740".toList

def publishActive (c : WorkbenchController) : ControllerSignal :=
  match c.backend with
  | .physical => .snapshotReady c.physicalSnapshot
  | .mock => .mockSnapshotReady

def publishReply (c : WorkbenchController) (reply : ModbusIoCommandReply) : WorkbenchController × List ControllerSignal :=
  (c,[.commandCompleted reply,c.publishActive])

def physicalOutputsLive (c : WorkbenchController) : Bool :=
  c.backend == .physical && !c.commandBlocked && c.physicalSnapshot.deviceState == .online

def resetPhysicalSnapshot (c : WorkbenchController) : WorkbenchController :=
  {c with physicalSnapshot := makeUnprobedPhysical qt c.agentPeer}

def parseAgentPeer (c : WorkbenchController) : Option (List Char × UInt16) :=
  match c.agentPeer.reverse.span (· != ':') with
  | (_,[]) => none
  | (port,_ :: host) =>
    if host.isEmpty then none
    else match qt.toInt port.reverse with
      | none => none
      | some parsed => if parsed ≤ 0 ∨ 65535 < parsed then none else some (host.reverse,UInt16.ofNat parsed.toNat)

def requestModbusScan (c : WorkbenchController) : WorkbenchController × List ControllerSignal :=
  match c.backend with
  | .mock => (c,[.mock .beginScan,.mockSnapshotReady])
  | .physical =>
    if c.requestRunning then (c,[])
    else match c.parseAgentPeer qt with
      | none =>
        let c := {c with physicalSnapshot :=
          {c.physicalSnapshot with lastError := text "invalid agent peer host:port",deviceState := .error}}
        (c,[.snapshotReady c.physicalSnapshot])
      | some (host,port) =>
        let c := {c with
          requestRunning := true
          physicalSnapshot := {c.physicalSnapshot with scanState := .scanning,agentPeer := qt.toStdString c.agentPeer}}
        (c,[.snapshotReady c.physicalSnapshot,.requested (.probe host port)])

def refusal (c : WorkbenchController) (offline : String) (busyChannel : UInt8) (active : Bool) :
    Option ModbusIoCommandReply :=
  if c.commandBlocked then
    some {requested := active,message := text "probe required after timeout; no stale DO replay"}
  else if !c.physicalOutputsLive then some {requested := active,message := text offline}
  else if c.requestRunning then
    some {status := .busy,channel := busyChannel,requested := active,message := text "PHYSICAL request already in flight"}
  else none

def isChannel (channel : Int) : Bool := 0 ≤ channel && channel < modbusIoChannelCount

def pending (output : DigitalOutputState) (active : Bool) : DigitalOutputState :=
  {output with requested := active,lastStatus := .none}

def requestDigitalOutput (c : WorkbenchController) (channel : Int) (active : Bool) :
    WorkbenchController × List ControllerSignal :=
  if c.cellPeer && channel == 0 then
    c.publishReply {channel := 0,requested := active,message := text "DO0 is edge-owned Cell Ready output"}
  else match c.backend with
    | .physical =>
      match c.refusal "PHYSICAL DO requires ONLINE" (UInt8.ofInt channel) active with
      | some reply => c.publishReply reply
      | none =>
        if !isChannel channel then
          c.publishReply {status := .invalidChannel,requested := active,message := text "PHYSICAL DO channel must be in range 0..3"}
        else
          let snapshot := {c.physicalSnapshot with
            digitalOutputs := c.physicalSnapshot.digitalOutputs.mapIdx fun i output =>
              if i = channel.toNat then pending output active else output}
          ({c with physicalSnapshot := snapshot,requestRunning := true},
            [.snapshotReady snapshot,.requested (.writeDo channel active)])
    | .mock =>
      if !isChannel channel then
        c.publishReply
          {status := .invalidChannel
           requested := active
           message := text "MOCK / NO PHYSICAL RS485: DO channel must be in range 0..3"}
      else (c,[.mock (.writeDigitalOutput channel active),.mockSnapshotReady])

def requestAllOutputsOff (c : WorkbenchController) : WorkbenchController × List ControllerSignal :=
  match c.backend with
  | .physical =>
    match c.refusal "PHYSICAL ALL OFF requires ONLINE" allModbusIoChannels false with
    | some reply => c.publishReply reply
    | none =>
      let snapshot := {c.physicalSnapshot with
        digitalOutputs := c.physicalSnapshot.digitalOutputs.map (pending · false)}
      ({c with physicalSnapshot := snapshot,requestRunning := true},[.snapshotReady snapshot,.requested .allOff])
  | .mock => (c,[.mock .writeAllOutputsOff,.mockSnapshotReady])

def selectMockModbusBackend (c : WorkbenchController) : WorkbenchController × List ControllerSignal :=
  match c.backend with
  | .mock => (c,[c.publishActive])
  | .physical =>
    let c := {c with
      backend := .mock,requestRunning := false,commandBlocked := false,cellReadyMapper := c.cellReadyMapper.noteModbusOffline}
    (c,[c.publishActive])

def selectPhysicalModbusBackend (c : WorkbenchController) : WorkbenchController × List ControllerSignal :=
  let c := resetPhysicalSnapshot qt
    {c with backend := .physical,commandBlocked := false,cellReadyMapper := c.cellReadyMapper.noteModbusOffline}
  (c,[c.publishActive])

def setModbusAgentPeer (c : WorkbenchController) (peer : List Char) : WorkbenchController × List ControllerSignal :=
  let c := {c with agentPeer := qt.trimmed peer}
  match c.backend with
  | .mock => (c,[])
  | .physical =>
    let c := {c with physicalSnapshot := {c.physicalSnapshot with agentPeer := qt.toStdString c.agentPeer}}
    (c,[c.publishActive])

def disconnectPhysicalModbus (c : WorkbenchController) : WorkbenchController × List ControllerSignal :=
  let c := {c with requestRunning := false,commandBlocked := false,cellReadyMapper := c.cellReadyMapper.noteModbusOffline}
  match c.backend with
  | .mock => (c,[])
  | .physical =>
    let c := c.resetPhysicalSnapshot qt
    let c := {c with physicalSnapshot := {c.physicalSnapshot with lastError := text "disconnected"}}
    (c,[c.publishActive])

def applyCellReadyOutput (c : WorkbenchController) (decision : CellReadyDecision) :
    WorkbenchController × List ControllerSignal :=
  if c.backend != .mock && !c.physicalOutputsLive then
    ({c with cellReadyMapper := c.cellReadyMapper.noteModbusOffline},[])
  else if c.requestRunning then (c,[])
  else
    let (mapper,action) := c.cellReadyMapper.observe decision true
    let c := {c with cellReadyMapper := mapper}
    match action with
    | .none => (c,[])
    | .requestOn => c.requestDigitalOutput 0 true
    | .requestOff => c.requestDigitalOutput 0 false

-- With an edge application the mapper runs there; `snapshot` is the adapter's.
def publishSnapshot (c : WorkbenchController) (snapshot : RuntimeTelemetrySnapshot) :
    WorkbenchController × List ControllerSignal :=
  if c.cellPeer then (c,[c.publishActive])
  else
    let (c,signals) := c.applyCellReadyOutput (evaluateCellReady snapshot)
    (c,signals ++ [c.publishActive])

def tickPhysicalModbusPoll (c : WorkbenchController) : WorkbenchController × List ControllerSignal :=
  if c.cellPeer then (c,[])
  else if c.backend ≠ .physical ∨ c.requestRunning ∨ c.commandBlocked ∨ c.physicalSnapshot.deviceState ≠ .online then (c,[])
  else ({c with requestRunning := true},[.requested .readDi])

def applyPhysicalTransaction (c : WorkbenchController) (result : WorkerResult) :
    WorkbenchController × List ControllerSignal :=
  let c := {c with requestRunning := false}
  match c.backend with
  | .mock => (c,[])
  | .physical =>
    let snapshot := {result.snapshot with agentPeer := qt.toStdString c.agentPeer}
    let blocked := snapshot.deviceState != .online
    let mapper := if blocked then c.cellReadyMapper.noteModbusOffline else c.cellReadyMapper
    ({c with physicalSnapshot := snapshot,commandBlocked := blocked,cellReadyMapper := mapper},
      (if result.userVisible then [.commandCompleted result.reply] else []) ++ [.snapshotReady snapshot])

end WorkbenchController

structure ModbusAgentWorker where
  connected : Bool := false
  lastHost : List Char := []
  lastPort : UInt16 := 0
  deriving DecidableEq, Repr

structure WorkerAnswer where
  connect : Result Unit := .ok ()
  call : Result ModbusIoSnapshot
  connected : Bool := true

namespace ModbusAgentWorker

def peerName (host : List Char) (port : UInt16) : List Char := host ++ ':' :: Nat.toDigits 10 port.toNat

def emitTransportFailure (error : Error) (peer : List Char) : WorkerResult :=
  let status : ModbusIoCommandStatus := if error.code = .timeout then .timeout else .rejected
  {snapshot := {makeUnprobedPhysical qt peer with
    lastError := text error.message
    deviceState := if error.code = .timeout then .timeout else .error
    lastCommandStatus := status}
   reply := {status := status,message := text error.message}
   userVisible := true}

def emitResult (call : Result ModbusIoSnapshot) (peer : List Char) (userVisible : Bool) : WorkerResult :=
  match call with
  | .error error => emitTransportFailure qt error peer
  | .ok snapshot =>
    {snapshot := {snapshot with agentPeer := qt.toStdString peer}
     reply :=
      {status := snapshot.lastCommandStatus
       message := if snapshot.lastError.isEmpty then text "PHYSICAL transaction confirmed" else snapshot.lastError}
     userVisible := userVisible || snapshot.deviceState != .online}

def probe (worker : ModbusAgentWorker) (host : List Char) (port : UInt16) (answer : WorkerAnswer) :
    ModbusAgentWorker × WorkerResult :=
  let peer := peerName host port
  if !worker.connected || host != worker.lastHost || port != worker.lastPort then
    match answer.connect with
    | .error error => ({worker with connected := answer.connected},emitTransportFailure qt error peer)
    | .ok () => (⟨answer.connected,host,port⟩,emitResult qt answer.call peer true)
  else ({worker with connected := answer.connected},emitResult qt answer.call peer true)

def transact (worker : ModbusAgentWorker) (answer : WorkerAnswer) (userVisible : Bool) : ModbusAgentWorker × WorkerResult :=
  let peer := peerName worker.lastHost worker.lastPort
  if !worker.connected then (worker,emitTransportFailure qt ⟨.notOpen,"agent client not connected"⟩ peer)
  else ({worker with connected := answer.connected},emitResult qt answer.call peer userVisible)

def perform (worker : ModbusAgentWorker) (answer : WorkerAnswer) : WorkerRequest → ModbusAgentWorker × WorkerResult
  | .probe host port => worker.probe qt host port answer
  | .readDi => worker.transact qt answer false
  | .writeDo _ _ | .allOff => worker.transact qt answer true

end ModbusAgentWorker

-- Both threads with the signals under way between them, the oldest first. Each is
-- marked with the number of backend selections and disconnects before its request;
-- `appliedFrom` is the mark of the result that the physical snapshot comes from.
structure Workbench where
  controller : WorkbenchController
  worker : ModbusAgentWorker := {}
  requests : List (Nat × WorkerRequest) := []
  results : List (Nat × WorkerResult) := []
  selections : Nat := 0
  appliedFrom : Option Nat := none
  deriving DecidableEq

inductive WorkbenchAction where
  | selectMockModbusBackend | selectPhysicalModbusBackend | disconnectPhysicalModbus
  | requestModbusScan | requestDigitalOutput (channel : Int) (active : Bool) | requestAllOutputsOff
  | setModbusAgentPeer (peer : List Char)
  | tickPhysicalModbusPoll | publishSnapshot (snapshot : RuntimeTelemetrySnapshot)
  -- The worker takes its oldest request, the controller its oldest result.
  | serve (answer : WorkerAnswer) | deliver

def WorkbenchAction.selects : WorkbenchAction → Bool
  | .selectMockModbusBackend | .selectPhysicalModbusBackend | .disconnectPhysicalModbus => true
  | _ => false

namespace Workbench

def start (cellPeer : Bool) : Workbench := {controller := .construct qt cellPeer}

def emit (s : Workbench) (done : WorkbenchController × List ControllerSignal) : Workbench :=
  {s with
    controller := done.1
    requests := s.requests ++ (done.2.filterMap ControllerSignal.request).map fun request => (s.selections,request)}

def select (s : Workbench) (worker : ModbusAgentWorker) (done : WorkbenchController × List ControllerSignal) : Workbench :=
  emit {s with worker := worker,selections := s.selections + 1} done

def step (s : Workbench) : WorkbenchAction → Option Workbench
  | .selectMockModbusBackend =>
    some (s.select (if s.controller.backend = .mock then s.worker else {}) s.controller.selectMockModbusBackend)
  | .selectPhysicalModbusBackend => some (s.select s.worker (s.controller.selectPhysicalModbusBackend qt))
  | .disconnectPhysicalModbus => some (s.select {} (s.controller.disconnectPhysicalModbus qt))
  | .requestModbusScan => some (s.emit (s.controller.requestModbusScan qt))
  | .requestDigitalOutput channel active => some (s.emit (s.controller.requestDigitalOutput channel active))
  | .requestAllOutputsOff => some (s.emit s.controller.requestAllOutputsOff)
  | .setModbusAgentPeer peer => some (s.emit (s.controller.setModbusAgentPeer qt peer))
  | .tickPhysicalModbusPoll => some (s.emit s.controller.tickPhysicalModbusPoll)
  | .publishSnapshot snapshot => some (s.emit (s.controller.publishSnapshot snapshot))
  | .serve answer =>
    match s.requests with
    | [] => none
    | (mark,request) :: rest =>
      let (worker,result) := s.worker.perform qt answer request
      some {s with worker := worker,requests := rest,results := s.results ++ [(mark,result)]}
  | .deliver =>
    match s.results with
    | [] => none
    | (mark,result) :: rest =>
      some {s.emit (s.controller.applyPhysicalTransaction qt result) with
        results := rest
        appliedFrom := if s.controller.backend = .physical then some mark else s.appliedFrom}

def outstanding (s : Workbench) : List Nat := s.results.map (·.1) ++ s.requests.map (·.1)

end Workbench

namespace WorkbenchController
variable {c : WorkbenchController}

inductive Asks (c : WorkbenchController) (done : WorkbenchController × List ControllerSignal) : Prop where
  | nothing (running : done.1.requestRunning = c.requestRunning)
      (live : done.1.physicalOutputsLive = true → c.physicalOutputsLive = true)
      (quiet : done.2.filterMap ControllerSignal.request = [])
  | one (request : WorkerRequest) (free : c.requestRunning = false) (running : done.1.requestRunning = true)
      (live : done.1.physicalOutputsLive = true → c.physicalOutputsLive = true)
      (asked : done.2.filterMap ControllerSignal.request = [request])

@[simp] theorem completed_quiet (reply : ModbusIoCommandReply) : (ControllerSignal.commandCompleted reply).request = none := rfl

@[simp] theorem publishActive_quiet (c : WorkbenchController) : c.publishActive.request = none := by
  unfold publishActive
  split <;> rfl

theorem reply_asks (c : WorkbenchController) (reply : ModbusIoCommandReply) : Asks c (c.publishReply reply) :=
  .nothing rfl id (by simp [publishReply])

theorem Asks.of_mapper (asks : Asks {c with cellReadyMapper := mapper} done) : Asks c done := by
  cases asks with
  | nothing running live quiet => exact .nothing running live quiet
  | one request free running live asked => exact .one request free running live asked

theorem scan_asks (c : WorkbenchController) : Asks c (c.requestModbusScan qt) := by
  unfold requestModbusScan
  split
  · exact .nothing rfl id rfl
  split
  · exact .nothing rfl id rfl
  rename_i free
  split
  · exact .nothing rfl (by simp [physicalOutputsLive]) rfl
  · exact .one _ (Bool.eq_false_iff.mpr free) rfl id rfl

theorem refusal_none (passed : c.refusal offline busyChannel active = none) : c.requestRunning = false := by
  unfold refusal at passed
  split at passed
  · cases passed
  split at passed
  · cases passed
  split at passed
  · cases passed
  · rename_i free
    exact Bool.eq_false_iff.mpr free

theorem output_asks (c : WorkbenchController) (channel : Int) (active : Bool) :
    Asks c (c.requestDigitalOutput channel active) := by
  unfold requestDigitalOutput
  split
  · exact reply_asks c _
  split
  · split
    · exact reply_asks c _
    · rename_i passed
      split
      · exact reply_asks c _
      · exact .one _ (refusal_none passed) rfl id rfl
  · split
    · exact reply_asks c _
    · exact .nothing rfl id rfl

theorem allOff_asks (c : WorkbenchController) : Asks c c.requestAllOutputsOff := by
  unfold requestAllOutputsOff
  split
  · split
    · exact reply_asks c _
    · rename_i passed
      exact .one _ (refusal_none passed) rfl id rfl
  · exact .nothing rfl id rfl

theorem peer_asks (c : WorkbenchController) (peer : List Char) : Asks c (c.setModbusAgentPeer qt peer) := by
  unfold setModbusAgentPeer
  dsimp only
  split
  · exact .nothing rfl id rfl
  · exact .nothing rfl id (by simp)

theorem poll_asks (c : WorkbenchController) : Asks c c.tickPhysicalModbusPoll := by
  unfold tickPhysicalModbusPoll
  split
  · exact .nothing rfl id rfl
  split
  · exact .nothing rfl id rfl
  · rename_i idle
    simp only [not_or,Bool.not_eq_true] at idle
    exact .one _ idle.2.1 rfl id rfl

theorem cellReady_asks (c : WorkbenchController) (decision : CellReadyDecision) :
    Asks c (c.applyCellReadyOutput decision) := by
  unfold applyCellReadyOutput
  split
  · exact .nothing rfl id rfl
  split
  · exact .nothing rfl id rfl
  dsimp only
  split
  · exact .nothing rfl id rfl
  · exact .of_mapper (output_asks _ 0 true)
  · exact .of_mapper (output_asks _ 0 false)

theorem snapshot_asks (c : WorkbenchController) (snapshot : RuntimeTelemetrySnapshot) :
    Asks c (c.publishSnapshot snapshot) := by
  unfold publishSnapshot
  split
  · exact .nothing rfl id (by simp)
  · cases c.cellReady_asks (evaluateCellReady snapshot) with
    | nothing running live quiet => exact .nothing running live (by simp [quiet])
    | one request free running live asked => exact .one request free running live (by simp [asked])

theorem selectMock_resets (c : WorkbenchController) :
    (c.selectMockModbusBackend.1.requestRunning = true → c.requestRunning = true) ∧
      c.selectMockModbusBackend.1.physicalOutputsLive = false ∧
      c.selectMockModbusBackend.2.filterMap ControllerSignal.request = [] := by
  unfold selectMockModbusBackend
  cases backend : c.backend <;> simp [physicalOutputsLive,backend]

theorem selectPhysical_resets (c : WorkbenchController) :
    ((c.selectPhysicalModbusBackend qt).1.requestRunning = true → c.requestRunning = true) ∧
      (c.selectPhysicalModbusBackend qt).1.physicalOutputsLive = false ∧
      (c.selectPhysicalModbusBackend qt).2.filterMap ControllerSignal.request = [] :=
  ⟨id,rfl,rfl⟩

theorem disconnect_resets (c : WorkbenchController) :
    ((c.disconnectPhysicalModbus qt).1.requestRunning = true → c.requestRunning = true) ∧
      (c.disconnectPhysicalModbus qt).1.physicalOutputsLive = false ∧
      (c.disconnectPhysicalModbus qt).2.filterMap ControllerSignal.request = [] := by
  obtain ⟨cellPeer,backend,agentPeer,snapshot,running,blocked,mapper⟩ := c
  cases backend <;> exact ⟨by simp [disconnectPhysicalModbus,resetPhysicalSnapshot],rfl,rfl⟩

theorem transaction_applies (c : WorkbenchController) (result : WorkerResult) :
    (c.applyPhysicalTransaction qt result).1.requestRunning = false ∧
      ((c.applyPhysicalTransaction qt result).1.physicalOutputsLive = true → c.backend = .physical) ∧
      (c.applyPhysicalTransaction qt result).2.filterMap ControllerSignal.request = [] := by
  unfold applyPhysicalTransaction
  cases backend : c.backend with
  | mock => simp [physicalOutputsLive]
  | physical =>
      refine ⟨rfl,fun _ => rfl,?_⟩
      cases result.userVisible <;> rfl

end WorkbenchController

namespace Workbench
variable {s next : Workbench} {action : WorkbenchAction}

-- One request at most is under way, it is known to the controller, and nothing
-- under way or live comes from before the last selection.
structure Current (s : Workbench) : Prop where
  counted : s.outstanding.length = if s.controller.requestRunning then 1 else 0
  marked : ∀ mark ∈ s.outstanding, mark = s.selections
  live : s.controller.physicalOutputsLive = true → s.appliedFrom = some s.selections

theorem emit_current {done : WorkbenchController × List ControllerSignal} (current : Current s)
    (asks : s.controller.Asks done) : Current (s.emit done) := by
  cases asks with
  | nothing running live quiet =>
      have same : (s.emit done).outstanding = s.outstanding := by simp [emit,outstanding,quiet]
      refine ⟨?_,?_,fun lives => current.live (live lives)⟩
      · rw [same,current.counted]
        simp only [emit,running]
      · rw [same]
        exact current.marked
  | one request free running live asked =>
      have counted := current.counted
      rw [free] at counted
      have none : s.outstanding = [] := List.length_eq_zero_iff.mp counted
      have same : (s.emit done).outstanding = s.outstanding ++ [s.selections] := by simp [emit,outstanding,asked]
      refine ⟨?_,?_,fun lives => current.live (live lives)⟩
      · rw [same,none]
        simp [emit,running]
      · rw [same,none]
        simp [emit]

theorem select_current {done : WorkbenchController × List ControllerSignal} (current : Current s)
    (idle : s.outstanding = []) (worker : ModbusAgentWorker)
    (resets : (done.1.requestRunning = true → s.controller.requestRunning = true) ∧
      done.1.physicalOutputsLive = false ∧ done.2.filterMap ControllerSignal.request = []) :
    Current (s.select worker done) := by
  obtain ⟨stops,dead,quiet⟩ := resets
  have same : (s.select worker done).outstanding = [] := by
    have whole : (s.select worker done).outstanding = s.outstanding := by simp [select,emit,outstanding,quiet]
    exact whole.trans idle
  have free : s.controller.requestRunning = false := by
    have counted := current.counted
    rw [idle] at counted
    cases running : s.controller.requestRunning with
    | false => rfl
    | true => simp [running] at counted
  refine ⟨?_,?_,fun lives => absurd (dead.symm.trans lives) (by decide)⟩
  · have stopped : (s.select worker done).controller.requestRunning = false := by
      rw [← Bool.not_eq_true]
      exact fun running => absurd (free.symm.trans (stops running)) (by decide)
    rw [same,stopped]
    rfl
  · rw [same]
    exact fun mark listed => absurd listed List.not_mem_nil

theorem serve_current (current : Current s) (taken : s.step qt (.serve answer) = some next) : Current next := by
  simp only [step] at taken
  split at taken
  · cases taken
  rename_i mark request rest queued
  cases taken
  have same : s.outstanding = s.results.map (·.1) ++ mark :: rest.map (·.1) := by simp [outstanding,queued]
  refine ⟨?_,?_,current.live⟩
  · rw [← current.counted,same]
    simp [outstanding]
  · intro other listed
    apply current.marked
    rw [same]
    simpa [outstanding] using listed

theorem deliver_current (current : Current s) (taken : s.step qt .deliver = some next) : Current next := by
  simp only [step] at taken
  split at taken
  · cases taken
  rename_i mark result rest queued
  cases taken
  obtain ⟨stopped,physical,quiet⟩ := s.controller.transaction_applies qt result
  have same : s.outstanding = mark :: (rest.map (·.1) ++ s.requests.map (·.1)) := by simp [outstanding,queued]
  have counted := current.counted
  rw [same] at counted
  have alone : rest.map (·.1) ++ s.requests.map (·.1) = [] := by
    apply List.length_eq_zero_iff.mp
    simp only [List.length_cons] at counted
    split at counted <;> omega
  have newest := current.marked mark (by rw [same]; exact List.mem_cons_self)
  refine ⟨?_,?_,fun lives => ?_⟩
  · simp [outstanding,emit,quiet,stopped,alone]
  · simp [outstanding,emit,quiet,alone]
  · rw [if_pos (physical lives),newest]
    rfl

theorem step_current (current : Current s) (taken : s.step qt action = some next)
    (idle : action.selects = true → s.outstanding = []) : Current next := by
  cases action with
  | selectMockModbusBackend =>
      cases taken
      exact select_current current (idle rfl) _ s.controller.selectMock_resets
  | selectPhysicalModbusBackend =>
      cases taken
      exact select_current current (idle rfl) _ (s.controller.selectPhysical_resets qt)
  | disconnectPhysicalModbus =>
      cases taken
      exact select_current current (idle rfl) _ (s.controller.disconnect_resets qt)
  | requestModbusScan =>
      cases taken
      exact emit_current current (s.controller.scan_asks qt)
  | requestDigitalOutput channel active =>
      cases taken
      exact emit_current current (s.controller.output_asks channel active)
  | requestAllOutputsOff =>
      cases taken
      exact emit_current current s.controller.allOff_asks
  | setModbusAgentPeer peer =>
      cases taken
      exact emit_current current (s.controller.peer_asks qt peer)
  | tickPhysicalModbusPoll =>
      cases taken
      exact emit_current current s.controller.poll_asks
  | publishSnapshot snapshot =>
      cases taken
      exact emit_current current (s.controller.snapshot_asks snapshot)
  | serve answer => exact serve_current qt current taken
  | deliver => exact deliver_current qt current taken

theorem start_current (cellPeer : Bool) : Current (start qt cellPeer) :=
  ⟨rfl,fun _ listed => absurd listed List.not_mem_nil,fun lives => nomatch lives⟩

theorem outputs_live_from_current (path : Reached (step qt) (start qt cellPeer) history s)
    (idle : ∀ m ∈ history, m.action.selects = true → m.before.outstanding = []) :
    (s.controller.physicalOutputsLive = true → s.appliedFrom = some s.selections) ∧ s.outstanding.length ≤ 1 := by
  have current : Current s := by
    induction path with
    | start => exact start_current qt cellPeer
    | step _ taken ih =>
        exact step_current qt (ih fun m earlier => idle m (List.mem_cons_of_mem _ earlier)) taken (idle _ List.mem_cons_self)
  refine ⟨current.live,?_⟩
  rw [current.counted]
  split <;> decide

def plain : QtString where
  toStdString string := text (String.ofList string)
  trimmed := id
  toInt string := if string.all Char.isDigit then some (string.foldl (fun value digit => value * 10 + (digit.toNat - 48)) 0) else none

abbrev WorkbenchMoment := Moment Workbench WorkbenchAction

def probed : List WorkbenchAction := [.selectPhysicalModbusBackend,.requestModbusScan,.serve {call := .ok {}}]

def probedRun : List WorkbenchMoment × Workbench :=
  (replay (step plain) [] (start plain false) (probed ++ [.deliver])).get (by decide +kernel)

theorem outputs_live_probed :
    probedRun.2.controller.physicalOutputsLive = true ∧ probedRun.2.appliedFrom = some probedRun.2.selections :=
  have path : Reached (step plain) (start plain false) probedRun.1 probedRun.2 := replayed_reached _ (by decide +kernel)
  have live : probedRun.2.controller.physicalOutputsLive = true := by decide +kernel
  ⟨live,(outputs_live_from_current plain path (by decide +kernel)).1 live⟩

def lateRun : List WorkbenchMoment × Workbench :=
  (replay (step plain) [] (start plain false) (probed ++ [.disconnectPhysicalModbus,.deliver])).get (by decide +kernel)

def doubledRun : List WorkbenchMoment × Workbench :=
  (replay (step plain) [] (start plain false)
    [.selectPhysicalModbusBackend,.requestModbusScan,.disconnectPhysicalModbus,.requestModbusScan]).get (by decide +kernel)

theorem late_result_revives :
    (Reached (step plain) (start plain false) lateRun.1 lateRun.2 ∧ lateRun.2.controller.physicalOutputsLive = true ∧
        lateRun.2.appliedFrom = some 1 ∧ lateRun.2.selections = 2) ∧
      Reached (step plain) (start plain false) doubledRun.1 doubledRun.2 ∧ doubledRun.2.outstanding = [1,2] :=
  ⟨⟨replayed_reached _ (by decide +kernel),by decide +kernel,by decide +kernel,by decide +kernel⟩,
    replayed_reached _ (by decide +kernel),by decide +kernel⟩

end Workbench

end RobotControlRuntime
