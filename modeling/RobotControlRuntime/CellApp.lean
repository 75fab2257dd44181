import RobotControlRuntime.ModbusAgentServer

namespace RobotControlRuntime
open StepHistory

def inputBitPositionReached : UInt16 := 0x0001

structure CellReadyDecision where
  positionReached : Bool := false
  cellReady : Bool := false
  deriving DecidableEq, Repr

inductive CellReadyDo0Action where
  | none | requestOn | requestOff
  deriving DecidableEq, Repr

def evaluateCellReady (snapshot : RuntimeTelemetrySnapshot) : CellReadyDecision :=
  let positionReached := snapshot.device.inputBits &&& inputBitPositionReached != 0
  {positionReached := positionReached
   cellReady := snapshot.device.online && snapshot.runtime.mode == .active && positionReached &&
    snapshot.device.deviceFaultCode == 0 && snapshot.runtime.fault == .none}

structure CellReadyMapper where
  armed : Bool := false
  lastReady : Bool := false
  deriving DecidableEq, Repr

namespace CellReadyMapper

def noteModbusOffline (mapper : CellReadyMapper) : CellReadyMapper := {mapper with armed := false}

def synchronizeAfterProbe (_ : CellReadyMapper) (decision : CellReadyDecision) : CellReadyMapper :=
  {armed := true,lastReady := decision.cellReady}

def observe (mapper : CellReadyMapper) (decision : CellReadyDecision) (modbusOnline : Bool) :
    CellReadyMapper × CellReadyDo0Action :=
  if !modbusOnline then ({armed := false,lastReady := decision.cellReady},.none)
  else if !mapper.armed then (mapper.synchronizeAfterProbe decision,.none)
  else if decision.cellReady = mapper.lastReady then (mapper,.none)
  else ({mapper with lastReady := decision.cellReady},if decision.cellReady then .requestOn else .requestOff)

def baseline (mapper : CellReadyMapper) : Option Bool := if mapper.armed then some mapper.lastReady else none

@[simp] theorem offline_baseline (mapper : CellReadyMapper) : mapper.noteModbusOffline.baseline = none := rfl

@[simp] theorem synchronized_baseline (mapper : CellReadyMapper) (decision : CellReadyDecision) :
    (mapper.synchronizeAfterProbe decision).baseline = some decision.cellReady := rfl

theorem observe_baseline (mapper : CellReadyMapper) (decision : CellReadyDecision) :
    (mapper.observe decision true).1.baseline = some decision.cellReady := by
  obtain ⟨armed,lastReady⟩ := mapper
  cases armed with
  | false => rfl
  | true => by_cases same : decision.cellReady = lastReady <;> simp [observe,baseline,same]

theorem observe_edge {mapper : CellReadyMapper} (edge : mapper.baseline = some (!decision.cellReady)) :
    (mapper.observe decision true).2 ≠ .none ∧ ((mapper.observe decision true).2 == .requestOn) = decision.cellReady := by
  obtain ⟨armed,lastReady⟩ := mapper
  obtain ⟨_,ready⟩ := decision
  cases armed with
  | false => cases edge
  | true =>
      cases edge
      cases ready <;> exact ⟨nofun,rfl⟩

theorem observe_still {mapper : CellReadyMapper} (still : mapper.baseline ≠ some (!decision.cellReady)) :
    (mapper.observe decision true).2 = .none := by
  obtain ⟨armed,lastReady⟩ := mapper
  obtain ⟨_,ready⟩ := decision
  cases armed with
  | false => rfl
  | true =>
      cases lastReady <;> cases ready
      · rfl
      · exact absurd rfl still
      · exact absurd rfl still
      · rfl

end CellReadyMapper

structure EdgeCellIoState where
  modbusOnline : Bool := false
  do0Requested : Bool := false
  do0Confirmed : Bool := false
  do0Status : ModbusIoCommandStatus := .none
  deriving DecidableEq, Repr

-- The edge application with its I/O agent. The runtime's telemetry is an input of
-- each call.
structure CellApp where
  mapper : CellReadyMapper := {}
  io : EdgeCellIoState := {}
  modbus : FramedClient ModbusAgentMessage := {}
  agent : PhysicalModbusIoService
  modbusHost : List UInt8 := text "127.0.0.1"
  modbusPort : UInt16 := 5740

-- `issued` are the values of the call's write_output on DO0; `result` is what its
-- Modbus transaction came to, connecting included, if it made one.
structure EdgeCall where
  issued : List Bool := []
  result : Option (Result ModbusIoSnapshot) := none

def EdgeCall.failed (call : EdgeCall) : Bool :=
  match call.result with
  | some (.error _) => true
  | _ => false

-- `served` is the agent serving a request of someone else, or one whose client has
-- given up.
inductive CellAppAction where
  | tick (snapshot : RuntimeTelemetrySnapshot) (turn : AgentTurn)
  | probe (snapshot : RuntimeTelemetrySnapshot) (turn : AgentTurn)
  | served (request : ModbusAgentFrame) (transact : RtuTransact)

namespace CellApp

def connect (app : CellApp) (turn : AgentTurn) : Option (CellApp × Result Unit) :=
  if app.modbus.connection.isSome then some (app,.ok ())
  else
    match app.modbus.step modbusAgentClient (.connect app.modbusHost app.modbusPort turn.connect) with
    | none => none
    | some client => some ({app with modbus := client},turn.connect)

def transaction (app : CellApp) (request ack : ModbusAgentMessage) (payload : List UInt8) (turn : AgentTurn) :
    Option (CellApp × Result ModbusIoSnapshot) :=
  match ModbusAgentClient.exchange request ack payload turn app.agent app.modbus with
  | none => none
  | some (agent,client,result) =>
    match client.step modbusAgentClient .disconnect with
    | none => none
    | some client => some ({app with agent := agent,modbus := client},result)

def offline (app : CellApp) : CellApp :=
  {app with mapper := app.mapper.noteModbusOffline,io := {app.io with modbusOnline := false,do0Status := .timeout}}

-- The acknowledgement's first output; its device state is not looked at.
def recorded (app : CellApp) (snapshot : ModbusIoSnapshot) : CellApp :=
  let do0 := snapshot.digitalOutputs[0]?.getD ({} : DigitalOutputState)
  {app with io := ⟨true,do0.requested,do0.confirmed,do0.lastStatus⟩}

def tickCellReady (app : CellApp) (snapshot : RuntimeTelemetrySnapshot) (turn : AgentTurn) : Option (CellApp × EdgeCall) :=
  let (mapper,action) := app.mapper.observe (evaluateCellReady snapshot) true
  let app := {app with mapper := mapper}
  if action = .none then some (app,{})
  else
    match app.connect turn with
    | none => none
    | some (app,.error error) => some (app.offline,{result := some (.error error)})
    | some (app,.ok ()) =>
      let on := action == .requestOn
      let app := {app with io := {app.io with do0Requested := on}}
      match app.transaction .writeDo .writeDoAck (encodeWriteDoPayload 0 on) turn with
      | none => none
      | some (app,.error error) => some (app.offline,⟨[on],some (.error error)⟩)
      | some (app,.ok written) => some (app.recorded written,⟨[on],some (.ok written)⟩)

def probeCellIo (app : CellApp) (snapshot : RuntimeTelemetrySnapshot) (turn : AgentTurn) : Option (CellApp × EdgeCall) :=
  match app.connect turn with
  | none => none
  | some (app,.error error) => some (app.offline,{result := some (.error error)})
  | some (app,.ok ()) =>
    match app.transaction .probe .probeAck [] turn with
    | none => none
    | some (app,.error error) => some (app.offline,{result := some (.error error)})
    | some (app,.ok probed) =>
      let mapper := app.mapper.synchronizeAfterProbe (evaluateCellReady snapshot)
      some ({app.recorded probed with mapper := mapper},{result := some (.ok probed)})

def act (app : CellApp) : CellAppAction → Option (CellApp × EdgeCall)
  | .tick snapshot turn => app.tickCellReady snapshot turn
  | .probe snapshot turn => app.probeCellIo snapshot turn
  | .served request transact => some ({app with agent := (app.agent.handleRequest transact request).1},{})

def step (app : CellApp) (action : CellAppAction) : Option CellApp := (app.act action).map (·.1)

abbrev AppMoment := Moment CellApp CellAppAction

def called (m : AppMoment) : EdgeCall := ((m.before.act m.action).map (·.2)).getD {}

def Acknowledged (agent agent' : PhysicalModbusIoService) (request : ModbusAgentMessage) (payload : List UInt8)
    (turn : AgentTurn) (snapshot : ModbusIoSnapshot) : Prop :=
  ∃ transact sequence reply, turn.served = some transact ∧
    agent.handleRequest transact ⟨request,sequence,payload⟩ = (agent',reply) ∧
    decodeProbeAckPayload reply.payload = .ok snapshot

-- Between the application's calls its client is disconnected.
def Closed (app : CellApp) : Prop := app.modbus.connection = none ∧ app.modbus.call = none

theorem connect_exact (closed : Closed app) (done : app.connect turn = some (next,result)) :
    result = turn.connect ∧ ∃ client, next = {app with modbus := client} ∧ client.call = none ∧
      client.connection = match turn.connect with
        | .ok () => some {}
        | .error _ => none := by
  obtain ⟨gone,idle⟩ := closed
  simp only [connect,gone,Option.isSome_none,Bool.false_eq_true,if_false] at done
  split at done
  · cases done
  · rename_i client stepped
    cases done
    obtain ⟨_,acted⟩ := FramedClient.step_act stepped
    cases FramedClient.act_exact acted with
    | connected _ => exact ⟨rfl,_,rfl,idle,rfl⟩

theorem transaction_exact {app next : CellApp} {ack : ModbusAgentMessage} (idle : app.modbus.call = none)
    (fresh : app.modbus.connection = some {})
    (done : app.transaction request ack payload turn = some (next,result)) :
    Closed next ∧ next.mapper = app.mapper ∧ next.io = app.io ∧
      ∀ snapshot, result = .ok snapshot → Acknowledged app.agent next.agent request payload turn snapshot := by
  unfold transaction at done
  split at done
  · cases done
  · rename_i ended
    obtain ⟨ends,own⟩ := ModbusAgentClient.exchange_own idle fresh ended
    cases done
    refine ⟨⟨rfl,ends⟩,rfl,rfl,fun snapshot success => ?_⟩
    obtain ⟨transact,reply,served,handled,decoded⟩ := own snapshot success
    exact ⟨transact,_,reply,served,handled,decoded⟩

inductive Acts (app : CellApp) : CellAppAction → CellApp → EdgeCall → Prop where
  | steady {next : CellApp} (still : app.mapper.baseline ≠ some (!(evaluateCellReady snapshot).cellReady))
      (follows : next.mapper.baseline = some (evaluateCellReady snapshot).cellReady) :
      Acts app (.tick snapshot turn) next {}
  | refused {next : CellApp} (edge : app.mapper.baseline = some (!(evaluateCellReady snapshot).cellReady))
      (failed : turn.connect = .error error) (lost : next.mapper.baseline = none) (down : next.io.modbusOnline = false) :
      Acts app (.tick snapshot turn) next {result := some (.error error)}
  | unwritten {next : CellApp} (edge : app.mapper.baseline = some (!(evaluateCellReady snapshot).cellReady))
      (reached : turn.connect = .ok ()) (lost : next.mapper.baseline = none) (down : next.io.modbusOnline = false) :
      Acts app (.tick snapshot turn) next ⟨[(evaluateCellReady snapshot).cellReady],some (.error error)⟩
  | written {next : CellApp} (edge : app.mapper.baseline = some (!(evaluateCellReady snapshot).cellReady))
      (reached : turn.connect = .ok ()) (follows : next.mapper.baseline = some (evaluateCellReady snapshot).cellReady)
      (up : next.io.modbusOnline = true)
      (acknowledged : Acknowledged app.agent next.agent .writeDo
        (encodeWriteDoPayload 0 (evaluateCellReady snapshot).cellReady) turn received) :
      Acts app (.tick snapshot turn) next ⟨[(evaluateCellReady snapshot).cellReady],some (.ok received)⟩
  | unprobed {next : CellApp} (lost : next.mapper.baseline = none) (down : next.io.modbusOnline = false) :
      Acts app (.probe snapshot turn) next {result := some (.error error)}
  | probed {next : CellApp} (follows : next.mapper.baseline = some (evaluateCellReady snapshot).cellReady)
      (up : next.io.modbusOnline = true) (acknowledged : Acknowledged app.agent next.agent .probe [] turn received) :
      Acts app (.probe snapshot turn) next {result := some (.ok received)}
  | served {next : CellApp} (same : next.mapper = app.mapper) : Acts app (.served request transact) next {}

theorem tick_exact (closed : Closed app) (done : app.tickCellReady snapshot turn = some (next,call)) :
    Closed next ∧ Acts app (.tick snapshot turn) next call := by
  have follows := app.mapper.observe_baseline (evaluateCellReady snapshot)
  unfold tickCellReady at done
  by_cases edge : app.mapper.baseline = some (!(evaluateCellReady snapshot).cellReady)
  · obtain ⟨moves,value⟩ := CellReadyMapper.observe_edge edge
    generalize app.mapper.observe (evaluateCellReady snapshot) true = outcome at follows moves value done
    obtain ⟨mapper,action⟩ := outcome
    simp only at follows moves value done
    rw [if_neg moves,value] at done
    have still : Closed {app with mapper := mapper} := closed
    split at done
    · cases done
    · rename_i error connecting
      obtain ⟨failed,client,rfl,idle,gone⟩ := connect_exact still connecting
      cases done
      rw [← failed] at gone
      exact ⟨⟨gone,idle⟩,.refused edge failed.symm rfl rfl⟩
    · rename_i connecting
      obtain ⟨reached,client,rfl,idle,fresh⟩ := connect_exact still connecting
      rw [← reached] at fresh
      split at done
      · cases done
      · rename_i transacting
        obtain ⟨shut,_,_⟩ := transaction_exact idle fresh transacting
        cases done
        exact ⟨shut,.unwritten edge reached.symm rfl rfl⟩
      · rename_i written transacting
        obtain ⟨shut,kept,_,own⟩ := transaction_exact idle fresh transacting
        cases done
        refine ⟨shut,.written edge reached.symm ?_ rfl (own written rfl)⟩
        exact (congrArg CellReadyMapper.baseline kept).trans follows
  · simp only [CellReadyMapper.observe_still edge,if_true] at done
    cases done
    exact ⟨closed,.steady edge follows⟩

theorem probe_exact (closed : Closed app) (done : app.probeCellIo snapshot turn = some (next,call)) :
    Closed next ∧ Acts app (.probe snapshot turn) next call := by
  unfold probeCellIo at done
  split at done
  · cases done
  · rename_i error connecting
    obtain ⟨failed,client,rfl,idle,gone⟩ := connect_exact closed connecting
    cases done
    rw [← failed] at gone
    exact ⟨⟨gone,idle⟩,.unprobed rfl rfl⟩
  · rename_i connecting
    obtain ⟨reached,client,rfl,idle,fresh⟩ := connect_exact closed connecting
    rw [← reached] at fresh
    split at done
    · cases done
    · rename_i transacting
      obtain ⟨shut,_,_⟩ := transaction_exact idle fresh transacting
      cases done
      exact ⟨shut,.unprobed rfl rfl⟩
    · rename_i probed transacting
      obtain ⟨shut,_,_,own⟩ := transaction_exact idle fresh transacting
      cases done
      exact ⟨shut,.probed rfl rfl (own probed rfl)⟩

theorem act_exact (closed : Closed app) (taken : app.act action = some (next,call)) :
    Closed next ∧ Acts app action next call := by
  cases action with
  | tick snapshot turn => exact tick_exact closed taken
  | probe snapshot turn => exact probe_exact closed taken
  | served request transact =>
      cases taken
      exact ⟨closed,.served rfl⟩

theorem tick_quiet {app : CellApp} {turn : AgentTurn} {snapshot : RuntimeTelemetrySnapshot}
    (still : app.mapper.baseline ≠ some (!(evaluateCellReady snapshot).cellReady)) :
    ∃ mapper, app.act (.tick snapshot turn) = some ({app with mapper := mapper},{}) := by
  refine ⟨(app.mapper.observe (evaluateCellReady snapshot) true).1,?_⟩
  simp only [act,tickCellReady,CellReadyMapper.observe_still still,if_true]

theorem transaction_delivered {app : CellApp} {ack : ModbusAgentMessage} {turn : AgentTurn}
    (delivers : turn.Delivers transact answer)
    (idle : app.modbus.call = none) (fresh : app.modbus.connection = some {})
    (small : payload.length ≤ FrameFormat.maxPayload)
    (handled : app.agent.handleRequest transact ⟨request,app.modbus.nextSequence,payload⟩ =
      (agent',⟨ack,app.modbus.nextSequence,answer⟩)) (accepted : ack ≠ .error) :
    ∃ client, app.transaction request ack payload turn =
      some ({app with agent := agent',modbus := client},decodeProbeAckPayload answer) := by
  obtain ⟨next,ended⟩ := ModbusAgentClient.exchange_delivered delivers idle fresh small handled accepted
  refine ⟨{next with connection := none},?_⟩
  simp only [transaction,ended,FramedClient.step,FramedClient.act,Option.map_some]

theorem connect_delivered {app : CellApp} {turn : AgentTurn} (closed : Closed app) (connected : turn.connect = .ok ()) :
    ∃ client, app.connect turn = some ({app with modbus := client},.ok ()) ∧ client.call = none ∧
      client.connection = some {} := by
  obtain ⟨gone,idle⟩ := closed
  refine ⟨app.modbus.opened app.modbusHost app.modbusPort (.ok ()),?_,idle,rfl⟩
  simp [connect,FramedClient.step,FramedClient.act,gone,idle,connected]

theorem probe_delivered {app : CellApp} {turn : AgentTurn} {snapshot : RuntimeTelemetrySnapshot} (closed : Closed app)
    (delivers : turn.Delivers transact (encodeProbeAckPayload (app.agent.probe transact).1.snapshot))
    (decoded : decodeProbeAckPayload (encodeProbeAckPayload (app.agent.probe transact).1.snapshot) = .ok probed) :
    ∃ next, app.act (.probe snapshot turn) = some (next,{result := some (.ok probed)}) ∧
      next.io = (app.recorded probed).io ∧ next.agent = (app.agent.probe transact).1 := by
  obtain ⟨client,connecting,idle,fresh⟩ := connect_delivered closed delivers.connected
  have transacting : ∃ closing, ({app with modbus := client} : CellApp).transaction .probe .probeAck [] turn = some (_,_) :=
    transaction_delivered delivers idle fresh (by decide) rfl nofun
  obtain ⟨_,transacting⟩ := transacting
  simp only [act,probeCellIo,connecting,transacting,decoded]
  exact ⟨_,rfl,rfl,rfl⟩

theorem tick_delivered {app : CellApp} {turn : AgentTurn} {snapshot : RuntimeTelemetrySnapshot} (closed : Closed app)
    (edge : app.mapper.baseline = some (!on)) (ready : (evaluateCellReady snapshot).cellReady = on)
    (delivers : turn.Delivers transact (encodeProbeAckPayload (app.agent.writeOutput transact 0 on).1.snapshot))
    (decoded : decodeProbeAckPayload (encodeProbeAckPayload (app.agent.writeOutput transact 0 on).1.snapshot) = .ok written) :
    ∃ next, app.act (.tick snapshot turn) = some (next,⟨[on],some (.ok written)⟩) ∧
      next.io = (app.recorded written).io ∧ next.agent = (app.agent.writeOutput transact 0 on).1 := by
  rw [← ready] at edge
  obtain ⟨moves,value⟩ := CellReadyMapper.observe_edge edge
  rw [ready] at value
  have still : Closed {app with mapper := (app.mapper.observe (evaluateCellReady snapshot) true).1} := closed
  obtain ⟨client,connecting,idle,fresh⟩ := connect_delivered still delivers.connected
  have handled := app.agent.write_handled transact client.nextSequence 0 on
  have transacting : ∃ closing, ({app with
      mapper := (app.mapper.observe (evaluateCellReady snapshot) true).1
      modbus := client
      io := {app.io with do0Requested := on}} : CellApp).transaction .writeDo .writeDoAck (encodeWriteDoPayload 0 on) turn =
        some (_,_) :=
    transaction_delivered delivers idle fresh (by simp [encodeWriteDoPayload,FrameFormat.maxPayload]) handled nofun
  obtain ⟨_,transacting⟩ := transacting
  simp only [act,tickCellReady,moves,if_false,connecting,value,transacting,decoded]
  exact ⟨_,rfl,rfl,rfl⟩

end CellApp

end RobotControlRuntime
