import RobotControlRuntime.CellApp

namespace RobotControlRuntime.CellApp
open StepHistory PhysicalModbusIoService

def launched (agent : PhysicalModbusIoService) (host : List UInt8) (port : UInt16) : CellApp :=
  {agent := agent,modbusHost := host,modbusPort := port}

theorem called_exact {app next : CellApp} (taken : app.act action = some (next,call)) : called ⟨app,action,next⟩ = call := by
  simp only [called,taken,Option.map_some,Option.getD_some]

theorem act_step {app next : CellApp} (acted : app.act action = some (next,call)) : app.step action = some next := by
  simp only [step,acted,Option.map_some]

theorem step_act {app next : CellApp} (taken : app.step action = some next) : ∃ call, app.act action = some (next,call) := by
  obtain ⟨⟨_,call⟩,acted,rfl⟩ := Option.map_eq_some_iff.mp taken
  exact ⟨call,acted⟩

theorem step_exact {app next : CellApp} (closed : Closed app) (taken : app.step action = some next) :
    Closed next ∧ Acts app action next (called ⟨app,action,next⟩) := by
  obtain ⟨call,acted⟩ := step_act taken
  rw [called_exact acted]
  exact act_exact closed acted

-- Evaluating the agent's part of a run computes the CRC of its RTU frames.
set_option maxRecDepth 20000

def silentBus : RtuTransact := fun _ => {rx := .error ⟨.timeout,"serial RTU timeout"⟩}

def answeringBus (bits : UInt8) : RtuTransact := fun tx =>
  if byteAt tx 1 = ModbusRtu.fnWriteSingleCoil then {rx := .ok tx}
  else {rx := .ok (ModbusRtu.sealed [byteAt tx 0,byteAt tx 1,1,bits])}

def bench : CellApp := launched (.launched {}) (text "127.0.0.1") 5740

def readyCell : RuntimeTelemetrySnapshot := {runtime := {mode := .active},device := {online := true,inputBits := 1}}

def Answered (m : AppMoment) : Prop :=
  match m.action with
  | .tick snapshot turn => ∃ transact, turn.served = some transact ∧
      CoilAnswered transact m.before.agent.config 0 (evaluateCellReady snapshot).cellReady
  | .probe _ turn => ∃ transact, turn.served = some transact ∧ InputsAnswered transact m.before.agent.config
  | .served _ _ => False

def OnlineTruthful (m : AppMoment) : Prop :=
  (called m).result ≠ none → m.after.io.modbusOnline = true →
    ∃ snapshot, (called m).result = some (.ok snapshot) ∧ snapshot.deviceState = .online

theorem silent_module_online :
    ∃ history app, Reached step bench history app ∧ ¬ Throughout (fun m _ => OnlineTruthful m) history := by
  have probing : ∃ next, bench.act (.probe {} {served := some silentBus,reads := [110]}) =
      some (next,{result := some (.ok _)}) ∧ next.io = _ ∧ next.agent = _ :=
    probe_delivered ⟨rfl,rfl⟩ ⟨rfl,rfl,rfl,by decide,by decide,by decide⟩ rfl
  obtain ⟨next,acted,io,_⟩ := probing
  refine ⟨_,_,.step .start (act_step acted),fun truthful => ?_⟩
  have truth : OnlineTruthful _ := truthful.1
  unfold OnlineTruthful at truth
  rw [called_exact acted,io] at truth
  obtain ⟨_,result,online⟩ := truth nofun rfl
  cases result
  cases online

-- The flag is true to the device exactly when the device has answered or the
-- agent's acknowledgement has not come.
theorem module_online_iff {agent : PhysicalModbusIoService} (path : Reached step (launched agent host port) history app) :
    Throughout (fun m _ => OnlineTruthful m ↔ ∀ snapshot, (called m).result = some (.ok snapshot) → Answered m) history := by
  refine throughout_invariant (fun _ => Closed) ⟨rfl,rfl⟩ ?_ ?_ path
  · intro past s action next closed taken
    exact (step_exact closed taken).1
  · intro past s action next closed taken
    have acts := (step_exact closed taken).2
    unfold OnlineTruthful
    generalize called ⟨s,action,next⟩ = call at acts ⊢
    cases acts with
    | steady _ _ | served _ => simp
    | refused _ _ _ down | unwritten _ _ _ down | unprobed _ down => simp [down]
    | written _ _ _ up acknowledged =>
        obtain ⟨transact,_,_,served,handled,decoded⟩ := acknowledged
        have state := write_acknowledged (by decide) handled decoded
        simp [up,Answered,served,state]
    | probed _ up acknowledged =>
        obtain ⟨transact,_,_,served,handled,decoded⟩ := acknowledged
        have state := probe_acknowledged handled decoded
        simp [up,Answered,served,state]

theorem module_online_iff_answering :
    ∃ history app, Reached step bench history app ∧ app.io.modbusOnline = true ∧
      Throughout (fun m _ =>
        OnlineTruthful m ↔ ∀ snapshot, (called m).result = some (.ok snapshot) → Answered m) history := by
  have probing : ∃ next, bench.act (.probe {} {served := some (answeringBus 0),reads := [50,49]}) =
      some (next,{result := some (.ok _)}) ∧ next.io = _ ∧ next.agent = _ :=
    probe_delivered ⟨rfl,rfl⟩ ⟨rfl,rfl,rfl,by decide,by decide,by decide⟩ rfl
  obtain ⟨next,acted,io,_⟩ := probing
  have path : Reached step bench _ next := .step .start (act_step acted)
  exact ⟨_,next,path,by rw [io]; rfl,module_online_iff path⟩

def observed : List AppMoment → Option Bool
  | [] => none
  | m :: past =>
    match m.action with
    | .tick snapshot _ | .probe snapshot _ => if (called m).failed then none else some (evaluateCellReady snapshot).cellReady
    | .served _ _ => observed past

structure MapperInvariant (past : List AppMoment) (app : CellApp) : Prop where
  closed : Closed app
  follows : app.mapper.baseline = observed past

theorem mapper_preserved {app next : CellApp} (invariant : MapperInvariant past app) (taken : app.step action = some next) :
    MapperInvariant (⟨app,action,next⟩ :: past) next := by
  obtain ⟨closed,acts⟩ := step_exact invariant.closed taken
  refine ⟨closed,?_⟩
  unfold observed
  generalize called ⟨app,action,next⟩ = call at acts ⊢
  cases acts with
  | steady _ follows | written _ _ follows _ _ | probed follows _ _ => exact follows
  | refused _ _ lost _ | unwritten _ _ lost _ | unprobed lost _ => exact lost
  | served same => exact (congrArg CellReadyMapper.baseline same).trans invariant.follows

def WriteFails (m : AppMoment) : Prop :=
  match m.action with
  | .tick _ _ => (called m).failed = true
  | _ => False

def ProbeSucceeds (m : AppMoment) : Prop :=
  match m.action with
  | .probe _ _ => (called m).failed = false
  | _ => False

def Lost : List AppMoment → Prop := Since (fun m => ¬ ProbeSucceeds m) fun m _ => WriteFails m

def LossSilent (m : AppMoment) (past : List AppMoment) : Prop := Lost past → (called m).issued = []

-- At a tick during a loss nothing has been observed since the last failure, or it
-- is what the tick sees too; or the agent refuses the connection.
def Steady (m : AppMoment) (past : List AppMoment) : Prop :=
  match m.action with
  | .tick snapshot turn => Lost past →
      observed past = none ∨ observed past = some (evaluateCellReady snapshot).cellReady ∨
        ∃ error, turn.connect = .error error
  | _ => True

def refusal : Result Unit := .error ⟨.timeout,"agent connect timeout"⟩

def rearmed : List CellAppAction := [.tick {} {},.tick readyCell {connect := refusal},.tick {} {},.tick readyCell {}]

theorem written_without_probe :
    ∃ history app, Reached step bench history app ∧ ¬ Throughout LossSilent history := by
  have path : Reached step bench _ _ := replay_reached rearmed .start rfl
  refine ⟨_,_,path,fun silent => ?_⟩
  have lost := silent.1 (.inr ⟨id,.inl rfl⟩)
  cases lost

theorem edge_or_steady (before : Option Bool) (ready : Bool) :
    before ≠ some (!ready) ↔ before = none ∨ before = some ready := by
  cases before with
  | none => simp
  | some value => cases value <;> cases ready <;> simp

theorem write_after_loss_iff {agent : PhysicalModbusIoService} (path : Reached step (launched agent host port) history app) :
    Throughout (fun m past => LossSilent m past ↔ Steady m past) history := by
  refine throughout_invariant MapperInvariant ⟨⟨rfl,rfl⟩,rfl⟩ ?_ ?_ path
  · intro past s action next invariant taken
    exact mapper_preserved invariant taken
  · intro past s action next invariant taken
    have acts := (step_exact invariant.closed taken).2
    have follows := invariant.follows
    unfold LossSilent Steady
    generalize called ⟨s,action,next⟩ = call at acts ⊢
    cases acts with
    | steady still _ =>
        rw [follows,edge_or_steady] at still
        exact ⟨fun _ _ => still.elim .inl fun same => .inr (.inl same),fun _ _ => rfl⟩
    | refused _ failed _ _ => exact ⟨fun _ _ => .inr (.inr ⟨_,failed⟩),fun _ _ => rfl⟩
    | unwritten edge reached _ _ | written edge reached _ _ _ =>
        rw [follows] at edge
        simp [edge,reached]
    | unprobed _ _ | probed _ _ _ | served _ => exact ⟨fun _ => trivial,fun _ _ => rfl⟩

def stranded : CellApp :=
  {bench with
    mapper := ⟨true,true⟩
    io := {do0Status := .timeout}
    modbus := bench.modbus.opened bench.modbusHost bench.modbusPort refusal}

theorem stranded_run : ∃ history, Reached step bench history stranded ∧ (∃ m ∈ history, WriteFails m) ∧
    Throughout LossSilent history := by
  have path : Reached step bench _ stranded :=
    replay_reached [.tick {} {},.tick readyCell {connect := refusal},.tick readyCell {}] .start rfl
  exact ⟨_,path,⟨_,.tail _ (.head _),rfl⟩,fun _ => rfl,fun _ => rfl,fun _ => rfl,trivial⟩

theorem write_after_loss_iff_recovered :
    ∃ history app, Reached step bench history app ∧ (∃ m ∈ history, WriteFails m) ∧
      (∃ m ∈ history, (called m).issued = [false]) ∧ Throughout LossSilent history ∧
      Throughout (fun m past => LossSilent m past ↔ Steady m past) history := by
  obtain ⟨history,lost,⟨m,listed,failed⟩,silent⟩ := stranded_run
  have probing : ∃ next, stranded.act (.probe readyCell {served := some (answeringBus 0),reads := [99]}) =
      some (next,{result := some (.ok _)}) ∧ next.io = _ ∧ next.agent = _ :=
    probe_delivered ⟨rfl,rfl⟩ ⟨rfl,rfl,rfl,by decide,by decide,by decide⟩ rfl
  obtain ⟨restored,probed,_,agent⟩ := probing
  obtain ⟨closed,acts⟩ := act_exact ⟨rfl,rfl⟩ probed
  have follows : restored.mapper.baseline = some true := by
    cases acts with
    | probed follows _ _ => exact follows
  have writing : ∃ next, restored.act (.tick {} {served := some (answeringBus 0),reads := [103]}) =
      some (next,⟨[false],some (.ok _)⟩) ∧ next.io = _ ∧ next.agent = _ :=
    tick_delivered closed follows rfl (by rw [agent]; exact ⟨rfl,rfl,rfl,by decide,by decide,by decide⟩) (by rw [agent]; rfl)
  obtain ⟨dark,wrote,_⟩ := writing
  have path := Reached.step (.step lost (act_step probed)) (act_step wrote)
  refine ⟨_,dark,path,⟨m,.tail _ (.tail _ listed),failed⟩,⟨_,List.mem_cons_self ..,?_⟩,?_,write_after_loss_iff path⟩
  · exact congrArg EdgeCall.issued (called_exact wrote)
  · refine ⟨?_,fun _ => congrArg EdgeCall.issued (called_exact probed),silent⟩
    rintro (failed | ⟨kept,_⟩)
    · cases failed
    · exact absurd (congrArg EdgeCall.failed (called_exact probed)) kept

def previousTick : List AppMoment → Option Bool
  | [] => none
  | m :: past =>
    match m.action with
    | .tick snapshot _ => some (evaluateCellReady snapshot).cellReady
    | .probe _ _ | .served _ _ => previousTick past

def latest : List AppMoment → Option Bool
  | [] => none
  | m :: past =>
    match m.action with
    | .tick snapshot _ | .probe snapshot _ => some (evaluateCellReady snapshot).cellReady
    | .served _ _ => latest past

def Succeeds (m : AppMoment) (_ : List AppMoment) : Prop := (called m).failed = false

def TicksFollowed (m : AppMoment) (past : List AppMoment) : Prop :=
  ∀ snapshot turn, m.action = .tick snapshot turn → previousTick past = some (!(evaluateCellReady snapshot).cellReady) →
    (called m).issued = [(evaluateCellReady snapshot).cellReady]

def EdgesFollowed (m : AppMoment) (past : List AppMoment) : Prop :=
  ∀ snapshot turn, m.action = .tick snapshot turn →
    (called m).issued = if latest past = some (!(evaluateCellReady snapshot).cellReady)
      then [(evaluateCellReady snapshot).cellReady] else []

theorem swallowed_run : ∃ history app, Reached step bench history app ∧ Throughout Succeeds history ∧
    app.io.do0Confirmed = true ∧ (∃ m ∈ history, (called m).issued = [true]) ∧ ¬ Throughout TicksFollowed history := by
  have arming : bench.act (.tick {} {}) = some ({bench with mapper := ⟨true,false⟩},{}) := rfl
  have writing : ∃ next, ({bench with mapper := ⟨true,false⟩} : CellApp).act
      (.tick readyCell {served := some (answeringBus 0),reads := [103]}) = some (next,⟨[true],some (.ok _)⟩) ∧
        next.io = _ ∧ next.agent = _ :=
    tick_delivered ⟨rfl,rfl⟩ rfl rfl ⟨rfl,rfl,rfl,by decide,by decide,by decide⟩ rfl
  obtain ⟨lit,wrote,_,agent⟩ := writing
  have closed := (act_exact ⟨rfl,rfl⟩ wrote).1
  have probing : ∃ next, lit.act (.probe {} {served := some (answeringBus 1),reads := [99]}) =
      some (next,{result := some (.ok _)}) ∧ next.io = _ ∧ next.agent = _ :=
    probe_delivered closed (by rw [agent]; exact ⟨rfl,rfl,rfl,by decide,by decide,by decide⟩) (by rw [agent]; rfl)
  obtain ⟨dark,probed,io,_⟩ := probing
  have follows : dark.mapper.baseline = some false := by
    cases (act_exact closed probed).2 with
    | probed follows _ _ => exact follows
  have quiet : ∃ mapper, dark.act (.tick {} {}) = some ({dark with mapper := mapper},{}) :=
    tick_quiet (by rw [follows]; decide)
  obtain ⟨_,slept⟩ := quiet
  have path := Reached.step (.step (.step (.step .start (act_step arming)) (act_step wrote)) (act_step probed)) (act_step slept)
  refine ⟨_,_,path,⟨?_,?_,?_,?_,trivial⟩,?_,⟨_,.tail _ (.tail _ (.head _)),?_⟩,fun followed => ?_⟩
  · exact congrArg EdgeCall.failed (called_exact slept)
  · exact congrArg EdgeCall.failed (called_exact probed)
  · exact congrArg EdgeCall.failed (called_exact wrote)
  · rfl
  · exact (congrArg EdgeCellIoState.do0Confirmed io).trans rfl
  · exact congrArg EdgeCall.issued (called_exact wrote)
  · have issued := followed.1 _ _ rfl rfl
    rw [called_exact slept] at issued
    cases issued

theorem probe_swallows_edge :
    ∃ history app, Reached step bench history app ∧ Throughout Succeeds history ∧ app.io.do0Confirmed = true ∧
      ¬ Throughout TicksFollowed history := by
  obtain ⟨history,app,path,all,lit,_,swallowed⟩ := swallowed_run
  exact ⟨history,app,path,all,lit,swallowed⟩

structure EdgeInvariant (past : List AppMoment) (app : CellApp) : Prop where
  closed : Closed app
  follows : app.mapper.baseline = latest past

theorem edge_preserved {app next : CellApp} (invariant : EdgeInvariant past app) (taken : app.step action = some next)
    (succeeds : Succeeds ⟨app,action,next⟩ past) : EdgeInvariant (⟨app,action,next⟩ :: past) next := by
  obtain ⟨closed,acts⟩ := step_exact invariant.closed taken
  refine ⟨closed,?_⟩
  unfold Succeeds at succeeds
  generalize called ⟨app,action,next⟩ = call at acts succeeds
  cases acts with
  | steady _ follows | written _ _ follows _ _ | probed follows _ _ => exact follows
  | refused _ _ _ _ | unwritten _ _ _ _ | unprobed _ _ => cases succeeds
  | served same => exact (congrArg CellReadyMapper.baseline same).trans invariant.follows

theorem edges_followed {agent : PhysicalModbusIoService} (path : Reached step (launched agent host port) history app)
    (all : Throughout Succeeds history) : Throughout EdgesFollowed history := by
  refine throughout_under EdgeInvariant ⟨⟨rfl,rfl⟩,rfl⟩ ?_ ?_ path all
  · intro past s action next invariant taken succeeds
    exact edge_preserved invariant taken succeeds
  · intro past s action next invariant taken succeeds snapshot turn ticks
    cases ticks
    have acts := (step_exact invariant.closed taken).2
    unfold Succeeds at succeeds
    rw [← invariant.follows]
    generalize called ⟨s,.tick snapshot turn,next⟩ = call at acts succeeds ⊢
    cases acts with
    | steady still _ => exact (if_neg still).symm
    | written edge _ _ _ _ => exact (if_pos edge).symm
    | refused _ _ _ _ | unwritten _ _ _ _ => cases succeeds

theorem edges_followed_swallowed :
    ∃ history app, Reached step bench history app ∧ Throughout Succeeds history ∧
      (∃ m ∈ history, (called m).issued = [true]) ∧ Throughout EdgesFollowed history := by
  obtain ⟨history,app,path,all,_,issued,_⟩ := swallowed_run
  exact ⟨history,app,path,all,issued,edges_followed path all⟩

end RobotControlRuntime.CellApp
