import RobotControlRuntime.PhysicalModbusIo
import RobotControlRuntime.ModbusRtuReplies

namespace RobotControlRuntime
open ModbusRtu

inductive IoCall where
  | probe (transact : RtuTransact)
  | readInputs (transact : RtuTransact)
  | writeOutput (transact : RtuTransact) (channel : Nat) (active : Bool)
  | writeAllOutputsOff (transact : RtuTransact)

def latest [BEq κ] (held : α) (key : κ) (log : List (κ × α)) : α :=
  ((log.reverse.find? fun entry => entry.1 == key).map Prod.snd).getD held

theorem latest_append [BEq κ] (held : α) (key : κ) (log more : List (κ × α)) :
    latest held key (log ++ more) = latest (latest held key log) key more := by
  simp only [latest,List.reverse_append,List.find?_append]
  cases more.reverse.find? fun entry => entry.1 == key <;> rfl

theorem latest_one [BEq κ] (held : α) (key : κ) (entry : κ × α) :
    latest held key [entry] = if entry.1 == key then entry.2 else held := by
  simp only [latest,List.reverse_singleton,List.find?_singleton]
  split <;> rfl

theorem latest_range (held : α) (value : Nat → α) (count key : Nat) :
    latest held key ((List.range count).map fun i => (i,value i)) = if key < count then value key else held := by
  induction count with
  | zero => rfl
  | succ count ih =>
      rw [List.range_succ,List.map_append,latest_append,ih,List.map_singleton,latest_one]
      simp only [beq_iff_eq]
      by_cases same : count = key
      · rw [if_pos same,if_pos (by omega),same]
      · rw [if_neg same]
        exact if_congr (by omega) rfl rfl

namespace PhysicalModbusIoService

def call (service : PhysicalModbusIoService) : IoCall → PhysicalModbusIoService × Result ModbusIoSnapshot
  | .probe transact => service.probe transact
  | .readInputs transact => service.readInputs transact
  | .writeOutput transact channel active => service.writeOutput transact channel active
  | .writeAllOutputsOff transact => service.writeAllOutputsOff transact

def calls (service : PhysicalModbusIoService) (history : List IoCall) : PhysicalModbusIoService :=
  history.foldl (fun service next => (service.call next).1) service

def outputAt (service : PhysicalModbusIoService) (channel : Fin 4) : DigitalOutputState :=
  service.snapshot.digitalOutputs.get channel

-- What the device says about its coils in the course of a call: the value of a
-- decoded FC05 reply, and every bit of a decoded FC01 reply. Exception replies
-- and bytes that do not decode are no evidence.
def writtenCoil (config : PhysicalModbusIoConfig) (transact : RtuTransact) (channel : Nat) (active : Bool) : Option Bool :=
  let address := UInt16.ofNat channel
  (transact (encodeWriteSingleCoil config.slaveId address active)).rx.toOption.bind fun rx =>
    (writeReply rx config.slaveId address active).toOption.map (·.on)

def bitsRead (config : PhysicalModbusIoConfig) (transact : RtuTransact) (function : UInt8) : Option UInt8 :=
  (transact (readRequest config function)).rx.toOption.bind fun rx =>
    (readReply rx config.slaveId function).toOption.map (·.bitByte)

def switchedOff (config : PhysicalModbusIoConfig) (transact : RtuTransact) : List Nat → List (Nat × Bool)
  | [] => []
  | channel :: rest =>
    match writtenCoil config transact channel false with
    | none => []
    | some on => (channel,on) :: switchedOff config transact rest

def evidence (config : PhysicalModbusIoConfig) : IoCall → List (Nat × Bool)
  -- FC01 is only sent once FC02 has been answered.
  | .probe transact =>
    match bitsRead config transact fnReadDiscreteInputs with
    | none => []
    | some _ =>
      match bitsRead config transact fnReadCoils with
      | none => []
      | some bits => (List.range modbusIoChannelCount).map fun channel => (channel,bitAt bits channel)
  | .readInputs _ => []
  | .writeOutput transact channel active =>
    if channel < modbusIoChannelCount then (writtenCoil config transact channel active).toList.map (channel,·) else []
  | .writeAllOutputsOff transact => switchedOff config transact (List.range modbusIoChannelCount)

theorem decoded_value (decoded : decodeWriteSingleCoil rx slaveId address active = .ok coil) (plain : coil.exception = false) :
    coil.on = active := by
  unfold decodeWriteSingleCoil at decoded
  split at decoded
  · cases decoded
  dsimp only at decoded
  split at decoded
  · cases decoded
    cases plain
  split at decoded
  · cases decoded
  split at decoded
  · cases decoded
  split at decoded
  · cases decoded
  split at decoded
  · cases decoded
  · rename_i valued
    cases decoded
    exact not_not.mp valued

theorem written_value {config : PhysicalModbusIoConfig} (written : writtenCoil config transact channel active = some on) : on = active := by
  simp only [writtenCoil,Option.bind_eq_some_iff,Option.map_eq_some_iff] at written
  obtain ⟨rx,_,coil,accepted,rfl⟩ := written
  cases judged : writeReply rx config.slaveId (UInt16.ofNat channel) active with
  | error error =>
      rw [judged] at accepted
      cases accepted
  | ok coil =>
      rw [judged] at accepted
      cases accepted
      obtain ⟨decoded,plain⟩ := writeReply_exact.mp judged
      exact decoded_value decoded plain

variable {service : PhysicalModbusIoService}

theorem output_at (snapshot : ModbusIoSnapshot) (channel : Nat) (change : DigitalOutputState → DigitalOutputState)
    (i : Fin 4) : (snapshot.output channel change).digitalOutputs.get i =
      if i.val = channel then change (snapshot.digitalOutputs.get i) else snapshot.digitalOutputs.get i := by
  show (Vector.mapIdx _ snapshot.digitalOutputs)[i.val] = _
  rw [Vector.getElem_mapIdx]
  rfl

theorem output_written (service : PhysicalModbusIoService) (active : Bool) (change : DigitalOutputState → DigitalOutputState)
    {sent : ModbusIoSnapshot} (kept : sent.digitalOutputs = (service.snapshot.output channel
      fun output => {output with requested := active,lastStatus := .none}).digitalOutputs) (i : Fin 4) :
    (sent.output channel change).digitalOutputs.get i =
      if i.val = channel then change {service.outputAt i with requested := active,lastStatus := .none} else service.outputAt i := by
  rw [output_at,kept,output_at]
  split <;> rfl

inductive Wrote (service : PhysicalModbusIoService) (transact : RtuTransact) (channel : Nat) (active : Bool) :
    PhysicalModbusIoService × Result ModbusIoSnapshot → Prop where
  | outside (unlisted : modbusIoChannelCount ≤ channel) (config : next.config = service.config)
      (outputs : ∀ i, next.outputAt i = service.outputAt i) : Wrote service transact channel active (next,.error error)
  | failed (status : ModbusIoCommandStatus) (listed : channel < modbusIoChannelCount) (config : next.config = service.config)
      (silent : writtenCoil service.config transact channel active = none)
      (outputs : ∀ i, next.outputAt i =
        if i.val = channel then {service.outputAt i with requested := active,lastStatus := status} else service.outputAt i) :
      Wrote service transact channel active (next,.error error)
  | confirmed (listed : channel < modbusIoChannelCount) (config : next.config = service.config)
      (answered : writtenCoil service.config transact channel active = some active)
      (outputs : ∀ i, next.outputAt i =
        if i.val = channel then {service.outputAt i with requested := active,confirmed := active,lastStatus := .confirmed}
        else service.outputAt i) :
      Wrote service transact channel active (next,.ok next.snapshot)

theorem write_outputs (service : PhysicalModbusIoService) (transact : RtuTransact) (channel : Nat) (active : Bool) :
    Wrote service transact channel active (service.writeOutput transact channel active) := by
  by_cases unlisted : modbusIoChannelCount ≤ channel
  · simp only [writeOutput,if_pos unlisted]
    exact .outside unlisted rfl fun _ => rfl
  have listed := Nat.not_le.mp unlisted
  cases heard : (transact (encodeWriteSingleCoil service.config.slaveId (UInt16.ofNat channel) active)).rx with
  | error error =>
      simp only [writeOutput,if_neg unlisted,heard]
      exact .failed (if error.code = .timeout then .timeout else .rejected) listed rfl
        (by simp [writtenCoil,heard,Except.toOption]) (output_written service active _ rfl)
  | ok rx =>
      cases judged : writeReply rx service.config.slaveId (UInt16.ofNat channel) active with
      | error error =>
          simp only [writeOutput,if_neg unlisted,heard,judged]
          exact .failed .exception listed rfl (by simp [writtenCoil,heard,judged,Except.toOption])
            (output_written service active _ rfl)
      | ok coil =>
          have written : writtenCoil service.config transact channel active = some coil.on := by
            simp [writtenCoil,heard,judged,Except.toOption]
          simp only [writeOutput,if_neg unlisted,heard,judged]
          exact .confirmed listed rfl (written.trans (congrArg some (written_value written)))
            (output_written service active _ rfl)

inductive ReadInputs (service : PhysicalModbusIoService) (transact : RtuTransact) :
    PhysicalModbusIoService × Result ModbusIoSnapshot → Prop where
  | failed (config : next.config = service.config)
      (outputs : next.snapshot.digitalOutputs = service.snapshot.digitalOutputs)
      (silent : bitsRead service.config transact fnReadDiscreteInputs = none) :
      ReadInputs service transact (next,.error error)
  | answered (config : next.config = service.config)
      (outputs : next.snapshot.digitalOutputs = service.snapshot.digitalOutputs)
      (heard : bitsRead service.config transact fnReadDiscreteInputs = some bits) :
      ReadInputs service transact (next,.ok next.snapshot)

theorem inputs_outputs (service : PhysicalModbusIoService) (transact : RtuTransact) (scanning : Bool) :
    ReadInputs service transact (service.readDiscreteInputs transact scanning) := by
  have kept : (if scanning then {service.snapshot with scanState := .scanning} else service.snapshot).digitalOutputs =
      service.snapshot.digitalOutputs := by
    cases scanning <;> rfl
  unfold readDiscreteInputs
  generalize (if scanning then {service.snapshot with scanState := .scanning} else service.snapshot) = start at kept ⊢
  cases heard : (transact (readRequest service.config fnReadDiscreteInputs)).rx with
  | error error => exact .failed rfl (by simpa using kept) (by simp [bitsRead,heard,Except.toOption])
  | ok rx =>
      cases judged : readReply rx service.config.slaveId fnReadDiscreteInputs with
      | error error =>
          simp only [judged]
          exact .failed rfl (by simpa using kept) (by simp [bitsRead,heard,judged,Except.toOption])
      | ok reply =>
          have answered : bitsRead service.config transact fnReadDiscreteInputs = some reply.bitByte := by
            simp [bitsRead,heard,judged,Except.toOption]
          simp only [judged]
          exact .answered rfl (by simpa using kept) answered

inductive Refreshed (service : PhysicalModbusIoService) (transact : RtuTransact) :
    PhysicalModbusIoService × Result Unit → Prop where
  | failed (config : next.config = service.config)
      (outputs : next.snapshot.digitalOutputs = service.snapshot.digitalOutputs)
      (silent : bitsRead service.config transact fnReadCoils = none) : Refreshed service transact (next,.error error)
  | aligned (config : next.config = service.config) (heard : bitsRead service.config transact fnReadCoils = some bits)
      (outputs : ∀ i, next.outputAt i = {service.outputAt i with
        confirmed := bitAt bits i.val,requested := bitAt bits i.val,lastStatus := .confirmed}) :
      Refreshed service transact (next,.ok ())

theorem refresh_outputs (service : PhysicalModbusIoService) (transact : RtuTransact) :
    Refreshed service transact (service.refreshCoils transact) := by
  unfold refreshCoils
  cases heard : (transact (readRequest service.config fnReadCoils)).rx with
  | error error => exact .failed rfl rfl (by simp [bitsRead,heard,Except.toOption])
  | ok rx =>
      cases judged : readReply rx service.config.slaveId fnReadCoils with
      | error error =>
          simp only [judged]
          exact .failed rfl rfl (by simp [bitsRead,heard,judged,Except.toOption])
      | ok reply =>
          have answered : bitsRead service.config transact fnReadCoils = some reply.bitByte := by
            simp [bitsRead,heard,judged,Except.toOption]
          simp only [judged]
          refine .aligned rfl answered fun i => ?_
          show (Vector.mapIdx _ service.snapshot.digitalOutputs)[i.val] = _
          rw [Vector.getElem_mapIdx]
          rfl

inductive Probed (service : PhysicalModbusIoService) (transact : RtuTransact) :
    PhysicalModbusIoService × Result ModbusIoSnapshot → Prop where
  | failed (config : next.config = service.config)
      (outputs : next.snapshot.digitalOutputs = service.snapshot.digitalOutputs)
      (silent : bitsRead service.config transact fnReadDiscreteInputs = none) : Probed service transact (next,.error error)
  | kept (config : next.config = service.config) (status : next.snapshot.lastCommandStatus = .confirmed)
      (outputs : next.snapshot.digitalOutputs = service.snapshot.digitalOutputs)
      (silent : bitsRead service.config transact fnReadCoils = none) : Probed service transact (next,.ok next.snapshot)
  | aligned (config : next.config = service.config) (status : next.snapshot.lastCommandStatus = .confirmed)
      (inputs : bitsRead service.config transact fnReadDiscreteInputs = some bits)
      (heard : bitsRead service.config transact fnReadCoils = some coils)
      (outputs : ∀ i, next.outputAt i = {service.outputAt i with
        confirmed := bitAt coils i.val,requested := bitAt coils i.val,lastStatus := .confirmed}) :
      Probed service transact (next,.ok next.snapshot)

theorem probe_outputs (service : PhysicalModbusIoService) (transact : RtuTransact) :
    Probed service transact (service.probe transact) := by
  have read := inputs_outputs service transact true
  unfold probe
  generalize service.readDiscreteInputs transact true = outcome at read ⊢
  cases read with
  | failed config outputs silent => exact .failed config outputs silent
  | @answered bits middle config outputs inputs =>
      have refreshed := refresh_outputs middle transact
      dsimp only
      generalize middle.refreshCoils transact = outcome at refreshed ⊢
      cases refreshed with
      | failed again same silent =>
          rw [config] at silent
          exact .kept (again.trans config) rfl (by simpa using same.trans outputs) silent
      | aligned again heard aligned =>
          rw [config] at heard
          refine .aligned (again.trans config) rfl inputs heard fun i => ?_
          have before : middle.outputAt i = service.outputAt i := congrArg (Vector.get · i) outputs
          rw [← before]
          exact aligned i

structure Follows (service : PhysicalModbusIoService) (seen : List (Nat × Bool)) (next : PhysicalModbusIoService) : Prop where
  config : next.config = service.config
  confirmed : ∀ i, (next.outputAt i).confirmed = latest (service.outputAt i).confirmed i.val seen

theorem kept_follows (config : next.config = service.config)
    (outputs : next.snapshot.digitalOutputs = service.snapshot.digitalOutputs) : Follows service [] next :=
  ⟨config,fun i => congrArg (fun outputs => (Vector.get outputs i).confirmed) outputs⟩

theorem probe_follows (service : PhysicalModbusIoService) (transact : RtuTransact) :
    Follows service (evidence service.config (.probe transact)) (service.probe transact).1 := by
  have probed := probe_outputs service transact
  generalize service.probe transact = outcome at probed ⊢
  cases probed with
  | failed config outputs silent =>
      have none : evidence service.config (.probe transact) = [] := by simp [evidence,silent]
      rw [none]
      exact kept_follows config outputs
  | kept config _ outputs silent =>
      have none : evidence service.config (.probe transact) = [] := by
        simp only [evidence,silent]
        split <;> rfl
      rw [none]
      exact kept_follows config outputs
  | @aligned _ coils _ config _ inputs heard outputs =>
      have all : evidence service.config (.probe transact) =
          (List.range modbusIoChannelCount).map fun channel => (channel,bitAt coils channel) := by
        simp only [evidence,inputs,heard]
      refine ⟨config,fun i => ?_⟩
      rw [all,latest_range,outputs i,if_pos (show i.val < modbusIoChannelCount from i.isLt)]

theorem write_follows (service : PhysicalModbusIoService) (transact : RtuTransact) (channel : Nat) (active : Bool) :
    Follows service (evidence service.config (.writeOutput transact channel active))
      (service.writeOutput transact channel active).1 := by
  have wrote := write_outputs service transact channel active
  generalize service.writeOutput transact channel active = outcome at wrote ⊢
  cases wrote with
  | outside unlisted config outputs =>
      refine ⟨config,fun i => ?_⟩
      rw [outputs i,evidence,if_neg (Nat.not_lt.mpr unlisted)]
      rfl
  | failed status listed config silent outputs =>
      refine ⟨config,fun i => ?_⟩
      rw [outputs i,evidence,if_pos listed,silent]
      split <;> rfl
  | confirmed listed config answered outputs =>
      refine ⟨config,fun i => ?_⟩
      rw [outputs i,evidence,if_pos listed,answered]
      simp only [Option.toList_some,List.map_singleton,latest_one,beq_iff_eq]
      by_cases same : i.val = channel
      · rw [if_pos same,if_pos same.symm]
      · rw [if_neg same,if_neg (Ne.symm same)]

theorem Follows.trans (one : Follows service seen middle) (two : Follows middle more next) :
    Follows service (seen ++ more) next := by
  refine ⟨two.config.trans one.config,fun i => ?_⟩
  rw [two.confirmed,one.confirmed,latest_append]

theorem off_follows (transact : RtuTransact) (channels : List Nat) (listed : ∀ channel ∈ channels, channel < modbusIoChannelCount)
    (service : PhysicalModbusIoService) (last : Result ModbusIoSnapshot) :
    Follows service (switchedOff service.config transact channels) (writeOff transact channels service last).1 := by
  induction channels generalizing service last with
  | nil => exact kept_follows rfl rfl
  | cons channel rest ih =>
      simp only [List.forall_mem_cons] at listed
      have step := write_follows service transact channel false
      have wrote := write_outputs service transact channel false
      rw [evidence,if_pos listed.1] at step
      unfold writeOff switchedOff
      generalize service.writeOutput transact channel false = outcome at step wrote ⊢
      cases wrote with
      | outside unlisted => exact absurd listed.1 (Nat.not_lt.mpr unlisted)
      | failed status _ config silent outputs =>
          rw [silent] at step ⊢
          exact step
      | @confirmed next _ config answered outputs =>
          rw [answered] at step ⊢
          have onward := ih listed.2 next (.ok next.snapshot)
          rw [config] at onward
          exact step.trans onward

theorem call_follows (service : PhysicalModbusIoService) (next : IoCall) :
    Follows service (evidence service.config next) (service.call next).1 := by
  cases next with
  | probe transact => exact probe_follows service transact
  | readInputs transact =>
      have read := inputs_outputs service transact false
      show Follows service [] (service.readDiscreteInputs transact false).1
      generalize service.readDiscreteInputs transact false = outcome at read ⊢
      cases read with
      | failed config outputs _ => exact kept_follows config outputs
      | answered config outputs _ => exact kept_follows config outputs
  | writeOutput transact channel active => exact write_follows service transact channel active
  | writeAllOutputsOff transact => exact off_follows transact _ (fun _ listed => List.mem_range.mp listed) service (.ok service.snapshot)

theorem off_failed (transact : RtuTransact) (channels : List Nat) (service : PhysicalModbusIoService)
    (listed : ∀ channel ∈ channels, channel < modbusIoChannelCount) (started : ∀ error, last ≠ .error error)
    (failed : (writeOff transact channels service last).2 = .error error) :
    ∃ done failing rest, channels = done ++ failing :: rest ∧
      writtenCoil service.config transact failing false = none ∧
      (∀ channel ∈ done, writtenCoil service.config transact channel false = some false) ∧
      switchedOff service.config transact channels = done.map fun channel => (channel,false) := by
  induction channels generalizing service last with
  | nil => exact absurd failed (started error)
  | cons channel rest ih =>
      simp only [List.forall_mem_cons] at listed
      have wrote := write_outputs service transact channel false
      unfold writeOff at failed
      generalize service.writeOutput transact channel false = outcome at wrote failed
      cases wrote with
      | outside unlisted => exact absurd listed.1 (Nat.not_lt.mpr unlisted)
      | failed status _ config silent outputs => exact ⟨[],channel,rest,rfl,silent,nofun,by simp [switchedOff,silent]⟩
      | @confirmed next _ config answered outputs =>
          obtain ⟨done,failing,later,rfl,silent,before,off⟩ := ih next listed.2 (fun _ => by simp) failed
          rw [config] at silent before off
          refine ⟨channel :: done,failing,later,rfl,silent,?_,by simp [switchedOff,answered,off]⟩
          exact List.forall_mem_cons.mpr ⟨answered,before⟩

theorem range_cut (cut : List.range count = done ++ failing :: rest) : failing < count ∧ done = List.range failing := by
  have found := congrArg (·[done.length]?) cut
  simp only [List.getElem?_append_right (Nat.le_refl _),Nat.sub_self,List.getElem?_cons_zero] at found
  have inside := List.getElem?_eq_some_iff.mp found
  obtain ⟨bound,value⟩ := inside
  rw [List.length_range] at bound
  rw [List.getElem_range] at value
  have front := congrArg (List.take done.length) cut
  rw [List.take_left,List.take_range,Nat.min_eq_left (by omega)] at front
  exact ⟨by omega,front.symm.trans (congrArg List.range value)⟩

structure Framed (service : PhysicalModbusIoService) : Prop where
  failed : ∀ next error, (∀ transact, next ≠ .writeAllOutputsOff transact) → (service.call next).2 = .error error →
    ∀ i, ((service.call next).1.outputAt i).confirmed = (service.outputAt i).confirmed
  others : ∀ transact channel active (i : Fin 4), i.val ≠ channel →
    ((service.writeOutput transact channel active).1.outputAt i).requested = (service.outputAt i).requested ∧
      ((service.writeOutput transact channel active).1.outputAt i).confirmed = (service.outputAt i).confirmed
  allOff : ∀ transact error, (service.writeAllOutputsOff transact).2 = .error error →
    ∃ failing : Fin 4, writtenCoil service.config transact failing.val false = none ∧
      (∀ i < failing, writtenCoil service.config transact i.val false = some false) ∧
      ∀ i, ((service.writeAllOutputsOff transact).1.outputAt i).confirmed =
        if i < failing then false else (service.outputAt i).confirmed

theorem failed_evidence {next : IoCall} (single : ∀ transact, next ≠ .writeAllOutputsOff transact)
    (failed : (service.call next).2 = .error error) : evidence service.config next = [] := by
  cases next with
  | probe transact =>
      have probed := probe_outputs service transact
      simp only [call] at failed
      generalize service.probe transact = outcome at probed failed
      cases probed with
      | failed _ _ silent => simp only [evidence,silent]
      | kept => cases failed
      | aligned => cases failed
  | readInputs transact => rfl
  | writeOutput transact channel active =>
      have wrote := write_outputs service transact channel active
      simp only [call] at failed
      generalize service.writeOutput transact channel active = outcome at wrote failed
      cases wrote with
      | outside unlisted => exact if_neg (Nat.not_lt.mpr unlisted)
      | failed _ listed _ silent _ => simp only [evidence,if_pos listed,silent,Option.toList_none,List.map_nil]
      | confirmed => cases failed
  | writeAllOutputsOff transact => exact absurd rfl (single transact)

theorem write_others (service : PhysicalModbusIoService) (transact : RtuTransact) (active : Bool) {i : Fin 4}
    (other : i.val ≠ channel) : (service.writeOutput transact channel active).1.outputAt i = service.outputAt i := by
  have wrote := write_outputs service transact channel active
  generalize service.writeOutput transact channel active = outcome at wrote ⊢
  cases wrote with
  | outside _ _ outputs => exact outputs i
  | failed _ _ _ _ outputs => rw [outputs i,if_neg other]
  | confirmed _ _ _ outputs => rw [outputs i,if_neg other]

theorem framed (service : PhysicalModbusIoService) : Framed service where
  failed next error single failed i := by
    have follows := (call_follows service next).confirmed i
    rw [failed_evidence single failed] at follows
    exact follows
  others transact channel active i other := by
    rw [write_others service transact active other]
    exact ⟨rfl,rfl⟩
  allOff transact error failed := by
    have listed : ∀ channel ∈ List.range modbusIoChannelCount, channel < modbusIoChannelCount :=
      fun _ listed => List.mem_range.mp listed
    obtain ⟨done,failing,rest,cut,silent,before,off⟩ := off_failed transact _ service listed (fun _ => by simp) failed
    obtain ⟨inside,rfl⟩ := range_cut cut
    refine ⟨⟨failing,inside⟩,silent,fun i earlier => before i.val (List.mem_range.mpr earlier),fun i => ?_⟩
    have follows := (off_follows transact _ listed service (.ok service.snapshot)).confirmed i
    rw [off,latest_range] at follows
    exact follows

def silentBus : RtuTransact := fun _ => {rx := .error ⟨.timeout,"no coil echo"⟩}

def answeringBus (coils : Result (List UInt8)) : RtuTransact := fun request =>
  {rx := if byteAt request 1 = fnReadDiscreteInputs then .ok (sealed [1,fnReadDiscreteInputs,1,0]) else coils}

end PhysicalModbusIoService

end RobotControlRuntime
