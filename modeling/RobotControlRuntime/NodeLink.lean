import RobotControlRuntime.CanIoLoop
import RobotControlRuntime.NodeSim

namespace RobotControlRuntime
open StepHistory

-- A frame on its way. The tag counts the command frames handed to the bus; a
-- status carries the tag of the command it answers. No party reads a tag.
structure Tagged where
  tag : Nat
  frame : CanFrame

-- The runtime with its I/O loop, the node, and a FIFO between them in each
-- direction. `awaited` is the tag of the frame whose registration opened the
-- wait for an acknowledgement.
structure NodeLink where
  io : IoSystem
  node : CanNodeLogic
  downlink : List Tagged := []
  uplink : List Tagged := []
  sends : Nat := 0
  awaited : Nat := 0

inductive LinkAction where
  | io (action : IoAction)
  | deliverCommand (receiveNs nowNs : Int)
  | loseCommand
  | deliverStatus (nowNs : Int)
  | loseStatus
  | expireOutputLease (nowNs : Int)
  | setInterlockReady (ready : Bool)
  | softRestart

namespace NodeLink

def launched (config : RuntimeConfig) (queue : BoundedInputQueue) (nodeConfig : CanNodeConfig) : NodeLink :=
  {io := .launched (.construct config) queue nodeConfig.nodeId,node := .construct nodeConfig}

def placed (s : IoSystem) : IoAction → Option CanFrame
  | .send .sent =>
    match s.stage with
    | .encoded _ frame _ => some frame
    | _ => none
  | _ => none

def registers (s next : IoSystem) : Bool := !s.runtime.outputAckPending && next.runtime.outputAckPending

def observes : IoAction → Bool
  | .call (.observeOutputStatus _ _ _ _) => true
  | _ => false

def ioStep (s : NodeLink) (action : IoAction) : Option NodeLink :=
  if observes action then none
  else match s.io.step action with
    | none => none
    | some next =>
      let awaited := if registers s.io next then s.sends - 1 else s.awaited
      match placed s.io action with
      | none => some {s with io := next,awaited := awaited}
      | some frame =>
        some {s with
          io := next
          downlink := s.downlink ++ [⟨s.sends,frame⟩]
          sends := s.sends + 1
          awaited := awaited}

-- What the I/O loop passes on of a received frame: the output status of the
-- supervised node.
def statusCall (nodeId : UInt8) (frame : CanFrame) (nowNs : Int) : Option RuntimeCall :=
  match CanV1.decode frame with
  | .ok (.outputStatus status) =>
    if status.nodeId = nodeId then some (.observeOutputStatus status.sessionId status.sequence status.result nowNs)
    else none
  | _ => none

def deliverCommand (s : NodeLink) (sent : Tagged) (rest : List Tagged) (receiveNs nowNs : Int) : NodeLink :=
  let (node,result) := s.node.handleFrame sent.frame receiveNs nowNs
  let s := {s with node := node,downlink := rest}
  if result.sendStatus then
    match CanV1.encodeOutputStatus result.status with
    | .error _ => s
    | .ok frame => {s with uplink := s.uplink ++ [⟨sent.tag,frame⟩]}
  else s

def deliverStatus (s : NodeLink) (sent : Tagged) (rest : List Tagged) (nowNs : Int) : NodeLink :=
  match statusCall s.io.io.nodeId sent.frame nowNs with
  | none => {s with uplink := rest}
  | some call => {s with uplink := rest,io := {s.io with runtime := s.io.runtime.apply call}}

def step (s : NodeLink) : LinkAction → Option NodeLink
  | .io action => s.ioStep action
  | .deliverCommand receiveNs nowNs =>
    match s.downlink with
    | [] => none
    | sent :: rest => some (s.deliverCommand sent rest receiveNs nowNs)
  | .loseCommand =>
    match s.downlink with
    | [] => none
    | _ :: rest => some {s with downlink := rest}
  | .deliverStatus nowNs =>
    match s.uplink with
    | [] => none
    | sent :: rest => some (s.deliverStatus sent rest nowNs)
  | .loseStatus =>
    match s.uplink with
    | [] => none
    | _ :: rest => some {s with uplink := rest}
  | .expireOutputLease nowNs => some {s with node := (s.node.expireOutputLease nowNs).1}
  | .setInterlockReady ready => some {s with node := s.node.setInterlockReady ready}
  | .softRestart => some {s with node := s.node.softRestart}

inductive Steps (s : NodeLink) : LinkAction → NodeLink → Prop where
  | io (taken : s.io.step action = some moved) (other : action ≠ .send .sent) :
      Steps s (.io action) {s with io := moved,awaited := if registers s.io moved then s.sends - 1 else s.awaited}
  | sent (taken : s.io.step (.send .sent) = some moved) (stage : s.io.stage = .encoded wire frame nowNs)
      (done : moved.stage = .sent wire nowNs) (runtime : moved.runtime = s.io.runtime) :
      Steps s (.io (.send .sent))
        {s with io := moved,downlink := s.downlink ++ [⟨s.sends,frame⟩],sends := s.sends + 1}
  | commandDelivered (waiting : s.downlink = sent :: rest) :
      Steps s (.deliverCommand receiveNs nowNs) (s.deliverCommand sent rest receiveNs nowNs)
  | commandLost (waiting : s.downlink = sent :: rest) : Steps s .loseCommand {s with downlink := rest}
  | statusDelivered (waiting : s.uplink = sent :: rest) :
      Steps s (.deliverStatus nowNs) (s.deliverStatus sent rest nowNs)
  | statusLost (waiting : s.uplink = sent :: rest) : Steps s .loseStatus {s with uplink := rest}
  | expired : Steps s (.expireOutputLease nowNs) {s with node := (s.node.expireOutputLease nowNs).1}
  | interlocked : Steps s (.setInterlockReady ready) {s with node := s.node.setInterlockReady ready}
  | restarted : Steps s .softRestart {s with node := s.node.softRestart}

theorem io_exact (taken : ioStep s action = some next) : Steps s (.io action) next := by
  simp only [ioStep] at taken
  split at taken
  · cases taken
  · split at taken
    · cases taken
    · rename_i io moved
      cases action with
      | send outcome =>
          cases outcome with
          | sent =>
              cases IoSystem.step_exact moved with
              | @sent wire frame nowNs stage =>
                  simp only [placed,stage] at taken
                  cases taken
                  simp only [registers,Bool.not_and_self,Bool.false_eq_true,if_false]
                  exact .sent moved stage rfl rfl
          | _ => cases taken; exact .io moved (by simp)
      | _ => cases taken; exact .io moved (by simp)

theorem step_exact (taken : step s action = some next) : Steps s action next := by
  cases action with
  | io action => exact io_exact taken
  | deliverCommand receiveNs nowNs =>
      simp only [step] at taken
      split at taken
      · cases taken
      · rename_i waiting
        cases taken
        exact .commandDelivered waiting
  | loseCommand =>
      simp only [step] at taken
      split at taken
      · cases taken
      · rename_i waiting
        cases taken
        exact .commandLost waiting
  | deliverStatus nowNs =>
      simp only [step] at taken
      split at taken
      · cases taken
      · rename_i waiting
        cases taken
        exact .statusDelivered waiting
  | loseStatus =>
      simp only [step] at taken
      split at taken
      · cases taken
      · rename_i waiting
        cases taken
        exact .statusLost waiting
  | expireOutputLease nowNs => cases taken; exact .expired
  | setInterlockReady ready => cases taken; exact .interlocked
  | softRestart => cases taken; exact .restarted

def ioAction (s : NodeLink) : LinkAction → Option IoAction
  | .io action => some action
  | .deliverStatus nowNs =>
    match s.uplink with
    | [] => none
    | sent :: _ => (statusCall s.io.io.nodeId sent.frame nowNs).map .call
  | _ => none

theorem status_observes (called : statusCall nodeId frame nowNs = some call) :
    ∃ status, CanV1.decode frame = .ok (.outputStatus status) ∧
      call = .observeOutputStatus status.sessionId status.sequence status.result nowNs := by
  simp only [statusCall] at called
  split at called
  · rename_i status decoded
    split at called
    · cases called
      exact ⟨status,decoded,rfl⟩
    · cases called
  · cases called

theorem deliver_parts (s : NodeLink) (sent : Tagged) (rest : List Tagged) (receiveNs nowNs : Int) :
    (s.deliverCommand sent rest receiveNs nowNs).node = (s.node.handleFrame sent.frame receiveNs nowNs).1 ∧
      (s.deliverCommand sent rest receiveNs nowNs).downlink = rest := by
  simp only [deliverCommand]
  split
  · split <;> exact ⟨rfl,rfl⟩
  · exact ⟨rfl,rfl⟩

theorem deliver_frame (s : NodeLink) (sent : Tagged) (rest : List Tagged) (receiveNs nowNs : Int) :
    (s.deliverCommand sent rest receiveNs nowNs).io = s.io ∧
      (s.deliverCommand sent rest receiveNs nowNs).sends = s.sends ∧
      (s.deliverCommand sent rest receiveNs nowNs).awaited = s.awaited := by
  simp only [deliverCommand]
  split
  · split <;> exact ⟨rfl,rfl,rfl⟩
  · exact ⟨rfl,rfl,rfl⟩

theorem status_frame (s : NodeLink) (sent : Tagged) (rest : List Tagged) (nowNs : Int) :
    (s.deliverStatus sent rest nowNs).io.io = s.io.io ∧ (s.deliverStatus sent rest nowNs).node = s.node ∧
      (s.deliverStatus sent rest nowNs).downlink = s.downlink := by
  simp only [deliverStatus]
  split <;> exact ⟨rfl,rfl,rfl⟩

theorem step_simulates : Simulates NodeLink.io ioAction step IoSystem.step := by
  intro s action next taken
  cases step_exact taken with
  | io moved _ => exact moved
  | sent moved _ _ _ => exact moved
  | commandDelivered _ => exact (deliver_frame s _ _ _ _).1
  | commandLost _ | statusLost _ | expired | interlocked | restarted => rfl
  | @statusDelivered sent rest nowNs waiting =>
      simp only [ioAction,waiting,deliverStatus]
      cases called : statusCall s.io.io.nodeId sent.frame nowNs with
      | none => rfl
      | some call =>
          obtain ⟨_,_,rfl⟩ := status_observes called
          rfl

abbrev LinkMoment := Moment NodeLink LinkAction

def ioHistory (past : List LinkMoment) : List IoSystem.IoMoment := projected NodeLink.io ioAction past

theorem io_invariant (invariant : IoSystem.IoInvariant (ioHistory past) s.io) (taken : step s action = some next) :
    IoSystem.IoInvariant (ioHistory (⟨s,action,next⟩ :: past)) next.io :=
  projected_invariant step_simulates IoSystem.IoInvariant (fun _ _ _ _ => IoSystem.io_preserved) invariant taken

theorem launched_io (config : RuntimeConfig) (queue : BoundedInputQueue) (nodeConfig : CanNodeConfig) :
    IoSystem.IoInvariant (ioHistory []) (launched config queue nodeConfig).io :=
  IoSystem.launched_invariant config queue nodeConfig.nodeId

def session7 : NodeLink := launched {} (.construct 4) {sessionId := 7}

def activated : List LinkAction := IoSystem.activated.map .io

def transmitted (command : OutputCommand) (nowNs : Int) : List LinkAction :=
  (IoSystem.transmitted command nowNs).map .io

def reactivated : List LinkAction := [.io (.call (.handle .deactivateRequest)),.io (.call (.handle .activateRequest))]

end NodeLink

end RobotControlRuntime
