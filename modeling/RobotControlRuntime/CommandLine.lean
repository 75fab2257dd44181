import RobotControlRuntime.NodeLink
import RobotControlRuntime.OutputFreshness
import RobotControlRuntime.WireConversion

-- The way of a command from the runtime to the bus: each frame that waits there was
-- made from a command the runtime had accepted.
namespace RobotControlRuntime
open StepHistory

namespace IoSystem
open LinuxRuntime

def Accepts (command : OutputCommand) (m : RuntimeMoment) (_ : List RuntimeMoment) : Prop :=
  m.before.accepted m.action = some command ∧ m.before.mode = .active

structure HeldInvariant (past : List IoMoment) (s : IoSystem) : Prop extends IoInvariant past s where
  source : ∀ command, s.io.pendingOutput = some command → Once (Accepts command) (runtimeHistory past)

theorem latest_accepted (latest : LatestAccepted command history) : Once (Accepts command) history := by
  refine since_once (fun m _ marked => ⟨marked.1,?_⟩) latest
  exact (accepted_slot m.before m.action marked.1).2.1

theorem held_preserved (invariant : HeldInvariant past s) (taken : step s action = some next) :
    HeldInvariant (⟨s,action,next⟩ :: past) next := by
  refine ⟨io_preserved invariant.toIoInvariant taken,?_⟩
  intro command held
  refine projected_once ?_
  cases step_exact taken with
  | call _ | popEvent _ | pump | approved _ _ _ | encoded _ _ _ _ | sent _ | wouldBlock _ | stopped _ _ _ =>
      exact invariant.source command held
  | @tryConsume now _ =>
      rcases consume_held s now held with returned | ⟨_,before⟩
      · exact latest_accepted (consume_latest invariant.toIoInvariant now returned)
      · exact invariant.source command before
  | refused _ _ _ dropped | unencodable _ _ _ dropped | failed _ dropped | exited dropped =>
      rw [dropped.pending] at held
      cases held
  | note _ _ pending _ =>
      rw [pending] at held
      cases held

theorem launched_held (config : RuntimeConfig) (queue : BoundedInputQueue) (nodeId : UInt8) :
    HeldInvariant [] (launched (construct config) queue nodeId) :=
  ⟨launched_invariant config queue nodeId,fun _ held => (by cases held)⟩

end IoSystem

structure CommandLine where
  io : IoSystem
  frames : List Tagged := []
  sends : Nat := 0

inductive LineAction where
  | io (action : IoAction)
  | take

namespace CommandLine

def step (s : CommandLine) : LineAction → Option CommandLine
  | .io action =>
    match s.io.step action with
    | none => none
    | some next =>
      match NodeLink.placed s.io action with
      | none => some {s with io := next}
      | some frame => some {io := next,frames := s.frames ++ [⟨s.sends,frame⟩],sends := s.sends + 1}
  | .take =>
    match s.frames with
    | [] => none
    | _ :: rest => some {s with frames := rest}

inductive Steps (s : CommandLine) : LineAction → CommandLine → Prop where
  | io (moved : s.io.step action = some next) : Steps s (.io action) {s with io := next}
  | sent (moved : s.io.step (.send .sent) = some next) (stage : s.io.stage = .encoded wire frame nowNs) :
      Steps s (.io (.send .sent)) {io := next,frames := s.frames ++ [⟨s.sends,frame⟩],sends := s.sends + 1}
  | taken (waiting : s.frames = sent :: rest) : Steps s .take {s with frames := rest}

theorem placed_exact (placed : NodeLink.placed s action = some frame) :
    action = .send .sent ∧ ∃ wire nowNs, s.stage = .encoded wire frame nowNs := by
  unfold NodeLink.placed at placed
  split at placed
  · split at placed
    · rename_i wire _ nowNs stage
      cases placed
      exact ⟨rfl,wire,nowNs,stage⟩
    · cases placed
  · cases placed

theorem step_exact (taken : step s action = some next) : Steps s action next := by
  cases action with
  | io action =>
      simp only [step] at taken
      split at taken
      · cases taken
      · rename_i moved_eq
        split at taken
        · cases taken
          exact .io moved_eq
        · rename_i placed
          obtain ⟨rfl,wire,nowNs,stage⟩ := placed_exact placed
          cases taken
          exact .sent moved_eq stage
  | take =>
      simp only [step] at taken
      split at taken
      · cases taken
      · rename_i waiting
        cases taken
        exact .taken waiting

def ioAction (_ : CommandLine) : LineAction → Option IoAction
  | .io action => some action
  | .take => none

theorem step_simulates : Simulates CommandLine.io ioAction step IoSystem.step := by
  intro s action next taken
  cases step_exact taken with
  | io moved => exact moved
  | sent moved _ => exact moved
  | taken _ => rfl

abbrev LineMoment := Moment CommandLine LineAction

def ioHistory (past : List LineMoment) : List IoSystem.IoMoment := projected CommandLine.io ioAction past

structure SentFor (command : OutputCommand) (sentNs : Int) (sent : Tagged) (m : LineMoment) (past : List LineMoment) :
    Prop where
  send : m.action = .io (.send .sent)
  tag : sent.tag = m.before.sends
  accepted : Once (IoSystem.Accepts command) (IoSystem.runtimeHistory (ioHistory past))
  encoded : ∃ wire, m.before.io.stage = .encoded wire sent.frame sentNs ∧
    toWireCommand command m.before.io.io.nodeId sentNs = .ok wire

def Traced (past : List LineMoment) (nodeId : UInt8) (sent : Tagged) : Prop :=
  ∃ command sentNs wire, toWireCommand command nodeId sentNs = .ok wire ∧
    CanV1.encodeOutputCommand wire = .ok sent.frame ∧ Once (SentFor command sentNs sent) past

theorem traced_later (traced : Traced past nodeId sent) : Traced (m :: past) nodeId sent := by
  obtain ⟨command,sentNs,wire,wired,encoded,once⟩ := traced
  exact ⟨command,sentNs,wire,wired,encoded,once.later⟩

structure LineInvariant (nodeId : UInt8) (past : List LineMoment) (s : CommandLine) : Prop where
  io : IoSystem.HeldInvariant (ioHistory past) s.io
  own : s.io.io.nodeId = nodeId
  traced : ∀ sent ∈ s.frames, Traced past nodeId sent

theorem line_preserved (invariant : LineInvariant nodeId past s) (taken : step s action = some next) :
    LineInvariant nodeId (⟨s,action,next⟩ :: past) next := by
  have io := projected_invariant step_simulates IoSystem.HeldInvariant (fun _ _ _ _ => IoSystem.held_preserved) invariant.io taken
  cases step_exact taken with
  | io moved =>
      refine ⟨io,(IoSystem.step_nodeId moved).trans invariant.own,?_⟩
      exact fun sent present => traced_later (invariant.traced sent present)
  | @sent _ wire frame nowNs moved stage =>
      obtain ⟨command,held⟩ := invariant.io.held (by simp [stage])
      obtain ⟨wired,encoded⟩ := invariant.io.wired wire frame nowNs command stage held
      refine ⟨io,(IoSystem.step_nodeId moved).trans invariant.own,?_⟩
      intro sent present
      rcases List.mem_append.mp present with before | new
      · exact traced_later (invariant.traced sent before)
      · rw [List.mem_singleton.mp new]
        refine ⟨command,nowNs,wire,invariant.own ▸ wired,encoded,.now ⟨rfl,rfl,?_,wire,stage,wired⟩⟩
        exact invariant.io.source command held
  | @taken sent rest waiting =>
      refine ⟨io,invariant.own,?_⟩
      intro other present
      refine traced_later (invariant.traced other ?_)
      rw [waiting]
      exact List.mem_cons_of_mem _ present

theorem launched_line (config : RuntimeConfig) (queue : BoundedInputQueue) (nodeId : UInt8) :
    LineInvariant nodeId [] {io := .launched (.construct config) queue nodeId} :=
  ⟨IoSystem.launched_held config queue nodeId,rfl,nofun⟩

end CommandLine

section Wire

theorem wire_validity (wired : toWireCommand command nodeId sentNs = .ok wire) :
    CanV1.validity10msFromDeadline sentNs command.deadlineNs = .ok wire.validity10ms := by
  simp only [toWireCommand] at wired
  split at wired
  · cases wired
  · split at wired
    · cases wired
    · rename_i converted
      cases wired
      exact converted

theorem low_byte_bit (word : UInt32) (i : Nat) (on : (word &&& 0xFF).toUInt8.toNat.testBit i = true) :
    word.toNat.testBit i = true := by
  rw [UInt32.toNat_toUInt8,Nat.testBit_mod_two_pow,UInt32.toNat_and,Nat.testBit_and] at on
  simp only [Bool.and_eq_true] at on
  exact on.2.1

theorem wire_left (wired : toWireCommand command nodeId sentNs = .ok wire) :
    sentNs < command.deadlineNs ∧ wire.validity10ms.toNat ≤ 250 ∧
      (wire.validity10ms.toNat : Int) * 10000000 < command.deadlineNs - sentNs + 10000000 := by
  obtain ⟨left,_,most,_,exact⟩ := CanV1.validity_exact _ _ _ (wire_validity wired)
  have unit : CanV1.validityUnitNs = 10000000 := rfl
  rw [unit] at left exact
  exact ⟨by omega,UInt8.le_iff_toNat_le.mp most,exact⟩

theorem wire_bit (wired : toWireCommand command nodeId sentNs = .ok wire) (i : Nat) (masked : wire.mask.toNat.testBit i = true)
    (value : wire.values.toNat.testBit i = true) :
    command.mask.toNat.testBit i = true ∧ command.values.toNat.testBit i = true := by
  obtain ⟨_,_,mask,values⟩ := wire_fields wired
  rw [mask] at masked
  rw [values] at value
  exact ⟨low_byte_bit _ i masked,low_byte_bit _ i value⟩

end Wire

end RobotControlRuntime
