import RobotControlRuntime.CanIoLoop

namespace RobotControlRuntime.IoSystem
open StepHistory LinuxRuntime

def PublishedInEpoch (command : OutputCommand) : List RuntimeMoment → Prop :=
  Since StaysActive fun m _ => m.before.accepted m.action = some command

def LatestAccepted (command : OutputCommand) : List RuntimeMoment → Prop :=
  Since (fun m => StaysActive m ∧ m.before.accepted m.action = none)
    fun m _ => m.before.accepted m.action = some command ∧ StaysActive m

instance (command : OutputCommand) (history : List RuntimeMoment) : Decidable (PublishedInEpoch command history) :=
  inferInstanceAs (Decidable (Since _ _ history))

instance (command : OutputCommand) (history : List RuntimeMoment) : Decidable (LatestAccepted command history) :=
  inferInstanceAs (Decidable (Since _ _ history))

theorem latest_published (latest : LatestAccepted command history) : PublishedInEpoch command history :=
  since_mono (fun _ kept => kept.1) (fun _ _ marked => marked.1) latest

theorem last_latest (last : PublishedLast command history) : LatestAccepted command history :=
  since_mono (fun _ kept => ⟨kept.1,kept.2.1⟩) (fun _ _ marked => marked) last

def handed (m : IoMoment) : Option CanFrame :=
  match m.action,m.before.stage with
  | .send _,.encoded _ frame _ => some frame
  | _,_ => none

def Encodes (nodeId : UInt8) (command : OutputCommand) (frame : CanFrame) : Prop :=
  ∃ nowNs wire, toWireCommand command nodeId nowNs = .ok wire ∧ CanV1.encodeOutputCommand wire = .ok frame

theorem handed_held (invariant : IoInvariant past s) (sent : handed ⟨s,action,next⟩ = some frame) :
    ∃ wire nowNs command, s.stage = .encoded wire frame nowNs ∧ s.io.pendingOutput = some command ∧
      Encodes s.io.nodeId command frame := by
  simp only [handed] at sent
  split at sent
  · rename_i wire other nowNs stage
    cases sent
    obtain ⟨command,held⟩ := invariant.held (by simp [stage])
    exact ⟨wire,nowNs,command,stage,held,nowNs,wire,invariant.wired wire frame nowNs command stage held⟩
  · cases sent

section Approval

def Approves (m : IoMoment) : Prop := (∃ now, m.action = .sendable now) ∧ m.after.stage = .approved

def ApprovedFresh (command : OutputCommand) (m : IoMoment) (past : List IoMoment) : Prop :=
  Approves m ∧ m.before.io.pendingOutput = some command ∧ PublishedInEpoch command (runtimeHistory past)

-- Every frame handed to the bus encodes a command that the last approval found
-- published in the epoch current at that approval.
def SendsFresh (m : IoMoment) (past : List IoMoment) : Prop :=
  ∀ frame, handed m = some frame → ∃ command, Encodes m.before.io.nodeId command frame ∧
    Since (fun m => ¬ Approves m) (ApprovedFresh command) past

-- A publication that binds the session of a new epoch brings another session
-- than the command the pump still holds.
def FreshBinding (m : IoMoment) : Prop :=
  ∀ command now held, m.action = .call (.publishOutputCommand command now) →
    (m.before.runtime.publishOutputCommand command now).2 = .ok () → m.before.runtime.activeSessionId = none →
    m.before.io.pendingOutput = some held → command.sessionId ≠ held.sessionId

theorem held_bound (invariant : IoInvariant past s) (met : FreshBinding ⟨s,.call call,next⟩)
    (held : s.io.pendingOutput = some command) (bound : (s.runtime.apply call).activeSessionId = some command.sessionId) :
    s.runtime.activeSessionId = some command.sessionId ∧
      StaysActive ⟨s.runtime,call,s.runtime.apply call⟩ := by
  refine ⟨?_,stays_active invariant.epoch.composite call bound⟩
  rcases apply_session invariant.epoch.composite call bound with before | ⟨none,other,now,rfl,passed,same⟩
  · exact before
  · exact absurd same (met other now command rfl passed none held)

structure FreshInvariant (past : List IoMoment) (s : IoSystem) : Prop extends IoInvariant past s where
  fresh : ∀ command, s.io.pendingOutput = some command → s.runtime.activeSessionId = some command.sessionId →
    PublishedInEpoch command (runtimeHistory past)

theorem consume_session (r : LinuxRuntime) (now : Result Int) :
    (r.tryConsumeOutputCommand now).1.activeSessionId = r.activeSessionId := by
  have step := consume_exact r now
  generalize (r.tryConsumeOutputCommand now).1 = next at step
  generalize (r.tryConsumeOutputCommand now).2 = returned at step
  cases step <;> rfl

theorem consume_stays (invariant : IoInvariant past s) (now : Result Int)
    (bound : (s.tryConsume now).runtime.activeSessionId = some session) :
    StaysActive ⟨s.runtime,.tryConsumeOutputCommand now,(s.tryConsume now).runtime⟩ :=
  stays_active invariant.epoch.composite (.tryConsumeOutputCommand now) bound

theorem consume_latest (invariant : IoInvariant past s) (now : Result Int)
    (returned : (s.runtime.tryConsumeOutputCommand now).2 = some command) :
    LatestAccepted command (runtimeHistory past) := by
  obtain ⟨_,_,_,_,_,waiting,_,_⟩ := returned_parts s.runtime (.tryConsumeOutputCommand now) returned
  exact last_latest (invariant.epoch.source command waiting)

theorem fresh_preserved (invariant : FreshInvariant past s) (taken : step s action = some next)
    (met : FreshBinding ⟨s,action,next⟩) : FreshInvariant (⟨s,action,next⟩ :: past) next := by
  refine ⟨io_preserved invariant.toIoInvariant taken,?_⟩
  intro command held bound
  cases step_exact taken with
  | @call call _ =>
      obtain ⟨before,stays⟩ := held_bound invariant.toIoInvariant met held bound
      rw [runtimeHistory,projected_call rfl]
      exact .inr ⟨stays,invariant.fresh command held before⟩
  | popEvent _ | pump | approved _ _ _ | encoded _ _ _ _ | sent _ | wouldBlock _ | stopped _ _ _ =>
      rw [runtimeHistory,projected_none rfl]
      exact invariant.fresh command held bound
  | @tryConsume now _ =>
      have stays := consume_stays invariant.toIoInvariant now bound
      rw [runtimeHistory,projected_call rfl]
      refine .inr ⟨stays,?_⟩
      rcases consume_held s now held with returned | ⟨_,before⟩
      · exact latest_published (consume_latest invariant.toIoInvariant now returned)
      · exact invariant.fresh command before (by rwa [← consume_session s.runtime now])
  | refused _ _ _ dropped | unencodable _ _ _ dropped | failed _ dropped | exited dropped =>
      rw [dropped.pending] at held
      cases held
  | note _ _ pending _ =>
      rw [pending] at held
      cases held

def cleared : PumpStage → Bool
  | .approved | .encoded _ _ _ => true
  | _ => false

structure ApprovalInvariant (past : List IoMoment) (s : IoSystem) : Prop extends FreshInvariant past s where
  approved : cleared s.stage = true → ∀ command, s.io.pendingOutput = some command →
    Since (fun m => ¬ Approves m) (ApprovedFresh command) past

theorem approval_preserved (invariant : ApprovalInvariant past s) (taken : step s action = some next)
    (met : FreshBinding ⟨s,action,next⟩) : ApprovalInvariant (⟨s,action,next⟩ :: past) next := by
  refine ⟨fresh_preserved invariant.toFreshInvariant taken met,?_⟩
  intro stage command held
  cases step_exact taken with
  | call _ | popEvent _ | pump | stopped _ _ _ =>
      refine .inr ⟨?_,invariant.approved stage command held⟩
      rintro ⟨⟨_,wrong⟩,_⟩
      cases wrong
  | @tryConsume now _ =>
      rw [consume_stage] at stage
      split at stage <;> cases stage
  | approved _ before passed =>
      obtain ⟨_,_,_,_,_,bound,_⟩ := (sendable_exact _ _ _).mp passed
      have same := Option.some.inj (before.symm.trans held)
      subst same
      exact .inl ⟨⟨⟨_,rfl⟩,rfl⟩,held,invariant.fresh _ held bound⟩
  | encoded before _ _ _ =>
      refine .inr ⟨?_,invariant.approved (by rw [before]; rfl) command held⟩
      rintro ⟨⟨_,wrong⟩,_⟩
      cases wrong
  | sent _ | wouldBlock _ => cases stage
  | refused _ _ _ dropped | unencodable _ _ _ dropped | failed _ dropped | exited dropped =>
      rw [dropped.pending] at held
      cases held
  | note _ _ pending _ =>
      rw [pending] at held
      cases held

theorem approval_sends (invariant : ApprovalInvariant past s) : SendsFresh ⟨s,action,next⟩ past := by
  intro frame sent
  obtain ⟨wire,nowNs,command,stage,held,encodes⟩ := handed_held invariant.toIoInvariant sent
  exact ⟨command,encodes,invariant.approved (by rw [stage]; rfl) command held⟩

def reusedSession : List IoAction :=
  activated ++ [.call (.publishOutputCommand ⟨7,1,900000000,1,1⟩ (.ok 100)),.pump,.tryConsume (.ok 110)] ++
    pumped 120 .wouldBlock ++
    [.call (.handle .deactivateRequest),.call (.handle .activateRequest),.pump,.tryConsume (.ok 200),
     .call (.publishOutputCommand ⟨7,1,900000000,1,0⟩ (.ok 210))] ++ pumped 220 .sent

theorem stale_sent :
    ∃ history s, Reached step fresh4 history s ∧ ¬ Throughout SendsFresh history := by
  refine ⟨_,_,replay_reached reusedSession .start rfl,?_⟩
  intro fresh
  obtain ⟨command,_,since⟩ := fresh.1 _ rfl
  rcases since with ⟨⟨⟨_,wrong⟩,_⟩,_⟩ | ⟨_,since⟩
  · cases wrong
  · rcases since with ⟨_,held,published⟩ | ⟨kept,_⟩
    · cases held
      revert published
      decide
    · exact kept ⟨⟨_,rfl⟩,rfl⟩

theorem sends_fresh (config : RuntimeConfig) (queue : BoundedInputQueue) (nodeId : UInt8)
    (path : Reached step (launched (construct config) queue nodeId) history s)
    (met : Throughout (fun m _ => FreshBinding m) history) : Throughout SendsFresh history := by
  refine throughout_under ApprovalInvariant ⟨⟨launched_invariant config queue nodeId,?_⟩,?_⟩
    (fun _ _ _ _ invariant taken met => approval_preserved invariant taken met)
    (fun _ _ _ _ invariant _ _ => approval_sends invariant) path met
  · intro _ held; cases held
  · intro stage; cases stage

def otherSession : List IoAction :=
  activated ++ [.call (.publishOutputCommand ⟨7,1,900000000,1,1⟩ (.ok 100)),.pump,.tryConsume (.ok 110)] ++
    pumped 120 .wouldBlock ++
    [.call (.handle .deactivateRequest),.call (.handle .activateRequest),.pump,.tryConsume (.ok 200),
     .call (.publishOutputCommand ⟨8,1,900000000,1,0⟩ (.ok 210)),.sendable (.ok 220),.pump,.tryConsume (.ok 230)] ++
    pumped 240 .sent

theorem sends_fresh_other_session :
    ∃ history s, Reached step fresh4 history s ∧ s.io.framesSent = 1 ∧ Throughout SendsFresh history := by
  have path : Reached step fresh4 _ _ := replay_reached otherSession .start rfl
  refine ⟨_,_,path,rfl,sends_fresh {} _ 1 path ?_⟩
  refine ⟨?_,?_,?_,?_,?_,?_,?_,?_,?_,?_,?_,?_,?_,?_,?_,?_,?_,?_,?_,?_,?_,trivial⟩
  all_goals intro _ _ _ same _ _ holds
  all_goals first
    | cases same; done
    | cases holds; done
    | cases same; cases holds; decide

end Approval

section Latest

def StartsPump (m : IoMoment) : Prop := ∃ now, m.action = .tryConsume now

def PumpedLatest (command : OutputCommand) (m : IoMoment) (past : List IoMoment) : Prop :=
  StartsPump m ∧ m.after.io.pendingOutput = some command ∧ LatestAccepted command (runtimeHistory past)

-- Every frame handed to the bus encodes the command that was the last one
-- accepted in its epoch when this pump made its consume.
def SendsLatest (m : IoMoment) (past : List IoMoment) : Prop :=
  ∀ frame, handed m = some frame → ∃ command, Encodes m.before.io.nodeId command frame ∧
    Since (fun m => ¬ StartsPump m) (PumpedLatest command) past

-- A consume that finds a newer command behind a held one reads the clock before
-- that command's deadline, and so takes it.
def TakesNewer (m : IoMoment) : Prop :=
  ∀ now held waiting, m.action = .tryConsume now → m.before.io.pendingOutput = some held →
    m.before.runtime.mailbox.slot = some waiting → ∃ nowNs, now = .ok nowNs ∧ nowNs < waiting.deadlineNs

theorem foreign_slot (composite : CompositeInvariant r) (call : RuntimeCall) (other : foreign r call = true)
    (stays : StaysActive ⟨r,call,r.apply call⟩) (empty : (r.apply call).mailbox.slot = none) :
    r.mailbox.slot = none ∧ r.accepted call = none := by
  constructor
  · have step := apply_open composite call stays.1 stays.2
    generalize r.apply call = next at step empty
    cases step with
    | kept _ _ _ _ _ => exact empty
    | admitted _ _ _ _ _ _ => cases empty
    | consumed _ | noted _ _ => cases other
    | observed => rwa [(observe_frame r _ _ _ _).2.1] at empty
  · cases taken : r.accepted call with
    | none => rfl
    | some command =>
        rw [(accepted_slot r call taken).1] at empty
        cases empty

structure LatestInvariant (past : List IoMoment) (s : IoSystem) : Prop extends FreshInvariant past s where
  latest : ∀ command, s.io.pendingOutput = some command → s.runtime.scheduler.running = true →
    s.runtime.activeSessionId = some command.sessionId → s.runtime.mailbox.slot = none →
    LatestAccepted command (runtimeHistory past)
  consumed : s.stage = .consumed → ∀ command, s.io.pendingOutput = some command →
    s.runtime.scheduler.running = true → s.runtime.activeSessionId = some command.sessionId →
    Since (fun m => ¬ StartsPump m) (PumpedLatest command) past
  approved : cleared s.stage = true → ∀ command, s.io.pendingOutput = some command →
    Since (fun m => ¬ StartsPump m) (PumpedLatest command) past

theorem pump_latest (invariant : LatestInvariant past s) (met : TakesNewer ⟨s,.tryConsume now,next⟩)
    (held : (s.tryConsume now).io.pendingOutput = some command)
    (running : (s.tryConsume now).runtime.scheduler.running = true)
    (bound : (s.tryConsume now).runtime.activeSessionId = some command.sessionId) :
    LatestAccepted command (runtimeHistory past) := by
  rcases consume_held s now held with returned | ⟨nothing,before⟩
  · exact consume_latest invariant.toIoInvariant now returned
  · have stays := consume_stays invariant.toIoInvariant now bound
    have free := invariant.unacknowledged command before
    have opened := active_opened invariant.epoch.composite stays.1
    have running : s.runtime.scheduler.running = true := (consume_control s.runtime now).scheduler ▸ running
    have bound : s.runtime.activeSessionId = some command.sessionId := consume_session s.runtime now ▸ bound
    refine invariant.latest command before running bound ?_
    have newer := met now command
    have step := consume_exact s.runtime now
    generalize (s.runtime.tryConsumeOutputCommand now).1 = after at step
    rw [nothing] at step
    cases waiting : s.runtime.mailbox.slot with
    | none => rfl
    | some other =>
        obtain ⟨nowNs,rfl,fresh⟩ := newer other rfl before waiting
        cases step with
        | shut shut => rcases shut with wrong | wrong <;> simp_all
        | unacknowledged pending => cases pending.symm.trans free
        | empty none => exact absurd (none.symm.trans waiting) (by simp)
        | expired _ _ _ found late =>
            cases found.symm.trans waiting
            omega

theorem unstarted (other : ∀ now, action ≠ .tryConsume now) : ¬ StartsPump ⟨s,action,next⟩ :=
  fun ⟨now,same⟩ => other now same

theorem latest_released (base : FreshInvariant past s) (pending : s.io.pendingOutput = none) : LatestInvariant past s := by
  refine ⟨base,?_,?_,?_⟩
  · intro _ held; rw [pending] at held; cases held
  · intro _ _ held; rw [pending] at held; cases held
  · intro _ _ held; rw [pending] at held; cases held

theorem latest_preserved (invariant : LatestInvariant past s) (taken : step s action = some next)
    (fresh : FreshBinding ⟨s,action,next⟩) (newer : TakesNewer ⟨s,action,next⟩) :
    LatestInvariant (⟨s,action,next⟩ :: past) next := by
  have base := fresh_preserved invariant.toFreshInvariant taken fresh
  cases step_exact taken with
  | @call call other =>
      have before : ∀ command, s.io.pendingOutput = some command →
          (s.runtime.apply call).scheduler.running = true →
          (s.runtime.apply call).activeSessionId = some command.sessionId →
          s.runtime.scheduler.running = true ∧ s.runtime.activeSessionId = some command.sessionId ∧
            StaysActive ⟨s.runtime,call,s.runtime.apply call⟩ := by
        intro command held running bound
        obtain ⟨same,stays⟩ := held_bound invariant.toIoInvariant fresh held bound
        exact ⟨running_kept invariant.joined stays.1 call running,same,stays⟩
      refine ⟨base,?_,?_,?_⟩
      · intro command held running bound empty
        obtain ⟨runs,same,stays⟩ := before command held running bound
        obtain ⟨slot,admitted⟩ := foreign_slot invariant.epoch.composite call other stays empty
        rw [runtimeHistory,projected_call rfl]
        exact .inr ⟨⟨stays,admitted⟩,invariant.latest command held runs same slot⟩
      · intro stage command held running bound
        obtain ⟨runs,same,_⟩ := before command held running bound
        exact .inr ⟨unstarted (by simp),invariant.consumed stage command held runs same⟩
      · intro stage command held
        exact .inr ⟨unstarted (by simp),invariant.approved stage command held⟩
  | popEvent _ | pump | stopped _ _ _ =>
      refine ⟨base,invariant.latest,?_,?_⟩
      · intro stage command held running bound
        exact .inr ⟨unstarted (by simp),invariant.consumed stage command held running bound⟩
      · intro stage command held
        exact .inr ⟨unstarted (by simp),invariant.approved stage command held⟩
  | @tryConsume now _ =>
      have latest : ∀ command, (s.tryConsume now).io.pendingOutput = some command →
          (s.tryConsume now).runtime.scheduler.running = true →
          (s.tryConsume now).runtime.activeSessionId = some command.sessionId →
          LatestAccepted command (runtimeHistory past) := fun command held running bound =>
        pump_latest invariant newer held running bound
      refine ⟨base,?_,?_,?_⟩
      · intro command held running bound _
        rw [runtimeHistory,projected_call rfl]
        exact .inr ⟨⟨consume_stays invariant.toIoInvariant now bound,rfl⟩,latest command held running bound⟩
      · intro _ command held running bound
        exact .inl ⟨⟨now,rfl⟩,held,latest command held running bound⟩
      · intro stage
        rw [consume_stage] at stage
        split at stage <;> cases stage
  | approved stage before passed =>
      obtain ⟨_,_,running,_,_,bound,_⟩ := (sendable_exact _ _ _).mp passed
      refine ⟨base,invariant.latest,fun wrong => (by cases wrong),?_⟩
      intro _ command held
      have same := Option.some.inj (before.symm.trans held)
      subst same
      exact .inr ⟨unstarted (by simp),invariant.consumed stage _ held running bound⟩
  | encoded stage _ _ _ =>
      refine ⟨base,invariant.latest,fun wrong => (by cases wrong),?_⟩
      intro _ command held
      exact .inr ⟨unstarted (by simp),invariant.approved (by rw [stage]; rfl) command held⟩
  | sent _ => exact ⟨base,invariant.latest,fun wrong => (by cases wrong),fun wrong => (by cases wrong)⟩
  | wouldBlock _ => exact ⟨base,invariant.latest,fun wrong => (by cases wrong),fun wrong => (by cases wrong)⟩
  | refused _ _ _ dropped | unencodable _ _ _ dropped | failed _ dropped | exited dropped => exact latest_released base dropped.pending
  | note _ _ pending _ => exact latest_released base pending

theorem latest_sends (invariant : LatestInvariant past s) : SendsLatest ⟨s,action,next⟩ past := by
  intro frame sent
  obtain ⟨wire,nowNs,command,stage,held,encodes⟩ := handed_held invariant.toIoInvariant sent
  exact ⟨command,encodes,invariant.approved (by rw [stage]; rfl) command held⟩

def superseded (deadlineNs nowNs : Int) : List IoAction :=
  activated ++ [.call (.publishOutputCommand ⟨7,1,900000000,1,1⟩ (.ok 100)),.pump,.tryConsume (.ok 110)] ++
    pumped 120 .wouldBlock ++
    [.call (.publishOutputCommand ⟨7,2,deadlineNs,1,0⟩ (.ok 150)),.pump,.tryConsume (.ok nowNs)] ++ pumped nowNs .sent

theorem older_sent :
    ∃ history s, Reached step fresh4 history s ∧ ¬ Throughout SendsLatest history := by
  refine ⟨_,_,replay_reached (superseded 200 300) .start rfl,?_⟩
  intro latest
  obtain ⟨command,_,since⟩ := latest.1 _ rfl
  rcases since with ⟨⟨_,wrong⟩,_⟩ | ⟨_,⟨⟨_,wrong⟩,_⟩ | ⟨_,since⟩⟩
  · cases wrong
  · cases wrong
  · rcases since with ⟨_,held,newest⟩ | ⟨kept,_⟩
    · cases held
      revert newest
      decide
    · exact kept ⟨_,rfl⟩

theorem sends_latest (config : RuntimeConfig) (queue : BoundedInputQueue) (nodeId : UInt8)
    (path : Reached step (launched (construct config) queue nodeId) history s)
    (met : Throughout (fun m _ => FreshBinding m ∧ TakesNewer m) history) : Throughout SendsLatest history := by
  refine throughout_under LatestInvariant ⟨⟨launched_invariant config queue nodeId,?_⟩,?_,?_,?_⟩
    (fun _ _ _ _ invariant taken met => latest_preserved invariant taken met.1 met.2)
    (fun _ _ _ _ invariant _ _ => latest_sends invariant) path met
  · intro _ held; cases held
  · intro _ held; cases held
  · intro stage; cases stage
  · intro stage; cases stage

theorem sends_latest_superseded :
    ∃ history s, Reached step fresh4 history s ∧ s.io.framesSent = 1 ∧ Throughout SendsLatest history := by
  have path : Reached step fresh4 _ _ := replay_reached (superseded 900000000 300) .start rfl
  refine ⟨_,_,path,rfl,sends_latest {} _ 1 path ⟨?_,?_,?_,?_,?_,?_,?_,?_,?_,?_,?_,?_,?_,?_,?_,?_,trivial⟩⟩
  all_goals refine ⟨?_,?_⟩
  all_goals intro _ _ _ same
  all_goals cases same
  all_goals first
    | intro _ _ holds; cases holds; done
    | intro _ bound; cases bound; done
    | intro _ waiting; cases waiting; exact ⟨_,rfl,by decide⟩

end Latest

end RobotControlRuntime.IoSystem
