import RobotControlRuntime.CanIoLoop
import RobotControlRuntime.RuntimeDaemon

namespace RobotControlRuntime.IoSystem
open StepHistory LinuxRuntime

def pumps : IoAction → Bool
  | .tryConsume _ | .sendable _ | .encode _ | .send _ | .note => true
  | _ => false

def SparesWorker (m : IoMoment) (_ : List IoMoment) : Prop :=
  pumps m.action = true → m.after.io.stopReason = m.before.io.stopReason

def healthy : IoAction → Bool
  | .send .failed | .stop (.canError _) => false
  | _ => true

def committed : PumpStage → Bool
  | .approved | .encoded _ _ _ | .sent _ _ => true
  | _ => false

-- From the approval of a command to the registration of its frame no other thread
-- closes the output path. CLOCK_MONOTONIC never reads zero.
structure Undisturbed (m : IoMoment) : Prop where
  opened : ∀ call, m.action = .call call → committed m.before.stage = true →
    (m.before.runtime.apply call).mode = .active ∧ (m.before.runtime.apply call).scheduler.running = true
  clock : ∀ nowNs, m.action = .encode (.ok nowNs) → 0 < nowNs

structure Registrable (s : IoSystem) (command : OutputCommand) : Prop where
  held : s.io.pendingOutput = some command
  active : s.runtime.mode = .active
  running : s.runtime.scheduler.running = true
  bound : s.runtime.activeSessionId = some command.sessionId

structure SurvivalInvariant (past : List IoMoment) (s : IoSystem) : Prop extends IoInvariant past s where
  registrable : committed s.stage = true → ∃ command, Registrable s command
  clock : ∀ wire frame nowNs, s.stage = .encoded wire frame nowNs → 0 < nowNs
  sentWire : ∀ wire nowNs command, s.stage = .sent wire nowNs → s.io.pendingOutput = some command →
    0 < nowNs ∧ toWireCommand command s.io.nodeId nowNs = .ok wire

theorem survival_between (base : IoInvariant past s) (outside : committed s.stage = false) : SurvivalInvariant past s := by
  refine ⟨base,?_,?_,?_⟩
  · intro inside
    cases outside.symm.trans inside
  · intro _ _ _ stage
    rw [stage] at outside
    cases outside
  · intro _ _ _ stage
    rw [stage] at outside
    cases outside

theorem survival_preserved (invariant : SurvivalInvariant past s) (taken : step s action = some next)
    (met : Undisturbed ⟨s,action,next⟩) : SurvivalInvariant (⟨s,action,next⟩ :: past) next := by
  have base := io_preserved invariant.toIoInvariant taken
  cases step_exact taken with
  | @call call _ =>
      refine ⟨base,?_,invariant.clock,invariant.sentWire⟩
      intro inside
      obtain ⟨command,registrable⟩ := invariant.registrable inside
      obtain ⟨stays,runs⟩ := met.opened call rfl inside
      have step := apply_open invariant.epoch.composite call registrable.active stays
      exact ⟨command,registrable.held,stays,runs,open_session step registrable.bound⟩
  | popEvent _ | pump | stopped _ _ _ =>
      refine ⟨base,?_,invariant.clock,invariant.sentWire⟩
      intro inside
      obtain ⟨command,registrable⟩ := invariant.registrable inside
      exact ⟨command,registrable.held,registrable.active,registrable.running,registrable.bound⟩
  | @tryConsume now _ =>
      refine survival_between base ?_
      rw [consume_stage]
      split <;> rfl
  | approved _ held passed =>
      obtain ⟨_,_,running,opened,_,bound,_⟩ := (sendable_exact _ _ _).mp passed
      refine ⟨base,fun _ => ⟨_,held,((canAccept_mode _).mp opened).1,running,bound⟩,?_,?_⟩
      · intro _ _ _ stage; cases stage
      · intro _ _ _ stage; cases stage
  | @encoded command nowNs wire frame stage _ _ _ =>
      obtain ⟨other,registrable⟩ := invariant.registrable (by rw [stage]; rfl)
      refine ⟨base,fun _ => ⟨other,registrable.held,registrable.active,registrable.running,registrable.bound⟩,?_,?_⟩
      · intro _ _ _ stage
        cases stage
        exact met.clock nowNs rfl
      · intro _ _ _ stage; cases stage
  | @sent wire frame nowNs stage =>
      obtain ⟨other,registrable⟩ := invariant.registrable (by rw [stage]; rfl)
      refine ⟨base,fun _ => ⟨other,registrable.held,registrable.active,registrable.running,registrable.bound⟩,?_,?_⟩
      · intro _ _ _ stage; cases stage
      · intro _ _ command after held
        cases after
        exact ⟨invariant.clock wire frame nowNs stage,(invariant.wired wire frame nowNs command stage held).1⟩
  | wouldBlock _ => exact survival_between base rfl
  | refused _ _ _ dropped | unencodable _ _ _ dropped | failed _ dropped | exited dropped =>
      exact survival_between base (by rw [dropped.stage]; rfl)
  | note _ _ _ done => exact survival_between base (by rw [done]; rfl)

theorem note_registers (invariant : SurvivalInvariant past s) (stage : s.stage = .sent wire nowNs) :
    (s.runtime.noteOutputCommandSent wire.sessionId wire.sequence nowNs).2 = .ok () := by
  obtain ⟨command,registrable⟩ := invariant.registrable (by rw [stage]; rfl)
  obtain ⟨positive,wired⟩ := invariant.sentWire wire nowNs command stage registrable.held
  obtain ⟨_,same,nonzero,numbered⟩ := wire_parts wired
  have opened := active_opened invariant.epoch.composite registrable.active
  have free := invariant.unacknowledged command registrable.held
  have session : s.runtime.activeSessionId.map UInt64.toUInt16 = some wire.sessionId := by simp [registrable.bound,same]
  simp [noteOutputCommandSent,nonzero,numbered,Int.not_le.mpr positive,registrable.running,opened,session,free]

theorem survival_spares (invariant : SurvivalInvariant past s) (taken : step s action = some next)
    (passes : healthy action = true) : SparesWorker ⟨s,action,next⟩ past := by
  intro pumping
  cases action with
  | call _ | popEvent | pump | stop _ | exit _ => cases pumping
  | tryConsume now =>
      simp only [step] at taken
      split at taken <;> cases taken
      rfl
  | sendable now =>
      simp only [step,sendable] at taken
      split at taken
      · split at taken <;> cases taken <;> rfl
      · cases taken
  | encode now =>
      simp only [step,encode] at taken
      split at taken
      · split at taken
        · cases taken; rfl
        · split at taken
          · cases taken; rfl
          · split at taken <;> cases taken <;> rfl
      · cases taken
  | send outcome =>
      simp only [step] at taken
      split at taken
      · cases outcome with
        | sent | wouldBlock => cases taken; rfl
        | failed => cases passes
      · cases taken
  | note =>
      simp only [step] at taken
      split at taken
      · rename_i wire nowNs stage
        have noted := note_registers invariant stage
        cases taken
        simp only [note]
        split
        · rfl
        · rename_i failed
          rw [failed] at noted
          cases noted
      · cases taken

def closedWhileSending : List IoAction :=
  activated ++ [.call (.publishOutputCommand ⟨7,1,900000000,1,1⟩ (.ok 100)),.pump,.tryConsume (.ok 110)] ++
    pumped 120 .sent ++ [.call (.handle .deactivateRequest),.note]

theorem worker_ended :
    ∃ history s, Reached step fresh4 history s ∧ (history.all fun m => healthy m.action) = true ∧
      s.runtime.mode = .idle ∧ ¬ Throughout SparesWorker history ∧
      ∀ (daemon : RuntimeDaemon) (d : StartedDaemon), daemon.parts = some d → d.stopReason = s.io.stopReason →
        daemon.classifyStop = .workerFailure := by
  refine ⟨_,_,replay_reached closedWhileSending .start rfl,rfl,rfl,?_,?_⟩
  · intro spares
    cases spares.1 rfl
  · intro daemon d parts reason
    have reason : d.stopReason = .sendFailure := reason
    simp [RuntimeDaemon.classifyStop,parts,reason]

theorem spares_worker (config : RuntimeConfig) (queue : BoundedInputQueue) (nodeId : UInt8)
    (path : Reached step (launched (construct config) queue nodeId) history s)
    (met : Throughout (fun m _ => healthy m.action = true ∧ Undisturbed m) history) :
    Throughout SparesWorker history :=
  throughout_under SurvivalInvariant (survival_between (launched_invariant config queue nodeId) rfl)
    (fun _ _ _ _ invariant taken met => survival_preserved invariant taken met.2)
    (fun _ _ _ _ invariant taken met => survival_spares invariant taken met.1) path met

theorem spares_worker_registered :
    ∃ history s, Reached step fresh4 history s ∧ s.io.framesSent = 1 ∧ s.runtime.mode = .idle ∧
      Throughout SparesWorker history := by
  have path : Reached step fresh4 _ _ := replay_reached
    (activated ++ transmitted ⟨7,1,900000000,1,1⟩ 100 ++ [.call (.handle .deactivateRequest)]) .start rfl
  refine ⟨_,_,path,rfl,rfl,spares_worker {} _ 1 path ⟨?_,?_,?_,?_,?_,?_,?_,?_,?_,?_,?_,?_,trivial⟩⟩
  all_goals refine ⟨rfl,?_,?_⟩
  all_goals first
    | intro _ _ inside; cases inside; done
    | intro _ same; cases same; decide
    | intro _ same; cases same

end RobotControlRuntime.IoSystem
