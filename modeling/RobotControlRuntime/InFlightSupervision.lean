import RobotControlRuntime.OutputFreshness

namespace RobotControlRuntime.IoSystem
open StepHistory LinuxRuntime

def WatchesInFlight (past : List IoMoment) (s : IoSystem) : Prop :=
  s.runtime.mode = .active →
    ((∃ command, s.io.pendingOutput = some command ∧ PublishedInEpoch command (runtimeHistory past)) ∨
      s.runtime.outputAckPending = true) →
    s.runtime.commandWatchdog.armed = true

-- A consume throws an expired command away only while the pump holds none. The
-- disarm that follows the expiry cannot see the pump's command.
def ExpiresUnheld (m : IoMoment) : Prop :=
  ∀ nowNs held waiting, m.action = .tryConsume (.ok nowNs) → m.before.io.pendingOutput = some held →
    m.before.runtime.mailbox.slot = some waiting → nowNs < waiting.deadlineNs

def PublishedBinds (past : List RuntimeMoment) (r : LinuxRuntime) : Prop :=
  ∀ command, PublishedInEpoch command past → r.activeSessionId.isSome = true

theorem binds_preserved (epoch : EpochInvariant past r) (binds : PublishedBinds past r)
    (taken : LinuxRuntime.step r call = some next) : PublishedBinds (⟨r,call,next⟩ :: past) next := by
  cases taken
  intro command published
  rcases published with accepted | ⟨⟨active,stays⟩,before⟩
  · obtain ⟨now,rfl,passed⟩ := accepted_parts r call accepted
    obtain ⟨_,_,_,_,_,_,_,_,_,_,commit⟩ := publish_parts r command now passed
    simp only [apply,commit,Option.isSome_some]
  · obtain ⟨session,bound⟩ := Option.isSome_iff_exists.mp (binds command before)
    exact Option.isSome_iff_exists.mpr ⟨session,open_session (apply_open epoch.composite call active stays) bound⟩

-- Of the pump's command it is enough that some session is bound: a command left
-- over from another epoch is then watched too.
structure WatchInvariant (past : List IoMoment) (s : IoSystem) : Prop extends IoInvariant past s where
  binds : PublishedBinds (runtimeHistory past) s.runtime
  watched : s.io.pendingOutput.isSome = true → s.runtime.activeSessionId.isSome = true →
    s.runtime.commandWatchdog.armed = true
  acknowledged : s.runtime.outputAckPending = true → s.runtime.commandWatchdog.armed = true

theorem watch_binds (invariant : WatchInvariant past s) (taken : step s action = some next) :
    PublishedBinds (runtimeHistory (⟨s,action,next⟩ :: past)) next.runtime :=
  (projected_invariant step_simulates (fun past r => EpochInvariant past r ∧ PublishedBinds past r)
    (fun _ _ _ _ held taken => ⟨step_epoch held.1 taken,binds_preserved held.1 held.2 taken⟩)
    ⟨invariant.epoch,invariant.binds⟩ taken).2

theorem foreign_armed (composite : CompositeInvariant r) (call : RuntimeCall) (other : foreign r call = true)
    (bound : (r.apply call).activeSessionId.isSome = true) :
    (r.apply call).commandWatchdog.armed = true ∨
      (r.activeSessionId.isSome = true ∧ (r.apply call).commandWatchdog.armed = r.commandWatchdog.armed) ∨
      (r.outputAckPending = true ∧ (r.apply call).outputAckPending = false) := by
  obtain ⟨session,bound⟩ := Option.isSome_iff_exists.mp bound
  obtain ⟨active,stays⟩ := stays_active composite call bound
  have step := apply_open composite call active stays
  generalize r.apply call = next at step bound ⊢
  cases step with
  | kept _ _ _ _ same => exact .inr (.inl ⟨by rw [bound]; rfl,same⟩)
  | admitted _ _ _ _ _ _ => exact .inl rfl
  | consumed _ | noted _ _ => cases other
  | @observed sessionId result ackTimeNs sequence =>
      rw [(observe_frame r _ _ _ _).2.2.2.1] at bound
      rw [observe_armed,observe_pending]
      cases closes : r.closesAck sessionId sequence result with
      | false => exact .inr (.inl ⟨by rw [bound]; rfl,by simp⟩)
      | true =>
          simp only [closesAck,ackMatches,Bool.and_eq_true] at closes
          exact .inr (.inr ⟨closes.1.1.1,by simp⟩)

theorem foreign_watches (invariant : WatchInvariant past s) (call : RuntimeCall) (other : foreign s.runtime call = true)
    (bound : (s.runtime.apply call).activeSessionId.isSome = true)
    (flying : s.io.pendingOutput.isSome = true ∨ (s.runtime.apply call).outputAckPending = true) :
    (s.runtime.apply call).commandWatchdog.armed = true := by
  rcases foreign_armed invariant.epoch.composite call other bound with armed | ⟨before,same⟩ | ⟨waited,closed⟩
  · exact armed
  · rw [same]
    rcases flying with held | pending
    · exact invariant.watched held before
    · rcases LinuxRuntime.apply_ack invariant.epoch.composite call pending with ⟨waited,_⟩ | ⟨_,_,_,_,rfl,_⟩
      · exact invariant.acknowledged waited
      · cases other
  · rcases flying with held | pending
    · obtain ⟨command,held⟩ := Option.isSome_iff_exists.mp held
      cases waited.symm.trans (invariant.unacknowledged command held)
    · cases pending.symm.trans closed

theorem consume_watches (invariant : WatchInvariant past s) (now : Result Int)
    (met : ExpiresUnheld ⟨s,.tryConsume now,next⟩)
    (flying : (s.tryConsume now).io.pendingOutput.isSome = true ∧
        (s.tryConsume now).runtime.activeSessionId.isSome = true ∨
      (s.tryConsume now).runtime.outputAckPending = true) :
    (s.tryConsume now).runtime.commandWatchdog.armed = true := by
  have step := consume_exact s.runtime now
  simp only [tryConsume] at flying ⊢
  generalize (s.runtime.tryConsumeOutputCommand now).1 = next at step flying ⊢
  generalize (s.runtime.tryConsumeOutputCommand now).2 = returned at step flying
  cases step with
  | clock | shut _ | unacknowledged _ | empty _ =>
      rcases flying with ⟨held,bound⟩ | pending
      · exact invariant.watched held bound
      · exact invariant.acknowledged pending
  | @expired waiting nowNs _ _ free slot late =>
      rcases flying with ⟨held,_⟩ | pending
      · obtain ⟨command,held⟩ := Option.isSome_iff_exists.mp held
        exact absurd late (Int.not_le.mpr (met nowNs command waiting rfl held slot))
      · cases pending.symm.trans free
  | taken _ _ _ slot _ => exact (invariant.epoch.composite.waiting _ slot).2.2

theorem watch_preserved (invariant : WatchInvariant past s) (taken : step s action = some next)
    (met : ExpiresUnheld ⟨s,action,next⟩) : WatchInvariant (⟨s,action,next⟩ :: past) next := by
  have base := io_preserved invariant.toIoInvariant taken
  have binds := watch_binds invariant taken
  cases step_exact taken with
  | @call call other =>
      refine ⟨base,binds,?_,?_⟩
      · intro held bound
        exact foreign_watches invariant call other bound (.inl held)
      · intro pending
        have session := base.epoch.composite.pending pending
        refine foreign_watches invariant call other ?_ (.inr pending)
        cases bound : (s.runtime.apply call).activeSessionId with
        | some _ => rfl
        | none => rw [bound] at session; cases session
  | popEvent _ | pump | approved _ _ _ | encoded _ _ _ _ | sent _ | wouldBlock _ | stopped _ _ _ =>
      exact ⟨base,binds,invariant.watched,invariant.acknowledged⟩
  | @tryConsume now _ =>
      refine ⟨base,binds,?_,?_⟩
      · intro held bound
        exact consume_watches invariant now met (.inl ⟨held,bound⟩)
      · intro pending
        exact consume_watches invariant now met (.inr pending)
  | refused _ _ _ dropped | unencodable _ _ _ dropped | failed _ dropped | exited dropped =>
      refine ⟨base,binds,?_,?_⟩
      · intro held
        rw [dropped.pending] at held
        cases held
      · rw [dropped.runtime]
        exact invariant.acknowledged
  | @note wire nowNs _ stage runtime pending done =>
      refine ⟨base,binds,?_,?_⟩
      · intro held
        rw [pending] at held
        cases held
      · -- The registered frame was in the pump's hands and its session was bound.
        rw [runtime]
        simp only [apply]
        by_cases noted : (s.runtime.noteOutputCommandSent wire.sessionId wire.sequence nowNs).2 = .ok ()
        · obtain ⟨_,_,_,_,_,session,_,commit⟩ := note_parts _ _ _ _ noted
          obtain ⟨command,held⟩ := invariant.held (by simp [stage])
          rw [commit]
          intro _
          refine invariant.watched (by rw [held]; rfl) ?_
          cases bound : s.runtime.activeSessionId with
          | some _ => rfl
          | none => rw [bound] at session; cases session
        · rw [note_refused _ _ _ _ noted]
          exact invariant.acknowledged

theorem watch_covers (invariant : WatchInvariant past s) : WatchesInFlight past s := by
  rintro _ (⟨command,held,published⟩ | pending)
  · exact invariant.watched (by rw [held]; rfl) (invariant.binds command published)
  · exact invariant.acknowledged pending

theorem launched_watch (config : RuntimeConfig) (queue : BoundedInputQueue) (nodeId : UInt8) :
    WatchInvariant [] (launched (construct config) queue nodeId) := by
  refine ⟨launched_invariant config queue nodeId,?_,?_,?_⟩
  · intro _ published; cases published
  · intro held; cases held
  · intro pending; cases pending

def unwatched : List IoAction :=
  activated ++ [.call (.publishOutputCommand ⟨7,1,900000000,1,1⟩ (.ok 100)),.pump,.tryConsume (.ok 110)] ++
    pumped 120 .wouldBlock ++
    [.call (.publishOutputCommand ⟨7,2,200,1,0⟩ (.ok 150)),.pump,.tryConsume (.ok 300)]

theorem held_unwatched :
    ∃ history s, Reached step fresh4 history s ∧ ¬ WatchesInFlight history s := by
  refine ⟨_,_,replay_reached unwatched .start rfl,?_⟩
  intro watches
  have armed := watches rfl (.inl ⟨⟨7,1,900000000,1,1⟩,rfl,by decide⟩)
  cases armed

theorem watches_inFlight (config : RuntimeConfig) (queue : BoundedInputQueue) (nodeId : UInt8)
    (path : Reached step (launched (construct config) queue nodeId) history s)
    (met : Throughout (fun m _ => ExpiresUnheld m) history) : WatchesInFlight history s :=
  watch_covers (reached_under WatchInvariant (launched_watch config queue nodeId)
    (fun _ _ _ _ invariant taken met => watch_preserved invariant taken met) path met)

def longerLived : List IoAction :=
  activated ++ [.call (.publishOutputCommand ⟨7,1,900000000,1,1⟩ (.ok 100)),.pump,.tryConsume (.ok 110)] ++
    pumped 120 .wouldBlock ++
    [.call (.publishOutputCommand ⟨7,2,900000000,1,0⟩ (.ok 150)),.pump,.tryConsume (.ok 300)]

theorem watches_inFlight_superseded :
    ∃ history s, Reached step fresh4 history s ∧ s.io.pendingOutput = some ⟨7,2,900000000,1,0⟩ ∧
      s.runtime.commandWatchdog.armed = true := by
  have path : Reached step fresh4 _ _ := replay_reached longerLived .start rfl
  refine ⟨_,_,path,rfl,watches_inFlight {} _ 1 path ?_ rfl (.inl ⟨_,rfl,by decide⟩)⟩
  refine ⟨?_,?_,?_,?_,?_,?_,?_,?_,?_,?_,?_,?_,?_,trivial⟩
  all_goals
    intro _ _ _ same held waiting
    cases same
  all_goals first
    | cases held; done
    | cases waiting; decide

end RobotControlRuntime.IoSystem
