import RobotControlRuntime.ApplicationAdapter

namespace RobotControlRuntime
open StepHistory

namespace LinuxRuntime
variable {r next : LinuxRuntime} {command : OutputCommand} {now : Result Int} {nowNs : Int} {call : RuntimeCall}

theorem publish_accepts (running : r.scheduler.running = true) (opened : r.stateMachine.canAcceptOutput = true)
    (nonzero : command.sessionId ≠ 0 ∧ command.sequence ≠ 0 ∧ command.mask ≠ 0) (fresh : nowNs < command.deadlineNs)
    (session : r.activeSessionId = none ∨ r.activeSessionId = some command.sessionId)
    (newer : r.lastOutputSequence < command.sequence) : (r.publishOutputCommand command (.ok nowNs)).2 = .ok () := by
  have later : ¬ command.sequence ≤ r.lastOutputSequence := UInt64.not_le.mpr newer
  have live : ¬ command.deadlineNs ≤ nowNs := by omega
  rcases session with none | same <;>
    simp [publishOutputCommand,commitSequence, *]

structure SameStream (r next : LinuxRuntime) : Prop where
  session : next.activeSessionId = r.activeSessionId
  last : next.lastOutputSequence = r.lastOutputSequence

def publishes : RuntimeCall → Bool
  | .publishOutputCommand _ _ => true
  | _ => false

theorem open_stream (step : OpenStep r call next) (silent : publishes call = false) : SameStream r next := by
  cases step with
  | kept _ _ _ _ _ | noted _ _ => exact ⟨rfl,rfl⟩
  | admitted _ _ _ _ _ _ => cases silent
  | consumed consumes => cases consumes <;> exact ⟨rfl,rfl⟩
  | observed =>
      obtain ⟨_,_,_,session,last,_⟩ := observe_frame r _ _ _ _
      exact ⟨session,last⟩

theorem fold_stream (composite : CompositeInvariant r) (calls : List RuntimeCall)
    (silent : ∀ call ∈ calls, publishes call = false) (never : .handle .activateRequest ∉ calls)
    (opened : (calls.foldl apply r).mode = .active) : SameStream r (calls.foldl apply r) := by
  induction calls generalizing r with
  | nil => exact ⟨rfl,rfl⟩
  | cons call rest ih =>
      have active := fold_active (call :: rest) never opened
      simp only [List.mem_cons,not_or] at never
      simp only [List.forall_mem_cons] at silent
      have stays := fold_active rest never.2 opened
      have first := open_stream (apply_open composite call active stays) silent.1
      have later := ih (apply_composite composite call) silent.2 never.2 opened
      exact ⟨later.session.trans first.session,later.last.trans first.last⟩

theorem refused_unchanged (composite : CompositeInvariant r)
    (refused : (r.publishOutputCommand command now).2 ≠ .ok ()) : (r.publishOutputCommand command now).1 = r := by
  rcases publish_refused r command now refused with same | ⟨none,nonzero,stale,_⟩
  · exact same
  · have fresh : r.lastOutputSequence = 0 := by
      have bound := composite.bound
      simpa [none] using bound
    rw [fresh] at stale
    exact absurd (UInt64.le_zero_iff.mp stale) nonzero

end LinuxRuntime

namespace StartedDaemon
open LinuxRuntime
variable {d next : StartedDaemon} {action : DaemonAction}

theorem step_coherent (composite : CompositeInvariant d.runtime) (taken : d.step action = some next) :
    CompositeInvariant next.runtime := by
  rw [step_runtime taken]
  exact fold_composite _ composite

theorem calls_publish (other : ∀ command now, action ≠ .publishOutputCommand command now) :
    ∀ call ∈ d.calls action, publishes call = false := by
  cases action with
  | publishOutputCommand command now => exact absurd rfl (other command now)
  | tick tick =>
      intro call listed
      rcases tick_calls listed with rfl | drives
      · rfl
      · cases call <;> first | rfl | cases drives
  | boot =>
      simp only [calls]
      split <;> simp [publishes]
  | clearFault =>
      have clears := d.clear_exact
      generalize d.clearFault.1 = next at clears
      generalize d.calls .clearFault = calls at clears
      cases clears <;> simp [publishes]
  | _ => simp [calls,publishes]

theorem step_stream (composite : CompositeInvariant d.runtime) (taken : d.step action = some next)
    (other : ∀ command now, action ≠ .publishOutputCommand command now) (active : d.runtime.mode = .active)
    (stays : next.runtime.mode = .active) : SameStream d.runtime next.runtime := by
  have silent := calls_publish (d := d) other
  rw [step_runtime taken] at stays ⊢
  by_cases activates : .handle .activateRequest ∈ d.calls action
  · -- The daemon's own activation is one call, refused while Active.
    cases calls_activate activates
    exact open_stream (apply_open composite (.handle .activateRequest) active stays) rfl
  · exact fold_stream composite _ silent activates stays

theorem step_shut (composite : CompositeInvariant d.runtime) (taken : d.step action = some next)
    (crossed : ¬ (d.runtime.mode = .active ∧ next.runtime.mode = .active)) :
    next.runtime.activeSessionId = none ∧ next.runtime.lastOutputSequence = 0 := by
  by_cases opened : next.runtime.mode = .active
  · have shut : d.runtime.mode ≠ .active := fun active => crossed ⟨active,opened⟩
    rw [step_runtime taken] at opened ⊢
    by_cases activates : .handle .activateRequest ∈ d.calls action
    · cases calls_activate activates
      obtain ⟨_,_,_,_,cleared⟩ := apply_entering d.runtime (.handle .activateRequest) shut opened
      simp only [calls,List.foldl_cons,List.foldl_nil,cleared]
      exact ⟨rfl,rfl⟩
    · exact absurd (fold_active _ activates opened) shut
  · obtain ⟨_,session,last,_⟩ := (step_coherent composite taken).closed opened
    exact ⟨session,last⟩

end StartedDaemon

namespace RuntimeDaemon
variable {daemon next : RuntimeDaemon} {now published : Result Int}

def session (daemon : RuntimeDaemon) : Option UInt64 := daemon.parts.bind fun d => d.runtime.activeSessionId

def lastSequence (daemon : RuntimeDaemon) : UInt64 :=
  match daemon.parts with
  | none => 0
  | some d => d.runtime.lastOutputSequence

def Coherent (daemon : RuntimeDaemon) : Prop := ∀ d, daemon.parts = some d → LinuxRuntime.CompositeInvariant d.runtime

inductive Moves (daemon : RuntimeDaemon) (action : AdapterAction) (next : RuntimeDaemon) : Prop where
  | admitted (taken : daemon.admitted action = some command) (active : daemon.mode = .active)
      (stays : next.mode = .active) (running : daemon.running = true) (nonzero : command.sessionId ≠ 0)
      (session : daemon.session = none ∨ daemon.session = some command.sessionId)
      (newer : daemon.lastSequence < command.sequence) (bound : next.session = some command.sessionId)
      (last : next.lastSequence = command.sequence)
  | kept (quiet : daemon.admitted action = none) (active : daemon.mode = .active) (stays : next.mode = .active)
      (session : next.session = daemon.session) (last : next.lastSequence = daemon.lastSequence)
  | emptied (quiet : daemon.admitted action = none) (crossed : ¬ (daemon.mode = .active ∧ next.mode = .active))
      (session : next.session = none) (last : next.lastSequence = 0)

theorem unstarted_moves (quiet : daemon.admitted action = none) (gone : next.parts = none) :
    Moves daemon action next :=
  .emptied quiet (by simp [mode,gone]) (by simp [session,gone]) (by simp [lastSequence,gone])

theorem quiet_moves {d later : StartedDaemon} (parts : daemon.parts = some d) (onward : next.parts = some later)
    (quiet : daemon.admitted action = none)
    (inside : d.runtime.mode = .active → later.runtime.mode = .active → LinuxRuntime.SameStream d.runtime later.runtime)
    (outside : ¬ (d.runtime.mode = .active ∧ later.runtime.mode = .active) →
      later.runtime.activeSessionId = none ∧ later.runtime.lastOutputSequence = 0) : Moves daemon action next := by
  obtain ⟨config,_,exitCode⟩ := daemon
  obtain ⟨config',_,exitCode'⟩ := next
  cases parts
  cases onward
  by_cases both : d.runtime.mode = .active ∧ later.runtime.mode = .active
  · have same := inside both.1 both.2
    exact .kept quiet both.1 both.2 same.session same.last
  · have empty := outside both
    exact .emptied quiet both empty.1 empty.2

theorem same_moves (coherent : Coherent daemon) (quiet : daemon.admitted action = none)
    (same : next.parts = daemon.parts) : Moves daemon action next := by
  cases parts : daemon.parts with
  | none => exact unstarted_moves quiet (same.trans parts)
  | some d =>
      refine quiet_moves parts (same.trans parts) quiet (fun _ _ => ⟨rfl,rfl⟩) fun crossed => ?_
      obtain ⟨_,session,last,_⟩ := (coherent d parts).closed fun active => crossed ⟨active,active⟩
      exact ⟨session,last⟩

theorem publish_moves (coherent : Coherent daemon) (asked : publication action = some (command,now)) :
    Moves daemon action (daemon.publishOutputCommand command now).1 := by
  obtain ⟨config,parts,exitCode⟩ := daemon
  have judged := admitted_asked ⟨config,parts,exitCode⟩ asked
  cases parts with
  | none => exact unstarted_moves judged rfl
  | some d =>
      have composite := coherent d rfl
      simp only [publishOutputCommand,StartedDaemon.publishOutputCommand] at judged ⊢
      by_cases passed : (d.runtime.publishOutputCommand command now).2 = .ok ()
      · obtain ⟨nowNs,_,running,opened,nonzero,_,_,_,session,newer,commit⟩ :=
          LinuxRuntime.publish_parts d.runtime command now passed
        have active : d.runtime.mode = .active := ((LinuxRuntime.canAccept_mode _).mp opened).1
        rw [commit]
        rw [passed] at judged
        exact .admitted judged active active running nonzero session newer rfl rfl
      · have same := LinuxRuntime.refused_unchanged composite passed
        have quiet : admitted ⟨config,some d,exitCode⟩ action = none := by
          rw [judged]
          split
          · contradiction
          · rfl
        rw [same]
        exact same_moves coherent quiet rfl

theorem start_moves (coherent : Coherent daemon) (environment : StartEnvironment) :
    Moves daemon (.start environment) (daemon.start environment).1 := by
  rcases (start_parts environment : (daemon.start environment).1.parts = daemon.parts ∨ _) with same | ⟨runtime,supervisor,queue,built,composite,shut⟩
  · exact same_moves coherent rfl same
  · obtain ⟨_,session,last,_⟩ := composite.closed shut
    refine .emptied rfl ?_ ?_ ?_
    · simp [mode,built,shut]
    · simp [RuntimeDaemon.session,built,session]
    · simp [lastSequence,built,last]

theorem publish_coherent (coherent : Coherent daemon) : Coherent (daemon.publishOutputCommand command now).1 := by
  obtain ⟨config,parts,exitCode⟩ := daemon
  cases parts with
  | none => exact coherent
  | some d =>
      intro later built
      cases built
      exact LinuxRuntime.apply_composite (coherent d rfl) (.publishOutputCommand command now)

theorem step_coherent (coherent : Coherent daemon) (taken : daemon.step action = some next) : Coherent next := by
  cases action with
  | start environment =>
      cases taken
      intro d built
      rcases (start_parts environment : (daemon.start environment).1.parts = daemon.parts ∨ _) with same | ⟨_,_,_,fresh,composite,_⟩
      · exact coherent d (same.symm.trans built)
      · cases fresh.symm.trans built
        exact composite
  | stop =>
      cases taken
      intro d built
      cases built
  | daemon action =>
      obtain ⟨d,later,parts,moved,rfl⟩ := daemon_exact taken
      intro other built
      cases built
      exact StartedDaemon.step_coherent (coherent d parts) moved
  | submitDigitalOutput request now published =>
      cases taken
      rcases submit_exact daemon request now published with ⟨same,_⟩ | ⟨command,_,same⟩
      · rw [same]; exact coherent
      · rw [same]; exact publish_coherent coherent

theorem step_moves (coherent : Coherent daemon) (taken : daemon.step action = some next) : Moves daemon action next := by
  cases action with
  | start environment =>
      cases taken
      exact start_moves coherent environment
  | stop =>
      cases taken
      exact unstarted_moves rfl rfl
  | daemon action =>
      obtain ⟨d,later,parts,moved,rfl⟩ := daemon_exact taken
      by_cases publishes : ∃ command now, action = .publishOutputCommand command now
      · obtain ⟨command,now,rfl⟩ := publishes
        have same : {daemon with parts := some later} = (daemon.publishOutputCommand command now).1 := by
          cases moved
          simp only [publishOutputCommand,parts]
        rw [same]
        exact publish_moves coherent rfl
      · have other : ∀ command now, action ≠ .publishOutputCommand command now :=
          fun command now same => publishes ⟨command,now,same⟩
        have quiet : daemon.admitted (.daemon action) = none := by
          cases action <;> first | rfl | exact absurd rfl (other _ _)
        exact quiet_moves parts rfl quiet (StartedDaemon.step_stream (coherent d parts) moved other)
          (StartedDaemon.step_shut (coherent d parts) moved)
  | submitDigitalOutput request now published =>
      cases taken
      rcases submit_exact daemon request now published with ⟨same,none⟩ | ⟨command,asked,same⟩
      · exact same_moves coherent (by rw [admitted,none]) (by rw [same])
      · rw [same]
        exact publish_moves coherent asked

structure Admissions (past : List AdapterMoment) (daemon : RuntimeDaemon) : Prop where
  coherent : Coherent daemon
  bound : ∀ command, AdmittedInEpoch command past →
    command.sessionId ≠ 0 ∧ daemon.session = some command.sessionId ∧ command.sequence ≤ daemon.lastSequence
  newest : ∀ session, daemon.session = some session →
    ∃ command, AdmittedInEpoch command past ∧ command.sessionId = session ∧ command.sequence = daemon.lastSequence

theorem construct_admissions (config : DaemonConfig) : Admissions [] (construct config) := by
  refine ⟨?_,?_,?_⟩
  · intro d built
    cases built
  · intro command earlier
    exact earlier.elim
  · intro session bound
    cases bound

theorem step_admissions (admissions : Admissions past daemon) (taken : daemon.step action = some next) :
    Admissions (⟨daemon,action,next⟩ :: past) next := by
  refine ⟨step_coherent admissions.coherent taken,?_,?_⟩
  · rintro command (here | ⟨⟨active,stays⟩,before⟩)
    · cases step_moves admissions.coherent taken with
      | admitted taken _ _ _ nonzero _ _ bound last =>
          cases taken.symm.trans here
          exact ⟨nonzero,bound,UInt64.le_of_eq last.symm⟩
      | kept quiet _ _ _ _ | emptied quiet _ _ _ => cases quiet.symm.trans here
    · obtain ⟨nonzero,session,older⟩ := admissions.bound command before
      cases step_moves admissions.coherent taken with
      | admitted _ _ _ _ _ same newer bound last =>
          rw [bound,last]
          rcases same with none | same
          · cases none.symm.trans session
          · exact ⟨nonzero,same.symm.trans session,UInt64.le_of_lt (UInt64.lt_of_le_of_lt older newer)⟩
      | kept _ _ _ same last =>
          rw [same,last]
          exact ⟨nonzero,session,older⟩
      | emptied _ crossed _ _ => exact absurd ⟨active,stays⟩ crossed
  · intro session found
    cases step_moves admissions.coherent taken with
    | admitted taken _ _ _ _ _ _ bound last =>
        exact ⟨_,.inl taken,Option.some.inj (bound.symm.trans found),last.symm⟩
    | kept _ active stays same last =>
        rw [same] at found
        obtain ⟨command,before,belongs,newest⟩ := admissions.newest session found
        exact ⟨command,.inr ⟨⟨active,stays⟩,before⟩,belongs,newest.trans last.symm⟩
    | emptied _ _ none _ => cases none.symm.trans found

def nextRequest (daemon : RuntimeDaemon) : DigitalOutputRequest where
  sessionId := daemon.session.getD 1
  sequence := daemon.lastSequence + 1
  validForMs := 2500
  mask := 1

theorem next_validity (daemon : RuntimeDaemon) : daemon.nextRequest.validityNs = 2500000000 := by
  have ms : daemon.nextRequest.validForMs.toNat = 2500 := rfl
  unfold DigitalOutputRequest.validityNs
  omega

theorem next_command (session : daemon.session.getD 1 ≠ 0 ∧ daemon.session.getD 1 ≤ 65535)
    (room : daemon.lastSequence < 65535) (inside : first + 2500000000 ≤ DigitalOutputRequest.maxInt64) :
    daemon.nextRequest.toCommand (.ok first) =
      .ok ⟨daemon.session.getD 1,daemon.lastSequence + 1,first + 2500000000,1,0⟩ := by
  have within : ¬ (daemon.nextRequest.sessionId = 0 ∨
      DigitalOutputRequest.maxWireValue < daemon.nextRequest.sessionId) := by
    rintro (zero | large)
    · exact session.1 zero
    · exact UInt64.not_lt.mpr session.2 large
  have counted : ¬ (daemon.nextRequest.sequence = 0 ∨
      DigitalOutputRequest.maxWireValue < daemon.nextRequest.sequence) := by
    simp only [nextRequest,DigitalOutputRequest.maxWireValue,UInt64.lt_iff_toNat_lt,← UInt64.toNat_inj,
      UInt64.toNat_add] at room ⊢
    simp at room ⊢
    omega
  have valid : ¬ (daemon.nextRequest.validForMs < DigitalOutputRequest.minValidityMs ∨
      DigitalOutputRequest.maxValidityMs < daemon.nextRequest.validForMs) := by
    simp [nextRequest,DigitalOutputRequest.minValidityMs,DigitalOutputRequest.maxValidityMs]
  have bits : ¬ (daemon.nextRequest.mask = 0 ∨ DigitalOutputRequest.maxDigitalBits < daemon.nextRequest.mask ∨
      DigitalOutputRequest.maxDigitalBits < daemon.nextRequest.values) := by
    simp [nextRequest,DigitalOutputRequest.maxDigitalBits]
  have early : ¬ DigitalOutputRequest.maxInt64 - daemon.nextRequest.validityNs < first := by
    rw [next_validity]
    omega
  unfold DigitalOutputRequest.toCommand
  rw [if_neg within,if_neg counted,if_neg valid,if_neg bits]
  dsimp only
  rw [if_neg early,next_validity]
  rfl

theorem stream_room (admissions : Admissions past daemon)
    (room : ∀ earlier, AdmittedInEpoch earlier past → earlier.sessionId ≤ 65535 ∧ earlier.sequence < 65535) :
    (daemon.session.getD 1 ≠ 0 ∧ daemon.session.getD 1 ≤ 65535) ∧ daemon.lastSequence < 65535 := by
  cases bound : daemon.session with
  | some session =>
      obtain ⟨command,before,rfl,newest⟩ := admissions.newest session bound
      obtain ⟨narrow,left⟩ := room command before
      rw [← newest]
      exact ⟨⟨(admissions.bound command before).1,narrow⟩,left⟩
  | none =>
      have unused : daemon.lastSequence = 0 := by
        obtain ⟨config,parts,exitCode⟩ := daemon
        cases parts with
        | none => rfl
        | some d =>
            have composite := (admissions.coherent d rfl).bound
            have unbound : d.runtime.activeSessionId = none := bound
            simpa [unbound,lastSequence] using composite
      rw [unused]
      decide

theorem next_published (admissions : Admissions past daemon) (active : daemon.mode = .active)
    (running : daemon.running = true) (session : daemon.session.getD 1 ≠ 0) (room : daemon.lastSequence < 65535)
    (fresh : second < deadline) :
    (daemon.publishOutputCommand ⟨daemon.session.getD 1,daemon.lastSequence + 1,deadline,1,0⟩ (.ok second)).2 =
      .ok () := by
  have newer : daemon.lastSequence < daemon.lastSequence + 1 := by
    simp only [UInt64.lt_iff_toNat_lt,UInt64.toNat_add] at room ⊢
    simp at room ⊢
    omega
  have counted : daemon.lastSequence + 1 ≠ 0 := by
    intro zero
    rw [zero] at newer
    exact absurd newer UInt64.not_lt_zero
  obtain ⟨config,parts,exitCode⟩ := daemon
  cases parts with
  | none => cases active
  | some d =>
      have opened := LinuxRuntime.active_opened (admissions.coherent d rfl) active
      refine LinuxRuntime.publish_accepts running opened ⟨session,counted,by simp⟩ fresh ?_ newer
      cases bound : d.runtime.activeSessionId with
      | none => exact .inl rfl
      | some own => simp [RuntimeDaemon.session,bound]

def submitted (sequence : UInt64) : List AdapterAction :=
  [.start ⟨true,.ok (),.ok (),.ok (),.ok ()⟩,
    .daemon (.push {kind := .nodeStatus,nodeId := 1,sessionId := 1,interlockReady := true}),
    .daemon (.tick {actualNs := 10}),.daemon .activate,
    .submitDigitalOutput {sessionId := 7,sequence := sequence,validForMs := 10,mask := 1,values := 1} (.ok 20) (.ok 25)]

theorem sequence_exhausted :
    ∃ history daemon, Reached step (construct StartedDaemon.shortQueue) history daemon ∧ daemon.mode = .active ∧
      daemon.running = true ∧ AdmittedInEpoch ⟨7,65535,10000020,1,1⟩ history ∧
      ∀ request now published, (daemon.submitDigitalOutput request now published).2.status ≠ .accepted := by
  refine ⟨_,_,replay_reached (submitted 65535) .start rfl,rfl,rfl,by decide,?_⟩
  intro request now published accepted
  obtain ⟨command,built,passed⟩ := submit_accepted_iff.mp accepted
  obtain ⟨_,_,_,_,_,_,_,_,_,newer,_⟩ := LinuxRuntime.publish_parts _ command published passed
  have exactly := request.command_exact now
  rw [built] at exactly
  obtain ⟨_,sequence,_,bounded⟩ := exactly
  rw [← sequence] at bounded
  exact UInt64.not_lt.mpr bounded newer

-- A stream can be continued exactly while its worker runs and 65535 has not been
-- used up; commands of the adapter itself always carry a 16-bit session.
theorem next_request_iff {initial : DaemonConfig} (path : Reached step (construct initial) history daemon)
    (active : daemon.mode = .active)
    (fresh : second < first + 2500000000) (inside : first + 2500000000 ≤ DigitalOutputRequest.maxInt64) :
    (∃ request, (∀ earlier, AdmittedInEpoch earlier history → earlier.sessionId = request.sessionId) ∧
        (daemon.submitDigitalOutput request (.ok first) (.ok second)).2.status = .accepted) ↔
      daemon.running = true ∧
        ∀ earlier, AdmittedInEpoch earlier history → earlier.sessionId ≤ 65535 ∧ earlier.sequence < 65535 := by
  have admissions := reached_invariant Admissions (construct_admissions initial) (fun _ _ _ _ => step_admissions) path
  constructor
  · rintro ⟨request,own,accepted⟩
    obtain ⟨command,built,passed⟩ := submit_accepted_iff.mp accepted
    have exactly := request.command_exact (.ok first)
    rw [built] at exactly
    obtain ⟨session,sequence,narrow,bounded⟩ := exactly
    have moves : Moves daemon (.daemon (.publishOutputCommand command (.ok second))) _ := publish_moves admissions.coherent rfl
    have taken : daemon.admitted (.daemon (.publishOutputCommand command (.ok second))) = some command := by
      simp only [admitted,publication,passed]
    cases moves with
    | kept quiet _ _ _ _ | emptied quiet _ _ _ => cases quiet.symm.trans taken
    | admitted here _ _ running _ _ newer _ _ =>
        cases here.symm.trans taken
        refine ⟨running,fun earlier before => ?_⟩
        obtain ⟨_,_,older⟩ := admissions.bound earlier before
        rw [own earlier before]
        refine ⟨narrow,UInt64.lt_of_le_of_lt older (UInt64.lt_of_lt_of_le newer ?_)⟩
        rw [sequence]
        exact bounded
  · rintro ⟨running,room⟩
    obtain ⟨bound,left⟩ := stream_room admissions room
    refine ⟨daemon.nextRequest,?_,submit_accepted_iff.mpr ⟨_,next_command bound left inside,?_⟩⟩
    · intro earlier before
      simp [nextRequest,(admissions.bound earlier before).2.1]
    · exact next_published admissions active running bound.1 left fresh

theorem next_request_iff_submitted :
    ∃ history daemon, Reached step (construct StartedDaemon.shortQueue) history daemon ∧ daemon.mode = .active ∧
      AdmittedInEpoch ⟨7,3,10000020,1,1⟩ history ∧
      ((∃ request, (∀ earlier, AdmittedInEpoch earlier history → earlier.sessionId = request.sessionId) ∧
          (daemon.submitDigitalOutput request (.ok 30) (.ok 40)).2.status = .accepted) ↔
        daemon.running = true ∧
          ∀ earlier, AdmittedInEpoch earlier history → earlier.sessionId ≤ 65535 ∧ earlier.sequence < 65535) :=
  have path : Reached step (construct StartedDaemon.shortQueue) _ _ := replay_reached (submitted 3) .start rfl
  ⟨_,_,path,rfl,by decide,next_request_iff path rfl (by decide) (by decide)⟩

end RuntimeDaemon

end RobotControlRuntime
