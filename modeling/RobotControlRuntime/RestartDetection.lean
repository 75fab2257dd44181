import RobotControlRuntime.SupervisionLaw

namespace RobotControlRuntime
open StepHistory

namespace NodeSupervisor

-- What one event of the node makes of the stored identity. A heartbeat replaces
-- it; a status names a session only, so it replaces that half and keeps the boot.
def identified (s : NodeSupervisor) (event : RuntimeInputEvent) : Option (UInt16 × UInt16) :=
  if s.addressed event then
    match event.kind with
    | .heartbeat => some (event.bootId,event.sessionId)
    | .nodeStatus => s.identity.map fun known => if event.sessionId = 0 then known else (known.1,event.sessionId)
    | _ => s.identity
  else s.identity

theorem event_identity (s : NodeSupervisor) (event : RuntimeInputEvent) (nowNs : Int) :
    (s.applyEvent event nowNs).1.identity = s.identified event := by
  cases own : s.addressed event with
  | false =>
      rw [event_foreign s nowNs ((s.addressed_exact event).mp own)]
      simp [identified,own,identity]
  | true =>
      have observes := s.event_exact event nowNs
      generalize s.applyEvent event nowNs = outcome at observes ⊢
      cases observes with
      | foreign other => cases own.symm.trans ((s.addressed_exact event).mpr other)
      | rebooted kind seen _ => simp [identified,own,kind,identity,seen]
      | alive kind _ => simp [identified,own,kind,identity]
      | rebound kind seen changed => simp [identified,own,kind,identity,seen,changed.1]
      | reported kind known =>
          cases seen : s.everSeen with
          | false => simp [identified,own,kind,identity,seen]
          | true =>
              rcases known seen with zero | same
              · simp [identified,own,kind,identity,seen,zero]
              · simp [identified,own,kind,identity,seen,same]
      | answered kind | refused kind | broken kind => simp [identified,own,kind,identity]

end NodeSupervisor

namespace Supervision
open NodeSupervisor

variable {s t next : Supervision} {action : SupervisionAction}
variable {runtime : RuntimeConfig} {config : NodeSupervisorConfig} {capacity : Nat}
variable {bootId sessionId : UInt16}

def StatusHandled (m : SupervisionMoment) : Prop :=
  ∃ event ∈ m.before.handles m.action, m.before.supervisor.addressed event = true ∧ event.kind = .nodeStatus

instance : DecidablePred StatusHandled := fun _ => inferInstanceAs (Decidable (∃ _ ∈ _,_))

def StatusSeen (history : List SupervisionMoment) : Prop := ∃ m ∈ history, StatusHandled m

instance : DecidablePred StatusSeen := fun _ => inferInstanceAs (Decidable (∃ _ ∈ _,_))

def notesRestart (m : SupervisionMoment) : Bool :=
  match m.before.handles m.action with
  | some event => m.before.supervisor.restarts event
  | none => false

def restartsNoted (history : List SupervisionMoment) : Nat := history.countP notesRestart

def Carries (bootId sessionId : UInt16) (m : SupervisionMoment) : Prop :=
  ∀ event ∈ m.before.handles m.action, m.before.supervisor.addressed event = true →
    (event.kind = .heartbeat → event.bootId = bootId ∧ event.sessionId = sessionId) ∧
    (event.kind = .nodeStatus → event.sessionId = sessionId)

instance : DecidablePred (Carries bootId sessionId) := fun _ => inferInstanceAs (Decidable (∀ _ ∈ _,_))

inductive Identifies (bootId sessionId : UInt16) (m : SupervisionMoment) : Prop where
  | heartbeat (handled : HeartbeatHandled m)
      (stored : m.after.supervisor.identity = some (bootId,sessionId))
      (noted : notesRestart m = m.before.supervisor.identity.any fun known => decide (known ≠ (bootId,sessionId))) :
      Identifies bootId sessionId m
  | status (handled : StatusHandled m) (silent : ¬ HeartbeatHandled m)
      (stored : m.after.supervisor.identity =
        m.before.supervisor.identity.map fun known => if sessionId = 0 then known else (known.1,sessionId))
      (noted : notesRestart m =
        m.before.supervisor.identity.any fun known => decide (sessionId ≠ 0 ∧ known.2 ≠ sessionId)) :
      Identifies bootId sessionId m
  | quiet (silent : ¬ HeartbeatHandled m) (unreported : ¬ StatusHandled m)
      (stored : m.after.supervisor.identity = m.before.supervisor.identity) (noted : notesRestart m = false) :
      Identifies bootId sessionId m

theorem step_identity (taken : s.step action = some next) :
    next.supervisor.identity = match s.handles action with
      | some event => s.supervisor.identified event
      | none => s.supervisor.identity := by
  obtain ⟨handled,middle,made,took,_,moves,rfl⟩ := step_exact taken
  rw [took]
  cases handled with
  | none => exact (transition_same moves).identity
  | some event =>
      cases moves
      exact event_identity _ _ _

theorem identifies_exact (taken : s.step action = some next) (carries : Carries bootId sessionId ⟨s,action,next⟩) :
    Identifies bootId sessionId ⟨s,action,next⟩ := by
  have identity := step_identity taken
  cases took : s.handles action with
  | none =>
      rw [took] at identity
      exact .quiet (by simp [HeartbeatHandled,took]) (by simp [StatusHandled,took]) identity (by simp [notesRestart,took])
  | some event =>
      rw [took] at identity
      cases own : s.supervisor.addressed event with
      | false =>
          refine .quiet (by simp [HeartbeatHandled,took,own]) (by simp [StatusHandled,took,own]) ?_ ?_
          · simpa [identified,own] using identity
          · simp [notesRestart,took,restarts,own]
      | true =>
          obtain ⟨beats,reports⟩ := carries event took own
          cases kind : event.kind with
          | heartbeat =>
              obtain ⟨boot,session⟩ := beats kind
              refine .heartbeat ⟨event,took,own,kind⟩ (by simpa [identified,own,kind,boot,session] using identity) ?_
              cases known : s.supervisor.identity with
              | none => simp [notesRestart,took,restarts,known]
              | some pair =>
                  have noted : notesRestart ⟨s,action,next⟩ = (bootId != pair.1 || sessionId != pair.2) := by
                    simp [notesRestart,took,restarts,own,kind,known,boot,session]
                  rw [noted,Option.any_some]
                  grind
          | nodeStatus =>
              have session := reports kind
              refine .status ⟨event,took,own,kind⟩ (by simp [HeartbeatHandled,took,kind])
                (by simpa [identified,own,kind,session] using identity) ?_
              cases known : s.supervisor.identity with
              | none => simp [notesRestart,took,restarts,known]
              | some pair =>
                  have noted : notesRestart ⟨s,action,next⟩ = (sessionId != 0 && sessionId != pair.2) := by
                    simp [notesRestart,took,restarts,own,kind,known,session]
                  rw [noted,Option.any_some]
                  grind
          | outputStatus | protocolReject | ioError =>
              refine .quiet (by simp [HeartbeatHandled,took,kind]) (by simp [StatusHandled,took,kind]) ?_ ?_
              · simpa [identified,own,kind] using identity
              · cases known : s.supervisor.identity <;> simp [notesRestart,took,restarts,kind,known]

theorem point_identity (path : Reached step (launched runtime config capacity) past s)
    (before : ∀ m ∈ past, Carries bootId sessionId m) :
    s.supervisor.identity = none ∨ s.supervisor.identity = some (bootId,sessionId) := by
  induction path with
  | start => exact .inl rfl
  | @step past s action next _ taken ih =>
      have identifies := identifies_exact taken (before _ (List.mem_cons_self ..))
      have earlier := ih fun m listed => before m (List.mem_cons_of_mem _ listed)
      cases identifies with
      | heartbeat _ stored _ => exact .inr stored
      | status _ _ stored _ =>
          rcases earlier with none | some
          · exact .inl (by rw [stored,none]; rfl)
          · exact .inr (by rw [stored,some]; simp)
      | quiet _ _ stored _ => exact stored ▸ earlier

def HeartbeatFirst (m : SupervisionMoment) (past : List SupervisionMoment) : Prop :=
  HeartbeatHandled m → HeartbeatSeen past ∨ ¬ StatusSeen past

instance (m : SupervisionMoment) (past : List SupervisionMoment) : Decidable (HeartbeatFirst m past) :=
  inferInstanceAs (Decidable (_ → _))

theorem beaten_cons : HeartbeatSeen (m :: past) ↔ HeartbeatHandled m ∨ HeartbeatSeen past := by
  simp [HeartbeatSeen]

theorem reported_cons : StatusSeen (m :: past) ↔ StatusHandled m ∨ StatusSeen past := by
  simp [StatusSeen]

theorem noted_cons : restartsNoted (m :: past) = restartsNoted past + if notesRestart m then 1 else 0 :=
  List.countP_cons

theorem silent_ordered (silent : ¬ HeartbeatSeen later) : Throughout HeartbeatFirst later := by
  induction later with
  | nil => trivial
  | cons m past ih =>
      rw [beaten_cons,not_or] at silent
      exact ⟨fun beat => absurd beat silent.1,ih silent.2⟩

section Point
variable {oldBoot oldSession newBoot newSession : UInt16} {seen : Bool} {past later : List SupervisionMoment}
variable {m : SupervisionMoment} {identity : Option (UInt16 × UInt16)}

-- How far the new identity has been taken over since the point, and how many
-- restarts that took. `half` is an identity the node never had: old boot, new session.
inductive Watch (oldBoot oldSession newBoot newSession : UInt16) (seen : Bool) (later : List SupervisionMoment) :
    Option (UInt16 × UInt16) → Prop where
  | unseen (never : seen = false) (silent : ¬ HeartbeatSeen later) (count : restartsNoted later = 0) :
      Watch oldBoot oldSession newBoot newSession seen later none
  | old (known : seen = true) (silent : ¬ HeartbeatSeen later) (unreported : newSession = 0 ∨ ¬ StatusSeen later)
      (count : restartsNoted later = 0) :
      Watch oldBoot oldSession newBoot newSession seen later (some (oldBoot,oldSession))
  | half (known : seen = true) (silent : ¬ HeartbeatSeen later) (named : newSession ≠ 0) (reported : StatusSeen later)
      (count : restartsNoted later = 1) :
      Watch oldBoot oldSession newBoot newSession seen later (some (oldBoot,newSession))
  | once (beaten : HeartbeatSeen later) (count : restartsNoted later ≤ 1)
      (ordered : seen = false ∨ newSession = 0 ∨ Throughout HeartbeatFirst later) :
      Watch oldBoot oldSession newBoot newSession seen later (some (newBoot,newSession))
  | twice (beaten : HeartbeatSeen later) (count : restartsNoted later = 2) (known : seen = true) (named : newSession ≠ 0)
      (late : ¬ Throughout HeartbeatFirst later) :
      Watch oldBoot oldSession newBoot newSession seen later (some (newBoot,newSession))

theorem watch_count (watch : Watch oldBoot oldSession newBoot newSession seen later identity) :
    restartsNoted later ≤ 1 ↔ seen = false ∨ newSession = 0 ∨ Throughout HeartbeatFirst later := by
  cases watch with
  | unseen _ silent count => exact ⟨fun _ => .inr (.inr (silent_ordered silent)),fun _ => by omega⟩
  | old _ silent _ count => exact ⟨fun _ => .inr (.inr (silent_ordered silent)),fun _ => by omega⟩
  | half _ silent _ _ count => exact ⟨fun _ => .inr (.inr (silent_ordered silent)),fun _ => by omega⟩
  | once _ count ordered => exact ⟨fun _ => ordered,fun _ => count⟩
  | twice _ count known named late =>
      refine ⟨fun few => by omega,?_⟩
      rintro (never | zero | ordered)
      · cases known.symm.trans never
      · exact absurd zero named
      · exact absurd ordered late

theorem watch_heartbeat (bootApart : oldBoot ≠ newBoot)
    (watch : Watch oldBoot oldSession newBoot newSession seen past identity) (handled : HeartbeatHandled m)
    (noted : notesRestart m = identity.any fun known => decide (known ≠ (newBoot,newSession))) :
    Watch oldBoot oldSession newBoot newSession seen (m :: past) (some (newBoot,newSession)) := by
  have beaten : HeartbeatSeen (m :: past) := beaten_cons.mpr (.inl handled)
  cases watch with
  | unseen never silent count =>
      refine .once beaten ?_ (.inl never)
      rw [noted_cons,count,noted]
      simp
  | old known silent unreported count =>
      refine .once beaten ?_ ?_
      · rw [noted_cons,count]
        split <;> omega
      · rcases unreported with zero | unreported
        · exact .inr (.inl zero)
        · exact .inr (.inr ⟨fun _ => .inr unreported,silent_ordered silent⟩)
  | half known silent named reported count =>
      -- The session is already the new one, the boot is not: a second restart.
      refine .twice beaten ?_ known named ?_
      · have changed : notesRestart m = true := by simp [noted,bootApart]
        rw [noted_cons,count,changed]
        rfl
      · intro ordered
        rcases ordered.1 handled with beat | unreported
        · exact silent beat
        · exact unreported reported
  | once already count ordered =>
      refine .once beaten ?_ ?_
      · have same : notesRestart m = false := by simp [noted]
        rw [noted_cons,same]
        exact count
      · exact ordered.imp_right (Or.imp_right fun ordered => ⟨fun _ => .inl already,ordered⟩)
  | twice already count known named late =>
      refine .twice beaten ?_ known named fun ordered => late ordered.2
      have same : notesRestart m = false := by simp [noted]
      rw [noted_cons,same]
      exact count

theorem watch_silent (watch : Watch oldBoot oldSession newBoot newSession seen past identity)
    (silent : ¬ HeartbeatHandled m) (quiet : notesRestart m = false)
    (reports : StatusHandled m → identity = some (oldBoot,oldSession) → newSession = 0) :
    Watch oldBoot oldSession newBoot newSession seen (m :: past) identity := by
  have count : restartsNoted (m :: past) = restartsNoted past := by
    rw [noted_cons,quiet]
    rfl
  have beaten : HeartbeatSeen (m :: past) ↔ HeartbeatSeen past := by
    rw [beaten_cons]
    exact ⟨fun either => either.resolve_left silent,.inr⟩
  have ordered : Throughout HeartbeatFirst (m :: past) ↔ Throughout HeartbeatFirst past :=
    ⟨fun both => both.2,fun earlier => ⟨fun beat => absurd beat silent,earlier⟩⟩
  cases watch with
  | unseen never still none => exact .unseen never (mt beaten.mp still) (count.trans none)
  | old known still unreported none =>
      refine .old known (mt beaten.mp still) ?_ (count.trans none)
      by_cases status : StatusHandled m
      · exact .inl (reports status rfl)
      · refine unreported.imp_right fun unreported => ?_
        rw [reported_cons]
        exact fun either => either.elim status unreported
  | half known still named reported one =>
      exact .half known (mt beaten.mp still) named (reported_cons.mpr (.inr reported)) (count.trans one)
  | once already few earlier =>
      exact .once (beaten.mpr already) (count ▸ few) (earlier.imp_right (Or.imp_right ordered.mpr))
  | twice already two known named late =>
      exact .twice (beaten.mpr already) (count.trans two) known named (mt ordered.mp late)

theorem watch_session (watch : Watch oldBoot oldSession newBoot newSession seen past identity) :
    (identity = some (oldBoot,oldSession) ∧ seen = true ∧ ¬ HeartbeatSeen past ∧ restartsNoted past = 0) ∨
      ∀ known, identity = some known → known.2 = newSession := by
  cases watch with
  | unseen _ _ _ => exact .inr fun _ none => by cases none
  | old known silent _ count => exact .inl ⟨rfl,known,silent,count⟩
  | half | once | twice => exact .inr fun _ same => by cases same; rfl

theorem watch_status (sessionApart : oldSession ≠ newSession)
    (watch : Watch oldBoot oldSession newBoot newSession seen past identity) (handled : StatusHandled m)
    (silent : ¬ HeartbeatHandled m)
    (noted : notesRestart m = identity.any fun known => decide (newSession ≠ 0 ∧ known.2 ≠ newSession)) :
    Watch oldBoot oldSession newBoot newSession seen (m :: past)
      (identity.map fun known => if newSession = 0 then known else (known.1,newSession)) := by
  by_cases zero : newSession = 0
  · simp only [zero,if_true,Option.map_id']
    exact zero ▸ watch_silent watch silent (by cases identity <;> simp [noted,zero]) fun _ _ => zero
  · rcases watch_session watch with ⟨rfl,known,still,none⟩ | already
    · simp only [Option.map_some,if_neg zero]
      refine .half known ?_ zero (reported_cons.mpr (.inl handled)) ?_
      · rw [beaten_cons]
        exact fun either => either.elim silent still
      · have changed : notesRestart m = true := by simp [noted,zero,sessionApart]
        rw [noted_cons,none,changed]
        rfl
    · have kept : (identity.map fun known => if newSession = 0 then known else (known.1,newSession)) = identity := by
        cases identity with
        | none => rfl
        | some known => simp [← already known rfl]
      have quiet : notesRestart m = false := by
        cases identity with
        | none => exact noted
        | some known => simp [noted,already known rfl]
      rw [kept]
      exact watch_silent watch silent quiet fun _ same => absurd (already _ same) sessionApart

theorem watch_preserved (bootApart : oldBoot ≠ newBoot) (sessionApart : oldSession ≠ newSession)
    (watch : Watch oldBoot oldSession newBoot newSession seen past m.before.supervisor.identity)
    (identifies : Identifies newBoot newSession m) :
    Watch oldBoot oldSession newBoot newSession seen (m :: past) m.after.supervisor.identity := by
  cases identifies with
  | heartbeat handled stored noted =>
      rw [stored]
      exact watch_heartbeat bootApart watch handled noted
  | status handled silent stored noted =>
      rw [stored]
      exact watch_status sessionApart watch handled silent noted
  | quiet silent unreported stored noted =>
      rw [stored]
      exact watch_silent watch silent noted fun status => absurd status unreported

def knownNode : List SupervisionAction := [.push (heartbeat 1 1 5),.begin 10,.pop,.pop,.finish]

def rebootedNode (arrivals : List RuntimeInputEvent) : List SupervisionAction :=
  arrivals.map .push ++ [.begin 20] ++ arrivals.map (fun _ => .pop) ++ [.pop,.finish]

def statusOf (sessionId : UInt16) : RuntimeInputEvent := {kind := .nodeStatus,nodeId := 1,sessionId := sessionId}

theorem status_restarts_twice :
    ∃ past s later t, Reached step (launched {} {} 4) past s ∧ (∀ m ∈ past, Carries 1 1 m) ∧
      Reached step s later t ∧ (∀ m ∈ later, Carries 2 2 m) ∧ restartsNoted later = 2 :=
  ⟨_,_,_,_,replay_reached knownNode .start rfl,by decide,
    replay_reached (rebootedNode [statusOf 2,heartbeat 2 2 15]) .start rfl,by decide,by decide⟩

-- Two restarts are noted exactly when a status brings the new session of a known
-- node before the first heartbeat does: it is stored beside the old boot.
theorem one_restart_iff (bootApart : oldBoot ≠ newBoot) (sessionApart : oldSession ≠ newSession)
    (path : Reached step (launched runtime config capacity) past s) (before : ∀ m ∈ past, Carries oldBoot oldSession m)
    (onward : Reached step s later t) (after : ∀ m ∈ later, Carries newBoot newSession m) :
    restartsNoted later ≤ 1 ↔
      s.supervisor.everSeen = false ∨ newSession = 0 ∨ Throughout HeartbeatFirst later := by
  suffices watch : Watch oldBoot oldSession newBoot newSession s.supervisor.everSeen later t.supervisor.identity from
    watch_count watch
  induction onward with
  | start =>
      have silent : ¬ HeartbeatSeen ([] : List SupervisionMoment) := by simp [HeartbeatSeen]
      have unreported : ¬ StatusSeen ([] : List SupervisionMoment) := by simp [StatusSeen]
      cases seen : s.supervisor.everSeen with
      | false =>
          have none : s.supervisor.identity = none := by simp [identity,seen]
          rw [none]
          exact .unseen rfl silent rfl
      | true =>
          rcases point_identity path before with none | some
          · simp [identity,seen] at none
          · rw [some]
            exact .old rfl silent (.inr unreported) rfl
  | step _ taken ih =>
      have earlier := ih fun m listed => after m (List.mem_cons_of_mem _ listed)
      have identifies := identifies_exact taken (after _ (List.mem_cons_self ..))
      exact watch_preserved bootApart sessionApart earlier identifies

theorem one_restart_iff_heartbeatFirst :
    ∃ past s later t, Reached step (launched {} {} 4) past s ∧ (∀ m ∈ past, Carries 1 1 m) ∧
      Reached step s later t ∧ (∀ m ∈ later, Carries 2 2 m) ∧ StatusSeen later ∧ restartsNoted later ≤ 1 :=
  have path : Reached step (launched {} {} 4) _ _ := replay_reached knownNode .start rfl
  have onward : Reached step _ _ _ :=
    replay_reached (rebootedNode [heartbeat 2 2 15,statusOf 2,heartbeat 2 2 18]) .start rfl
  have bootApart : (1 : UInt16) ≠ 2 := by decide
  have sessionApart : (1 : UInt16) ≠ 2 := by decide
  ⟨_,_,_,_,path,by decide,onward,by decide,by decide,
    (one_restart_iff bootApart sessionApart path (by decide) onward (by decide)).mpr (.inr (.inr (by decide)))⟩

end Point

end Supervision

end RobotControlRuntime
