import RobotControlRuntime.ActuatorAuthority

-- The life of a jog token: the two deadlines of its lease and the generation it
-- was issued with.
namespace RobotControlRuntime
open StepHistory

namespace MockActuatorProfile
-- How a command leaves the jog token, its two deadlines and the generation.
section Calls
variable {R : Type} {p q : MockActuatorProfile R}

def Lapse (p q : MockActuatorProfile R) : Prop :=
  q.snapshot.commandGeneration = p.snapshot.commandGeneration ∧
    (q.snapshot.activeJogToken = 0 ∨ (q.snapshot.activeJogToken = p.snapshot.activeJogToken ∧
      q.jogDeadlineNs = p.jogDeadlineNs ∧ q.jogMaxDeadlineNs = p.jogMaxDeadlineNs))

theorem Lapse.trans {r : MockActuatorProfile R} (one : Lapse p q) (two : Lapse q r) : Lapse p r := by
  obtain ⟨generation,one⟩ := one
  obtain ⟨generation',two⟩ := two
  refine ⟨generation'.trans generation,?_⟩
  rcases two with ended | ⟨token,deadline,maximum⟩
  · exact .inl ended
  rcases one with ended | ⟨token',deadline',maximum'⟩
  · exact .inl (token.trans ended)
  · exact .inr ⟨token.trans token',deadline.trans deadline',maximum.trans maximum'⟩

theorem lapse_same (generation : q.snapshot.commandGeneration = p.snapshot.commandGeneration)
    (token : q.snapshot.activeJogToken = p.snapshot.activeJogToken) (deadline : q.jogDeadlineNs = p.jogDeadlineNs)
    (maximum : q.jogMaxDeadlineNs = p.jogMaxDeadlineNs) : Lapse p q := ⟨generation,.inr ⟨token,deadline,maximum⟩⟩

theorem lapse_ended (generation : q.snapshot.commandGeneration = p.snapshot.commandGeneration)
    (ended : q.snapshot.activeJogToken = 0) : Lapse p q := ⟨generation,.inl ended⟩

def stamps (history : List (Moment (MockActuatorProfile R) (ActuatorCommand R))) : Nat :=
  history.countP fun m => m.after.snapshot.commandGeneration ≠ m.before.snapshot.commandGeneration

theorem stamps_cons (m : Moment (MockActuatorProfile R) (ActuatorCommand R))
    (past : List (Moment (MockActuatorProfile R) (ActuatorCommand R))) : stamps (m :: past) = stamps past +
      if m.after.snapshot.commandGeneration = m.before.snapshot.commandGeneration then 0 else 1 := by
  simp only [stamps,List.countP_cons]
  split_ifs <;> simp_all

theorem driveEnable_lapse (p : MockActuatorProfile R) : Lapse p p.driveEnable.1 ∨ Lapse p.nextGeneration p.driveEnable.1 := by
  unfold driveEnable
  dsimp only
  split
  · exact .inl (lapse_same rfl rfl rfl rfl)
  split
  · exact .inl (lapse_same rfl rfl rfl rfl)
  split
  · exact .inl (lapse_same rfl rfl rfl rfl)
  · exact .inr (lapse_same rfl rfl rfl rfl)

theorem home_lapse (p : MockActuatorProfile R) : Lapse p p.home.1 ∨ Lapse p.nextGeneration p.home.1 := by
  unfold home
  dsimp only
  split
  · exact .inl (lapse_same rfl rfl rfl rfl)
  · exact .inr (lapse_same rfl rfl rfl rfl)

inductive TokenSince (start : MockActuatorProfile R) (later : List (Moment (MockActuatorProfile R) (ActuatorCommand R)))
    (token : UInt64) : Prop where
  | ended (none : token = 0)
  | held (same : token = start.snapshot.activeJogToken)
      (all : ∀ m ∈ later, m.after.snapshot.activeJogToken = start.snapshot.activeJogToken)
  | fresh (k : Nat) (positive : 1 ≤ k) (bound : k ≤ stamps later)
      (issued : token = start.snapshot.commandGeneration + UInt64.ofNat k)

theorem TokenSince.carry (token : TokenSince start past p.snapshot.activeJogToken)
    (same : q.snapshot.activeJogToken = p.snapshot.activeJogToken) :
    TokenSince start (⟨p,command,q⟩ :: past) q.snapshot.activeJogToken := by
  cases token with
  | ended none => exact .ended (same.trans none)
  | held old all =>
      refine .held (same.trans old) ?_
      simp only [List.mem_cons,forall_eq_or_imp]
      exact ⟨same.trans old,all⟩
  | fresh k positive bound issued =>
      have more := stamps_cons ⟨p,command,q⟩ past
      exact .fresh k positive (by omega) (same.trans issued)

variable [Field R]

def honours (p : MockActuatorProfile R) (token : UInt64) : Bool :=
  (p.jogRenew token).2.accepted || (p.jogRelease token).2.accepted

theorem honours_active (honoured : p.honours token = true) : token ≠ 0 ∧ p.snapshot.activeJogToken = token := by
  by_contra stale
  rw [not_and_or,not_not] at stale
  have refused : token = 0 ∨ token ≠ p.snapshot.activeJogToken := stale.imp_right Ne.symm
  have renew : (p.jogRenew token).2.accepted = false := by
    unfold jogRenew
    dsimp only
    rw [if_pos (refused.imp_right .inl)]
    rfl
  have release : (p.jogRelease token).2.accepted = false := by
    unfold jogRelease
    dsimp only
    rw [if_pos refused]
    rfl
  simp [honours,renew,release] at honoured

theorem jogRenew_accepted (accepted : (p.jogRenew token).2.accepted = true) :
    (p.jogRenew token).1.snapshot.commandGeneration = p.snapshot.commandGeneration ∧
      (p.jogRenew token).1.snapshot.activeJogToken = p.snapshot.activeJogToken ∧
      (p.jogRenew token).1.jogDeadlineNs ≤ p.monotonicElapsedNs + millisecondsNs p.config.jogDeadman ∧
      (p.jogRenew token).1.jogMaxDeadlineNs = p.jogMaxDeadlineNs := by
  generalize reply : p.jogRenew token = outcome at accepted ⊢
  unfold jogRenew at reply
  dsimp only at reply
  split at reply
  · subst reply
    cases accepted
  split at reply
  · subst reply
    cases accepted
  · subst reply
    exact ⟨rfl,rfl,min_le_left _ _,rfl⟩

theorem jogRenew_refused (refused : ¬(p.jogRenew token).2.accepted = true) : Lapse p (p.jogRenew token).1 := by
  generalize reply : p.jogRenew token = outcome at refused ⊢
  unfold jogRenew at reply
  dsimp only at reply
  split at reply
  · subst reply
    exact lapse_same rfl rfl rfl rfl
  split at reply
  · subst reply
    exact lapse_ended rfl rfl
  · subst reply
    exact absurd rfl refused

theorem normalStop_lapse (p : MockActuatorProfile R) : Lapse p p.normalStop.1 ∨ Lapse p.nextGeneration p.normalStop.1 := by
  unfold normalStop
  dsimp only
  split
  · exact .inl (lapse_same rfl rfl rfl rfl)
  split
  · exact .inl (lapse_same rfl rfl rfl rfl)
  · exact .inr (lapse_ended rfl rfl)

theorem quickStop_lapse (p : MockActuatorProfile R) : Lapse p p.quickStop.1 ∨ Lapse p.nextGeneration p.quickStop.1 := by
  unfold quickStop
  dsimp only
  split
  · exact .inl (lapse_same rfl rfl rfl rfl)
  · exact .inr (lapse_ended rfl rfl)

theorem jogRelease_lapse (p : MockActuatorProfile R) (token : UInt64) :
    Lapse p (p.jogRelease token).1 ∨ Lapse p.nextGeneration (p.jogRelease token).1 := by
  unfold jogRelease
  dsimp only
  split
  · exact .inl (lapse_same rfl rfl rfl rfl)
  · exact .inr (lapse_ended rfl rfl)

theorem injectFault_lapse (p : MockActuatorProfile R) (reason : ActuatorFaultReason) (persistent : Bool) :
    Lapse p (p.injectFault reason persistent) := by
  unfold injectFault
  split
  · exact lapse_same rfl rfl rfl rfl
  · exact lapse_ended rfl rfl

variable [LinearOrder R]

theorem tick_lapse (elapsed : Int) : Lapse p (p.tick elapsed) := by
  have timed : Lapse p (p.elapse elapsed).jogTimeout := by
    unfold jogTimeout
    split
    · exact lapse_ended rfl rfl
    · exact lapse_same rfl rfl rfl rfl
  unfold tick
  dsimp only
  split
  · exact lapse_same rfl rfl rfl rfl
  split
  · exact timed.trans (lapse_same rfl rfl rfl rfl)
  have limited : Lapse p ((p.elapse elapsed).jogTimeout.integrate elapsed).limitPosition := by
    refine timed.trans ?_
    unfold limitPosition
    split
    · exact lapse_ended rfl rfl
    split
    · exact lapse_ended rfl rfl
    · exact lapse_same rfl rfl rfl rfl
  have watched : Lapse p ((p.elapse elapsed).jogTimeout.integrate elapsed).limitPosition.updateSnapshotErrors.watchTracking := by
    refine limited.trans ?_
    unfold watchTracking
    dsimp only
    split
    · split
      · exact lapse_ended rfl rfl
      · exact lapse_same rfl rfl rfl rfl
    · exact lapse_same rfl rfl rfl rfl
  refine watched.trans ?_
  unfold settle
  split <;> exact lapse_same rfl rfl rfl rfl

theorem jogPress_accepted (accepted : (p.jogPress direction velocityRadS).2.accepted = true) :
    (p.jogPress direction velocityRadS).2.token = p.snapshot.commandGeneration + 1 ∧
      (p.jogPress direction velocityRadS).1.snapshot.commandGeneration = p.snapshot.commandGeneration + 1 ∧
      (p.jogPress direction velocityRadS).1.snapshot.activeJogToken = p.snapshot.commandGeneration + 1 ∧
      (p.jogPress direction velocityRadS).1.jogDeadlineNs = p.monotonicElapsedNs + millisecondsNs p.config.jogDeadman ∧
      (p.jogPress direction velocityRadS).1.jogMaxDeadlineNs =
        p.monotonicElapsedNs + millisecondsNs p.config.maxContinuousJog := by
  generalize reply : p.jogPress direction velocityRadS = outcome at accepted ⊢
  unfold jogPress at reply
  dsimp only at reply
  split at reply
  · subst reply
    cases accepted
  split at reply
  · subst reply
    cases accepted
  split at reply
  · subst reply
    cases accepted
  subst reply
  exact ⟨rfl,rfl,rfl,rfl,rfl⟩

theorem jogPress_refused (refused : ¬(p.jogPress direction velocityRadS).2.accepted = true) :
    Lapse p (p.jogPress direction velocityRadS).1 := by
  generalize reply : p.jogPress direction velocityRadS = outcome at refused ⊢
  unfold jogPress at reply
  dsimp only at reply
  split at reply
  · subst reply
    exact lapse_same rfl rfl rfl rfl
  split at reply
  · subst reply
    exact lapse_same rfl rfl rfl rfl
  split at reply
  · subst reply
    exact lapse_ended rfl rfl
  · subst reply
    exact absurd rfl refused

theorem driveDisable_lapse (p : MockActuatorProfile R) : Lapse p p.driveDisable.1 ∨ Lapse p.nextGeneration p.driveDisable.1 := by
  unfold driveDisable
  dsimp only
  split
  · exact .inl (lapse_same rfl rfl rfl rfl)
  split
  · exact .inl (lapse_same rfl rfl rfl rfl)
  split
  · exact .inr (lapse_ended rfl rfl)
  · exact .inr (lapse_same rfl rfl rfl rfl)

theorem startVelocity_lapse (p : MockActuatorProfile R) (velocityRadS : R) :
    Lapse p (p.startVelocity velocityRadS).1 ∨ Lapse p.nextGeneration (p.startVelocity velocityRadS).1 := by
  unfold startVelocity
  dsimp only
  split
  · exact .inl (lapse_same rfl rfl rfl rfl)
  split
  · exact .inl (lapse_same rfl rfl rfl rfl)
  split
  · exact .inl (lapse_ended rfl rfl)
  · exact .inr (lapse_same rfl rfl rfl rfl)

theorem resetFault_lapse (p : MockActuatorProfile R) : Lapse p p.resetFault.1 ∨ Lapse p.nextGeneration p.resetFault.1 := by
  unfold resetFault
  dsimp only
  split
  · exact .inl (lapse_same rfl rfl rfl rfl)
  split
  · exact .inl (lapse_same rfl rfl rfl rfl)
  split
  · exact .inl (lapse_same rfl rfl rfl rfl)
  · exact .inr (lapse_ended rfl rfl)

end Calls
end MockActuatorProfile

-- Runs of commands and ticks.
section Runs
variable {R : Type} [Field R] [LinearOrder R]
open MockActuatorProfile

def PressAccepted (m : Moment (MockActuatorProfile R) (ActuatorCommand R)) : Prop :=
  match m.action with
  | .jogPress direction velocityRadS => (m.before.jogPress direction velocityRadS).2.accepted = true
  | _ => False

def RenewAccepted (m : Moment (MockActuatorProfile R) (ActuatorCommand R)) : Prop :=
  match m.action with
  | .jogRenew token => (m.before.jogRenew token).2.accepted = true
  | _ => False

def Issues (m : Moment (MockActuatorProfile R) (ActuatorCommand R)) (token : UInt64) : Prop :=
  match m.action with
  | .jogPress direction velocityRadS =>
    (m.before.jogPress direction velocityRadS).2.accepted = true ∧ (m.before.jogPress direction velocityRadS).2.token = token
  | _ => False

variable {p q : MockActuatorProfile R} {command : ActuatorCommand R} {config : MockActuatorConfig R}

inductive LeaseStep (p : MockActuatorProfile R) (command : ActuatorCommand R) (q : MockActuatorProfile R) : Prop where
  | pressed : PressAccepted ⟨p,command,q⟩ → q.snapshot.commandGeneration = p.snapshot.commandGeneration + 1 →
      q.snapshot.activeJogToken = p.snapshot.commandGeneration + 1 →
      q.jogDeadlineNs = p.monotonicElapsedNs + millisecondsNs p.config.jogDeadman →
      q.jogMaxDeadlineNs = p.monotonicElapsedNs + millisecondsNs p.config.maxContinuousJog → LeaseStep p command q
  | renewed : RenewAccepted ⟨p,command,q⟩ → ¬PressAccepted ⟨p,command,q⟩ →
      q.snapshot.commandGeneration = p.snapshot.commandGeneration → q.snapshot.activeJogToken = p.snapshot.activeJogToken →
      q.jogDeadlineNs ≤ p.monotonicElapsedNs + millisecondsNs p.config.jogDeadman →
      q.jogMaxDeadlineNs = p.jogMaxDeadlineNs → LeaseStep p command q
  | lapsed : ¬PressAccepted ⟨p,command,q⟩ → ¬RenewAccepted ⟨p,command,q⟩ → Lapse p q ∨ Lapse p.nextGeneration q →
      LeaseStep p command q

theorem call_lease (p : MockActuatorProfile R) (command : ActuatorCommand R) : LeaseStep p command (p.call command).1 := by
  cases command with
  | jogPress direction velocityRadS =>
      by_cases accepted : (p.jogPress direction velocityRadS).2.accepted = true
      · obtain ⟨_,generation,token,deadline,maximum⟩ := jogPress_accepted accepted
        exact .pressed accepted generation token deadline maximum
      · exact .lapsed accepted id (.inl (jogPress_refused accepted))
  | jogRenew token =>
      by_cases accepted : (p.jogRenew token).2.accepted = true
      · obtain ⟨generation,same,deadline,maximum⟩ := jogRenew_accepted accepted
        exact .renewed accepted id generation same deadline maximum
      · exact .lapsed id accepted (.inl (jogRenew_refused accepted))
  | driveEnable => exact .lapsed id id p.driveEnable_lapse
  | driveDisable => exact .lapsed id id p.driveDisable_lapse
  | home => exact .lapsed id id p.home_lapse
  | startVelocity velocityRadS => exact .lapsed id id (p.startVelocity_lapse velocityRadS)
  | normalStop => exact .lapsed id id p.normalStop_lapse
  | quickStop => exact .lapsed id id p.quickStop_lapse
  | jogRelease token => exact .lapsed id id (p.jogRelease_lapse token)
  | resetFault => exact .lapsed id id p.resetFault_lapse
  | injectFault reason persistent => exact .lapsed id id (.inl (p.injectFault_lapse reason persistent))
  | clearInjectedBlocker => exact .lapsed id id (.inl (lapse_same rfl rfl rfl rfl))
  | tick elapsed => exact .lapsed id id (.inl (tick_lapse elapsed))

structure JogLeased (config : MockActuatorConfig R) (history : List (Moment (MockActuatorProfile R) (ActuatorCommand R)))
    (p : MockActuatorProfile R) : Prop where
  extended : Since (fun m => ¬PressAccepted m ∧ ¬RenewAccepted m)
    (fun m _ => (PressAccepted m ∨ RenewAccepted m) ∧
      p.jogDeadlineNs ≤ m.before.monotonicElapsedNs + millisecondsNs config.jogDeadman) history
  begun : Since (fun m => ¬PressAccepted m)
    (fun m _ => PressAccepted m ∧
      p.jogMaxDeadlineNs = m.before.monotonicElapsedNs + millisecondsNs config.maxContinuousJog) history

theorem JogLeased.step (configured : p.config = config) (step : LeaseStep p command q)
    (lease : p.snapshot.activeJogToken ≠ 0 → JogLeased config past p) (held : q.snapshot.activeJogToken ≠ 0) :
    JogLeased config (⟨p,command,q⟩ :: past) q := by
  cases step with
  | pressed press _ _ deadline maximum =>
      rw [configured] at deadline maximum
      exact ⟨.inl ⟨.inl press,deadline.le⟩,.inl ⟨press,maximum⟩⟩
  | renewed renew press _ token deadline maximum =>
      rw [configured] at deadline
      have before := lease (token ▸ held)
      refine ⟨.inl ⟨.inr renew,deadline⟩,.inr ⟨press,?_⟩⟩
      rw [maximum]
      exact before.begun
  | lapsed press renew lapse =>
      have kept : q.snapshot.activeJogToken = p.snapshot.activeJogToken ∧ q.jogDeadlineNs = p.jogDeadlineNs ∧
          q.jogMaxDeadlineNs = p.jogMaxDeadlineNs := by
        rcases lapse with lapse | lapse
        · exact lapse.2.resolve_left held
        · exact lapse.2.resolve_left held
      obtain ⟨token,deadline,maximum⟩ := kept
      have before := lease (token ▸ held)
      refine ⟨.inr ⟨⟨press,renew⟩,?_⟩,.inr ⟨press,?_⟩⟩
      · rw [deadline]
        exact before.extended
      · rw [maximum]
        exact before.begun

theorem reached_lease (valid : config.valid = true) (path : Reached actuatorStep (init config) history p) :
    Sound config p ∧ (p.snapshot.activeJogToken ≠ 0 → JogLeased config history p) := by
  refine reached_invariant (fun history p => Sound config p ∧ (p.snapshot.activeJogToken ≠ 0 → JogLeased config history p))
    ⟨init_sound config,fun held => ?_⟩ ?_ path
  · refine absurd ?_ held
    unfold init
    dsimp only
    split <;> rfl
  · rintro past p command next ⟨sound,lease⟩ taken
    have after := call_step valid sound taken
    cases taken
    exact ⟨after,JogLeased.step sound.authority.configured (call_lease p command) lease⟩

theorem issued_token (issues : Issues ⟨p,command,q⟩ token) (taken : actuatorStep p command = some q) :
    q.snapshot.activeJogToken = token ∧ q.snapshot.commandGeneration = token := by
  cases taken
  cases command with
  | jogPress direction velocityRadS =>
      obtain ⟨accepted,issued⟩ := issues
      obtain ⟨reply,generation,held,_,_⟩ := jogPress_accepted accepted
      have fresh : p.snapshot.commandGeneration + 1 = token := reply.symm.trans issued
      exact ⟨held.trans fresh,generation.trans fresh⟩
  | _ => exact issues.elim

theorem generation_stamped (step : LeaseStep p command q) :
    q.snapshot.commandGeneration = p.snapshot.commandGeneration +
      UInt64.ofNat (if q.snapshot.commandGeneration = p.snapshot.commandGeneration then 0 else 1) := by
  have raised : q.snapshot.commandGeneration = p.snapshot.commandGeneration ∨
      q.snapshot.commandGeneration = p.snapshot.commandGeneration + 1 := by
    cases step with
    | pressed _ generation _ _ _ => exact .inr generation
    | renewed _ _ generation _ _ _ => exact .inl generation
    | lapsed _ _ lapse => exact lapse.imp And.left And.left
  split_ifs with same
  · simpa using same
  · exact raised.resolve_left same

theorem later_tokens (path : Reached actuatorStep start later p) :
    p.snapshot.commandGeneration = start.snapshot.commandGeneration + UInt64.ofNat (stamps later) ∧
      TokenSince start later p.snapshot.activeJogToken := by
  induction path with
  | start => exact ⟨by simp [stamps],.held rfl (by simp)⟩
  | @step past p command next prior taken ih =>
      cases taken
      obtain ⟨generation,token⟩ := ih
      have step := call_lease p command
      have more := stamps_cons ⟨p,command,(p.call command).1⟩ past
      have raised : (p.call command).1.snapshot.commandGeneration = start.snapshot.commandGeneration +
          UInt64.ofNat (stamps (⟨p,command,(p.call command).1⟩ :: past)) := by
        rw [more,UInt64.ofNat_add,← UInt64.add_assoc,← generation]
        exact generation_stamped step
      refine ⟨raised,?_⟩
      cases step with
      | pressed _ next issued _ _ =>
          have moved : (p.call command).1.snapshot.commandGeneration ≠ p.snapshot.commandGeneration := by
            rw [next]
            simp
          rw [if_neg moved] at more
          exact .fresh _ (by omega) le_rfl (by rw [← raised,next,issued])
      | renewed _ _ _ same _ _ => exact token.carry same
      | lapsed _ _ lapse =>
          rcases lapse with ⟨_,none | ⟨same,_,_⟩⟩ | ⟨_,none | ⟨same,_,_⟩⟩
          · exact .ended none
          · exact token.carry same
          · exact .ended none
          · exact token.carry same

-- The motion an issued token stands for goes on at every moment up to one that
-- honours it, as long as the generation has not come round.
theorem honoured_motion (valid : config.valid = true)
    (path : Reached actuatorStep (init config) (later ++ m :: earlier) p) (issues : Issues m token)
    (honoured : p.honours token = true) (short : stamps later < 2 ^ 64) :
    ∀ moment ∈ later, moment.after.snapshot.activeJogToken = token ∧ moment.after.snapshot.state = .running := by
  obtain ⟨nonzero,active⟩ := honours_active honoured
  have sound : ∀ moment ∈ later ++ m :: earlier, Sound config moment.after :=
    throughout_mem (throughout_invariant (fun _ p => Sound config p) (init_sound config)
      (fun _ _ _ _ sound taken => call_step valid sound taken) (fun _ _ _ _ sound taken => call_step valid sound taken) path)
  obtain ⟨start,upTo,tail⟩ := path.split
  cases upTo with
  | step _ taken =>
      obtain ⟨held,generation⟩ := issued_token issues taken
      cases (later_tokens tail).2 with
      | ended none => exact absurd (active.symm.trans none) nonzero
      | held _ all =>
          intro moment present
          have same := (all moment present).trans held
          have authority := (sound moment (List.mem_append_left _ present)).authority
          exact ⟨same,(authority.leased (same ▸ nonzero)).1⟩
      | fresh k positive bound issued =>
          -- The generation would have to be back where it was.
          rw [active,generation] at issued
          have zero : UInt64.ofNat k = 0 := by simpa using issued
          have wrapped : k % 2 ^ 64 = 0 := congrArg UInt64.toNat zero
          rw [Nat.mod_eq_of_lt (bound.trans_lt short)] at wrapped
          omega

theorem authority_and_lease (config : MockActuatorConfig R) (valid : config.valid = true)
    (path : Reached actuatorStep (init config) history p) :
    Standing p ∧
      (p.snapshot.activeJogToken ≠ 0 →
        Since (fun m => ¬PressAccepted m ∧ ¬RenewAccepted m)
            (fun m _ => (PressAccepted m ∨ RenewAccepted m) ∧
              p.jogDeadlineNs ≤ m.before.monotonicElapsedNs + millisecondsNs config.jogDeadman) history ∧
          Since (fun m => ¬PressAccepted m)
            (fun m _ => PressAccepted m ∧
              p.jogDeadlineNs ≤ m.before.monotonicElapsedNs + millisecondsNs config.maxContinuousJog) history) ∧
      (∀ token, (p.jogRenew token).2.status ≠ .timeout) ∧
      ∀ later m earlier token, history = later ++ m :: earlier → Issues m token → p.honours token = true →
        stamps later < 2 ^ 64 →
          ∀ moment ∈ later, moment.after.snapshot.activeJogToken = token ∧ moment.after.snapshot.state = .running := by
  obtain ⟨sound,lease⟩ := reached_lease valid path
  refine ⟨sound.standing,fun held => ?_,jogRenew_in_time sound,?_⟩
  · obtain ⟨extended,begun⟩ := lease held
    refine ⟨extended,since_mono (fun _ => id) ?_ begun⟩
    rintro m past ⟨press,maximum⟩
    exact ⟨press,maximum ▸ sound.authority.capped held⟩
  · rintro later m earlier token rfl issues honoured short
    exact honoured_motion valid path issues honoured short

def renewedJog : List (ActuatorCommand ℚ) :=
  [.driveEnable,.home,.tick 500000000,.jogPress 1 1,.tick 100000000,.jogRenew 3]

theorem authority_and_lease_renewed :
    ∃ history p, MockActuatorConfig.default.valid = true ∧
      replay actuatorStep [] (init MockActuatorConfig.default) renewedJog = some (history,p) ∧
      p.snapshot.activeJogToken = 3 ∧ p.jogDeadlineNs = 800000000 ∧ Standing p ∧
      ∀ token, (p.jogRenew token).2.status ≠ .timeout :=
  have lease := authority_and_lease MockActuatorConfig.default (by decide +kernel) (replay_reached renewedJog .start rfl)
  ⟨_,_,by decide +kernel,rfl,by decide +kernel,by decide +kernel,lease.1,lease.2.2.1⟩

def perform (p : MockActuatorProfile R) (commands : List (ActuatorCommand R)) : MockActuatorProfile R :=
  commands.foldl (fun p command => (p.call command).1) p

theorem perform_reached (p : MockActuatorProfile R) (commands : List (ActuatorCommand R)) :
    ∃ history, Reached actuatorStep p history (perform p commands) := by
  induction commands generalizing p with
  | nil => exact ⟨[],.start⟩
  | cons command rest ih =>
      obtain ⟨history,path⟩ := ih (p.call command).1
      exact ⟨_,(Reached.step .start rfl).trans path⟩

structure Parked (p : MockActuatorProfile R) : Prop where
  configured : p.snapshot.configured = true
  state : p.snapshot.state = .disabled
  drive : p.snapshot.driveEnabled = false
  homed : p.snapshot.homed = false
  mode : p.snapshot.motionMode = .none
  slow : ¬p.config.stoppedVelocityEpsilonRadS < |p.snapshot.actualVelocityRadS|
  text : p.snapshot.lastReject = ""

def MockActuatorProfile.stamped (p : MockActuatorProfile R) (generation : UInt64) : MockActuatorProfile R :=
  {p with snapshot := {p.snapshot with commandGeneration := generation}}

theorem Parked.cycle {p : MockActuatorProfile R} (parked : Parked p) (generation : UInt64) :
    perform (p.stamped generation) [.driveEnable,.driveDisable] = p.stamped (generation + 1 + 1) := by
  obtain ⟨config,snapshot,elapsed,homing,deadline,maximum,tracking,quick,disable,blocker⟩ := p
  obtain ⟨configured,state,mode,fault,drive,homed,target,actual,error,targetV,actualV,errorV,low,high,gen,token,text⟩ := snapshot
  obtain ⟨rfl,rfl,rfl,rfl,rfl,slow,rfl⟩ := parked
  simp only at slow
  simp [perform,call,driveEnable,driveDisable,stamped,accept,acceptToken,nextGeneration,slow]

theorem Parked.cycles {p : MockActuatorProfile R} (parked : Parked p) (generation : UInt64) (n : Nat) :
    ∃ history, Reached actuatorStep (p.stamped generation) history (p.stamped (generation + 2 * UInt64.ofNat n)) := by
  induction n with
  | zero => exact ⟨[],by simpa using Reached.start⟩
  | succ n ih =>
      obtain ⟨history,path⟩ := ih
      obtain ⟨later,more⟩ := perform_reached (p.stamped (generation + 2 * UInt64.ofNat n)) [.driveEnable,.driveDisable]
      rw [parked.cycle] at more
      refine ⟨later ++ history,?_⟩
      have count : generation + 2 * UInt64.ofNat (n + 1) = generation + 2 * UInt64.ofNat n + 1 + 1 := by
        rw [UInt64.ofNat_add,UInt64.mul_add,UInt64.add_assoc,UInt64.add_assoc]
        rfl
      rw [count]
      exact path.trans more

def jogReady : MockActuatorProfile ℚ := perform (init MockActuatorConfig.default) [.driveEnable,.home,.tick 500000000]
def jogPressed : MockActuatorProfile ℚ := (jogReady.call (.jogPress 1 1)).1
def jogReleased : MockActuatorProfile ℚ := (jogPressed.call (.jogRelease 3)).1
def jogEnded : MockActuatorProfile ℚ := perform jogReleased [.quickStop,.driveDisable,.tick 10000000]

theorem token_returns :
    ∃ later m earlier p, MockActuatorConfig.default.valid = true ∧
      Reached actuatorStep (init MockActuatorConfig.default) (later ++ m :: earlier) p ∧ Issues m 3 ∧
      p.honours 3 = true ∧ ∃ ended ∈ later, ended.after.snapshot.activeJogToken ≠ 3 := by
  obtain ⟨earlier,ready⟩ := perform_reached (init MockActuatorConfig.default) [.driveEnable,.home,.tick 500000000]
  have pressed : Reached actuatorStep _ _ jogPressed := Reached.step ready rfl
  have released : Reached actuatorStep jogPressed [⟨jogPressed,.jogRelease 3,jogReleased⟩] jogReleased := .step .start rfl
  obtain ⟨ending,ended⟩ := perform_reached jogReleased [.quickStop,.driveDisable,.tick 10000000]
  have parked : Parked jogEnded := by
    constructor <;> decide +kernel
  obtain ⟨cycles,wrapped⟩ := parked.cycles 6 9223372036854775805
  have first : jogEnded.stamped 6 = jogEnded := by
    have generation : jogEnded.snapshot.commandGeneration = 6 := by decide +kernel
    unfold stamped
    rw [← generation]
  have wrap : (6 : UInt64) + 2 * UInt64.ofNat 9223372036854775805 = 0 := by decide
  rw [first,wrap] at wrapped
  obtain ⟨again,last⟩ := perform_reached (jogEnded.stamped 0) [.driveEnable,.home,.tick 500000000,.jogPress 1 1]
  refine ⟨again ++ (cycles ++ (ending ++ [⟨jogPressed,.jogRelease 3,jogReleased⟩])),_,earlier,_,by decide +kernel,
    pressed.trans (((released.trans ended).trans wrapped).trans last),?_,by decide +kernel,?_⟩
  · exact ⟨by decide +kernel,by decide +kernel⟩
  · exact ⟨⟨jogPressed,.jogRelease 3,jogReleased⟩,by simp,by decide +kernel⟩

end Runs

end RobotControlRuntime
