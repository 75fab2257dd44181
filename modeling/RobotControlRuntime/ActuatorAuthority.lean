import RobotControlRuntime.MockActuator

-- What the state of the actuator says about its drive and its jog token.
namespace RobotControlRuntime
open StepHistory

def ActuatorMotionMode.jogs : ActuatorMotionMode → Bool
  | .jogPositive | .jogNegative => true
  | .none | .velocity | .homing => false

namespace MockActuatorProfile
section Authority
variable {R : Type} {p : MockActuatorProfile R}

def Fresh (p : MockActuatorProfile R) : Prop := p.snapshot.activeJogToken ≠ 0 → p.monotonicElapsedNs < p.jogDeadlineNs

theorem fresh_released (released : p.snapshot.activeJogToken = 0) : p.Fresh := fun held => absurd released held

variable [Field R] {config : MockActuatorConfig R}

structure Authority (config : MockActuatorConfig R) (p : MockActuatorProfile R) : Prop where
  configured : p.config = config
  revoked : p.snapshot.state = .disabled ∨ p.snapshot.state = .fault → p.snapshot.driveEnabled = false
  still : p.snapshot.state ≠ .running → p.snapshot.state ≠ .homing →
    p.snapshot.targetVelocityRadS = 0 ∧ p.snapshot.motionMode = .none
  enabled : p.snapshot.state = .running ∨ p.snapshot.state = .homing → p.snapshot.driveEnabled = true
  homed : p.snapshot.state = .running → p.snapshot.homed = true
  leased : p.snapshot.activeJogToken ≠ 0 → p.snapshot.state = .running ∧ p.snapshot.motionMode.jogs = true
  capped : p.snapshot.activeJogToken ≠ 0 → p.jogDeadlineNs ≤ p.jogMaxDeadlineNs

structure Sound (config : MockActuatorConfig R) (p : MockActuatorProfile R) : Prop where
  authority : Authority config p
  fresh : p.Fresh

theorem Authority.released (authority : Authority config p) (rests : p.snapshot.state ≠ .running) :
    p.snapshot.activeJogToken = 0 := by
  by_contra held
  exact rests (authority.leased held).1

theorem Authority.moved (authority : Authority config p) (q : MockActuatorProfile R) (settings : q.config = p.config)
    (snapshot : (q.snapshot.state,q.snapshot.driveEnabled,q.snapshot.homed,q.snapshot.targetVelocityRadS,
      q.snapshot.motionMode,q.snapshot.activeJogToken) = (p.snapshot.state,p.snapshot.driveEnabled,p.snapshot.homed,
      p.snapshot.targetVelocityRadS,p.snapshot.motionMode,p.snapshot.activeJogToken))
    (deadline : q.jogDeadlineNs = p.jogDeadlineNs) (maximum : q.jogMaxDeadlineNs = p.jogMaxDeadlineNs) :
    Authority config q := by
  simp only [Prod.mk.injEq] at snapshot
  obtain ⟨state,drive,homed,target,mode,token⟩ := snapshot
  obtain ⟨configured,revoked,still,enabled,home,leased,capped⟩ := authority
  refine ⟨settings.trans configured,?_,?_,?_,?_,?_,?_⟩
  · rwa [state,drive]
  · rwa [state,target,mode]
  · rwa [state,drive]
  · rwa [state,homed]
  · rwa [token,state,mode]
  · rwa [token,deadline,maximum]

theorem Sound.moved (sound : Sound config p) (q : MockActuatorProfile R) (settings : q.config = p.config)
    (snapshot : (q.snapshot.state,q.snapshot.driveEnabled,q.snapshot.homed,q.snapshot.targetVelocityRadS,
      q.snapshot.motionMode,q.snapshot.activeJogToken) = (p.snapshot.state,p.snapshot.driveEnabled,p.snapshot.homed,
      p.snapshot.targetVelocityRadS,p.snapshot.motionMode,p.snapshot.activeJogToken))
    (deadline : q.jogDeadlineNs = p.jogDeadlineNs) (maximum : q.jogMaxDeadlineNs = p.jogMaxDeadlineNs)
    (elapsed : q.monotonicElapsedNs = p.monotonicElapsedNs) : Sound config q := by
  refine ⟨sound.authority.moved q settings snapshot deadline maximum,?_⟩
  simp only [Prod.mk.injEq] at snapshot
  have fresh := sound.fresh
  rwa [Fresh,← snapshot.2.2.2.2.2,← elapsed,← deadline] at fresh

theorem errors_sound (sound : Sound config p) : Sound config p.updateSnapshotErrors := sound.moved _ rfl rfl rfl rfl rfl

theorem resting_sound (configured : p.config = config) (rests : p.snapshot.state ≠ .running ∧ p.snapshot.state ≠ .homing)
    (revoked : p.snapshot.state = .disabled ∨ p.snapshot.state = .fault → p.snapshot.driveEnabled = false)
    (still : p.snapshot.targetVelocityRadS = 0 ∧ p.snapshot.motionMode = .none)
    (released : p.snapshot.activeJogToken = 0) : Sound config p := by
  refine ⟨⟨configured,revoked,fun _ _ => still,?_,?_,?_,?_⟩,fresh_released released⟩
  · rintro (moves | moves)
    · exact absurd moves rests.1
    · exact absurd moves rests.2
  · exact fun moves => absurd moves rests.1
  · exact fun held => absurd released held
  · exact fun held => absurd released held

theorem moving_authority (configured : p.config = config) (moves : p.snapshot.state = .running ∨ p.snapshot.state = .homing)
    (enabled : p.snapshot.driveEnabled = true) (homed : p.snapshot.state = .running → p.snapshot.homed = true)
    (leased : p.snapshot.activeJogToken ≠ 0 → p.snapshot.state = .running ∧ p.snapshot.motionMode.jogs = true)
    (capped : p.snapshot.activeJogToken ≠ 0 → p.jogDeadlineNs ≤ p.jogMaxDeadlineNs) : Authority config p := by
  refine ⟨configured,?_,?_,fun _ => enabled,homed,leased,capped⟩
  · rintro (rests | rests) <;> rcases moves with moves | moves <;> cases rests.symm.trans moves
  · intro still steady
    rcases moves with moves | moves
    · exact absurd moves still
    · exact absurd moves steady

theorem moving_sound (configured : p.config = config) (moves : p.snapshot.state = .running ∨ p.snapshot.state = .homing)
    (enabled : p.snapshot.driveEnabled = true) (homed : p.snapshot.state = .running → p.snapshot.homed = true)
    (released : p.snapshot.activeJogToken = 0) : Sound config p :=
  ⟨moving_authority configured moves enabled homed (fun held => absurd released held) fun held => absurd released held,
    fresh_released released⟩

theorem beginStop_sound (configured : p.config = config) (quick disableAfterStop : Bool) :
    Sound config (p.beginStop quick disableAfterStop) :=
  resting_sound configured ⟨by simp [beginStop],by simp [beginStop]⟩ (by simp [beginStop]) ⟨rfl,rfl⟩ rfl

theorem raiseFault_sound (configured : p.config = config) (reason : ActuatorFaultReason) (persistent : Bool) :
    Sound config (p.raiseFault reason persistent) :=
  resting_sound configured ⟨by simp [raiseFault],by simp [raiseFault]⟩ (fun _ => rfl) ⟨rfl,rfl⟩ rfl

theorem Sound.acceptToken (sound : Sound config p) (source : ActuatorState) (message : String) (token : UInt64) :
    Sound config (p.acceptToken source message token).1 := sound.moved _ rfl rfl rfl rfl rfl

theorem Sound.accept (sound : Sound config p) (source : ActuatorState) (message : String) :
    Sound config (p.accept source message).1 := sound.acceptToken source message 0

theorem Sound.reject (sound : Sound config p) (status : CommandStatus) (source : ActuatorState) (message : String) :
    Sound config (p.reject status source message).1 := sound.moved _ rfl rfl rfl rfl rfl

theorem driveEnable_sound (sound : Sound config p) : Sound config p.driveEnable.1 := by
  unfold driveEnable
  dsimp only
  split
  · exact sound.reject _ _ _
  split
  · exact sound.reject _ _ _
  split
  · exact sound.reject _ _ _
  rename_i _ _ disabled
  have rests : p.snapshot.state = .disabled := not_not.mp disabled
  have still := sound.authority.still (by simp [rests]) (by simp [rests])
  have released := sound.authority.released (by simp [rests])
  refine Sound.accept ?_ _ _
  refine resting_sound sound.authority.configured ?_ ?_ still released
  · simp only [nextGeneration]
    split <;> exact ⟨by decide,by decide⟩
  · simp only [nextGeneration]
    split <;> simp

theorem home_sound (sound : Sound config p) : Sound config p.home.1 := by
  unfold home
  dsimp only
  split
  · exact sound.reject _ _ _
  rename_i allowed
  have enabled : p.snapshot.driveEnabled = true := by simp_all
  have rests : p.snapshot.state ≠ .running := by
    intro running
    simp [running] at allowed
  have released := sound.authority.released rests
  refine Sound.accept ?_ _ _
  exact moving_sound sound.authority.configured (.inr rfl) enabled (by simp) released

theorem normalStop_sound (sound : Sound config p) : Sound config p.normalStop.1 := by
  unfold normalStop
  dsimp only
  split
  · exact sound.accept _ _
  split
  · exact sound.reject _ _ _
  · refine Sound.accept ?_ _ _
    apply beginStop_sound
    exact sound.authority.configured

theorem quickStop_sound (sound : Sound config p) : Sound config p.quickStop.1 := by
  unfold quickStop
  dsimp only
  split
  · exact sound.reject _ _ _
  · refine Sound.accept ?_ _ _
    apply beginStop_sound
    exact sound.authority.configured

theorem jogRenew_sound (sound : Sound config p) (held : 0 < config.jogDeadman) (token : UInt64) :
    Sound config (p.jogRenew token).1 := by
  unfold jogRenew
  dsimp only
  split
  · exact sound.reject _ _ _
  split
  · exact (beginStop_sound sound.authority.configured _ _).reject _ _ _
  rename_i within
  obtain ⟨⟨configured,revoked,still,enabled,homed,leased,_⟩,_⟩ := sound
  refine Sound.acceptToken ?_ _ _ _
  refine ⟨⟨configured,revoked,still,enabled,homed,leased,fun _ => min_le_right _ _⟩,fun _ => ?_⟩
  have ahead : 0 < millisecondsNs p.config.jogDeadman := by
    rw [configured]
    unfold millisecondsNs
    omega
  exact lt_min (by dsimp only; omega) (by dsimp only; omega)

theorem jogRelease_sound (sound : Sound config p) (token : UInt64) : Sound config (p.jogRelease token).1 := by
  unfold jogRelease
  dsimp only
  split
  · exact sound.reject _ _ _
  · refine Sound.accept ?_ _ _
    apply beginStop_sound
    exact sound.authority.configured

theorem injectFault_sound (sound : Sound config p) (reason : ActuatorFaultReason) (persistent : Bool) :
    Sound config (p.injectFault reason persistent) := by
  unfold injectFault
  split
  · exact sound
  · exact raiseFault_sound sound.authority.configured _ _

theorem jogTimeout_sound (authority : Authority config p) : Sound config p.jogTimeout := by
  unfold jogTimeout
  split
  · exact (beginStop_sound authority.configured false false).moved _ rfl rfl rfl rfl rfl
  · rename_i current
    refine ⟨authority,fun held => ?_⟩
    by_contra late
    exact current ⟨(authority.leased held).1,held,.inl (not_lt.mp late)⟩

theorem finishHoming_sound (authority : Authority config p) (homed : p.HomingElapsed) : Sound config p.finishHoming :=
  resting_sound authority.configured ⟨by simp [finishHoming,updateSnapshotErrors],by simp [finishHoming,updateSnapshotErrors]⟩
    (by simp [finishHoming,updateSnapshotErrors]) ⟨rfl,rfl⟩ (authority.released (by simp [homed.1]))

structure Standing (p : MockActuatorProfile R) : Prop where
  revoked : p.snapshot.state = .disabled ∨ p.snapshot.state = .fault →
    p.snapshot.driveEnabled = false ∧ p.snapshot.targetVelocityRadS = 0 ∧ p.snapshot.motionMode = .none ∧
      p.snapshot.activeJogToken = 0
  enabled : p.snapshot.state = .running ∨ p.snapshot.state = .homing → p.snapshot.driveEnabled = true
  homed : p.snapshot.state = .running → p.snapshot.homed = true
  leased : p.snapshot.activeJogToken ≠ 0 →
    p.snapshot.state = .running ∧ p.snapshot.motionMode.jogs = true ∧ p.monotonicElapsedNs < p.jogDeadlineNs

theorem Sound.standing (sound : Sound config p) : Standing p := by
  obtain ⟨authority,fresh⟩ := sound
  refine ⟨fun rests => ?_,authority.enabled,authority.homed,fun held => ?_⟩
  · have idle : p.snapshot.state ≠ .running ∧ p.snapshot.state ≠ .homing := by
      rcases rests with rests | rests <;> rw [rests] <;> exact ⟨by decide,by decide⟩
    obtain ⟨target,mode⟩ := authority.still idle.1 idle.2
    exact ⟨authority.revoked rests,target,mode,authority.released idle.1⟩
  · obtain ⟨running,jogs⟩ := authority.leased held
    exact ⟨running,jogs,fresh held⟩

theorem jogRenew_in_time (sound : Sound config p) (token : UInt64) : (p.jogRenew token).2.status ≠ .timeout := by
  unfold jogRenew
  dsimp only
  split
  · simp [reject]
  · rename_i active
    simp only [not_or,not_not] at active
    have held : p.snapshot.activeJogToken ≠ 0 := active.2.1 ▸ active.1
    have early := sound.fresh held
    have capped := sound.authority.capped held
    rw [if_neg (by omega)]
    simp [acceptToken]

theorem settle_sound [LinearOrder R] (sound : Sound config p) : Sound config p.settle := by
  unfold settle
  split
  · rename_i slow
    refine resting_sound sound.authority.configured ?_ ?_ ⟨rfl,rfl⟩ (sound.authority.released (by simp [slow.1]))
    · dsimp only
      split_ifs <;> exact ⟨by decide,by decide⟩
    · dsimp only
      split_ifs <;> simp
  · exact sound

variable [LinearOrder R]

theorem driveDisable_sound (sound : Sound config p) : Sound config p.driveDisable.1 := by
  unfold driveDisable
  dsimp only
  split
  · rename_i faulted
    have revoked := sound.authority.revoked (.inr faulted)
    refine Sound.accept ?_ _ _
    refine sound.moved _ rfl ?_ rfl rfl rfl
    dsimp only
    rw [revoked]
  split
  · exact sound.reject _ _ _
  split
  · refine Sound.accept ?_ _ _
    apply beginStop_sound
    exact sound.authority.configured
  · rename_i rests
    simp only [not_or] at rests
    have still := sound.authority.still rests.2.1 rests.2.2.1
    refine Sound.accept ?_ _ _
    exact resting_sound sound.authority.configured ⟨by simp,by simp⟩ (fun _ => rfl) ⟨still.1,rfl⟩
      (sound.authority.released rests.2.1)

theorem startVelocity_sound (sound : Sound config p) (velocityRadS : R) : Sound config (p.startVelocity velocityRadS).1 := by
  unfold startVelocity
  dsimp only
  split
  · exact sound.reject _ _ _
  split
  · exact sound.reject _ _ _
  rename_i allowed
  split
  · exact (raiseFault_sound sound.authority.configured _ _).reject _ _ _
  simp only [Bool.or_eq_true,Bool.not_eq_true',decide_eq_true_eq,not_or,Bool.not_eq_false,not_not] at allowed
  obtain ⟨⟨enabled,homed⟩,ready⟩ := allowed
  have released := sound.authority.released (by simp [ready])
  refine Sound.accept ?_ _ _
  exact moving_sound sound.authority.configured (.inl rfl) enabled (fun _ => homed) released

theorem jogPress_sound (sound : Sound config p) (held : 0 < config.jogDeadman)
    (within : config.jogDeadman ≤ config.maxContinuousJog) (direction : Int) (velocityRadS : R) :
    Sound config (p.jogPress direction velocityRadS).1 := by
  unfold jogPress
  dsimp only
  split
  · exact sound.reject _ _ _
  split
  · exact sound.reject _ _ _
  rename_i allowed
  split
  · exact (raiseFault_sound sound.authority.configured _ _).reject _ _ _
  simp only [Bool.or_eq_true,Bool.not_eq_true',decide_eq_true_eq,not_or,Bool.not_eq_false,not_not] at allowed
  obtain ⟨⟨enabled,homed⟩,ready⟩ := allowed
  have configured := sound.authority.configured
  refine Sound.acceptToken ?_ _ _ _
  refine ⟨moving_authority configured (.inl rfl) enabled (fun _ => homed) (fun _ => ⟨rfl,?_⟩) fun _ => ?_,fun _ => ?_⟩
  · dsimp only
    split <;> rfl
  · simp only [nextGeneration,configured,millisecondsNs]
    omega
  · simp only [nextGeneration,configured,millisecondsNs]
    omega

theorem resetFault_sound (sound : Sound config p) : Sound config p.resetFault.1 := by
  unfold resetFault
  dsimp only
  split
  · exact sound.reject _ _ _
  split
  · exact sound.reject _ _ _
  split
  · exact sound.reject _ _ _
  · refine Sound.accept ?_ _ _
    exact resting_sound sound.authority.configured ⟨by simp,by simp⟩ (fun _ => rfl) ⟨rfl,rfl⟩ rfl

theorem limitPosition_sound (sound : Sound config p) : Sound config p.limitPosition := by
  unfold limitPosition
  split
  · apply raiseFault_sound
    exact sound.authority.configured
  split
  · apply raiseFault_sound
    exact sound.authority.configured
  · exact sound

theorem watchTracking_sound (sound : Sound config p) : Sound config p.watchTracking := by
  unfold watchTracking
  dsimp only
  split
  · split
    · apply raiseFault_sound
      exact sound.authority.configured
    · exact sound.moved _ rfl rfl rfl rfl rfl
  · exact sound.moved _ rfl rfl rfl rfl rfl

theorem integrate_sound (sound : Sound config p) (elapsed : Int) : Sound config (p.integrate elapsed) :=
  sound.moved _ rfl rfl rfl rfl rfl

theorem tick_sound (sound : Sound config p) (elapsed : Int) : Sound config (p.tick elapsed) := by
  have timed : Sound config (p.elapse elapsed).jogTimeout :=
    jogTimeout_sound (sound.authority.moved (p.elapse elapsed) rfl rfl rfl rfl)
  unfold tick
  dsimp only
  split
  · exact sound
  split
  · rename_i homed
    exact finishHoming_sound timed.authority homed
  have limited := limitPosition_sound (integrate_sound timed elapsed)
  have watched := watchTracking_sound (errors_sound limited)
  exact errors_sound (settle_sound watched)

end Authority
end MockActuatorProfile

section Runs
variable {R : Type} [Field R] [LinearOrder R] {p q : MockActuatorProfile R} {command : ActuatorCommand R}
  {config : MockActuatorConfig R}
open MockActuatorProfile

theorem call_sound (held : 0 < config.jogDeadman) (within : config.jogDeadman ≤ config.maxContinuousJog)
    (sound : Sound config p) : Sound config (p.call command).1 := by
  cases command with
  | driveEnable => exact driveEnable_sound sound
  | driveDisable => exact driveDisable_sound sound
  | home => exact home_sound sound
  | startVelocity velocityRadS => exact startVelocity_sound sound velocityRadS
  | normalStop => exact normalStop_sound sound
  | quickStop => exact quickStop_sound sound
  | jogPress direction velocityRadS => exact jogPress_sound sound held within direction velocityRadS
  | jogRenew token => exact jogRenew_sound sound held token
  | jogRelease token => exact jogRelease_sound sound token
  | resetFault => exact resetFault_sound sound
  | injectFault reason persistent => exact injectFault_sound sound reason persistent
  | clearInjectedBlocker => exact sound.moved _ rfl rfl rfl rfl rfl
  | tick elapsed => exact tick_sound sound elapsed

theorem init_sound (config : MockActuatorConfig R) : Sound config (init config) := by
  unfold init
  dsimp only
  split
  · exact resting_sound rfl ⟨by simp [updateSnapshotErrors],by simp [updateSnapshotErrors]⟩ (fun _ => rfl) ⟨rfl,rfl⟩ rfl
  · exact resting_sound rfl ⟨by simp [updateSnapshotErrors,raiseFault],by simp [updateSnapshotErrors,raiseFault]⟩
      (fun _ => rfl) ⟨rfl,rfl⟩ rfl

theorem valid_lease (valid : config.valid = true) : 0 < config.jogDeadman ∧ config.jogDeadman ≤ config.maxContinuousJog := by
  simp only [MockActuatorConfig.valid,Bool.and_eq_true,decide_eq_true_eq] at valid
  exact ⟨valid.1.1.1.1.1.2,valid.1.1.1.1.2⟩

theorem call_step (valid : config.valid = true) (sound : Sound config p) (taken : actuatorStep p command = some q) :
    Sound config q := by
  cases taken
  exact call_sound (valid_lease valid).1 (valid_lease valid).2 sound

end Runs

end RobotControlRuntime
