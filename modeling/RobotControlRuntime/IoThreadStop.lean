import RobotControlRuntime.IoThread
import RobotControlRuntime.Library.Countdown

-- How soon the thread of the I/O loop ends once it is asked to, and that the bus
-- does not keep it from its other work.
namespace RobotControlRuntime
open StepHistory

namespace IoSystem

def pumpLeft (s : IoSystem) : Nat :=
  match s.stage with
  | .idle => if s.io.pumping then 5 else 0
  | .consumed => 4
  | .approved => 3
  | .encoded _ _ _ => 2
  | .sent _ _ => 1

theorem pumpLeft_le (s : IoSystem) : s.pumpLeft ≤ 5 := by
  unfold pumpLeft
  split <;> try split
  all_goals omega

structure Pumps (s : IoSystem) : Prop where
  entered : s.stage = .idle → s.io.pumping = true
  held : s.stage ≠ .idle → s.io.pumping = false ∧ ∃ command, s.io.pendingOutput = some command

structure PumpStep (s next : IoSystem) : Prop where
  shorter : next.pumpLeft < s.pumpLeft
  inside : next.io.pumping = false
  held : next.stage ≠ .idle → ∃ command, next.io.pendingOutput = some command
  running : next.io.running = s.io.running
  requested : s.io.stopRequested = true → next.io.stopRequested = true
  reason : next.io.stopReason = s.io.stopReason ∨ next.io.stopReason ≠ .none
  raised : next.io.stopRequested = true → s.io.stopRequested = true ∨ next.io.stopReason ≠ .none

theorem pumpLeft_idle {s : IoSystem} (stage : s.stage = .idle) (inside : s.io.pumping = false) : s.pumpLeft = 0 := by
  simp [pumpLeft,stage,inside]

theorem pump_enabled (pumps : Pumps s) (inputs : ThreadInputs) : ∃ next, s.step (s.pumpAction inputs) = some next := by
  unfold pumpAction
  cases stage : s.stage with
  | idle => exact ⟨_,by simp only [step,stage,pumps.entered stage]; rfl⟩
  | consumed | approved =>
      obtain ⟨_,command,held⟩ := pumps.held (by simp [stage])
      exact ⟨_,by simp only [step,stage,held]; rfl⟩
  | encoded _ _ _ | sent _ _ => exact ⟨_,by simp only [step,stage]; rfl⟩

theorem finished_step {s base : IoSystem} (here : 0 < s.pumpLeft) (inside : base.io.pumping = false)
    (running : base.io.running = s.io.running) (requested : s.io.stopRequested = true → base.io.stopRequested = true)
    (reason : base.io.stopReason = s.io.stopReason ∨ base.io.stopReason ≠ .none)
    (raised : base.io.stopRequested = true → s.io.stopRequested = true ∨ base.io.stopReason ≠ .none) :
    PumpStep s base.finish where
  shorter := by
    rw [pumpLeft_idle (s := base.finish) rfl inside]
    exact here
  inside := inside
  held busy := absurd rfl busy
  running := running
  requested := requested
  reason := reason
  raised := raised

theorem pump_step (pumps : Pumps s) (taken : s.step (s.pumpAction inputs) = some next) : PumpStep s next := by
  unfold pumpAction at taken
  cases stage : s.stage with
  | idle =>
      simp only [stage,step,pumps.entered stage] at taken
      cases taken
      have left : s.pumpLeft = 5 := by simp [pumpLeft,stage,pumps.entered stage]
      refine ⟨?_,rfl,?_,rfl,id,.inl rfl,.inl⟩
      · rw [left]
        unfold pumpLeft
        rw [consume_stage]
        cases (s.tryConsume inputs.now).io.pendingOutput.isSome with
        | true => simp
        | false => simp [tryConsume]
      · intro busy
        rw [consume_stage] at busy
        cases held : (s.tryConsume inputs.now).io.pendingOutput with
        | some command => exact ⟨command,rfl⟩
        | none =>
            rw [held] at busy
            exact absurd rfl busy
  | consumed =>
      obtain ⟨inside,command,held⟩ := pumps.held (by simp [stage])
      simp only [stage,step,held] at taken
      cases taken
      have left : s.pumpLeft = 4 := by simp [pumpLeft,stage]
      unfold sendable
      split
      · exact ⟨by show 3 < s.pumpLeft; omega,inside,fun _ => ⟨command,held⟩,rfl,id,.inl rfl,.inl⟩
      · exact finished_step (by rw [left]; decide) inside rfl id (.inl rfl) .inl
  | approved =>
      obtain ⟨inside,command,held⟩ := pumps.held (by simp [stage])
      simp only [stage,step,held] at taken
      cases taken
      have left : s.pumpLeft = 3 := by simp [pumpLeft,stage]
      have spent (base : IoSystem) (same : base.io.pumping = s.io.pumping ∧ base.io.running = s.io.running ∧
          base.io.stopRequested = s.io.stopRequested ∧ base.io.stopReason = s.io.stopReason) : PumpStep s base.finish :=
        finished_step (by rw [left]; decide) (same.1.trans inside) same.2.1 (fun flag => same.2.2.1.trans flag) (.inl same.2.2.2)
          (fun flag => .inl (same.2.2.1.symm.trans flag))
      unfold encode
      split
      · exact spent s ⟨rfl,rfl,rfl,rfl⟩
      · split
        · exact spent _ ⟨rfl,rfl,rfl,rfl⟩
        · split
          · exact spent _ ⟨rfl,rfl,rfl,rfl⟩
          · exact ⟨by show 2 < s.pumpLeft; omega,inside,fun _ => ⟨command,held⟩,rfl,id,.inl rfl,.inl⟩
  | encoded wire frame nowNs =>
      obtain ⟨inside,command,held⟩ := pumps.held (by simp [stage])
      simp only [stage,step] at taken
      cases taken
      have left : s.pumpLeft = 2 := by simp [pumpLeft,stage]
      cases inputs.sent with
      | sent => exact ⟨by show 1 < s.pumpLeft; omega,inside,fun _ => ⟨command,held⟩,rfl,id,.inl rfl,.inl⟩
      | wouldBlock =>
          refine ⟨?_,inside,fun busy => absurd rfl busy,rfl,id,.inl rfl,.inl⟩
          rw [left,pumpLeft_idle (s := s.send wire nowNs .wouldBlock) rfl inside]
          decide
      | failed => exact finished_step (by rw [left]; decide) inside rfl (fun _ => rfl) (.inr (by simp)) (fun _ => .inr (by simp))
  | sent wire nowNs =>
      obtain ⟨inside,command,held⟩ := pumps.held (by simp [stage])
      simp only [stage,step] at taken
      cases taken
      have left : s.pumpLeft = 1 := by simp [pumpLeft,stage]
      unfold note
      split
      · exact finished_step (by rw [left]; decide) inside rfl id (.inl rfl) .inl
      · exact finished_step (by rw [left]; decide) inside rfl (fun _ => rfl) (.inr (by simp)) (fun _ => .inr (by simp))

end IoSystem

namespace IoThread

def remaining (s : IoThread) : Nat :=
  match s.point with
  | .exited => 0
  | .teardown => 1
  | .check => 2
  | .pumpCheck => 3
  | .look _ | .can _ => 4
  | .read _ | .signal _ => 5
  | .stopEvent _ => 6
  | .wait => 7
  | .pump => 2 + s.system.pumpLeft

def unseen (s : IoThread) : Nat :=
  match s.point with
  | .exited => 0
  | .teardown => 1
  | .wait => 3
  | .check => 4
  | .pump => 4 + s.system.pumpLeft
  | .pumpCheck => 10
  | .look budget => 11 + 2 * budget
  | .read budget => 10 + 2 * budget
  | .can _ => 12 + 2 * s.maxFramesPerWake
  | .signal ready => if ready.signal then 1 else 13 + 2 * s.maxFramesPerWake
  | .stopEvent ready => if ready.signal then 2 else 14 + 2 * s.maxFramesPerWake

def toExit (s : IoThread) : Nat := if s.system.io.stopRequested then s.remaining else s.unseen + 8

def asked (s : IoThread) : Bool := s.system.io.stopRequested || s.signalPending

def onBus (s : IoThread) : Bool :=
  match s.point,s.system.stage with
  | .read _,_ => true
  | .pump,.encoded _ _ _ => true
  | _,_ => false

def busLeft (s : IoThread) : Nat :=
  match s.point with
  | .read _ => 1
  | .pump => if 2 ≤ s.system.pumpLeft then 1 else 0
  | _ => 0

def flagged (s : IoThread) : Bool := s.system.io.stopRequested

def isMain : ThreadAction → Bool
  | .main _ => true
  | _ => false

structure Placed (s : IoThread) : Prop where
  outside : s.point ≠ .pump → s.system.stage = .idle ∧ s.system.io.pumping = false
  inside : s.point = .pump → s.system.Pumps
  budget : ∀ budget, s.point = .look budget → budget ≤ s.maxFramesPerWake
  reading : ∀ budget, s.point = .read budget → 0 < budget ∧ budget ≤ s.maxFramesPerWake
  running : s.system.io.running = true ↔ s.point ≠ .exited
  ended : s.point = .exited → s.system.io.pendingOutput = none
  leaving : s.point = .teardown ∨ s.point = .exited → s.system.io.stopRequested = true ∨ s.system.io.stopReason ≠ .none
  reason : s.system.io.stopRequested = true → s.system.io.stopReason ≠ .none ∨ s.request = .stored

theorem remaining_le (s : IoThread) : s.remaining ≤ 7 := by
  have left := s.system.pumpLeft_le
  unfold remaining
  split <;> omega

theorem toExit_le (placed : Placed s) : s.toExit ≤ 22 + 2 * s.maxFramesPerWake := by
  have left := s.system.pumpLeft_le
  have short := s.remaining_le
  unfold toExit unseen
  split
  · omega
  · cases here : s.point with
    | look budget =>
        have bound := placed.budget budget here
        dsimp only
        omega
    | read budget =>
        have bound := placed.reading budget here
        dsimp only
        omega
    | signal ready | stopEvent ready =>
        dsimp only
        split <;> omega
    | _ =>
        dsimp only
        omega

-- One way from a place of the thread to the next outside of pump_output, and the flag
-- before and after it. `pending` is a signal that is there to be seen.
inductive Edge (wake : Nat) (pending : Bool) : ThreadPoint → Bool → ThreadPoint → Bool → Prop where
  | ends : Edge wake pending .check true .teardown true
  | waits : Edge wake pending .check false .wait false
  | lost : Edge wake pending .wait up .teardown up
  | wakes : seen.signal = pending → Edge wake pending .wait up (.stopEvent seen) up
  | stops : Edge wake pending (.stopEvent seen) up (.signal seen) (seen.stop || up)
  | signals : Edge wake pending (.signal seen) up (.can seen) (seen.signal || up)
  | looks : Edge wake pending (.can seen) false (.look wake) false
  | skips (failed : Bool) : Edge wake pending (.can seen) up .pumpCheck (failed || up)
  | reads : 0 < budget → Edge wake pending (.look budget) false (.read budget) false
  | spent : Edge wake pending (.look budget) up .pumpCheck up
  | takes : Edge wake pending (.read budget) up (.look (budget - 1)) up
  | empties (failed : Bool) : Edge wake pending (.read budget) up .pumpCheck (failed || up)
  | turns : Edge wake pending .pumpCheck true .check true

structure Walks (s next : IoThread) : Prop where
  edge : Edge s.maxFramesPerWake s.signalPending s.point s.flagged next.point next.flagged
  stage : next.system.stage = s.system.stage
  pumping : next.system.io.pumping = s.system.io.pumping
  running : next.system.io.running = s.system.io.running
  wake : next.maxFramesPerWake = s.maxFramesPerWake
  request : next.request = s.request
  signal : s.signalPending = true → next.flagged = true ∨ next.signalPending = true
  known : s.system.io.stopReason ≠ .none → next.system.io.stopReason ≠ .none
  raised : next.flagged = true → s.flagged = true ∨ next.system.io.stopReason ≠ .none
  leaving : next.point = .teardown → next.flagged = true ∨ next.system.io.stopReason ≠ .none

inductive Goes (s : IoThread) (inputs : ThreadInputs) : IoThread → Prop where
  | walks : Walks s next → Goes s inputs next
  | enters : s.point = .pumpCheck → s.flagged = false →
      Goes s inputs {s with system := {s.system with io := {s.system.io with pumping := true}},point := .pump}
  | pumps : s.point = .pump → s.system.step (s.system.pumpAction inputs) = some pumped →
      Goes s inputs {s with system := pumped,point := if pumped.stage = .idle ∧ pumped.io.pumping = false then .check else .pump}
  | exits : s.point = .teardown → Goes s inputs {s with system := s.system.exit false,point := .exited}

theorem walks_on {next : IoThread} (edge : Edge s.maxFramesPerWake s.signalPending s.point s.flagged next.point s.flagged)
    (stage : next.system.stage = s.system.stage)
    (io : next.system.io = {s.system.io with queueRejects := next.system.io.queueRejects})
    (rest : next.maxFramesPerWake = s.maxFramesPerWake ∧ next.request = s.request ∧ next.signalPending = s.signalPending)
    (leaving : next.point = .teardown → s.flagged = true) : Walks s next := by
  have flag : next.flagged = s.flagged := by rw [IoThread.flagged,io]; rfl
  have reason : next.system.io.stopReason = s.system.io.stopReason := by rw [io]
  exact
    {edge := by rw [flag]; exact edge
     stage := stage
     pumping := by rw [io]
     running := by rw [io]
     wake := rest.1
     request := rest.2.1
     signal := fun pending => .inr (rest.2.2.trans pending)
     known := by rw [reason]; exact id
     raised := by rw [flag]; exact .inl
     leaving := by rw [flag]; exact fun here => .inl (leaving here)}

theorem walks_stopped {next : IoThread} (edge : Edge s.maxFramesPerWake s.signalPending s.point s.flagged next.point true)
    (source : StopSource) (system : next.system = s.system.stop source) (named : source ≠ .request)
    (rest : next.maxFramesPerWake = s.maxFramesPerWake ∧ next.request = s.request) : Walks s next := by
  have flag : next.flagged = true := by rw [IoThread.flagged,system]; cases source <;> rfl
  have reason : next.system.io.stopReason ≠ .none := by
    rw [system]
    cases source with
    | request => exact absurd rfl named
    | _ => simp [IoSystem.stop,IoSystem.stopFor]
  exact
    {edge := by rw [flag]; exact edge
     stage := by rw [system]; cases source <;> rfl
     pumping := by rw [system]; cases source <;> rfl
     running := by rw [system]; cases source <;> rfl
     wake := rest.1
     request := rest.2
     signal := fun _ => .inl flag
     known := fun _ => reason
     raised := fun _ => .inr reason
     leaving := fun _ => .inl flag}

theorem decode_frame (s : IoThread) (frame : CanFrame) (nowNs : Int) :
    (s.decodeFrame frame nowNs).system.stage = s.system.stage ∧
      (s.decodeFrame frame nowNs).system.io = {s.system.io with queueRejects := (s.decodeFrame frame nowNs).system.io.queueRejects} := by
  unfold decodeFrame
  split
  · exact ⟨rfl,rfl⟩
  · split <;> exact ⟨rfl,rfl⟩

theorem receive_walks (here : s.point = .read budget) (inputs : ThreadInputs) : Walks s (s.receive budget inputs) := by
  unfold receive
  split
  · exact walks_stopped (by rw [here]; exact .empties true) (.canError inputs.now) rfl (by simp) ⟨rfl,rfl⟩
  · split
    · exact walks_on (by rw [here]; exact .empties false) rfl rfl ⟨rfl,rfl,rfl⟩ (by simp)
    · rename_i frame rest _
      have same := decode_frame
        {s with incoming := rest,framesReceived := s.framesReceived + 1,point := .look (budget - 1)} frame (clockOrZero inputs.now)
      have decodes := decode_exact
        {s with incoming := rest,framesReceived := s.framesReceived + 1,point := .look (budget - 1)} frame (clockOrZero inputs.now)
      generalize decodeFrame _ _ _ = next at same decodes ⊢
      have point : next.point = .look (budget - 1) := by rw [decodes.rest]
      refine walks_on (by rw [here,point]; exact .takes) same.1 same.2 ?_ (by simp [point])
      rw [decodes.rest]
      exact ⟨rfl,rfl,rfl⟩

theorem main_goes (taken : s.mainStep inputs = some next) : Goes s inputs next := by
  have on (point : ThreadPoint) (edge : Edge s.maxFramesPerWake s.signalPending s.point s.flagged point s.flagged)
      (leaving : point = .teardown → s.flagged = true) : Goes s inputs {s with point := point} :=
    .walks (walks_on edge rfl rfl ⟨rfl,rfl,rfl⟩ leaving)
  unfold mainStep at taken
  cases here : s.point with
  | exited =>
      rw [here] at taken
      cases taken
  | check =>
      rw [here] at taken
      cases taken
      cases flag : s.flagged with
      | true => exact on _ (by rw [here,flag,show s.system.io.stopRequested = true from flag]; exact .ends) (fun _ => flag)
      | false => exact on _ (by rw [here,flag,show s.system.io.stopRequested = false from flag]; exact .waits) (by simp [show s.system.io.stopRequested = false from flag])
  | wait =>
      rw [here] at taken
      dsimp only at taken
      split at taken <;> cases taken
      · exact .walks ⟨by rw [here]; exact .lost,rfl,rfl,rfl,rfl,rfl,.inr,fun _ => by simp,.inl,fun _ => .inr (by simp)⟩
      · exact .walks (walks_on (by rw [here]; exact .wakes rfl) rfl rfl ⟨rfl,rfl,rfl⟩ (by simp))
  | stopEvent ready =>
      rw [here] at taken
      cases taken
      have edge : Edge s.maxFramesPerWake s.signalPending (.stopEvent ready) s.flagged (.signal ready) (ready.stop || s.flagged) := .stops
      cases seen : ready.stop with
      | true =>
          rw [seen] at edge
          exact .walks (walks_stopped (by rw [here]; exact edge) .eventFd rfl (by simp) ⟨rfl,rfl⟩)
      | false =>
          rw [seen] at edge
          exact on _ (by rw [here]; exact edge) (by simp)
  | signal ready =>
      rw [here] at taken
      cases taken
      have edge : Edge s.maxFramesPerWake s.signalPending (.signal ready) s.flagged (.can ready) (ready.signal || s.flagged) := .signals
      cases seen : ready.signal with
      | true =>
          rw [seen] at edge
          exact .walks (walks_stopped (by rw [here]; exact edge) .signal rfl (by simp) ⟨rfl,rfl⟩)
      | false =>
          rw [seen] at edge
          exact on _ (by rw [here]; exact edge) (by simp)
  | can ready =>
      rw [here] at taken
      dsimp only at taken
      split at taken <;> cases taken
      · exact .walks (walks_stopped (by rw [here]; exact .skips true) (.canError inputs.now) rfl (by simp) ⟨rfl,rfl⟩)
      · by_cases goes : (ready.can && !s.system.io.stopRequested) = true
        · rw [if_pos goes]
          have down : s.flagged = false := by
            simp only [Bool.and_eq_true,Bool.not_eq_true'] at goes
            exact goes.2
          exact on _ (by rw [here,down]; exact .looks) (by simp)
        · rw [if_neg goes]
          exact on _ (by rw [here]; exact .skips false) (by simp)
  | look budget =>
      rw [here] at taken
      cases taken
      by_cases goes : 0 < budget ∧ s.system.io.stopRequested = false
      · rw [if_pos goes]
        exact on _ (by rw [here,show s.flagged = false from goes.2]; exact .reads goes.1) (by simp)
      · rw [if_neg goes]
        exact on _ (by rw [here]; exact .spent) (by simp)
  | read budget =>
      rw [here] at taken
      cases taken
      exact .walks (receive_walks here inputs)
  | pumpCheck =>
      rw [here] at taken
      dsimp only at taken
      cases flag : s.system.io.stopRequested with
      | true =>
          rw [if_pos flag] at taken
          cases taken
          exact on _ (by rw [here,show s.flagged = true from flag]; exact .turns) (by simp)
      | false =>
          rw [if_neg (by simp [flag])] at taken
          cases taken
          exact .enters here flag
  | pump =>
      rw [here] at taken
      simp only [pumpStep] at taken
      split at taken
      · cases taken
      · rename_i moved
        cases taken
        exact .pumps here moved
  | teardown =>
      rw [here] at taken
      cases taken
      exact .exits here

structure Advances (own : Bool) (s next : IoThread) : Prop where
  placed : Placed next
  flagged : s.flagged = true → next.flagged = true
  asked : s.asked = true → next.asked = true
  toExit : s.asked = true → next.toExit + own.toNat ≤ s.toExit
  remaining : s.flagged = true → next.remaining + own.toNat ≤ s.remaining
  bus : s.flagged = true → next.busLeft + (own && s.onBus).toNat ≤ s.busLeft
  wake : next.maxFramesPerWake = s.maxFramesPerWake

theorem edge_apart (edge : Edge wake pending p up p' up') : p ≠ .pump ∧ p ≠ .exited ∧ p' ≠ .pump ∧ p' ≠ .exited := by
  cases edge <;> simp

theorem edge_budget (edge : Edge wake pending p up p' up') (budget : ∀ b, p = .look b → b ≤ wake)
    (reading : ∀ b, p = .read b → 0 < b ∧ b ≤ wake) :
    (∀ b, p' = .look b → b ≤ wake) ∧ ∀ b, p' = .read b → 0 < b ∧ b ≤ wake := by
  cases edge with
  | reads positive => exact ⟨by simp,fun b here => by cases here; exact ⟨positive,budget _ rfl⟩⟩
  | takes => exact ⟨fun b here => by cases here; exact Nat.le_trans (Nat.sub_le _ 1) (reading _ rfl).2,by simp⟩
  | looks => exact ⟨fun b here => by cases here; exact Nat.le_refl _,by simp⟩
  | _ => simp

theorem walks_placed (placed : Placed s) (walks : Walks s next) : Placed next := by
  obtain ⟨apart,alive,outside,lasts⟩ := edge_apart walks.edge
  obtain ⟨budget,reading⟩ := edge_budget walks.edge placed.budget placed.reading
  exact
    {outside := fun _ => by rw [walks.stage,walks.pumping]; exact placed.outside apart
     inside := fun here => absurd here outside
     budget := by rw [walks.wake]; exact budget
     reading := by rw [walks.wake]; exact reading
     running := by rw [walks.running]; exact ⟨fun _ => lasts,fun _ => placed.running.mpr alive⟩
     ended := fun here => absurd here lasts
     leaving := fun here => walks.leaving (here.resolve_right lasts)
     reason := by
      intro up
      rw [walks.request]
      rcases walks.raised up with before | known
      · exact (placed.reason before).imp_left walks.known
      · exact .inl known}

theorem walks_advances (placed : Placed s) (walks : Walks s next) : Advances true s next := by
  have edge := walks.edge
  have lasts : s.flagged = true → next.flagged = true := by
    intro up
    rw [up] at edge
    generalize s.point = p at edge
    generalize next.point = p' at edge
    generalize next.flagged = up' at edge
    cases edge <;> simp
  have asks : s.asked = true → next.asked = true := by
    intro asked
    rcases Bool.or_eq_true_iff.mp asked with up | pending
    · exact Bool.or_eq_true_iff.mpr (.inl (lasts up))
    · exact Bool.or_eq_true_iff.mpr (walks.signal pending)
  refine ⟨walks_placed placed walks,lasts,asks,?_,?_,?_,walks.wake⟩
  · intro asked
    have pending : s.flagged = false → s.signalPending = true := by
      intro down
      simpa [IoThread.asked,show s.system.io.stopRequested = false from down] using asked
    have reading := placed.reading
    have toExit (s : IoThread) : s.toExit = if s.flagged then s.remaining else s.unseen + 8 := rfl
    rw [toExit,toExit]
    unfold IoThread.remaining unseen
    rw [walks.wake]
    generalize s.point = p at edge reading ⊢
    generalize next.point = p' at edge ⊢
    generalize s.flagged = up at edge pending ⊢
    generalize next.flagged = up' at edge ⊢
    cases edge <;> grind
  · intro up
    unfold IoThread.remaining
    rw [up] at edge
    generalize s.point = p at edge ⊢
    generalize next.point = p' at edge ⊢
    generalize next.flagged = up' at edge
    cases edge <;> simp
  · intro up
    unfold busLeft onBus
    rw [up] at edge
    generalize s.point = p at edge ⊢
    generalize next.point = p' at edge ⊢
    generalize next.flagged = up' at edge
    cases edge <;> simp

theorem enters_advances (placed : Placed s) (here : s.point = .pumpCheck) (down : s.flagged = false) :
    Advances true s {s with system := {s.system with io := {s.system.io with pumping := true}},point := .pump} := by
  have alive := placed.running.mpr (by simp [here])
  have up_absurd : s.flagged ≠ true := by simp [down]
  refine ⟨?_,id,id,fun _ => ?_,fun up => absurd up up_absurd,fun up => absurd up up_absurd,rfl⟩
  · exact
      {outside := fun apart => absurd rfl apart
       inside := fun _ => ⟨fun _ => rfl,fun busy => absurd (placed.outside (by simp [here])).1 busy⟩
       budget := by simp
       reading := by simp
       running := ⟨fun _ => by simp,fun _ => alive⟩
       ended := by simp
       leaving := by simp
       reason := placed.reason}
  · have down : s.system.io.stopRequested = false := down
    simp only [toExit,unseen,here,down]
    show 4 + IoSystem.pumpLeft _ + 8 + 1 ≤ 18
    have left (system : IoSystem) : 4 + system.pumpLeft + 8 + 1 ≤ 18 := by
      have most := system.pumpLeft_le
      omega
    exact left _

theorem exits_advances (placed : Placed s) (here : s.point = .teardown) :
    Advances true s {s with system := s.system.exit false,point := .exited} := by
  refine ⟨?_,id,id,fun _ => ?_,fun _ => by simp [IoThread.remaining,here],fun _ => by simp [busLeft,onBus,here],rfl⟩
  · exact
      {outside := fun _ => placed.outside (by simp [here])
       inside := by simp
       budget := by simp
       reading := by simp
       running := by simp [IoSystem.exit]
       ended := fun _ => rfl
       leaving := fun _ => placed.leaving (.inl here)
       reason := placed.reason}
  · simp only [toExit,IoThread.remaining,unseen,here]
    show (if s.system.io.stopRequested = true then 0 else 0 + 8) + 1 ≤ _
    split <;> omega

theorem onBus_left {s : IoThread} (here : s.point = .pump) (sends : s.onBus = true) : s.system.pumpLeft = 2 := by
  unfold onBus at sends
  rw [here] at sends
  unfold IoSystem.pumpLeft
  cases stage : s.system.stage with
  | encoded _ _ _ => rfl
  | _ =>
      rw [stage] at sends
      cases sends

-- A step of the pump, after which the thread stays with it or is back at its loop.
-- The place makes no difference to what is left.
theorem pumps_advances {next : IoThread} (placed : Placed s) (here : s.point = .pump) (step : IoSystem.PumpStep s.system next.system)
    (place : next.point = .check ∧ next.system.stage = .idle ∨ next.point = .pump ∧ next.system.stage ≠ .idle)
    (rest : next.maxFramesPerWake = s.maxFramesPerWake ∧ next.request = s.request ∧ next.signalPending = s.signalPending) :
    Advances true s next := by
  have shorter := step.shorter
  have left : s.remaining = 2 + s.system.pumpLeft ∧ s.unseen = 4 + s.system.pumpLeft ∧
      s.busLeft = if 2 ≤ s.system.pumpLeft then 1 else 0 := by
    simp [IoThread.remaining,unseen,busLeft,here]
  have left' : next.remaining = 2 + next.system.pumpLeft ∧ next.unseen = 4 + next.system.pumpLeft ∧
      next.busLeft = if 2 ≤ next.system.pumpLeft then 1 else 0 := by
    rcases place with ⟨point,idle⟩ | ⟨point,_⟩
    · simp [IoThread.remaining,unseen,busLeft,point,IoSystem.pumpLeft_idle idle step.inside]
    · simp [IoThread.remaining,unseen,busLeft,point]
  have toExit (s : IoThread) : s.toExit = if s.flagged then s.remaining else s.unseen + 8 := rfl
  refine ⟨?_,step.requested,?_,fun _ => ?_,fun _ => ?_,fun _ => ?_,rest.1⟩
  · exact
      {outside := fun apart => ⟨(place.resolve_right fun inside => apart inside.1).2,step.inside⟩
       inside := fun inside => by
        have busy := (place.resolve_left fun back => by simp [back.1] at inside).2
        exact ⟨fun idle => absurd idle busy,fun busy => ⟨step.inside,step.held busy⟩⟩
       budget := by rcases place with ⟨point,_⟩ | ⟨point,_⟩ <;> simp [point]
       reading := by rcases place with ⟨point,_⟩ | ⟨point,_⟩ <;> simp [point]
       running := by
        rw [step.running,placed.running]
        rcases place with ⟨point,_⟩ | ⟨point,_⟩ <;> simp [point,here]
       ended := by rcases place with ⟨point,_⟩ | ⟨point,_⟩ <;> simp [point]
       leaving := by rcases place with ⟨point,_⟩ | ⟨point,_⟩ <;> simp [point]
       reason := by
        intro up
        rw [rest.2.1]
        rcases step.raised up with before | known
        · refine (placed.reason before).imp_left fun known => ?_
          rcases step.reason with same | known'
          · exact same ▸ known
          · exact known'
        · exact .inl known}
  · intro asked
    rcases Bool.or_eq_true_iff.mp asked with up | pending
    · exact Bool.or_eq_true_iff.mpr (.inl (step.requested up))
    · exact Bool.or_eq_true_iff.mpr (.inr (rest.2.2.trans pending))
  · have lasts : s.flagged = true → next.flagged = true := step.requested
    rw [toExit,toExit,left.1,left'.1,left.2.1,left'.2.1]
    cases up : s.flagged with
    | true =>
        rw [lasts up]
        simp only [if_true,Bool.toNat_true]
        omega
    | false =>
        simp only [Bool.false_eq_true,if_false,Bool.toNat_true]
        split <;> omega
  · rw [left.1,left'.1,Bool.toNat_true]
    omega
  · rw [left.2.2,left'.2.2,Bool.true_and]
    cases sends : s.onBus with
    | true =>
        have two := onBus_left here sends
        rw [if_neg (by omega),if_pos (by omega)]
        exact Nat.le_refl _
    | false =>
        simp only [Bool.toNat_false]
        split <;> split <;> omega

theorem main_advances (placed : Placed s) (taken : s.mainStep inputs = some next) : Advances true s next := by
  cases main_goes taken with
  | walks walks => exact walks_advances placed walks
  | enters here down => exact enters_advances placed here down
  | exits here => exact exits_advances placed here
  | @pumps pumped here moved =>
      have step := IoSystem.pump_step (placed.inside here) moved
      refine pumps_advances placed here step ?_ ⟨rfl,rfl,rfl⟩
      dsimp only
      by_cases spent : pumped.stage = .idle ∧ pumped.io.pumping = false
      · exact .inl ⟨if_pos spent,spent.1⟩
      · exact .inr ⟨if_neg spent,fun idle => spent ⟨idle,step.inside⟩⟩

-- The thread itself stands still while the others act. What they can do to it is
-- to raise the flag, or a signal.
structure Stands (s next : IoThread) : Prop where
  point : next.point = s.point
  stage : next.system.stage = s.system.stage
  pumping : next.system.io.pumping = s.system.io.pumping
  pending : next.system.io.pendingOutput = s.system.io.pendingOutput
  running : next.system.io.running = s.system.io.running
  wake : next.maxFramesPerWake = s.maxFramesPerWake
  requested : s.system.io.stopRequested = true → next.system.io.stopRequested = true
  known : s.system.io.stopReason ≠ .none → next.system.io.stopReason ≠ .none
  asked : s.asked = true → next.asked = true
  reason : (s.system.io.stopRequested = true → s.system.io.stopReason ≠ .none ∨ s.request = .stored) →
    next.system.io.stopRequested = true → next.system.io.stopReason ≠ .none ∨ next.request = .stored

theorem other_stands (other : isMain action = false) (taken : s.step action = some next) : Stands s next := by
  cases action with
  | main inputs => cases other
  | call call =>
      simp only [step] at taken
      split at taken
      · cases taken
      · rename_i moved
        cases taken
        simp only [IoSystem.step] at moved
        split at moved <;> cases moved
        exact ⟨rfl,rfl,rfl,rfl,rfl,rfl,id,id,id,id⟩
  | popEvent | arrive _ => cases taken; exact ⟨rfl,rfl,rfl,rfl,rfl,rfl,id,id,id,id⟩
  | raiseSignal => cases taken; exact ⟨rfl,rfl,rfl,rfl,rfl,rfl,id,id,fun _ => by simp [IoThread.asked],id⟩
  | requestStop =>
      cases taken
      unfold requestStop
      cases point : s.request with
      | idle => exact ⟨rfl,rfl,rfl,rfl,rfl,rfl,fun _ => rfl,id,fun _ => rfl,fun _ _ => .inr rfl⟩
      | stored =>
          have named : (if s.system.io.stopReason = .none then .eventFd else s.system.io.stopReason) ≠ IoStopReason.none := by
            split
            · simp
            · assumption
          exact ⟨rfl,rfl,rfl,rfl,rfl,rfl,id,fun _ => named,id,fun _ _ => .inl named⟩
      | swapped =>
          refine ⟨rfl,rfl,rfl,rfl,rfl,rfl,id,id,id,fun reason up => ?_⟩
          rcases reason up with known | stored
          · exact .inl known
          · rw [point] at stored
            cases stored

theorem placed_stands (placed : Placed s) (stands : Stands s next) : Placed next := by
  refine ⟨?_,?_,?_,?_,?_,?_,?_,stands.reason placed.reason⟩
  · rw [stands.point,stands.stage,stands.pumping]
    exact placed.outside
  · rw [stands.point]
    intro here
    obtain ⟨entered,held⟩ := placed.inside here
    refine ⟨?_,?_⟩
    · rw [stands.stage,stands.pumping]
      exact entered
    · rw [stands.stage,stands.pumping,stands.pending]
      exact held
  · rw [stands.point,stands.wake]
    exact placed.budget
  · rw [stands.point,stands.wake]
    exact placed.reading
  · rw [stands.point,stands.running]
    exact placed.running
  · rw [stands.point,stands.pending]
    exact placed.ended
  · rw [stands.point]
    exact fun here => (placed.leaving here).imp stands.requested stands.known

theorem stands_advances (placed : Placed s) (stands : Stands s next) : Advances false s next := by
  have left : next.system.pumpLeft = s.system.pumpLeft := by
    unfold IoSystem.pumpLeft
    rw [stands.stage,stands.pumping]
  have remaining : next.remaining = s.remaining := by
    unfold IoThread.remaining
    rw [stands.point,left]
  have unseen : next.unseen = s.unseen := by
    unfold IoThread.unseen
    rw [stands.point,left,stands.wake]
  have short := s.remaining_le
  refine ⟨placed_stands placed stands,stands.requested,stands.asked,fun _ => ?_,fun _ => Nat.le_of_eq remaining,fun _ => ?_,stands.wake⟩
  · unfold toExit
    rw [remaining,unseen]
    cases up : s.system.io.stopRequested with
    | true => exact Nat.le_of_eq (by rw [stands.requested up]; rfl)
    | false =>
        simp only [Bool.false_eq_true,if_false,Bool.toNat_false]
        split <;> omega
  · refine Nat.le_of_eq ?_
    unfold busLeft
    rw [stands.point,left]
    rfl

theorem step_advances (placed : Placed s) (taken : s.step action = some next) : Advances (isMain action) s next := by
  cases action with
  | main inputs => exact main_advances placed taken
  | _ => exact stands_advances placed (other_stands rfl taken)

-- The event is written last, so one that waits to be read has the flag before it.
def Signalled (s : IoThread) : Prop := s.stopSignalled = true ∨ s.request ≠ .idle → s.flagged = true

theorem main_signalled {s next : IoThread} (taken : s.step (.main inputs) = some next) :
    (next.stopSignalled = true → s.stopSignalled = true) ∧ next.request = s.request := by
  have taken : s.mainStep inputs = some next := taken
  unfold mainStep at taken
  generalize s.point = point at taken
  cases point with
  | exited => cases taken
  | check | look _ | teardown => cases taken; exact ⟨id,rfl⟩
  | wait | can _ | pumpCheck =>
      dsimp only at taken
      split at taken <;> cases taken <;> exact ⟨id,rfl⟩
  | stopEvent ready =>
      cases taken
      cases ready.stop <;> exact ⟨by simp [handleStopEvent],rfl⟩
  | signal ready =>
      cases taken
      cases ready.signal <;> exact ⟨id,rfl⟩
  | read budget =>
      cases taken
      unfold receive
      split
      · exact ⟨id,rfl⟩
      split
      · exact ⟨id,rfl⟩
      unfold decodeFrame
      split
      · exact ⟨id,rfl⟩
      split <;> exact ⟨id,rfl⟩
  | pump =>
      dsimp only [pumpStep] at taken
      split at taken <;> cases taken
      exact ⟨id,rfl⟩

theorem signalled_preserved (signalled : Signalled s) (advances : Advances (isMain action) s next) (taken : s.step action = some next) :
    Signalled next := by
  intro written
  cases action with
  | main inputs =>
      obtain ⟨event,request⟩ := main_signalled taken
      exact advances.flagged (signalled (written.imp event fun open_ => request ▸ open_))
  | requestStop =>
      cases taken
      cases point : s.request with
      | idle => simp [requestStop,point,IoThread.flagged]
      | stored | swapped =>
          apply advances.flagged
          exact signalled (.inr (by simp [point]))
  | call call =>
      have request : next.stopSignalled = s.stopSignalled ∧ next.request = s.request := by
        simp only [step] at taken
        split at taken <;> cases taken
        exact ⟨rfl,rfl⟩
      rw [request.1,request.2] at written
      exact advances.flagged (signalled written)
  | popEvent | raiseSignal | arrive _ =>
      cases taken
      exact signalled written

def ownSteps (holds : IoThread → Bool) (history : List ThreadMoment) : Nat :=
  history.countP fun m => isMain m.action && holds m.before

structure StopInvariant (history : List ThreadMoment) (s : IoThread) : Prop where
  placed : Placed s
  signalled : Signalled s
  flagged : Counting s.flagged (ownSteps IoThread.flagged history) s.remaining 7
  bus : Counting s.flagged (ownSteps (fun s => s.flagged && s.onBus) history) s.busLeft 1
  asked : Counting s.asked (ownSteps IoThread.asked history) s.toExit (22 + 2 * s.maxFramesPerWake)

theorem busLeft_le (s : IoThread) : s.busLeft ≤ 1 := by
  unfold busLeft
  split
  · exact Nat.le_refl _
  · split <;> omega
  · exact Nat.zero_le _

theorem ownSteps_cons (holds : IoThread → Bool) (m : ThreadMoment) (past : List ThreadMoment) :
    ownSteps holds (m :: past) = ownSteps holds past + (isMain m.action && holds m.before).toNat := by
  unfold ownSteps
  rw [List.countP_cons]
  cases isMain m.action && holds m.before <;> rfl

theorem stop_preserved (invariant : StopInvariant past s) (taken : s.step action = some next) :
    StopInvariant (⟨s,action,next⟩ :: past) next := by
  have advances := step_advances invariant.placed taken
  refine ⟨advances.placed,signalled_preserved invariant.signalled advances taken,?_,?_,?_⟩ <;> rw [ownSteps_cons] <;> dsimp only
  · refine invariant.flagged.step advances.flagged (fun up => ?_) (fun down => by simp [down]) next.remaining_le
    rw [up,Bool.and_true]
    exact advances.remaining up
  · refine invariant.bus.step advances.flagged (fun up => ?_) (fun down => by simp [down]) next.busLeft_le
    rw [up,Bool.true_and]
    exact advances.bus up
  · rw [advances.wake]
    refine invariant.asked.step advances.asked (fun up => ?_) (fun down => by simp [down]) ?_
    · rw [up,Bool.and_true]
      exact advances.toExit up
    · rw [← advances.wake]
      exact toExit_le advances.placed

theorem launched_stop (runtime : LinuxRuntime) (capacity : Nat) (nodeId : UInt8) (maxFramesPerWake : Nat) :
    StopInvariant [] (launched runtime capacity nodeId maxFramesPerWake) := by
  refine ⟨⟨fun _ => ⟨rfl,rfl⟩,nofun,nofun,nofun,⟨fun _ => nofun,fun _ => rfl⟩,nofun,?_,nofun⟩,?_,⟨fun _ => rfl,nofun⟩,⟨fun _ => rfl,nofun⟩,
    ⟨fun _ => rfl,nofun⟩⟩
  · rintro (here | here) <;> cases here
  · rintro (written | requested)
    · cases written
    · exact absurd rfl requested

theorem main_enabled (placed : Placed s) (alive : s.point ≠ .exited) (inputs : ThreadInputs) :
    ∃ next, s.step (.main inputs) = some next := by
  show ∃ next, s.mainStep inputs = some next
  unfold mainStep
  cases here : s.point with
  | exited => exact absurd here alive
  | wait | can _ | pumpCheck =>
      dsimp only
      split <;> exact ⟨_,rfl⟩
  | pump =>
      obtain ⟨system,moved⟩ := IoSystem.pump_enabled (placed.inside here) inputs
      simp only [pumpStep,moved]
      exact ⟨_,rfl⟩
  | _ => exact ⟨_,rfl⟩

-- The thread never hangs, whatever the bus and the other threads do. Once the flag
-- is up it ends within seven of its own steps, one of which may still touch the
-- bus; a signal it has yet to see adds the wake it is in.
structure Stops (history : List ThreadMoment) (s : IoThread) : Prop where
  enabled : s.point ≠ .exited → ∀ inputs, ∃ next, s.step (.main inputs) = some next
  signalled : s.stopSignalled = true → s.flagged = true
  flagged : s.flagged = true → ownSteps IoThread.flagged history + s.remaining ≤ 7
  bus : ownSteps (fun s => s.flagged && s.onBus) history ≤ 1
  asked : s.asked = true → ownSteps IoThread.asked history + s.toExit ≤ 22 + 2 * s.maxFramesPerWake
  exited : s.point = .exited → s.system.io.running = false ∧ s.system.io.pendingOutput = none ∧
    (s.system.io.stopReason ≠ .none ∨ s.request = .stored)

theorem invariant_stops (invariant : StopInvariant history s) : Stops history s := by
  have placed := invariant.placed
  refine ⟨main_enabled placed,fun written => invariant.signalled (.inl written),invariant.flagged.since,invariant.bus.most,invariant.asked.since,?_⟩
  · intro here
    refine ⟨?_,placed.ended here,?_⟩
    · cases running : s.system.io.running with
      | false => rfl
      | true => exact absurd here (placed.running.mp running)
    · rcases placed.leaving (.inr here) with up | known
      · exact placed.reason up
      · exact .inl known

theorem thread_stops (runtime : LinuxRuntime) (capacity : Nat) (nodeId : UInt8) (maxFramesPerWake : Nat)
    (path : Reached step (launched runtime capacity nodeId maxFramesPerWake) history s) : Stops history s :=
  invariant_stops (reached_invariant StopInvariant (launched_stop runtime capacity nodeId maxFramesPerWake)
    (fun _ _ _ _ invariant taken => stop_preserved invariant taken) path)

def stoppedReading : List ThreadAction :=
  [.arrive heartbeatFrame,.arrive heartbeatFrame] ++ List.replicate 6 (.main {}) ++ [.requestStop] ++
    List.replicate 5 (.main {})

theorem stoppedReading_runs : (replay step [] (launched (.construct {}) 4 1 32) stoppedReading).isSome = true := by decide +kernel

theorem thread_stops_reading :
    ∃ history s, Reached step (launched (.construct {}) 4 1 32) history s ∧ s.point = .exited ∧
      ownSteps flagged history = 5 ∧ Stops history s := by
  have path := replayed_reached stoppedReading stoppedReading_runs
  refine ⟨_,_,path,?_,?_,thread_stops _ 4 1 32 path⟩
  · decide +kernel
  · decide +kernel

-- A flood on the bus does not starve the pump.
section Fairness

def waits (m : ThreadMoment) : Bool := isMain m.action && m.before.point == .wait

def reads (m : ThreadMoment) : Bool :=
  isMain m.action && match m.before.point with
    | .read _ => true
    | _ => false

def PumpsAt (m : ThreadMoment) (_ : List ThreadMoment) : Prop :=
  isMain m.action = true ∧ m.before.point = .pumpCheck ∧ m.after.point = .pump

def Served (past : List ThreadMoment) : Prop :=
  Throughout (fun m _ => waits m = false) past ∨ Since (fun m => waits m = false) PumpsAt past

def readsSince : List ThreadMoment → Nat
  | [] => 0
  | m :: past => if waits m then 0 else readsSince past + if reads m then 1 else 0

def readsLeft (wake : Nat) : ThreadPoint → Nat
  | .stopEvent _ | .signal _ | .can _ => wake
  | .look budget | .read budget => budget
  | _ => 0

def readsAtPoint : ThreadPoint → Nat
  | .read _ => 1
  | _ => 0

structure FairInvariant (past : List ThreadMoment) (s : IoThread) : Prop where
  placed : Placed s
  check : s.point = .check → s.flagged = true ∨ Served past
  wait : s.point = .wait → Served past
  pump : s.point = .pump → Since (fun m => waits m = false) PumpsAt past
  budget : readsSince past + readsLeft s.maxFramesPerWake s.point ≤ s.maxFramesPerWake

structure Fair (m : ThreadMoment) (past : List ThreadMoment) : Prop where
  served : waits m = true → Served past
  budget : readsSince (m :: past) ≤ m.after.maxFramesPerWake

theorem served_later (served : Served past) (unwaited : waits m = false) : Served (m :: past) := by
  rcases served with none | since
  · exact .inl ⟨unwaited,none⟩
  · exact .inr (.inr ⟨unwaited,since⟩)

theorem fair_other (invariant : FairInvariant past s) (other : isMain action = false) (taken : s.step action = some next) :
    FairInvariant (⟨s,action,next⟩ :: past) next := by
  have stands := other_stands other taken
  have unwaited : waits ⟨s,action,next⟩ = false := by simp [waits,other]
  have same : readsSince (⟨s,action,next⟩ :: past) = readsSince past := by simp [readsSince,unwaited,reads,other]
  refine ⟨placed_stands invariant.placed stands,?_,?_,?_,?_⟩
  · rw [stands.point]
    intro here
    rcases invariant.check here with up | served
    · exact .inl (stands.requested up)
    · exact .inr (served_later served unwaited)
  · rw [stands.point]
    exact fun here => served_later (invariant.wait here) unwaited
  · rw [stands.point]
    exact fun here => .inr ⟨unwaited,invariant.pump here⟩
  · rw [same,stands.wake,stands.point]
    exact invariant.budget

structure Leads (s next : IoThread) : Prop where
  check : next.point = .check → s.point = .pump ∨ (s.point = .pumpCheck ∧ next.flagged = true)
  wait : next.point = .wait → s.point = .check ∧ s.flagged = false
  pump : next.point = .pump → s.point = .pump ∨ s.point = .pumpCheck
  wake : next.maxFramesPerWake = s.maxFramesPerWake
  budget : s.point ≠ .wait → readsLeft s.maxFramesPerWake next.point + readsAtPoint s.point ≤ readsLeft s.maxFramesPerWake s.point
  woken : s.point = .wait → readsLeft s.maxFramesPerWake next.point ≤ s.maxFramesPerWake

theorem edge_leads (edge : Edge wake pending p up p' up') (reading : ∀ b, p = .read b → 0 < b ∧ b ≤ wake) :
    (p' = .check → p = .pumpCheck ∧ up' = true) ∧ (p' = .wait → p = .check ∧ up = false) ∧
      (p ≠ .wait → readsLeft wake p' + readsAtPoint p ≤ readsLeft wake p) ∧ (p = .wait → readsLeft wake p' ≤ wake) := by
  cases edge with
  | takes =>
      have positive := (reading _ rfl).1
      simp only [readsLeft,readsAtPoint]
      exact ⟨by simp,by simp,fun _ => by omega,by simp⟩
  | empties _ =>
      have positive := (reading _ rfl).1
      simp only [readsLeft,readsAtPoint]
      exact ⟨by simp,by simp,fun _ => by omega,by simp⟩
  | _ => simp [readsLeft,readsAtPoint]

theorem main_leads (placed : Placed s) (taken : s.mainStep inputs = some next) : Leads s next := by
  cases main_goes taken with
  | walks walks =>
      obtain ⟨check,wait,budget,woken⟩ := edge_leads walks.edge placed.reading
      exact ⟨fun here => .inr (check here),wait,fun here => absurd here (edge_apart walks.edge).2.2.1,walks.wake,budget,woken⟩
  | enters here _ => exact ⟨by simp,by simp,fun _ => .inr here,rfl,fun _ => by simp [readsLeft,readsAtPoint,here],by simp [here]⟩
  | exits here => exact ⟨by simp,by simp,by simp,rfl,fun _ => by simp [readsLeft,readsAtPoint,here],by simp [here]⟩
  | @pumps pumped here moved =>
      by_cases spent : pumped.stage = .idle ∧ pumped.io.pumping = false
      · rw [if_pos spent]
        exact ⟨fun _ => .inl here,by simp,by simp,rfl,fun _ => by simp [readsLeft,readsAtPoint,here],by simp [here]⟩
      · rw [if_neg spent]
        exact ⟨by simp,by simp,fun _ => .inl here,rfl,fun _ => by simp [readsLeft,readsAtPoint,here],by simp [here]⟩

theorem fair_main (invariant : FairInvariant past s) (taken : s.mainStep inputs = some next) :
    FairInvariant (⟨s,.main inputs,next⟩ :: past) next := by
  have leads := main_leads invariant.placed taken
  have unwaited (apart : s.point ≠ .wait) : waits ⟨s,.main inputs,next⟩ = false := by simp [waits,apart]
  refine ⟨(main_advances invariant.placed taken).placed,?_,?_,?_,?_⟩
  · intro here
    rcases leads.check here with before | ⟨_,up⟩
    · exact .inr (.inr (.inr ⟨unwaited (by rw [before]; nofun),invariant.pump before⟩))
    · exact .inl up
  · intro here
    obtain ⟨before,down⟩ := leads.wait here
    rcases invariant.check before with up | served
    · cases up.symm.trans down
    · exact served_later served (unwaited (by rw [before]; nofun))
  · intro here
    rcases leads.pump here with before | before
    · exact .inr ⟨unwaited (by rw [before]; nofun),invariant.pump before⟩
    · exact .inl ⟨rfl,before,here⟩
  · rw [leads.wake]
    by_cases before : s.point = .wait
    · have woken := leads.woken before
      simp [readsSince,waits,isMain,before]
      exact woken
    · have budget := leads.budget before
      have bound := invariant.budget
      have counted : readsSince (⟨s,.main inputs,next⟩ :: past) = readsSince past + readsAtPoint s.point := by
        simp only [readsSince,unwaited before,Bool.false_eq_true,if_false,reads,isMain,Bool.true_and]
        cases s.point <;> rfl
      rw [counted]
      omega

theorem fair_preserved (invariant : FairInvariant past s) (taken : s.step action = some next) :
    FairInvariant (⟨s,action,next⟩ :: past) next := by
  cases action with
  | main inputs => exact fair_main invariant taken
  | _ => exact fair_other invariant rfl taken

theorem fair_step (invariant : FairInvariant past s) (taken : s.step action = some next) : Fair ⟨s,action,next⟩ past := by
  refine ⟨?_,Nat.le_trans (Nat.le_add_right _ _) (fair_preserved invariant taken).budget⟩
  intro waiting
  simp only [waits,Bool.and_eq_true,beq_iff_eq] at waiting
  exact invariant.wait waiting.2

theorem launched_fair (runtime : LinuxRuntime) (capacity : Nat) (nodeId : UInt8) (maxFramesPerWake : Nat) :
    FairInvariant [] (launched runtime capacity nodeId maxFramesPerWake) :=
  ⟨(launched_stop runtime capacity nodeId maxFramesPerWake).placed,fun _ => .inr (.inl trivial),nofun,nofun,Nat.zero_le _⟩

theorem pump_served (runtime : LinuxRuntime) (capacity : Nat) (nodeId : UInt8) (maxFramesPerWake : Nat)
    (path : Reached step (launched runtime capacity nodeId maxFramesPerWake) history s) : Throughout Fair history :=
  throughout_invariant FairInvariant (launched_fair runtime capacity nodeId maxFramesPerWake)
    (fun _ _ _ _ invariant taken => fair_preserved invariant taken)
    (fun _ _ _ _ invariant taken => fair_step invariant taken) path

def flooded : List ThreadAction :=
  List.replicate 3 (.arrive heartbeatFrame) ++ List.replicate 14 (.main {})

theorem flooded_runs : (replay step [] (launched (.construct {}) 4 1 2) flooded).isSome = true := by decide +kernel

theorem pump_served_flooded :
    ∃ history s, Reached step (launched (.construct {}) 4 1 2) history s ∧ s.wakeups = 2 ∧ s.incoming.length = 1 ∧
      Throughout Fair history := by
  have path := replayed_reached flooded flooded_runs
  refine ⟨_,_,path,?_,?_,pump_served _ 4 1 2 path⟩
  · decide +kernel
  · decide +kernel

end Fairness

end IoThread

end RobotControlRuntime
