import Mathlib.Tactic.Ring
import RobotControlRuntime.Library.StepHistory
import RobotControlRuntime.WireConversion

-- The periodic worker from its start-up handshake on: absolute boundaries on
-- CLOCK_MONOTONIC, one callback for each, passed boundaries skipped.
namespace RobotControlRuntime
open StepHistory FixedWidth

def eintr : Int := 4
def eio : Int := 5

-- `called` is what the callback has been handed, newest first. The counters are
-- atomics with this thread as their only writer.
structure SchedulerLoop where
  running : Bool := true
  workerError : Int := 0
  nextNs : Int
  sequence : UInt64 := 0
  cycles : UInt64 := 0
  deadlineMisses : UInt64 := 0
  minLatenessNs : Int := 0
  maxLatenessNs : Int := 0
  totalLatenessNs : Int := 0
  called : List SchedulerTick := []
  deriving DecidableEq, Repr

-- What one pass of the loop meets: the stop flag where the pass reads it, each
-- return of clock_nanosleep with the stop flag read after it, the two clock
-- readings and whether the callback throws.
structure SchedulerPass where
  stopBefore : Bool := false
  sleeps : List (Int × Bool) := [(0,false)]
  stopAfter : Bool := false
  actual : Result Int
  throws : Bool := false
  finished : Result Int

-- An interrupted sleep is repeated on the same absolute deadline. `none` is a
-- thread still asleep.
def sleepUntil : List (Int × Bool) → Option Int
  | [] => none
  | (sleepRc,stopRequested) :: rest =>
    if sleepRc = eintr ∧ stopRequested = false then sleepUntil rest else some sleepRc

namespace SchedulerLoop

def enter (periodNs nowNs : Int) : Option SchedulerLoop :=
  (int64 (nowNs + periodNs)).map fun nextNs => {nextNs := nextNs}

def exit (loop : SchedulerLoop) (workerError : Int) : SchedulerLoop :=
  {loop with running := false,workerError := workerError}

-- An atomic sum wraps.
def observe (loop : SchedulerLoop) (latenessNs : Int) : SchedulerLoop :=
  let cycle := loop.cycles + 1
  {loop with
    cycles := cycle
    minLatenessNs :=
      if cycle = 1 then latenessNs
      else if latenessNs < loop.minLatenessNs then latenessNs else loop.minLatenessNs
    maxLatenessNs := if loop.maxLatenessNs < latenessNs then latenessNs else loop.maxLatenessNs
    totalLatenessNs := (loop.totalLatenessNs + latenessNs).bmod (2 ^ 64)}

def callback (loop : SchedulerLoop) (actualNs latenessNs : Int) : SchedulerLoop :=
  {loop with
    sequence := loop.sequence + 1
    called := ⟨loop.sequence + 1,loop.nextNs,actualNs,latenessNs⟩ :: loop.called}

def lateness (loop : SchedulerLoop) (actualNs : Int) : Option Int :=
  if loop.nextNs < actualNs then int64 (actualNs - loop.nextNs) else some 0

def wake (loop : SchedulerLoop) (actualNs : Int) : Option SchedulerLoop :=
  (loop.lateness actualNs).map fun latenessNs => (loop.observe latenessNs).callback actualNs latenessNs

def missed (periodNs : Int) (loop : SchedulerLoop) (finishedNs : Int) : Option UInt64 := do
  let following ← int64 (loop.nextNs + periodNs)
  if following ≤ finishedNs then
    let elapsed ← int64 (finishedNs - loop.nextNs)
    return UInt64.ofNat (elapsed.tdiv periodNs).toNat
  else return 0

-- A count of boundaries that int64 cannot hold is an overflow like the others.
def advance (periodNs : Int) (loop : SchedulerLoop) (finishedNs : Int) : Option SchedulerLoop := do
  let missed ← loop.missed periodNs finishedNs
  let boundaries ← int64 (missed + 1).toNat
  let span ← int64 (boundaries * periodNs)
  let nextNs ← int64 (loop.nextNs + span)
  return {loop with deadlineMisses := loop.deadlineMisses + missed,nextNs := nextNs}

def work (periodNs : Int) (loop : SchedulerLoop) (met : SchedulerPass) : Option SchedulerLoop :=
  match met.actual with
  | .error _ => some (loop.exit eio)
  | .ok actualNs =>
    match loop.wake actualNs with
    | none => none
    | some woken =>
      if met.throws then some (woken.exit ecanceled)
      else
        match met.finished with
        | .error _ => some (woken.exit eio)
        | .ok finishedNs => woken.advance periodNs finishedNs

def pass (periodNs : Int) (loop : SchedulerLoop) (met : SchedulerPass) : Option SchedulerLoop :=
  if loop.running = false then none
  else if met.stopBefore then some (loop.exit loop.workerError)
  else
    match sleepUntil met.sleeps with
    | none => none
    | some sleepRc =>
      if met.stopAfter then some (loop.exit loop.workerError)
      else if sleepRc ≠ 0 then some (loop.exit sleepRc)
      else loop.work periodNs met

end SchedulerLoop

namespace SchedulerPass

def sampled (met : SchedulerPass) : List Int :=
  match met.actual with
  | .error _ => []
  | .ok actualNs =>
    match met.throws,met.finished with
    | false,.ok finishedNs => [actualNs,finishedNs]
    | _,_ => [actualNs]

def readings (met : SchedulerPass) : List Int :=
  if met.stopBefore ∨ met.stopAfter ∨ sleepUntil met.sleeps ≠ some 0 then [] else met.sampled

end SchedulerPass

-- What a pass can do with the readings it gets: end before its callback, end
-- after it, or go round.
inductive Passed (periodNs : Int) (loop : SchedulerLoop) : List Int → SchedulerLoop → Prop where
  | ended : Passed periodNs loop [] (loop.exit workerError)
  | cut : Passed periodNs loop [actualNs] (((loop.observe latenessNs).callback actualNs latenessNs).exit workerError)
  | round : ((loop.observe latenessNs).callback actualNs latenessNs).advance periodNs finishedNs = some next →
      Passed periodNs loop [actualNs,finishedNs] next

section Boundaries
variable {periodNs startNs : Int} {loop next : SchedulerLoop} {met : SchedulerPass}

theorem wake_some {actualNs : Int} (woke : loop.wake actualNs = some next) :
    ∃ latenessNs, next = (loop.observe latenessNs).callback actualNs latenessNs := by
  obtain ⟨latenessNs,_,rfl⟩ := Option.map_eq_some_iff.mp woke
  exact ⟨latenessNs,rfl⟩

theorem work_passed (taken : loop.work periodNs met = some next) : Passed periodNs loop met.sampled next := by
  unfold SchedulerLoop.work at taken
  unfold SchedulerPass.sampled
  cases sampled : met.actual with
  | error error =>
      simp only [sampled] at taken
      cases taken
      exact .ended
  | ok actualNs =>
      simp only [sampled] at taken
      cases woke : loop.wake actualNs with
      | none => simp only [woke] at taken; cases taken
      | some woken =>
          simp only [woke] at taken
          obtain ⟨latenessNs,rfl⟩ := wake_some woke
          cases threw : met.throws with
          | true =>
              rw [if_pos threw] at taken
              cases taken
              exact .cut
          | false =>
              rw [if_neg (by simp [threw])] at taken
              cases done : met.finished with
              | error error =>
                  simp only [done] at taken
                  cases taken
                  exact .cut
              | ok finishedNs =>
                  simp only [done] at taken
                  exact .round taken

theorem pass_passed (taken : loop.pass periodNs met = some next) :
    loop.running = true ∧ Passed periodNs loop met.readings next := by
  unfold SchedulerLoop.pass at taken
  by_cases stopped : loop.running = false
  · rw [if_pos stopped] at taken
    cases taken
  rw [if_neg stopped] at taken
  refine ⟨by simpa using stopped,?_⟩
  unfold SchedulerPass.readings
  by_cases before : met.stopBefore = true
  · rw [if_pos before] at taken
    cases taken
    rw [if_pos (.inl before)]
    exact .ended
  rw [if_neg before] at taken
  cases slept : sleepUntil met.sleeps with
  | none => simp only [slept] at taken; cases taken
  | some sleepRc =>
      simp only [slept] at taken
      by_cases after : met.stopAfter = true
      · rw [if_pos after] at taken
        cases taken
        rw [if_pos (.inr (.inl after))]
        exact .ended
      rw [if_neg after] at taken
      by_cases failed : sleepRc ≠ 0
      · rw [if_pos failed] at taken
        cases taken
        rw [if_pos (.inr (.inr (by simpa using failed)))]
        exact .ended
      rw [if_neg failed] at taken
      rw [if_neg (by simp [before,after,not_not.mp failed])]
      exact work_passed taken

-- The boundaries passed are the whole periods since the planned one, whether the
-- division was made or not.
theorem missed_some {finishedNs : Int} {missed : UInt64} (positive : 0 < periodNs) (woken : loop.nextNs ≤ finishedNs)
    (counted : loop.missed periodNs finishedNs = some missed) :
    (missed.toNat : Int) = (finishedNs - loop.nextNs) / periodNs ∧ missed.toNat < 2 ^ 63 := by
  obtain ⟨following,bounded,counted⟩ := Option.bind_eq_some_iff.mp counted
  obtain ⟨rfl,_⟩ := checked_some bounded
  by_cases crossed : loop.nextNs + periodNs ≤ finishedNs
  · rw [if_pos crossed] at counted
    obtain ⟨elapsed,measured,counted⟩ := Option.bind_eq_some_iff.mp counted
    obtain ⟨rfl,_,small⟩ := checked_some measured
    cases counted
    have nonneg : 0 ≤ (finishedNs - loop.nextNs) / periodNs := Int.ediv_nonneg (by omega) (by omega)
    have least : (finishedNs - loop.nextNs) / periodNs ≤ finishedNs - loop.nextNs := Int.ediv_le_self _ (by omega)
    rw [Int.tdiv_eq_ediv_of_nonneg (by omega)]
    generalize (finishedNs - loop.nextNs) / periodNs = periods at nonneg least ⊢
    rw [UInt64.toNat_ofNat_of_lt' (by simp only [UInt64.size]; omega)]
    omega
  · rw [if_neg crossed] at counted
    cases counted
    rw [Int.ediv_eq_zero_of_lt (by omega) (by omega)]
    exact ⟨rfl,by decide⟩

theorem advance_some {finishedNs : Int} (positive : 0 < periodNs) (woken : loop.nextNs ≤ finishedNs)
    (taken : loop.advance periodNs finishedNs = some next) :
    ∃ missed : UInt64,
      next = {loop with
        deadlineMisses := loop.deadlineMisses + missed
        nextNs := loop.nextNs + (missed.toNat + 1) * periodNs} ∧
      Fits (2 ^ 63) next.nextNs ∧ finishedNs < next.nextNs ∧ next.nextNs ≤ finishedNs + periodNs := by
  simp only [SchedulerLoop.advance,Option.bind_eq_bind,Option.bind_eq_some_iff,Option.pure_def] at taken
  obtain ⟨missed,counted,boundaries,countable,span,spanned,nextNs,planned,taken⟩ := taken
  obtain ⟨floor,small⟩ := missed_some positive woken counted
  obtain ⟨rfl,_⟩ := checked_some countable
  obtain ⟨rfl,_⟩ := checked_some spanned
  obtain ⟨rfl,room⟩ := checked_some planned
  cases taken
  have whole : (missed + 1).toNat = missed.toNat + 1 := by
    rw [UInt64.toNat_add,UInt64.toNat_one]
    omega
  have crossed : (finishedNs - loop.nextNs) / periodNs * periodNs ≤ finishedNs - loop.nextNs :=
    Int.ediv_mul_le _ (by omega)
  have short : finishedNs - loop.nextNs < ((finishedNs - loop.nextNs) / periodNs + 1) * periodNs :=
    Int.lt_ediv_add_one_mul_self _ positive
  rw [← floor] at crossed short
  rw [whole] at room ⊢
  push_cast at room ⊢
  refine ⟨missed,rfl,room,by omega,?_⟩
  rw [add_mul,one_mul]
  omega

theorem advance_called {finishedNs : Int} (taken : loop.advance periodNs finishedNs = some next) :
    next.called = loop.called := by
  simp only [SchedulerLoop.advance,Option.bind_eq_bind,Option.bind_eq_some_iff,Option.pure_def] at taken
  obtain ⟨_,_,_,_,_,_,_,_,taken⟩ := taken
  cases taken
  rfl

-- A boundary inside int64 is reached after fewer than 2^64 periods, so neither
-- counter wraps.
theorem boundary_countable {count : Nat} (positive : 0 < periodNs) (start : Fits (2 ^ 63) startNs)
    (room : Fits (2 ^ 63) (startNs + count * periodNs)) : count < 2 ^ 64 := by
  have least : (count : Int) * 1 ≤ count * periodNs := Int.mul_le_mul_of_nonneg_left (by omega) (by omega)
  have low : -(2 ^ 63 : Nat) ≤ startNs := start.1
  have high : startNs + count * periodNs < (2 ^ 63 : Nat) := room.2
  omega

-- Between two passes: the callbacks made and the boundaries missed say which
-- boundary is next.
structure OnGrid (periodNs startNs : Int) (loop : SchedulerLoop) : Prop where
  numbered : loop.sequence.toNat = loop.called.length
  planned : loop.nextNs = startNs + ((loop.called.length + 1 + loop.deadlineMisses.toNat : Nat) : Int) * periodNs
  room : Fits (2 ^ 63) loop.nextNs
  behind : ∀ tick ∈ loop.called, tick.scheduledNs < loop.nextNs

theorem enter_onGrid (entered : SchedulerLoop.enter periodNs startNs = some loop) : OnGrid periodNs startNs loop := by
  obtain ⟨nextNs,planned,rfl⟩ := Option.map_eq_some_iff.mp entered
  obtain ⟨rfl,room⟩ := checked_some planned
  exact ⟨rfl,by simp,room,by simp⟩

def Timed (m : Moment SchedulerLoop SchedulerPass) : Prop :=
  ∀ actualNs finishedNs, m.action.readings = [actualNs,finishedNs] → m.before.nextNs ≤ finishedNs

structure NoDrift (periodNs startNs : Int) (m : Moment SchedulerLoop SchedulerPass) : Prop where
  handed : m.after.called = m.before.called ∨ ∃ tick, m.after.called = tick :: m.before.called ∧
    tick.sequence.toNat = m.before.called.length + 1 ∧
    tick.scheduledNs = startNs + ((tick.sequence.toNat + m.before.deadlineMisses.toNat : Nat) : Int) * periodNs
  ahead : ∀ actualNs finishedNs, m.action.readings = [actualNs,finishedNs] →
    finishedNs < m.after.nextNs ∧ m.after.nextNs ≤ finishedNs + periodNs

variable (positive : 0 < periodNs) (start : Fits (2 ^ 63) startNs)
include positive start

theorem OnGrid.sequence_next (grid : OnGrid periodNs startNs loop) :
    (loop.sequence + 1).toNat = loop.called.length + 1 := by
  have countable := boundary_countable positive start (grid.planned ▸ grid.room)
  rw [UInt64.toNat_add,UInt64.toNat_one,grid.numbered]
  omega

theorem advance_onGrid {latenessNs actualNs finishedNs : Int} (grid : OnGrid periodNs startNs loop)
    (timed : loop.nextNs ≤ finishedNs)
    (taken : ((loop.observe latenessNs).callback actualNs latenessNs).advance periodNs finishedNs = some next) :
    OnGrid periodNs startNs next ∧ finishedNs < next.nextNs ∧ next.nextNs ≤ finishedNs + periodNs := by
  have woken : ((loop.observe latenessNs).callback actualNs latenessNs).nextNs ≤ finishedNs := timed
  obtain ⟨missed,rfl,room,after,within⟩ := advance_some positive woken taken
  have sequenced := grid.sequence_next positive start
  refine ⟨⟨sequenced,?_,room,?_⟩,after,within⟩
  · have total : loop.nextNs + (missed.toNat + 1) * periodNs =
        startNs + ((loop.called.length + 1 + 1 + (loop.deadlineMisses.toNat + missed.toNat) : Nat) : Int) * periodNs := by
      rw [grid.planned]
      push_cast
      ring
    have countable := boundary_countable positive start (total ▸ room)
    have misses : (loop.deadlineMisses + missed).toNat = loop.deadlineMisses.toNat + missed.toNat := by
      rw [UInt64.toNat_add]
      omega
    change _ = startNs + ((_ + 1 + (loop.deadlineMisses + missed).toNat : Nat) : Int) * periodNs
    rw [misses]
    exact total
  · intro tick present
    have later : loop.nextNs < loop.nextNs + (missed.toNat + 1) * periodNs := lt_of_le_of_lt timed after
    rcases List.mem_cons.mp present with rfl | prior
    · exact later
    · exact lt_trans (grid.behind tick prior) later

theorem called_noDrift {latenessNs actualNs : Int} (grid : OnGrid periodNs startNs loop)
    (called : next.called = ((loop.observe latenessNs).callback actualNs latenessNs).called)
    (ahead : ∀ actualNs finishedNs, met.readings = [actualNs,finishedNs] →
      finishedNs < next.nextNs ∧ next.nextNs ≤ finishedNs + periodNs) : NoDrift periodNs startNs ⟨loop,met,next⟩ := by
  have sequenced := grid.sequence_next positive start
  refine ⟨.inr ⟨_,called,sequenced,?_⟩,ahead⟩
  change loop.nextNs = startNs + (((loop.sequence + 1).toNat + loop.deadlineMisses.toNat : Nat) : Int) * periodNs
  rw [sequenced]
  exact grid.planned

structure Paced (periodNs startNs : Int) (loop : SchedulerLoop) : Prop where
  increasing : (loop.called.map (·.scheduledNs)).Pairwise (· > ·)
  multiples : ∀ tick ∈ loop.called, ∃ k : Nat, tick.scheduledNs = startNs + k * periodNs
  grid : loop.running = true → OnGrid periodNs startNs loop

omit positive start in
theorem Paced.handed {latenessNs actualNs : Int} (paced : Paced periodNs startNs loop)
    (grid : OnGrid periodNs startNs loop)
    (called : next.called = ((loop.observe latenessNs).callback actualNs latenessNs).called)
    (after : next.running = true → OnGrid periodNs startNs next) : Paced periodNs startNs next := by
  refine ⟨?_,?_,after⟩
  · rw [called]
    refine List.pairwise_cons.mpr ⟨?_,paced.increasing⟩
    intro boundary present
    obtain ⟨tick,prior,rfl⟩ := List.mem_map.mp present
    exact grid.behind tick prior
  · rw [called]
    intro tick present
    rcases List.mem_cons.mp present with rfl | prior
    · exact ⟨_,grid.planned⟩
    · exact paced.multiples tick prior

theorem pass_paced (paced : Paced periodNs startNs loop) (taken : loop.pass periodNs met = some next)
    (timed : Timed ⟨loop,met,next⟩) : Paced periodNs startNs next ∧ NoDrift periodNs startNs ⟨loop,met,next⟩ := by
  obtain ⟨running,passed⟩ := pass_passed taken
  have grid := paced.grid running
  unfold Timed at timed
  generalize same : met.readings = readings at passed
  cases passed with
  | ended =>
      refine ⟨⟨paced.increasing,paced.multiples,fun still => ?_⟩,.inl rfl,fun _ _ two => ?_⟩
      · cases still
      · cases same.symm.trans two
  | cut =>
      refine ⟨paced.handed grid rfl fun still => ?_,called_noDrift positive start grid rfl fun _ _ two => ?_⟩
      · cases still
      · cases same.symm.trans two
  | @round _ actualNs finishedNs _ taken =>
      obtain ⟨moved,ahead⟩ := advance_onGrid positive start grid (timed actualNs finishedNs same) taken
      have called := advance_called taken
      refine ⟨paced.handed grid called fun _ => moved,called_noDrift positive start grid called ?_⟩
      intro actual finished two
      cases same.symm.trans two
      exact ahead

end Boundaries

section Clock
variable {periodNs startNs : Int}

def clockReadings (startNs : Int) (history : List (Moment SchedulerLoop SchedulerPass)) : List Int :=
  history.flatMap (fun m => m.action.readings.reverse) ++ [startNs]

-- The sleep is on an absolute deadline of the same clock.
def WokenInTime (m : Moment SchedulerLoop SchedulerPass) : Prop :=
  ∀ actualNs ∈ m.action.readings.head?, m.before.nextNs ≤ actualNs

instance (m : Moment SchedulerLoop SchedulerPass) : Decidable (WokenInTime m) :=
  inferInstanceAs (Decidable (∀ actualNs ∈ m.action.readings.head?, m.before.nextNs ≤ actualNs))

theorem steady_timed (history : List (Moment SchedulerLoop SchedulerPass))
    (steady : (clockReadings startNs history).Pairwise (· ≥ ·)) (woken : Throughout (fun m _ => WokenInTime m) history) :
    Throughout (fun m _ => Timed m) history := by
  induction history with
  | nil => trivial
  | cons m past ih =>
      have split : clockReadings startNs (m :: past) = m.action.readings.reverse ++ clockReadings startNs past := by
        simp [clockReadings]
      rw [split,List.pairwise_append] at steady
      refine ⟨?_,ih steady.2.1 woken.2⟩
      intro actualNs finishedNs two
      have ordered := steady.1
      have early := woken.1
      simp only [WokenInTime,two] at ordered early
      have before := early actualNs rfl
      have after : actualNs ≤ finishedNs := by simpa using ordered
      omega

theorem scheduler_never_drifts (periodNs startNs : Int) (positive : 0 < periodNs) (start : Fits (2 ^ 63) startNs)
    (entered : SchedulerLoop.enter periodNs startNs = some first)
    (path : Reached (SchedulerLoop.pass periodNs) first history loop)
    (steady : (clockReadings startNs history).Pairwise (· ≥ ·))
    (woken : Throughout (fun m _ => WokenInTime m) history) :
    (loop.called.map (·.scheduledNs)).Pairwise (· > ·) ∧
    (∀ tick ∈ loop.called, ∃ k : Nat, tick.scheduledNs = startNs + k * periodNs) ∧
    Throughout (fun m _ => NoDrift periodNs startNs m) history := by
  have timed := steady_timed history steady woken
  have initial : Paced periodNs startNs first := by
    have grid := enter_onGrid entered
    obtain ⟨_,_,rfl⟩ := Option.map_eq_some_iff.mp entered
    exact ⟨.nil,by simp,fun _ => grid⟩
  have paced := reached_under (fun _ loop => Paced periodNs startNs loop) initial
    (fun _ _ _ _ before taken met => (pass_paced positive start before taken met).1) path timed
  refine ⟨paced.increasing,paced.multiples,?_⟩
  exact throughout_under (fun _ loop => Paced periodNs startNs loop) initial
    (fun _ _ _ _ before taken met => (pass_paced positive start before taken met).1)
    (fun _ _ _ _ before taken met => (pass_paced positive start before taken met).2) path timed

def overrun : List SchedulerPass :=
  [{sleeps := [(eintr,false),(0,false)],actual := .ok 16,finished := .ok 18},
   {actual := .ok 25,finished := .ok 61},
   {actual := .ok 65,finished := .ok 66},
   {stopAfter := true,actual := .ok 75,finished := .ok 75}]

theorem overrun_skipped :
    ∃ first history loop, SchedulerLoop.enter 10 5 = some first ∧
      replay (SchedulerLoop.pass 10) [] first overrun = some (history,loop) ∧
      loop.called.map (·.scheduledNs) = [65,25,15] ∧ loop.deadlineMisses = 3 ∧
      Throughout (fun m _ => NoDrift 10 5 m) history :=
  ⟨_,_,_,rfl,rfl,rfl,rfl,(scheduler_never_drifts 10 5 (by decide) (by decide) rfl
    (replay_reached overrun .start rfl) (by decide) (by decide)).2.2⟩

end Clock

end RobotControlRuntime
