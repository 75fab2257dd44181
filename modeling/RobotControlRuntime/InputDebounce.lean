import Mathlib.Data.List.SplitBy
import RobotControlRuntime.FirmwareLockstep

namespace RobotControlRuntime.Firmware

def inputDebounceMs : UInt32 := 20

inductive TargetSensorPolarity where
  | unset | activeHigh | activeLow
  deriving DecidableEq, Repr

-- An unmeasured polarity reads no level as reached.
def targetSensorActive (rawHigh : Bool) : TargetSensorPolarity → Bool
  | .activeHigh => rawHigh
  | .activeLow => !rawHigh
  | .unset => false

def inputBitsFromReached (reached : Bool) : UInt16 := if reached then 1 else 0

structure InputDebounce where
  armed : Bool := false
  candidateReached : Bool := false
  stableReached : Bool := false
  candidateSinceMs : UInt32 := 0
  deriving DecidableEq, Repr

namespace InputDebounce

def init : InputDebounce := {}

def update (state : InputDebounce) (reached : Bool) (nowMs debounceMs : UInt32) : InputDebounce × Bool :=
  if !state.armed || reached != state.candidateReached then
    -- A first sample or a change times a new candidate; the committed value stays.
    ({state with armed := true,candidateReached := reached,candidateSinceMs := nowMs},state.stableReached)
  else if debounceMs.toInt32 ≤ (nowMs - state.candidateSinceMs).toInt32 then
    ({state with stableReached := state.candidateReached},state.candidateReached)
  else (state,state.stableReached)

end InputDebounce

structure Sample where
  reached : Bool
  time : Nat
  deriving DecidableEq, Repr

def InputDebounce.sample (debounceMs : UInt32) (state : InputDebounce) (s : Sample) : InputDebounce × Bool :=
  state.update s.reached (clockMs s.time) debounceMs

def InputDebounce.after (debounceMs : UInt32) (samples : List Sample) : InputDebounce :=
  samples.foldl (fun state s => (state.sample debounceMs s).1) .init

def InputDebounce.returned (debounceMs : UInt32) (state : InputDebounce) : List Sample → List Bool
  | [] => []
  | s :: rest => (state.sample debounceMs s).2 :: returned debounceMs (state.sample debounceMs s).1 rest

-- What the filter is for, on true times: the value of the latest run of equal
-- samples that lasted, or false.
section Specification

def runs (samples : List Sample) : List (List Sample) := samples.splitBy fun one two => one.reached == two.reached

def Lasted (debounce : Nat) (run : List Sample) : Prop :=
  ∃ first ∈ run.head?, ∃ s ∈ run, first.time + debounce ≤ s.time

instance (debounce : Nat) (run : List Sample) : Decidable (Lasted debounce run) :=
  inferInstanceAs (Decidable (∃ first ∈ run.head?, ∃ s ∈ run, first.time + debounce ≤ s.time))

def debounced (debounce : Nat) (samples : List Sample) : Bool :=
  match ((runs samples).filter (Lasted debounce)).getLast? with
  | some (first :: _) => first.reached
  | _ => false

variable {debounce : Nat} {past run : List Sample} {first s : Sample}

structure Current (past : List Sample) (first : Sample) (run : List Sample) : Prop where
  equal : ∀ s ∈ first :: run, s.reached = first.reached
  change : ∀ s ∈ past.getLast?, s.reached ≠ first.reached

theorem runs_current (current : Current past first run) :
    runs (past ++ first :: run) = runs past ++ [first :: run] := by
  have chain : (first :: run).IsChain fun one two => (one.reached == two.reached) = true := by
    refine List.Pairwise.isChain (List.pairwise_of_forall_mem_list fun one left two right => ?_)
    rw [current.equal one left,current.equal two right]
    exact beq_self_eq_true _
  rw [runs,List.splitBy_append_cons run (fun s last => by simpa using current.change s last),
    List.splitBy_of_isChain (List.cons_ne_nil first run) chain]
  rfl

theorem debounced_current (current : Current past first run) :
    debounced debounce (past ++ first :: run) =
      if Lasted debounce (first :: run) then first.reached else debounced debounce past := by
  unfold debounced
  rw [runs_current current,List.filter_append]
  by_cases lasted : Lasted debounce (first :: run)
  · simp [lasted]
  · simp [lasted]

theorem lasted_append : Lasted debounce (first :: (run ++ [s])) ↔
    Lasted debounce (first :: run) ∨ first.time + debounce ≤ s.time := by
  simp [Lasted,or_assoc]

theorem first_not_lasted (least : 1 ≤ debounce) : ¬Lasted debounce [first] := by
  simp only [Lasted,List.head?_cons,Option.mem_def,Option.some.injEq,exists_eq_left',List.mem_singleton,exists_eq_left]
  omega

theorem Current.append (current : Current past first run) (same : s.reached = first.reached) :
    Current past first (run ++ [s]) := by
  refine ⟨?_,current.change⟩
  intro other present
  rcases List.mem_append.mp (show other ∈ (first :: run) ++ [s] from present) with earlier | last
  · exact current.equal other earlier
  · rw [List.mem_singleton.mp last]
    exact same

theorem Current.changed (current : Current past first run) (different : s.reached ≠ first.reached) :
    Current (past ++ first :: run) s [] := by
  refine ⟨by simp,?_⟩
  intro last present
  have member : last ∈ first :: run := by
    rw [List.getLast?_append_of_ne_nil _ (List.cons_ne_nil first run)] at present
    exact List.mem_of_getLast? present
  rw [current.equal last member]
  exact different.symm

end Specification

section Exactness
variable {debounceMs : UInt32} {state : InputDebounce} {past run samples : List Sample} {first s : Sample}

-- Times never go back and no two samples are as far apart as the signed
-- difference less the window.
def Spaced (debounce : Nat) (one two : Sample) : Prop := one.time ≤ two.time ∧ two.time - one.time < 2 ^ 31 - debounce

instance (debounce : Nat) (one two : Sample) : Decidable (Spaced debounce one two) := inferInstanceAs (Decidable (_ ∧ _))

structure Tracks (debounceMs : UInt32) (state : InputDebounce) (past : List Sample) (first : Sample)
    (run : List Sample) : Prop where
  current : Current past first run
  later : ∀ s ∈ first :: run, first.time ≤ s.time
  armed : state.armed = true
  candidate : state.candidateReached = first.reached
  since : state.candidateSinceMs = clockMs first.time
  stable : state.stableReached = debounced debounceMs.toNat (past ++ first :: run)

theorem window_toInt (most : debounceMs.toNat ≤ 2 ^ 31 - 1) : debounceMs.toInt32.toInt = debounceMs.toNat := by
  have small : 2 * debounceMs.toBitVec.toNat < 2 ^ 32 := by
    rw [UInt32.toNat_toBitVec]
    omega
  exact BitVec.toInt_eq_toNat_of_lt small

theorem window_exact (most : debounceMs.toNat ≤ 2 ^ 31 - 1) (tracks : Tracks debounceMs state past first run)
    (short : ¬Lasted debounceMs.toNat (first :: run))
    (spaced : ∀ last ∈ (first :: run).getLast?, Spaced debounceMs.toNat last s) :
    debounceMs.toInt32 ≤ (clockMs s.time - state.candidateSinceMs).toInt32 ↔ first.time + debounceMs.toNat ≤ s.time := by
  obtain ⟨last,ends⟩ : ∃ last, (first :: run).getLast? = some last := ⟨_,List.getLast?_cons⟩
  have member : last ∈ first :: run := List.mem_of_getLast? ends
  obtain ⟨forward,gap⟩ := spaced last ends
  have later := tracks.later last member
  have below : last.time < first.time + debounceMs.toNat := by
    by_contra reached
    exact short ⟨first,rfl,last,member,by omega⟩
  rw [tracks.since,Int32.le_iff_toInt_le,window_toInt most,distance_exact s.time first.time (by omega) (by omega)]
  omega

theorem Tracks.later_append (tracks : Tracks debounceMs state past first run)
    (spaced : ∀ last ∈ (first :: run).getLast?, Spaced debounceMs.toNat last s) :
    ∀ other ∈ first :: (run ++ [s]), first.time ≤ other.time := by
  intro other present
  rcases List.mem_append.mp (show other ∈ (first :: run) ++ [s] from present) with earlier | final
  · exact tracks.later other earlier
  · obtain ⟨last,ends⟩ : ∃ last, (first :: run).getLast? = some last := ⟨_,List.getLast?_cons⟩
    rw [List.mem_singleton.mp final]
    exact le_trans (tracks.later last (List.mem_of_getLast? ends)) (spaced last ends).1

theorem sample_same (most : debounceMs.toNat ≤ 2 ^ 31 - 1) (tracks : Tracks debounceMs state past first run)
    (spaced : ∀ last ∈ (first :: run).getLast?, Spaced debounceMs.toNat last s) (same : s.reached = first.reached) :
    Tracks debounceMs (state.sample debounceMs s).1 past first (run ++ [s]) ∧
      (state.sample debounceMs s).2 = (state.sample debounceMs s).1.stableReached := by
  have current := tracks.current.append same
  have later := tracks.later_append spaced
  have kept : ¬(!state.armed || s.reached != state.candidateReached) = true := by
    simp [tracks.armed,tracks.candidate,same]
  have stable := tracks.stable
  rw [debounced_current tracks.current] at stable
  by_cases window : debounceMs.toInt32 ≤ (clockMs s.time - state.candidateSinceMs).toInt32
  · have stepped : state.sample debounceMs s =
        ({state with stableReached := state.candidateReached},state.candidateReached) := by
      rw [InputDebounce.sample,InputDebounce.update,if_neg kept,if_pos window]
    rw [stepped]
    refine ⟨⟨current,later,tracks.armed,tracks.candidate,tracks.since,?_⟩,rfl⟩
    have lasted : Lasted debounceMs.toNat (first :: (run ++ [s])) := by
      rw [lasted_append,or_iff_not_imp_left]
      intro short
      exact (window_exact most tracks short spaced).mp window
    rw [debounced_current current,if_pos lasted]
    exact tracks.candidate
  · have stepped : state.sample debounceMs s = (state,state.stableReached) := by
      rw [InputDebounce.sample,InputDebounce.update,if_neg kept,if_neg window]
    rw [stepped]
    refine ⟨⟨current,later,tracks.armed,tracks.candidate,tracks.since,?_⟩,rfl⟩
    rw [stable,debounced_current current]
    by_cases lasted : Lasted debounceMs.toNat (first :: run)
    · rw [if_pos lasted,if_pos (lasted_append.mpr (.inl lasted))]
    · have early : ¬first.time + debounceMs.toNat ≤ s.time := fun reached =>
        window ((window_exact most tracks lasted spaced).mpr reached)
      rw [if_neg lasted,if_neg fun either => (lasted_append.mp either).elim lasted early]

theorem sample_fresh (least : 1 ≤ debounceMs.toNat) (current : Current past s [])
    (stable : state.stableReached = debounced debounceMs.toNat past)
    (fresh : (!state.armed || s.reached != state.candidateReached) = true) :
    Tracks debounceMs (state.sample debounceMs s).1 past s [] ∧
      (state.sample debounceMs s).2 = (state.sample debounceMs s).1.stableReached := by
  rw [InputDebounce.sample,InputDebounce.update,if_pos fresh]
  refine ⟨⟨current,by simp,rfl,rfl,rfl,?_⟩,rfl⟩
  rw [debounced_current current,if_neg (first_not_lasted least)]
  exact stable

theorem after_append : InputDebounce.after debounceMs (samples ++ [s]) =
    ((InputDebounce.after debounceMs samples).sample debounceMs s).1 := by
  simp [InputDebounce.after]

theorem after_tracks (least : 1 ≤ debounceMs.toNat) (most : debounceMs.toNat ≤ 2 ^ 31 - 1)
    (spaced : (samples ++ [s]).IsChain (Spaced debounceMs.toNat)) :
    (∃ past first run, samples ++ [s] = past ++ first :: run ∧
      Tracks debounceMs (InputDebounce.after debounceMs (samples ++ [s])) past first run) ∧
    ((InputDebounce.after debounceMs samples).sample debounceMs s).2 =
      (InputDebounce.after debounceMs (samples ++ [s])).stableReached := by
  induction samples using List.reverseRecOn generalizing s with
  | nil =>
      have alone : Current [] s [] := ⟨by simp,by simp⟩
      have unset : InputDebounce.init.stableReached = debounced debounceMs.toNat [] := rfl
      obtain ⟨tracks,returned⟩ := sample_fresh least alone unset rfl
      exact ⟨⟨[],s,[],rfl,tracks⟩,returned⟩
  | append_singleton samples last ih =>
      obtain ⟨earlier,_,between⟩ := List.isChain_append.mp spaced
      obtain ⟨⟨past,first,run,split,tracks⟩,_⟩ := ih earlier
      have near : ∀ last ∈ (first :: run).getLast?, Spaced debounceMs.toNat last s := by
        intro other ends
        refine between other ?_ s rfl
        rw [split,List.getLast?_append_of_ne_nil _ (List.cons_ne_nil first run)]
        exact ends
      rw [after_append]
      by_cases same : s.reached = first.reached
      · obtain ⟨next,returned⟩ := sample_same most tracks near same
        refine ⟨⟨past,first,run ++ [s],?_,next⟩,returned⟩
        rw [split,List.append_assoc]
        rfl
      · obtain ⟨next,returned⟩ := sample_fresh least (tracks.current.changed same) tracks.stable
          (by simp [tracks.candidate,same])
        refine ⟨⟨past ++ first :: run,s,[],?_,next⟩,returned⟩
        rw [split]

theorem returned_append (state : InputDebounce) : state.returned debounceMs (samples ++ [s]) =
    state.returned debounceMs samples ++
      [((samples.foldl (fun state s => (state.sample debounceMs s).1) state).sample debounceMs s).2] := by
  induction samples generalizing state with
  | nil => rfl
  | cons one rest ih =>
      simp only [List.cons_append,InputDebounce.returned,List.foldl_cons]
      rw [ih]

theorem debounce_exact_across_wrap (debounceMs : UInt32) (least : 1 ≤ debounceMs.toNat)
    (most : debounceMs.toNat ≤ 2 ^ 31 - 1) (samples : List Sample)
    (spaced : samples.IsChain (Spaced debounceMs.toNat)) :
    InputDebounce.init.returned debounceMs samples =
      (List.range samples.length).map fun i => debounced debounceMs.toNat (samples.take (i + 1)) := by
  induction samples using List.reverseRecOn with
  | nil => rfl
  | append_singleton samples s ih =>
      obtain ⟨⟨past,first,run,split,tracks⟩,returned⟩ := after_tracks least most spaced
      have earlier := ih (List.isChain_append.mp spaced).1
      have kept : ∀ i ∈ List.range samples.length,
          debounced debounceMs.toNat ((samples ++ [s]).take (i + 1)) =
            debounced debounceMs.toNat (samples.take (i + 1)) := by
        intro i below
        rw [List.take_append_of_le_length (List.mem_range.mp below)]
      rw [returned_append,earlier,List.length_append,List.length_singleton,List.range_succ,List.map_append,
        List.map_congr_left kept,List.map_singleton,List.take_of_length_le (by simp)]
      congr 2
      rw [split,← tracks.stable]
      exact returned

def wrapped : List Sample :=
  [⟨true,4294967290⟩,⟨true,4294967310⟩,⟨false,4294967311⟩,⟨true,4294967312⟩,⟨true,6442450000⟩,⟨true,8589933000⟩]

theorem debounce_exact_wrapped :
    InputDebounce.init.returned 20 wrapped = [false,true,true,true,true,true] ∧
    InputDebounce.init.returned 20 wrapped =
      (List.range wrapped.length).map fun i => debounced 20 (wrapped.take (i + 1)) :=
  ⟨by decide,debounce_exact_across_wrap 20 (by decide) (by decide) wrapped (by decide)⟩

end Exactness

end RobotControlRuntime.Firmware
