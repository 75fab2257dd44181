import Mathlib.Logic.Basic

namespace StepHistory

-- One taken step. What the step returned is a function of `before` and
-- `action`, so a moment keeps no separate output.
structure Moment (State Action : Type) where
  before : State
  action : Action
  after : State

variable {State Action M : Type} {step : State → Action → Option State} {start : State}

-- Histories are newest-first. All scheduling and environment choices are in the
-- actions, so a run is determined by its start and its list of actions.
inductive Reached (step : State → Action → Option State) (start : State) :
    List (Moment State Action) → State → Prop where
  | start : Reached step start [] start
  | step : Reached step start past s → step s action = some next →
      Reached step start (⟨s,action,next⟩ :: past) next

theorem Reached.trans (one : Reached step start past s) (two : Reached step s later t) :
    Reached step start (later ++ past) t := by
  induction two with
  | start => exact one
  | step _ taken ih => exact .step ih taken

theorem Reached.split (path : Reached step start (later ++ past) s) :
    ∃ middle, Reached step start past middle ∧ Reached step middle later s := by
  induction later generalizing s with
  | nil => exact ⟨s,path,.start⟩
  | cons m later ih =>
      cases path with
      | step prior taken =>
          obtain ⟨middle,one,two⟩ := ih prior
          exact ⟨middle,one,.step two taken⟩

def replay (step : State → Action → Option State) (past : List (Moment State Action)) (s : State) :
    List Action → Option (List (Moment State Action) × State)
  | [] => some (past,s)
  | action :: rest =>
    match step s action with
    | none => none
    | some next => replay step (⟨s,action,next⟩ :: past) next rest

theorem replay_reached (actions : List Action) (path : Reached step start past s)
    (ran : replay step past s actions = some (history,last)) : Reached step start history last := by
  induction actions generalizing past s with
  | nil => cases ran; exact path
  | cons action rest ih =>
      simp only [replay] at ran
      split at ran
      · cases ran
      · rename_i next taken
        exact ih (.step path taken) ran

theorem replayed_reached (actions : List Action) (ran : (replay step [] start actions).isSome = true) :
    Reached step start ((replay step [] start actions).get ran).1 ((replay step [] start actions).get ran).2 :=
  replay_reached actions .start (Option.some_get ran).symm

-- `mark` held at some moment and `keep` has held at every moment after it.
def Since (keep : M → Prop) (mark : M → List M → Prop) : List M → Prop
  | [] => False
  | m :: past => mark m past ∨ (keep m ∧ Since keep mark past)

def Once (mark : M → List M → Prop) : List M → Prop := Since (fun _ => True) mark

def Throughout (holds : M → List M → Prop) : List M → Prop
  | [] => True
  | m :: past => holds m past ∧ Throughout holds past

instance decidableSince (keep : M → Prop) (mark : M → List M → Prop)
    [DecidablePred keep] [∀ m past, Decidable (mark m past)] : ∀ past, Decidable (Since keep mark past)
  | [] => inferInstanceAs (Decidable False)
  | m :: past =>
    have := decidableSince keep mark past
    inferInstanceAs (Decidable (mark m past ∨ (keep m ∧ Since keep mark past)))

instance decidableThroughout (holds : M → List M → Prop)
    [∀ m past, Decidable (holds m past)] : ∀ past, Decidable (Throughout holds past)
  | [] => inferInstanceAs (Decidable True)
  | m :: past =>
    have := decidableThroughout holds past
    inferInstanceAs (Decidable (holds m past ∧ Throughout holds past))

theorem since_mono {keep keep' : M → Prop} {mark mark' : M → List M → Prop}
    (keeps : ∀ m, keep m → keep' m) (marks : ∀ m past, mark m past → mark' m past)
    (since : Since keep mark past) : Since keep' mark' past := by
  induction past with
  | nil => exact since
  | cons m past ih =>
      rcases since with marked | ⟨kept,earlier⟩
      · exact .inl (marks m past marked)
      · exact .inr ⟨keeps m kept,ih earlier⟩

theorem Once.now {mark : M → List M → Prop} (marked : mark m past) : Once mark (m :: past) := .inl marked

theorem Once.later {mark : M → List M → Prop} (once : Once mark past) : Once mark (m :: past) := .inr ⟨trivial,once⟩

theorem Once.at {mark : M → List M → Prop} (once : Once mark history) :
    ∃ m past, mark m past ∧ ∀ other, Once other past → Once other history := by
  induction history with
  | nil => exact once.elim
  | cons m past ih =>
      rcases once with marked | ⟨_,earlier⟩
      · exact ⟨m,past,marked,fun _ held => held.later⟩
      · obtain ⟨m',past',marked,kept⟩ := ih earlier
        exact ⟨m',past',marked,fun other held => (kept other held).later⟩

theorem since_once {keep : M → Prop} {mark mark' : M → List M → Prop} (marks : ∀ m past, mark m past → mark' m past)
    (since : Since keep mark past) : Once mark' past :=
  since_mono (fun _ _ => trivial) marks since

theorem throughout_mono {holds holds' : M → List M → Prop} (weaker : ∀ m past, holds m past → holds' m past)
    (all : Throughout holds past) : Throughout holds' past := by
  induction past with
  | nil => trivial
  | cons m past ih => exact ⟨weaker m past all.1,ih all.2⟩

theorem throughout_mem {holds : M → Prop} (all : Throughout (fun m _ => holds m) past) : ∀ m ∈ past, holds m := by
  induction past with
  | nil => exact fun m absent => absurd absent List.not_mem_nil
  | cons first past ih =>
      intro m present
      rcases List.mem_cons.mp present with rfl | older
      · exact all.1
      · exact ih all.2 m older

-- A condition met by every step so far, and what one step preserves under it,
-- give the invariant at the end of the run.
theorem reached_under {met : Moment State Action → List (Moment State Action) → Prop}
    (inv : List (Moment State Action) → State → Prop) (initial : inv [] start)
    (preserved : ∀ past s action next, inv past s → step s action = some next →
      met ⟨s,action,next⟩ past → inv (⟨s,action,next⟩ :: past) next)
    (path : Reached step start history s) (all : Throughout met history) : inv history s := by
  induction path with
  | start => exact initial
  | step _ taken ih => exact preserved _ _ _ _ (ih all.2) taken all.1

theorem reached_invariant (inv : List (Moment State Action) → State → Prop) (initial : inv [] start)
    (preserved : ∀ past s action next, inv past s → step s action = some next →
      inv (⟨s,action,next⟩ :: past) next)
    (path : Reached step start history s) : inv history s := by
  induction path with
  | start => exact initial
  | step _ taken ih => exact preserved _ _ _ _ ih taken

-- What one step keeps unless it is a marked one lasts until a marked one comes.
theorem reached_until {mark : Moment State Action → Prop} (inv : State → Prop) (initial : inv start)
    (preserved : ∀ s action next, inv s → step s action = some next → inv next ∨ mark ⟨s,action,next⟩)
    (path : Reached step start history s) : inv s ∨ ∃ m ∈ history, mark m := by
  induction path with
  | start => exact .inl initial
  | step _ taken ih =>
      rcases ih with held | ⟨m,present,marked⟩
      · rcases preserved _ _ _ held taken with still | marked
        · exact .inl still
        · exact .inr ⟨_,List.mem_cons_self,marked⟩
      · exact .inr ⟨m,List.mem_cons_of_mem _ present,marked⟩

theorem throughout_under {met holds : Moment State Action → List (Moment State Action) → Prop}
    (inv : List (Moment State Action) → State → Prop) (initial : inv [] start)
    (preserved : ∀ past s action next, inv past s → step s action = some next →
      met ⟨s,action,next⟩ past → inv (⟨s,action,next⟩ :: past) next)
    (established : ∀ past s action next, inv past s → step s action = some next →
      met ⟨s,action,next⟩ past → holds ⟨s,action,next⟩ past)
    (path : Reached step start history s) (all : Throughout met history) : Throughout holds history := by
  induction path with
  | start => trivial
  | step prior taken ih =>
      have before := reached_under inv initial preserved prior all.2
      exact ⟨established _ _ _ _ before taken all.1,ih all.2⟩

theorem throughout_invariant {holds : Moment State Action → List (Moment State Action) → Prop}
    (inv : List (Moment State Action) → State → Prop) (initial : inv [] start)
    (preserved : ∀ past s action next, inv past s → step s action = some next →
      inv (⟨s,action,next⟩ :: past) next)
    (established : ∀ past s action next, inv past s → step s action = some next →
      holds ⟨s,action,next⟩ past)
    (path : Reached step start history s) : Throughout holds history := by
  induction path with
  | start => trivial
  | step prior taken ih =>
      exact ⟨established _ _ _ _ (reached_invariant inv initial preserved prior) taken,ih⟩

-- A component of a larger system: every step of the system is one step of the
-- component or leaves it alone. Its own history is what the system's shows of it.
section Component
variable {Part Call : Type} (view : State → Part) (project : State → Action → Option Call)

def projected (history : List (Moment State Action)) : List (Moment Part Call) :=
  history.filterMap fun m => (project m.before m.action).map fun call => ⟨view m.before,call,view m.after⟩

def Simulates (step : State → Action → Option State) (part : Part → Call → Option Part) : Prop :=
  ∀ s action next, step s action = some next →
    match project s action with
    | some call => part (view s) call = some (view next)
    | none => view next = view s

variable {view project}

theorem projected_call (called : project m.before m.action = some call) :
    projected view project (m :: past) = ⟨view m.before,call,view m.after⟩ :: projected view project past := by
  simp [projected,called]

theorem projected_none (quiet : project m.before m.action = none) :
    projected view project (m :: past) = projected view project past := by
  simp [projected,quiet]

theorem projected_once {mark : Moment Part Call → List (Moment Part Call) → Prop}
    (once : Once mark (projected view project past)) : Once mark (projected view project (m :: past)) := by
  cases called : project m.before m.action with
  | some call =>
      rw [projected_call called]
      exact once.later
  | none =>
      rw [projected_none called]
      exact once

theorem projected_reached {part : Part → Call → Option Part} (simulates : Simulates view project step part)
    (path : Reached step start history s) : Reached part (view start) (projected view project history) (view s) := by
  induction path with
  | start => exact .start
  | @step past s action next _ taken ih =>
      have mirrored := simulates s action next taken
      cases called : project s action with
      | some call =>
          rw [called] at mirrored
          rw [projected_call called]
          exact .step ih mirrored
      | none =>
          rw [called] at mirrored
          rw [projected_none called,mirrored]
          exact ih

theorem projected_throughout {holds : Moment Part Call → List (Moment Part Call) → Prop}
    (all : Throughout holds (projected view project (m :: past))) : Throughout holds (projected view project past) := by
  cases called : project m.before m.action with
  | some call =>
      rw [projected_call called] at all
      exact all.2
  | none =>
      rw [projected_none called] at all
      exact all

theorem projected_invariant {part : Part → Call → Option Part} (simulates : Simulates view project step part)
    (inv : List (Moment Part Call) → Part → Prop)
    (preserved : ∀ past s call next, inv past s → part s call = some next → inv (⟨s,call,next⟩ :: past) next)
    (held : inv (projected view project past) (view s)) (taken : step s action = some next) :
    inv (projected view project (⟨s,action,next⟩ :: past)) (view next) := by
  have mirrored := simulates s action next taken
  cases called : project s action with
  | some call =>
      rw [called] at mirrored
      rw [projected_call called]
      exact preserved _ _ _ _ held mirrored
  | none =>
      rw [called] at mirrored
      rw [projected_none called,mirrored]
      exact held

end Component

end StepHistory
