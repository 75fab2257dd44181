import Mathlib.Order.Lattice

-- A value that is held on a lease: writes are granted up to a deadline, and the
-- value falls back to neutral when the lease is revoked or its deadline is seen.
namespace Lease

inductive Event (Time Write : Type) where
  | revoked
  | observed (now : Time)
  | granted (write : Write) (deadline : Time)

variable {Time Write Value : Type} [LinearOrder Time]

-- The deadline in force after a history. Histories are newest-first.
def current : List (Event Time Write) → Option Time
  | [] => none
  | .revoked :: _ => none
  | .observed now :: past => (current past).filter fun deadline => now < deadline
  | .granted _ deadline :: _ => some deadline

def reached (lease : Option Time) (now : Time) : Bool := lease.any fun deadline => deadline ≤ now

def writes : List (Event Time Write) → List Write
  | [] => []
  | .revoked :: _ => []
  | .observed now :: past => if reached (current past) now then [] else writes past
  | .granted write _ :: past => write :: writes past

theorem observed_current (lease : Option Time) (now : Time) :
    (lease.filter fun deadline => now < deadline) = if reached lease now then none else lease := by
  cases lease with
  | none => rfl
  | some deadline =>
      rcases le_or_gt deadline now with ended | open_
      · simp [reached,Option.filter,ended,not_lt_of_ge ended]
      · simp [reached,Option.filter,open_,not_le_of_gt open_]

theorem unleased_writes (events : List (Event Time Write)) (unleased : current events = none) : writes events = [] := by
  induction events with
  | nil => rfl
  | cons event past ih =>
      cases event with
      | revoked => rfl
      | observed now =>
          rw [current,observed_current] at unleased
          rw [writes]
          split
          · rfl
          · rename_i unreached
            rw [if_neg unreached] at unleased
            exact ih unleased
      | granted _ _ => cases unleased

structure Register (Time Value : Type) where
  value : Value
  lease : Option Time

section Register
variable (neutral : Value) (write : Write → Value → Value)

def Register.next (register : Register Time Value) : Event Time Write → Register Time Value
  | .revoked => ⟨neutral,none⟩
  | .observed now => if reached register.lease now then ⟨neutral,none⟩ else register
  | .granted granted deadline => ⟨write granted register.value,some deadline⟩

def settled (events : List (Event Time Write)) : Register Time Value :=
  ⟨(writes events).foldr write neutral,current events⟩

theorem next_settled (events : List (Event Time Write)) (event : Event Time Write) :
    (settled neutral write events).next neutral write event = settled neutral write (event :: events) := by
  cases event with
  | revoked | granted => rfl
  | observed now =>
      by_cases ended : reached (settled neutral write events).lease now = true
      · rw [Register.next,if_pos ended]
        simp only [settled] at ended
        simp only [settled,writes,current,observed_current,if_pos ended,List.foldr_nil]
      · rw [Register.next,if_neg ended]
        simp only [settled] at ended
        simp only [settled,writes,current,observed_current,if_neg ended]

theorem run_settled (events past : List (Event Time Write)) :
    events.foldr (fun event register => register.next neutral write event) (settled neutral write past) =
      settled neutral write (events ++ past) := by
  induction events with
  | nil => rfl
  | cons event rest ih => rw [List.foldr_cons,ih,next_settled,List.cons_append]

theorem settled_neutral (events : List (Event Time Write)) (unleased : (settled neutral write events).lease = none) :
    (settled neutral write events).value = neutral := by
  have empty := unleased_writes events unleased
  simp only [settled,empty,List.foldr_nil]

end Register

end Lease
