import Mathlib.Logic.Basic

structure Counting (up : Bool) (tally rank bound : Nat) : Prop where
  before : up = false → tally = 0
  since : up = true → tally + rank ≤ bound

namespace Counting

theorem step (counting : Counting up tally rank bound) (lasts : up = true → up' = true) (pays : up = true → rank' + cost ≤ rank)
    (free : up = false → cost = 0) (fits : rank' ≤ bound) : Counting up' (tally + cost) rank' bound := by
  cases up with
  | true =>
      have paid := counting.since rfl
      have less := pays rfl
      exact ⟨fun down => absurd (down.symm.trans (lasts rfl)) Bool.false_ne_true,fun _ => by omega⟩
  | false =>
      have none := counting.before rfl
      have unpaid := free rfl
      exact ⟨fun _ => by omega,fun _ => by omega⟩

theorem most (counting : Counting up tally rank bound) : tally ≤ bound := by
  cases up with
  | true => exact Nat.le_trans (Nat.le_add_right _ _) (counting.since rfl)
  | false => rw [counting.before rfl]; exact Nat.zero_le _

end Counting
