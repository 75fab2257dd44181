import Mathlib.Data.List.Basic

-- A page of slots that are written once, in order, and read for the newest record.
namespace AppendLog
variable {Slot Value : Type} {read : Slot → Option Value} {blank : Slot}

def newest (read : Slot → Option Value) (held : Value) (slots : List Slot) : Value :=
  slots.foldl (fun held slot => (read slot).getD held) held

theorem newest_append (held : Value) (front back : List Slot) :
    newest read held (front ++ back) = newest read (newest read held front) back := List.foldl_append

theorem newest_unread (unread : ∀ slot ∈ slots,read slot = none) : newest read held slots = held := by
  induction slots generalizing held with
  | nil => rfl
  | cons slot slots ih =>
      show newest read ((read slot).getD held) slots = held
      rw [unread slot List.mem_cons_self,Option.getD_none]
      exact ih fun other present => unread other (List.mem_cons_of_mem _ present)

structure Filled (blank : Slot) (used : List Slot) (free : Nat) (slots : List Slot) : Prop where
  written : ∀ slot ∈ used,slot ≠ blank
  split : slots = used ++ List.replicate free blank

theorem filled_blank (blank : Slot) (free : Nat) : Filled blank [] free (List.replicate free blank) :=
  ⟨by simp,rfl⟩

namespace Filled

theorem next_blank (filled : Filled blank used (free + 1) slots) : slots[used.length]? = some blank := by
  rw [filled.split]
  simp

theorem write (filled : Filled blank used (free + 1) slots) (slot : Slot) :
    slots.set used.length slot = (used ++ [slot]) ++ List.replicate free blank := by
  rw [filled.split]
  simp [List.replicate_succ]

theorem append (filled : Filled blank used (free + 1) slots) (fresh : slot ≠ blank) :
    Filled blank (used ++ [slot]) free (slots.set used.length slot) := by
  refine ⟨?_,filled.write slot⟩
  intro other present
  rcases List.mem_append.mp present with old | new
  · exact filled.written other old
  · rw [List.mem_singleton.mp new]
    exact fresh

theorem unwritten (filled : Filled blank used (free + 1) slots) : slots.set used.length blank = slots := by
  rw [filled.write,filled.split]
  simp [List.replicate_succ]

theorem newest_used (filled : Filled blank used free slots) (unread : read blank = none) :
    newest read held slots = newest read held used := by
  rw [filled.split,newest_append]
  apply newest_unread
  intro slot present
  rw [List.eq_of_mem_replicate present,unread]

theorem newest_write (filled : Filled blank used (free + 1) slots) (unread : read blank = none) (slot : Slot) :
    newest read held (slots.set used.length slot) = (read slot).getD (newest read held slots) := by
  have rest : newest read ((read slot).getD (newest read held used)) (List.replicate free blank) =
      (read slot).getD (newest read held used) := by
    apply newest_unread
    intro other present
    rw [List.eq_of_mem_replicate present,unread]
  rw [filled.write,newest_append,newest_append,filled.newest_used unread]
  exact rest

end Filled

end AppendLog
