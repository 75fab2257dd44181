import RobotControlRuntime.Library.BoundedRing

-- A ring of `n` cells between one writer, who moves `head`, and one reader, who
-- moves `tail`. One cell stays free: with `head` on `tail` the ring is empty.
structure SpscRing (α : Type) (n : Nat) where
  slots : Vector α n
  head : Fin n
  tail : Fin n
  deriving DecidableEq

namespace SpscRing
variable {α : Type} {n : Nat}

def next (i : Fin n) : Fin n := ⟨(i.val + 1) % n,Nat.mod_lt _ (Nat.zero_lt_of_lt i.isLt)⟩

def push (r : SpscRing α n) (x : α) : Option (SpscRing α n) :=
  if next r.head = r.tail then none else some {r with slots := r.slots.set r.head x,head := next r.head}

def front (r : SpscRing α n) : α := r.slots[r.tail]

def advance (r : SpscRing α n) : SpscRing α n := {r with tail := next r.tail}

-- The two accesses of a push: the free cell is filled, then `head` moves. Only the
-- move shows.
def write (r : SpscRing α n) (x : α) : SpscRing α n := {r with slots := r.slots.set r.head x}

def publish (r : SpscRing α n) : SpscRing α n := {r with head := next r.head}

def used (r : SpscRing α n) : Nat := if r.tail.val ≤ r.head.val then r.head - r.tail else r.head + n - r.tail

theorem used_lt (r : SpscRing α n) : r.used < n := by
  have head := r.head.isLt
  have tail := r.tail.isLt
  unfold used
  split <;> omega

def counted (r : SpscRing α n) : BoundedRing.Ring α :=
  ⟨r.slots.toArray,r.tail,r.used,by simp,by simpa using Nat.le_of_lt r.used_lt⟩

def contents (r : SpscRing α n) : List α := BoundedRing.contents r.counted

theorem next_val (i : Fin n) : (next i).val = if i.val + 1 = n then 0 else i.val + 1 := by
  have bound := i.isLt
  simp only [next]
  split
  · rename_i last
    rw [last,Nat.mod_self]
  · exact Nat.mod_eq_of_lt (by omega)

theorem used_head (r : SpscRing α n) : (r.tail.val + r.used) % n = r.head.val := by
  have head := r.head.isLt
  have tail := r.tail.isLt
  unfold used
  split
  · rw [Nat.add_sub_cancel' (by assumption),Nat.mod_eq_of_lt head]
  · rw [Nat.add_sub_cancel' (by omega),Nat.add_mod_right,Nat.mod_eq_of_lt head]

theorem used_push (r : SpscRing α n) (room : next r.head ≠ r.tail) (slots : Vector α n) :
    used ⟨slots,next r.head,r.tail⟩ = r.used + 1 := by
  have head := r.head.isLt
  have tail := r.tail.isLt
  have apart : (next r.head).val ≠ r.tail.val := fun same => room (Fin.ext same)
  rw [next_val] at apart
  simp only [used,next_val]
  split at apart <;> rename_i last <;> simp only [last,if_true,if_false] <;> split <;> split <;> omega

theorem used_advance (r : SpscRing α n) (filled : r.tail ≠ r.head) : r.advance.used = r.used - 1 := by
  have head := r.head.isLt
  have tail := r.tail.isLt
  have apart : r.tail.val ≠ r.head.val := fun same => filled (Fin.ext same)
  simp only [used,advance,next_val]
  split <;> split <;> split <;> omega

theorem push_contents {r s : SpscRing α n} (pushed : r.push x = some s) : s.contents = r.contents ++ [x] := by
  unfold push at pushed
  split at pushed
  · cases pushed
  · rename_i room
    cases pushed
    have fits : r.counted.size < r.counted.storage.size := by
      show r.used < r.slots.toArray.size
      simpa using r.used_lt
    have stored : counted ⟨r.slots.set r.head x,next r.head,r.tail⟩ = BoundedRing.store r.counted x fits := by
      have place := r.used_head
      simp only [counted,BoundedRing.store,used_push r room,BoundedRing.Ring.mk.injEq]
      simp [place]
    have filled : BoundedRing.push r.counted x = some (BoundedRing.store r.counted x fits) := dif_pos fits
    rw [contents,stored]
    exact (BoundedRing.push_contents filled).1

theorem front_contents (r : SpscRing α n) (filled : r.tail ≠ r.head) : r.contents = r.front :: r.advance.contents := by
  have holds : r.counted.size ≠ 0 := by
    intro empty
    have same := r.used_head
    rw [show r.used = 0 from empty,Nat.add_zero,Nat.mod_eq_of_lt r.tail.isLt] at same
    exact filled (Fin.ext same)
  have advanced : r.advance.counted = BoundedRing.advance r.counted := by
    simp only [counted,BoundedRing.advance,used_advance r filled,BoundedRing.Ring.mk.injEq]
    simp [advance,next]
  have popped : BoundedRing.pop r.counted = some (r.front,BoundedRing.advance r.counted) := by
    rw [BoundedRing.pop,if_neg holds]
    rfl
  rw [contents,contents,advanced]
  exact (BoundedRing.pop_contents popped).1

theorem contents_length (r : SpscRing α n) : r.contents.length = r.used := BoundedRing.contents_length r.counted

theorem next_injective {i j : Fin n} (same : next i = next j) : i = j := by
  have left := i.isLt
  have right := j.isLt
  have values : (next i).val = (next j).val := congrArg Fin.val same
  rw [next_val,next_val] at values
  apply Fin.ext
  split at values <;> split at values <;> omega

theorem publish_contents (r : SpscRing α n) (room : next r.head ≠ r.tail) :
    r.publish.contents = r.contents ++ [r.slots[r.head]] := by
  have pushed : r.push r.slots[r.head] = some r.publish := by
    have same : r.slots.set r.head r.slots[r.head] = r.slots := Vector.set_getElem_self r.head.isLt
    rw [push,if_neg room,publish,same]
  exact push_contents pushed

theorem write_contents (r : SpscRing α n) (x : α) (room : next r.head ≠ r.tail) : (r.write x).contents = r.contents := by
  have written : (r.write x).slots[(r.write x).head] = x := Vector.getElem_set_self _
  have moved := (r.write x).publish_contents room
  have pushed : r.push x = some (r.write x).publish := if_neg room
  rw [push_contents pushed,written] at moved
  exact (List.append_cancel_right moved).symm

theorem write_front (r : SpscRing α n) (x : α) (filled : r.tail ≠ r.head) : (r.write x).front = r.front := by
  have apart : r.head.val ≠ r.tail.val := fun same => filled (Fin.ext same.symm)
  exact Vector.getElem_set_ne r.head.isLt r.tail.isLt apart

-- The cell in front of `head` stays free while the reader moves on.
theorem advance_room (r : SpscRing α n) (filled : r.tail ≠ r.head) : next r.head ≠ r.advance.tail :=
  fun same => filled (next_injective same).symm

theorem push_front {r s : SpscRing α n} (pushed : r.push x = some s) :
    s.tail ≠ s.head ∧ (r.tail ≠ r.head → s.front = r.front) := by
  unfold push at pushed
  split at pushed
  · cases pushed
  · rename_i room
    cases pushed
    exact ⟨fun same => room same.symm,fun filled => r.write_front x filled⟩

end SpscRing
