import Mathlib.Logic.Basic

namespace BoundedRing

-- A fixed block of cells used first-in first-out: `size` cells starting at
-- `head`, counted modulo the length of the block. A position outside the block
-- and a size beyond it cannot be built.
structure Ring (α : Type) where
  storage : Array α
  head : Nat
  size : Nat
  inside : head < storage.size
  fits : size ≤ storage.size
  deriving DecidableEq

variable {α : Type}

def capacity (r : Ring α) : Nat := r.storage.size

theorem index_bound (r : Ring α) (i : Nat) : (r.head + i) % r.storage.size < r.storage.size :=
  Nat.mod_lt _ (Nat.zero_lt_of_lt r.inside)

def cell (r : Ring α) (i : Nat) : α :=
  have bound := index_bound r i
  r.storage[(r.head + i) % r.storage.size]

def contents (r : Ring α) : List α := (List.range r.size).map (cell r)

def empty (filler : α) (capacity : Nat) (positive : 0 < capacity) : Ring α :=
  ⟨Array.replicate capacity filler,0,0,by simpa using positive,Nat.zero_le _⟩

def store (r : Ring α) (x : α) (room : r.size < r.storage.size) : Ring α :=
  ⟨r.storage.set ((r.head + r.size) % r.storage.size) x (index_bound r r.size),r.head,r.size + 1,
    by simpa using r.inside,by simpa using Nat.succ_le_of_lt room⟩

def advance (r : Ring α) : Ring α :=
  ⟨r.storage,(r.head + 1) % r.storage.size,r.size - 1,index_bound r 1,Nat.le_trans (Nat.sub_le _ _) r.fits⟩

def push (r : Ring α) (x : α) : Option (Ring α) :=
  if room : r.size < r.storage.size then some (store r x room) else none

def pop (r : Ring α) : Option (α × Ring α) :=
  if r.size = 0 then none
  else
    have first := r.inside
    some (r.storage[r.head],advance r)

@[simp] theorem contents_length (r : Ring α) : (contents r).length = r.size := by
  simp [contents]

theorem wrap_apart {head i j n : Nat} (inside : head < n) (before : i < j) (fits : j < n) :
    (head + i) % n ≠ (head + j) % n := by
  have wrap : ∀ k, k < n → (head + k) % n = if head + k < n then head + k else head + k - n := by
    intro k small
    split
    · exact Nat.mod_eq_of_lt (by assumption)
    · rw [Nat.mod_eq_sub_mod (by omega),Nat.mod_eq_of_lt (by omega)]
  rw [wrap i (by omega),wrap j fits]
  split <;> split <;> omega

theorem store_last (r : Ring α) (x : α) (room : r.size < r.storage.size) : cell (store r x room) r.size = x := by
  simp [cell,store]

theorem store_kept (r : Ring α) (x : α) (room : r.size < r.storage.size) (queued : i < r.size) :
    cell (store r x room) i = cell r i := by
  have apart := wrap_apart r.inside queued room
  simp [cell,store,Array.getElem_set,apart.symm]

theorem push_contents {r next : Ring α} {x : α} (pushed : push r x = some next) :
    contents next = contents r ++ [x] ∧ capacity next = capacity r := by
  unfold push at pushed
  split at pushed
  · rename_i room
    cases pushed
    refine ⟨?_,by simp [capacity,store]⟩
    have counted : (store r x room).size = r.size + 1 := rfl
    simp only [contents,counted,List.range_succ,List.map_append,List.map_cons,List.map_nil,store_last]
    rw [List.map_congr_left fun i listed => store_kept r x room (List.mem_range.mp listed)]
  · cases pushed

theorem push_full {r : Ring α} {x : α} : push r x = none ↔ (contents r).length = capacity r := by
  have fits := r.fits
  simp only [push,contents_length,capacity]
  split <;> simp <;> omega

theorem advance_shifted (r : Ring α) (i : Nat) : cell (advance r) i = cell r (i + 1) := by
  have same : ((r.head + 1) % r.storage.size + i) % r.storage.size = (r.head + (i + 1)) % r.storage.size := by
    rw [Nat.mod_add_mod]
    congr 1
    omega
  simp [cell,advance,same]

theorem pop_contents {r next : Ring α} {x : α} (popped : pop r = some (x,next)) :
    contents r = x :: contents next ∧ capacity next = capacity r := by
  unfold pop at popped
  split at popped
  · cases popped
  · rename_i filled
    cases popped
    refine ⟨?_,rfl⟩
    obtain ⟨n,counted⟩ : ∃ n, r.size = n + 1 := ⟨r.size - 1,by omega⟩
    have left : (advance r).size = n := by simp [advance,counted]
    simp only [contents,counted,left,List.range_succ_eq_map,List.map_cons,List.map_map]
    congr 1
    · simp [cell,Nat.mod_eq_of_lt r.inside]
    · exact List.map_congr_left fun i _ => (advance_shifted r i).symm

theorem pop_empty {r : Ring α} : pop r = none ↔ contents r = [] := by
  rw [← List.length_eq_zero_iff,contents_length]
  simp [pop]

end BoundedRing
