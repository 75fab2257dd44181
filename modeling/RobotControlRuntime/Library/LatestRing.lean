import Mathlib.Data.List.DropRight
import RobotControlRuntime.Library.BoundedRing

-- A block of `n` cells that keeps the newest values. It fills from the first cell
-- on; once it is full, `next` stands on the oldest value and overwrites it.
structure LatestRing (α : Type) (n : Nat) where
  storage : Vector α n
  next : Nat
  size : Nat
  inside : 0 < n → next < n
  fits : size ≤ n
  fresh : size < n → next = size

namespace LatestRing
variable {α : Type} {n : Nat}

def empty (filler : α) (n : Nat) : LatestRing α n :=
  ⟨Vector.replicate n filler,0,0,fun positive => positive,Nat.zero_le n,fun _ => rfl⟩

theorem put_fresh {next size : Nat} (fresh : size < n → next = size) (filling : min (size + 1) n < n) :
    (next + 1) % n = min (size + 1) n := by
  have room : size + 1 < n := by omega
  rw [fresh (by omega),Nat.mod_eq_of_lt room,Nat.min_eq_left (Nat.le_of_lt room)]

def put (r : LatestRing α n) (x : α) (positive : 0 < n) : LatestRing α n :=
  ⟨r.storage.set r.next x (r.inside positive),(r.next + 1) % n,min (r.size + 1) n,
    fun _ => Nat.mod_lt _ positive,Nat.min_le_right _ _,put_fresh r.fresh⟩

def oldest (r : LatestRing α n) : Nat := if r.size = n then r.next else 0

def cell (r : LatestRing α n) (offset : Fin r.size) : α :=
  have bound : (r.oldest + offset) % n < n := Nat.mod_lt _ (Nat.lt_of_lt_of_le offset.pos r.fits)
  r.storage[(r.oldest + offset) % n]

def contents (r : LatestRing α n) : List α := List.ofFn r.cell

theorem oldest_inside (r : LatestRing α n) (positive : 0 < n) : r.oldest < n := by
  unfold oldest
  split
  · exact r.inside positive
  · exact positive

def queue (r : LatestRing α n) (positive : 0 < n) : BoundedRing.Ring α :=
  ⟨r.storage.toArray,r.oldest,r.size,by simpa using r.oldest_inside positive,by simpa using r.fits⟩

theorem contents_queue (r : LatestRing α n) (positive : 0 < n) : r.contents = BoundedRing.contents (r.queue positive) := by
  apply List.ext_getElem
  · simp [contents,BoundedRing.contents,queue]
  · intro i one two
    simp [contents,cell,BoundedRing.contents,BoundedRing.cell,queue]

theorem contents_length (r : LatestRing α n) : r.contents.length = r.size := List.length_ofFn

theorem put_filling (r : LatestRing α n) (x : α) (room : r.size < n) :
    (r.put x (Nat.zero_lt_of_lt room)).contents = r.contents ++ [x] := by
  have positive := Nat.zero_lt_of_lt room
  have place : r.next = r.size := r.fresh room
  have first : r.oldest = 0 := if_neg (Nat.ne_of_lt room)
  have still : (r.put x positive).oldest = 0 := by
    show (if min (r.size + 1) n = n then (r.next + 1) % n else 0) = 0
    rw [place]
    split
    · rename_i full
      rw [show r.size + 1 = n by omega,Nat.mod_self]
    · rfl
  have fits : (r.queue positive).size < (r.queue positive).storage.size := by simpa [queue] using room
  have stored : (r.put x positive).queue positive = BoundedRing.store (r.queue positive) x fits := by
    simp only [queue,still,BoundedRing.store,BoundedRing.Ring.mk.injEq]
    refine ⟨?_,first.symm,Nat.min_eq_left room⟩
    simp [put,first,place,Nat.mod_eq_of_lt room]
  have pushed : BoundedRing.push (r.queue positive) x = some (BoundedRing.store (r.queue positive) x fits) := dif_pos fits
  rw [contents_queue _ positive,contents_queue _ positive,stored]
  exact (BoundedRing.push_contents pushed).1

theorem put_full (r : LatestRing α n) (x : α) (positive : 0 < n) (full : r.size = n) :
    (r.put x positive).contents = r.contents.tail ++ [x] := by
  have first : r.oldest = r.next := if_pos full
  have inside := r.inside positive
  have held : (r.queue positive).size ≠ 0 := by
    show r.size ≠ 0
    omega
  have popped : BoundedRing.pop (r.queue positive) = some (_,BoundedRing.advance (r.queue positive)) := if_neg held
  have fits : (BoundedRing.advance (r.queue positive)).size < (BoundedRing.advance (r.queue positive)).storage.size := by
    show r.size - 1 < r.storage.toArray.size
    simp only [Vector.size_toArray]
    omega
  have stored : (r.put x positive).queue positive = BoundedRing.store (BoundedRing.advance (r.queue positive)) x fits := by
    have still : (r.put x positive).oldest = (r.next + 1) % n := if_pos (show min (r.size + 1) n = n by omega)
    have place : ((r.next + 1) % n + (r.size - 1)) % n = r.next := by
      rw [Nat.mod_add_mod,show r.next + 1 + (r.size - 1) = r.next + n by omega,Nat.add_mod_right,Nat.mod_eq_of_lt inside]
    simp only [queue,still,BoundedRing.store,BoundedRing.advance,BoundedRing.Ring.mk.injEq]
    refine ⟨?_,by simp [first],show min (r.size + 1) n = r.size - 1 + 1 by omega⟩
    simp [put,first,place]
  have pushed : BoundedRing.push (BoundedRing.advance (r.queue positive)) x = some (BoundedRing.store _ x fits) := dif_pos fits
  rw [contents_queue _ positive,contents_queue _ positive,stored,(BoundedRing.push_contents pushed).1,
    (BoundedRing.pop_contents popped).1,List.tail_cons]

theorem put_contents (r : LatestRing α n) (x : α) (positive : 0 < n) :
    (r.put x positive).contents = (r.contents ++ [x]).rtake n := by
  have length := r.contents_length
  rcases Nat.lt_or_eq_of_le r.fits with room | full
  · rw [r.put_filling x room,List.rtake,List.length_append,length,List.length_singleton,
      Nat.sub_eq_zero_of_le (Nat.succ_le_of_lt room),List.drop_zero]
  · rw [r.put_full x positive full,List.rtake,List.length_append,length,List.length_singleton,full,Nat.add_sub_cancel_left,
      List.drop_append_of_le_length (by omega),List.drop_one]

theorem empty_contents (filler : α) (n : Nat) : (empty filler n).contents = [] := rfl

theorem rtake_append_rtake (l m : List α) (n : Nat) : (l.rtake n ++ m).rtake n = (l ++ m).rtake n := by
  simp only [List.rtake,List.length_append,List.length_drop]
  rcases Nat.le_total l.length n with short | long
  · rw [Nat.sub_eq_zero_of_le short,List.drop_zero,Nat.sub_zero]
  · have kept : l.length - (l.length - n) = n := by omega
    rw [kept,← List.drop_append_of_le_length (Nat.sub_le _ _),List.drop_drop]
    congr 1
    omega

end LatestRing
