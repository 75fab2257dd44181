import Mathlib.Data.Finset.Card
import Mathlib.Data.Finset.Prod
import Mathlib.Tactic.Tauto

-- The descriptors of a process and the epoll registrations between them, pairs of
-- an instance and what it watches. `misused` goes up when a call names a descriptor
-- that is not open, or closes one that is still watched.
structure Descriptors where
  opened : Finset Nat := ∅
  watched : Finset (Nat × Nat) := ∅
  misused : Bool := false
  deriving DecidableEq

namespace Descriptors

-- The lowest number that is free, as POSIX has it.
def lowest (d : Descriptors) : Nat := ((List.range (d.opened.card + 1)).find? fun fd => decide (fd ∉ d.opened)).getD 0

def alloc (d : Descriptors) : Descriptors := {d with opened := insert d.lowest d.opened}

def use (d : Descriptors) (fd : Nat) : Descriptors := {d with misused := d.misused || decide (fd ∉ d.opened)}

-- The registrations of an instance go with it.
def close (d : Descriptors) (fd : Nat) : Descriptors where
  opened := d.opened.erase fd
  watched := d.watched.filter fun pair => pair.1 ≠ fd
  misused := d.misused || decide (fd ∉ d.opened) || decide (fd ∈ d.watched.image Prod.snd)

def watch (d : Descriptors) (epoll fd : Nat) : Descriptors where
  opened := d.opened
  watched := insert (epoll,fd) d.watched
  misused := d.misused || decide (epoll ∉ d.opened) || decide (fd ∉ d.opened)

def unwatch (d : Descriptors) (epoll fd : Nat) : Descriptors where
  opened := d.opened
  watched := d.watched.erase (epoll,fd)
  misused := d.misused || decide (epoll ∉ d.opened) || decide (fd ∉ d.opened)

def Sound (d : Descriptors) : Prop := ∀ pair ∈ d.watched, pair.1 ∈ d.opened ∧ pair.2 ∈ d.opened

instance (d : Descriptors) : Decidable d.Sound :=
  inferInstanceAs (Decidable (∀ pair ∈ d.watched, pair.1 ∈ d.opened ∧ pair.2 ∈ d.opened))

theorem lowest_fresh (d : Descriptors) : d.lowest ∉ d.opened := by
  unfold lowest
  cases found : (List.range (d.opened.card + 1)).find? fun fd => decide (fd ∉ d.opened) with
  | some fd => simpa using List.find?_some found
  | none =>
      have larger : d.opened.card < (Finset.range (d.opened.card + 1)).card := by simp
      obtain ⟨fd,inside,fresh⟩ := Finset.exists_mem_notMem_of_card_lt_card larger
      have taken := List.find?_eq_none.mp found fd (by simpa using inside)
      simp only [decide_not,Bool.not_eq_true',decide_eq_false_iff_not,not_not] at taken
      exact absurd taken fresh

theorem alloc_opened (d : Descriptors) : fd ∈ d.alloc.opened ↔ fd = d.lowest ∨ fd ∈ d.opened := Finset.mem_insert

theorem alloc_keeps {d : Descriptors} (present : fd ∈ d.opened) : fd ∈ d.alloc.opened := d.alloc_opened.mpr (.inr present)

theorem alloc_sound {d : Descriptors} (sound : d.Sound) : d.alloc.Sound := fun pair watched =>
  ⟨alloc_keeps (sound pair watched).1,alloc_keeps (sound pair watched).2⟩

theorem use_open {d : Descriptors} (opened : fd ∈ d.opened) : d.use fd = d := by
  simp [use,opened]

-- A descriptor closed before anything watches it leaves no trace.
theorem close_alloc {d : Descriptors} (sound : d.Sound) : d.alloc.close d.lowest = d := by
  have fresh := lowest_fresh d
  have untouched : ∀ pair ∈ d.watched, pair.1 ≠ d.lowest ∧ pair.2 ≠ d.lowest := by
    intro pair watched
    obtain ⟨epoll,fd⟩ := sound pair watched
    exact ⟨fun same => fresh (same ▸ epoll),fun same => fresh (same ▸ fd)⟩
  have unwatched : d.lowest ∉ d.watched.image Prod.snd := by
    intro watched
    obtain ⟨pair,present,same⟩ := Finset.mem_image.mp watched
    exact (untouched pair present).2 same
  have opened : (insert d.lowest d.opened).erase d.lowest = d.opened := Finset.erase_insert fresh
  have watched : (d.watched.filter fun pair => pair.1 ≠ d.lowest) = d.watched :=
    Finset.filter_true_of_mem fun pair present => (untouched pair present).1
  unfold alloc close
  rw [opened,watched]
  simp [unwatched]

theorem watch_open {d : Descriptors} (epoll : e ∈ d.opened) (opened : fd ∈ d.opened) : (d.watch e fd).misused = d.misused := by
  simp [watch,epoll,opened]

theorem unwatch_watch {d : Descriptors} (epoll : e ∈ d.opened) (opened : fd ∈ d.opened) (fresh : (e,fd) ∉ d.watched) :
    (d.watch e fd).unwatch e fd = d := by
  have same : (insert (e,fd) d.watched).erase (e,fd) = d.watched := Finset.erase_insert fresh
  unfold watch unwatch
  rw [same]
  simp [epoll,opened]

theorem unwatch_other {d : Descriptors} (apart : fd ≠ other) :
    (d.watch e other).unwatch e fd = (d.unwatch e fd).watch e other := by
  have kept : (insert (e,other) d.watched).erase (e,fd) = insert (e,other) (d.watched.erase (e,fd)) :=
    Finset.erase_insert_of_ne fun same => apart (Prod.ext_iff.mp same).2.symm
  have either : ∀ misused closed one two : Bool, (misused || closed || two || closed || one) = (misused || closed || one || closed || two) := by
    decide
  unfold watch unwatch
  rw [kept]
  exact congrArg (Descriptors.mk _ _) (either _ _ _ _)

end Descriptors
