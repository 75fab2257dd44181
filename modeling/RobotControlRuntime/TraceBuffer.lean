import RobotControlRuntime.Library.LatestRing

namespace RobotControlRuntime

inductive TraceKind where
  | schedulerTick | deadlineMiss | stateTransition | outputCommandPublished | watchdogExpired | outputCommandRejected
  | faultRaised | outputCommandSent | outputAckObserved | outputAckUnexpected | outputAckTimeout
  deriving DecidableEq, Repr

structure TraceEvent where
  timestampNs : Int := 0
  kind : TraceKind := .schedulerTick
  valueA : Int := 0
  valueB : Int := 0
  deriving DecidableEq, Repr

structure TraceBuffer (capacity : Nat) extends LatestRing TraceEvent capacity where
  dropped : UInt64 := 0

-- A call of the buffer. Whether a record finds the mutex free is decided outside.
inductive TraceCall where
  | record (event : TraceEvent) (ownsLock : Bool)
  | snapshot
  deriving DecidableEq, Repr

namespace TraceBuffer

def make (capacity : Nat) : TraceBuffer capacity := {LatestRing.empty {} capacity with}

def record (b : TraceBuffer capacity) (event : TraceEvent) (ownsLock : Bool) : TraceBuffer capacity :=
  if empty : capacity = 0 then {b with dropped := b.dropped + 1}
  else if ownsLock = false then {b with dropped := b.dropped + 1}
  else {b with toLatestRing := b.put event (Nat.pos_of_ne_zero empty)}

def snapshot (b : TraceBuffer capacity) : List TraceEvent := b.contents

def call (b : TraceBuffer capacity) : TraceCall → TraceBuffer capacity
  | .record event ownsLock => b.record event ownsLock
  | .snapshot => b

def calls (b : TraceBuffer capacity) (sequence : List TraceCall) : TraceBuffer capacity := sequence.foldl call b

end TraceBuffer

namespace TraceCall

def obtained : TraceCall → Option TraceEvent
  | .record event true => some event
  | _ => none

def missed (capacity : Nat) : TraceCall → Bool
  | .record _ ownsLock => capacity == 0 || !ownsLock
  | .snapshot => false

end TraceCall

namespace TraceBuffer

theorem call_snapshot (b : TraceBuffer capacity) (c : TraceCall) :
    (b.call c).snapshot = (b.snapshot ++ c.obtained.toList).rtake capacity := by
  have length : b.snapshot.length ≤ capacity := Nat.le_trans (Nat.le_of_eq b.contents_length) b.fits
  have unchanged : b.snapshot = (b.snapshot ++ []).rtake capacity := by
    rw [List.append_nil,List.rtake,Nat.sub_eq_zero_of_le length,List.drop_zero]
  cases c with
  | snapshot => exact unchanged
  | record event ownsLock =>
      unfold call record
      dsimp only
      split
      · rename_i empty
        subst empty
        have bare : b.snapshot = [] := List.eq_nil_of_length_eq_zero (Nat.eq_zero_of_le_zero length)
        show b.snapshot = _
        rw [bare,List.rtake_zero]
      · rename_i filled
        cases ownsLock with
        | true => exact b.put_contents event (Nat.pos_of_ne_zero filled)
        | false => exact unchanged

theorem call_dropped (b : TraceBuffer capacity) (c : TraceCall) :
    (b.call c).dropped = b.dropped + if c.missed capacity then 1 else 0 := by
  cases c with
  | snapshot => exact (UInt64.add_zero _).symm
  | record event ownsLock =>
      unfold call record
      dsimp only
      split
      · rename_i empty
        have lost : TraceCall.missed capacity (.record event ownsLock) = true := by simp [TraceCall.missed,empty]
        rw [lost]
        rfl
      · rename_i held
        have missed : TraceCall.missed capacity (.record event ownsLock) = !ownsLock := by simp [TraceCall.missed,held]
        rw [missed]
        cases ownsLock with
        | true => exact (UInt64.add_zero _).symm
        | false => rfl

theorem calls_snapshot (b : TraceBuffer capacity) (sequence : List TraceCall) :
    (b.calls sequence).snapshot = (b.snapshot ++ sequence.filterMap TraceCall.obtained).rtake capacity := by
  induction sequence generalizing b with
  | nil => exact b.call_snapshot .snapshot
  | cons c rest ih =>
      have kept : (c :: rest).filterMap TraceCall.obtained = c.obtained.toList ++ rest.filterMap TraceCall.obtained := by
        cases found : c.obtained <;> simp [found]
      show ((b.call c).calls rest).snapshot = _
      rw [ih,call_snapshot,LatestRing.rtake_append_rtake,List.append_assoc,kept]

theorem calls_dropped (b : TraceBuffer capacity) (sequence : List TraceCall) :
    (b.calls sequence).dropped = b.dropped + UInt64.ofNat (sequence.countP (TraceCall.missed capacity)) := by
  induction sequence generalizing b with
  | nil => exact (UInt64.add_zero _).symm
  | cons c rest ih =>
      show ((b.call c).calls rest).dropped = _
      rw [ih,call_dropped,List.countP_cons,UInt64.add_assoc,Nat.add_comm,UInt64.ofNat_add]
      split <;> rfl

theorem newest_events_kept (capacity : Nat) (sequence : List TraceCall) :
    ((make capacity).calls sequence).snapshot =
        (sequence.filterMap TraceCall.obtained).rtake (min capacity (sequence.filterMap TraceCall.obtained).length) ∧
      ((make capacity).calls sequence).dropped.toNat = sequence.countP (TraceCall.missed capacity) % 18446744073709551616 := by
  constructor
  · have kept := (make capacity).calls_snapshot sequence
    have fresh : (make capacity).snapshot = [] := rfl
    rw [fresh,List.nil_append] at kept
    rw [kept,List.rtake,List.rtake]
    congr 1
    omega
  · rw [calls_dropped]
    show (0 + UInt64.ofNat _).toNat = _
    rw [UInt64.zero_add,UInt64.toNat_ofNat']

-- 2^64 records into a buffer without cells leave the counter at zero.
theorem dropped_wraps : ∃ (capacity : Nat) (sequence : List TraceCall),
    ((make capacity).calls sequence).dropped.toNat ≠ sequence.countP (TraceCall.missed capacity) := by
  have lost (n : Nat) : (List.replicate n (TraceCall.record {} true)).countP (TraceCall.missed 0) = n := by
    rw [List.countP_replicate]
    rfl
  refine ⟨0,List.replicate 18446744073709551616 (.record {} true),?_⟩
  rw [calls_dropped,lost]
  decide

end TraceBuffer

end RobotControlRuntime
