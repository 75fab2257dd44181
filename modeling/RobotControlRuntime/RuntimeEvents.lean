import RobotControlRuntime.Types
import RobotControlRuntime.Library.BoundedRing

namespace RobotControlRuntime
open BoundedRing

inductive RuntimeInputKind where
  | heartbeat | nodeStatus | outputStatus | protocolReject | ioError
  deriving DecidableEq, Repr

structure RuntimeInputEvent where
  kind : RuntimeInputKind := .heartbeat
  monotonicNs : Int := 0
  nodeId : UInt8 := 0
  bootId : UInt16 := 0
  sessionId : UInt16 := 0
  hbSeq : UInt16 := 0
  interlockReady : Bool := false
  inputBits : UInt16 := 0
  nodeFaultCode : UInt16 := 0
  outputResult : CanV1.OutputResult := .applied
  outputSequence : UInt16 := 0
  outputMirror : UInt8 := 0
  deriving DecidableEq, Repr

inductive IoStopReason where
  | none | eventFd | signal | ioError | sendFailure
  deriving DecidableEq, Repr

-- I/O produces, the periodic thread consumes. A full queue refuses the event and
-- latches that fact; it never overwrites a queued one.
structure BoundedInputQueue where
  ring : BoundedRing.Ring RuntimeInputEvent
  pushCount : UInt64 := 0
  dropCount : UInt64 := 0
  overflowCount : UInt64 := 0
  overflowLatched : Bool := false
  deriving DecidableEq

namespace BoundedInputQueue

def construct (capacity : Nat) : BoundedInputQueue :=
  {ring := empty {} (if capacity = 0 then 1 else capacity) (by split <;> omega)}

def capacity (queue : BoundedInputQueue) : Nat := BoundedRing.capacity queue.ring

def tryPush (queue : BoundedInputQueue) (event : RuntimeInputEvent) : BoundedInputQueue × Bool :=
  match push queue.ring event with
  | none =>
    ({queue with
      dropCount := queue.dropCount + 1
      overflowCount := queue.overflowCount + 1
      overflowLatched := true},false)
  | some ring => ({queue with ring := ring,pushCount := queue.pushCount + 1},true)

def tryPop (queue : BoundedInputQueue) : BoundedInputQueue × Option RuntimeInputEvent :=
  match pop queue.ring with
  | none => (queue,none)
  | some (event,ring) => ({queue with ring := ring},some event)

def events (queue : BoundedInputQueue) : List RuntimeInputEvent := contents queue.ring

theorem events_fit (queue : BoundedInputQueue) : queue.events.length ≤ queue.capacity := by
  rw [events,contents_length]
  exact queue.ring.fits

inductive Pushes (queue : BoundedInputQueue) (event : RuntimeInputEvent) : BoundedInputQueue → Bool → Prop where
  | queued (appended : next.events = queue.events ++ [event]) (same : next.capacity = queue.capacity)
      (latch : next.overflowLatched = queue.overflowLatched) : Pushes queue event next true
  | refused (full : queue.events.length = queue.capacity) (kept : next.events = queue.events)
      (same : next.capacity = queue.capacity) (latch : next.overflowLatched = true) : Pushes queue event next false

theorem push_exact (queue : BoundedInputQueue) (event : RuntimeInputEvent) :
    Pushes queue event (queue.tryPush event).1 (queue.tryPush event).2 := by
  unfold tryPush
  split
  · rename_i full
    exact .refused (push_full.mp full) rfl rfl rfl
  · rename_i ring pushed
    obtain ⟨appended,same⟩ := push_contents pushed
    exact .queued appended same rfl

inductive Pops (queue : BoundedInputQueue) : BoundedInputQueue → Option RuntimeInputEvent → Prop where
  | empty (empty : queue.events = []) : Pops queue queue none
  | oldest (split : queue.events = event :: next.events) (same : next.capacity = queue.capacity)
      (latch : next.overflowLatched = queue.overflowLatched) : Pops queue next (some event)

theorem pop_exact (queue : BoundedInputQueue) : Pops queue queue.tryPop.1 queue.tryPop.2 := by
  unfold tryPop
  split
  · rename_i none
    exact .empty (pop_empty.mp none)
  · rename_i event ring popped
    obtain ⟨split,same⟩ := pop_contents popped
    exact .oldest split same rfl

end BoundedInputQueue

end RobotControlRuntime
