import RobotControlRuntime.CanRegisters
import RobotControlRuntime.FirmwareLoop

-- The queues of the platform at the grain of single accesses. The receive
-- interrupt comes between any two of them, unless it is masked. On the chip main
-- stands still until the handler is done; nothing here rests on that.
namespace RobotControlRuntime.Firmware
open StepHistory

-- The members of a frame in their order: a frame is copied one by one.
inductive FrameMember where
  | canId | dlc | data (index : Fin 8) | extended | rtr | receiveMs
  deriving DecidableEq, Repr

namespace FrameMember

def all : List FrameMember := .canId :: .dlc :: ((List.finRange 8).map .data ++ [.extended,.rtr,.receiveMs])

def copy (source target : RcrCanFrame) : FrameMember → RcrCanFrame
  | .canId => {target with canId := source.canId}
  | .dlc => {target with dlc := source.dlc}
  | .data index => {target with data := target.data.setIfInBounds index (source.data.get index)}
  | .extended => {target with extended := source.extended}
  | .rtr => {target with rtr := source.rtr}
  | .receiveMs => {target with receiveMs := source.receiveMs}

def finish (source : RcrCanFrame) (rest : List FrameMember) (target : RcrCanFrame) : RcrCanFrame := rest.foldl (copy source) target

theorem finish_data (source target : RcrCanFrame) (indices : List (Fin 8)) :
    ∃ data,finish source (indices.map .data) target = {target with data := data} ∧
      ∀ i : Fin 8,(i ∈ indices → data.get i = source.data.get i) ∧ (i ∉ indices → data.get i = target.data.get i) := by
  induction indices generalizing target with
  | nil => exact ⟨target.data,rfl,fun i => ⟨fun absent => absurd absent List.not_mem_nil,fun _ => rfl⟩⟩
  | cons index rest ih =>
      obtain ⟨data,done,entries⟩ := ih (copy source target (.data index))
      refine ⟨data,done,fun i => ?_⟩
      obtain ⟨copied,kept⟩ := entries i
      by_cases later : i ∈ rest
      · exact ⟨fun _ => copied later,fun absent => absurd (List.mem_cons_of_mem _ later) absent⟩
      · rw [kept later]
        by_cases here : i = index
        · subst here
          exact ⟨fun _ => Vector.getElem_setIfInBounds_self i.isLt,fun absent => absurd List.mem_cons_self absent⟩
        · have apart : index.val ≠ i.val := fun same => here (Fin.ext same.symm)
          refine ⟨fun found => ?_,fun _ => Vector.getElem_setIfInBounds_ne i.isLt apart⟩
          exact absurd found (fun found => (List.mem_cons.mp found).elim here later)

theorem finish_all (source target : RcrCanFrame) : finish source all target = source := by
  obtain ⟨data,done,entries⟩ := finish_data source {target with canId := source.canId,dlc := source.dlc} (List.finRange 8)
  have same : data = source.data := by
    apply Vector.ext
    intro i inside
    exact (entries ⟨i,inside⟩).1 (List.mem_finRange _)
  have split : finish source all target = finish source [.extended,.rtr,.receiveMs]
      (finish source ((List.finRange 8).map .data) {target with canId := source.canId,dlc := source.dlc}) := by
    simp only [finish,all,List.foldl_cons,List.foldl_append,copy]
  rw [split,done,same]
  rfl

end FrameMember

-- USB_LP_CAN1_RX0_IRQHandler between its accesses. The frame is its local, read
-- from the FIFO.
inductive HandlerPoint where
  | idle
  | readHead (frame : RcrCanFrame)
  | readTail (frame : RcrCanFrame) (next : Fin queueCapacity)
  | flag (frame : RcrCanFrame)
  | store (frame : RcrCanFrame) (next : Fin queueCapacity) (rest : List FrameMember)
  deriving DecidableEq, Repr

-- rcr_platform_can_rx_pop between its accesses, with its locals. The comparison
-- reads rx_tail and rx_head in either order.
inductive PopPoint where
  | compare (into : RcrCanFrame)
  | readTail (into : RcrCanFrame) (head : Fin queueCapacity)
  | readHead (into : RcrCanFrame) (tail : Fin queueCapacity)
  | readIndex (into : RcrCanFrame)
  | copy (into : RcrCanFrame) (index : Fin queueCapacity) (rest : List FrameMember)
  | store (frame : RcrCanFrame) (tail : Fin queueCapacity)
  deriving DecidableEq, Repr

-- rcr_platform_take_rx_overflow. The interrupt is masked from `read` to `leave`.
inductive TakePoint where
  | enter
  | mask (primask : Bool)
  | read (primask : Bool)
  | clear (primask overflow : Bool)
  | leave (primask overflow : Bool)
  | done (overflow : Bool)
  deriving DecidableEq, Repr

inductive MainPoint where
  | idle
  | canRxPop (point : PopPoint)
  | takeRxOverflow (point : TakePoint)
  | canTxPump
  deriving DecidableEq, Repr

-- The last fields are a record: the frames the handler got from the FIFO, those it
-- queued and those it turned away, those given to a caller of pop, those accepted
-- for sending, and the mailboxes loaded.
structure RingState where
  rxQueue : FrameQueue := .empty
  rxOverflow : Bool := false
  txQueue : FrameQueue := .empty
  primask : Bool := false
  main : MainPoint := .idle
  handler : HandlerPoint := .idle
  received : List RcrCanFrame := []
  accepted : List RcrCanFrame := []
  refused : List RcrCanFrame := []
  popped : List RcrCanFrame := []
  enqueued : List RcrCanFrame := []
  mailboxes : List TxMailbox := []
  deriving DecidableEq

structure RingInputs where
  headFirst : Bool := false
  tsr : UInt32 := 0
  deriving DecidableEq, Repr

inductive RingAction where
  | pop (into : Option RcrCanFrame)
  | take
  | enqueue (frame : Option RcrCanFrame)
  | pump
  | main (inputs : RingInputs)
  | interrupt (fifo : ReceiveFifo) (monotonicMs : UInt32)
  | handler
  deriving DecidableEq

namespace RingState

def enterHandler (s : RingState) (frame : RcrCanFrame) : RingState :=
  {s with handler := .readHead frame,received := s.received ++ [frame]}

def handlerStep (s : RingState) : Option RingState :=
  match s.handler with
  | .idle => none
  | .readHead frame => some {s with handler := .readTail frame (SpscRing.next s.rxQueue.head)}
  | .readTail frame next =>
    some {s with handler := if next = s.rxQueue.tail then .flag frame else .store frame next FrameMember.all}
  | .flag frame => some {s with rxOverflow := true,handler := .idle,refused := s.refused ++ [frame]}
  | .store frame next (member :: rest) =>
    some {s with rxQueue := s.rxQueue.write (FrameMember.copy frame s.rxQueue.slots[s.rxQueue.head] member),
                 handler := .store frame next rest}
  | .store frame next [] =>
    some {s with rxQueue := {s.rxQueue with head := next},handler := .idle,accepted := s.accepted ++ [frame]}

-- A null pointer is refused like a frame that is no data frame of the protocol.
def txEnqueue (s : RingState) : Option RcrCanFrame → RingState
  | none => s
  | some frame =>
    if frame.extended = true ∨ frame.rtr = true ∨ frame.dlc ≠ canV1Dlc then s
    else match s.txQueue.push frame with
      | none => s
      | some queue => {s with txQueue := queue,enqueued := s.enqueued ++ [frame]}

def pumpOnce (s : RingState) (tsr : UInt32) : RingState :=
  if s.txQueue.tail = s.txQueue.head then {s with main := .idle}
  else match tryLoadTxMailbox s.txQueue.front tsr with
    | none => {s with main := .idle}
    | some mailbox => {s with txQueue := s.txQueue.advance,mailboxes := s.mailboxes ++ [mailbox]}

def popStep (s : RingState) (headFirst : Bool) : PopPoint → RingState
  | .compare into =>
    {s with main := .canRxPop (if headFirst then .readTail into s.rxQueue.head else .readHead into s.rxQueue.tail)}
  | .readTail into head => {s with main := if s.rxQueue.tail = head then .idle else .canRxPop (.readIndex into)}
  | .readHead into tail => {s with main := if tail = s.rxQueue.head then .idle else .canRxPop (.readIndex into)}
  | .readIndex into => {s with main := .canRxPop (.copy into s.rxQueue.tail FrameMember.all)}
  | .copy into index (member :: rest) =>
    {s with main := .canRxPop (.copy (FrameMember.copy s.rxQueue.slots[index] into member) index rest)}
  | .copy into _ [] => {s with main := .canRxPop (.store into (SpscRing.next s.rxQueue.tail))}
  | .store frame tail => {s with rxQueue := {s.rxQueue with tail := tail},main := .idle,popped := s.popped ++ [frame]}

def takeStep (s : RingState) : TakePoint → RingState
  | .enter => {s with main := .takeRxOverflow (.mask s.primask)}
  | .mask primask => {s with primask := true,main := .takeRxOverflow (.read primask)}
  | .read primask => {s with main := .takeRxOverflow (.clear primask s.rxOverflow)}
  | .clear primask overflow => {s with rxOverflow := false,main := .takeRxOverflow (.leave primask overflow)}
  | .leave primask overflow =>
    {s with primask := if primask then s.primask else false,main := .takeRxOverflow (.done overflow)}
  | .done _ => {s with main := .idle}

def mainStep (s : RingState) (inputs : RingInputs) : Option RingState :=
  match s.main with
  | .idle => none
  | .canRxPop point => some (s.popStep inputs.headFirst point)
  | .takeRxOverflow point => some (s.takeStep point)
  | .canTxPump => some (s.pumpOnce inputs.tsr)

def step (s : RingState) : RingAction → Option RingState
  | .pop none => if s.main = .idle then some s else none
  | .pop (some into) => if s.main = .idle then some {s with main := .canRxPop (.compare into)} else none
  | .take => if s.main = .idle then some {s with main := .takeRxOverflow .enter} else none
  | .enqueue frame => if s.main = .idle then some (s.txEnqueue frame) else none
  | .pump => if s.main = .idle then some {s with main := .canTxPump} else none
  | .main inputs => s.mainStep inputs
  | .interrupt fifo monotonicMs =>
    if s.primask = false ∧ s.handler = .idle then some (s.enterHandler (fifo.frame monotonicMs)) else none
  | .handler => if s.primask = false then s.handlerStep else none

end RingState

-- What the handler has made sure of in the queue it fills: the cell under rx_head
-- is free, and will hold the frame when the copy is done.
def HandlerPoint.Fits (queue : FrameQueue) : HandlerPoint → Prop
  | .readTail _ next => next = SpscRing.next queue.head
  | .store frame next rest => next = SpscRing.next queue.head ∧ next ≠ queue.tail ∧
      FrameMember.finish frame rest queue.slots[queue.head] = frame
  | .idle | .readHead _ | .flag _ => True

def HandlerPoint.holding : HandlerPoint → List RcrCanFrame
  | .idle => []
  | .readHead frame | .readTail frame _ | .flag frame | .store frame _ _ => [frame]

-- What a pop has made sure of: the queue is not empty, and the copy will be its
-- first frame.
def PopPoint.Fits (queue : FrameQueue) : PopPoint → Prop
  | .compare _ => True
  | .readTail _ head => queue.tail ≠ head → queue.tail ≠ queue.head
  | .readHead _ tail => tail = queue.tail
  | .readIndex _ => queue.tail ≠ queue.head
  | .copy into index rest => index = queue.tail ∧ queue.tail ≠ queue.head ∧
      FrameMember.finish queue.front rest into = queue.front
  | .store frame tail => tail = SpscRing.next queue.tail ∧ queue.tail ≠ queue.head ∧ frame = queue.front

def MainPoint.Fits (queue : FrameQueue) : MainPoint → Prop
  | .canRxPop point => point.Fits queue
  | _ => True

theorem HandlerPoint.fits_advance {point : HandlerPoint} (fits : point.Fits queue) (filled : queue.tail ≠ queue.head) :
    point.Fits queue.advance := by
  cases point with
  | store frame next rest =>
      obtain ⟨ahead,_,done⟩ := fits
      refine ⟨ahead,?_,done⟩
      rw [ahead]
      exact queue.advance_room filled
  | idle | readHead | readTail | flag => exact fits

theorem PopPoint.fits_write {point : PopPoint} (fits : point.Fits queue) (x : RcrCanFrame) : point.Fits (queue.write x) := by
  cases point with
  | copy into index rest =>
      obtain ⟨here,filled,done⟩ := fits
      refine ⟨here,filled,?_⟩
      rw [queue.write_front x filled]
      exact done
  | store frame tail =>
      obtain ⟨here,filled,front⟩ := fits
      exact ⟨here,filled,front.trans (queue.write_front x filled).symm⟩
  | compare | readTail | readHead | readIndex => exact fits

theorem PopPoint.fits_publish {point : PopPoint} (fits : point.Fits queue) (room : SpscRing.next queue.head ≠ queue.tail) :
    point.Fits queue.publish := by
  cases point with
  | readTail into head => exact fun _ => room.symm
  | readIndex into => exact room.symm
  | copy into index rest => exact ⟨fits.1,room.symm,fits.2.2⟩
  | store frame tail => exact ⟨fits.1,room.symm,fits.2.2⟩
  | compare | readHead => exact fits

theorem MainPoint.fits_write {main : MainPoint} (fits : main.Fits queue) (x : RcrCanFrame) : main.Fits (queue.write x) := by
  cases main with
  | canRxPop point => exact PopPoint.fits_write fits x
  | idle | takeRxOverflow | canTxPump => trivial

theorem MainPoint.fits_publish {main : MainPoint} (fits : main.Fits queue) (room : SpscRing.next queue.head ≠ queue.tail) :
    main.Fits queue.publish := by
  cases main with
  | canRxPop point => exact PopPoint.fits_publish fits room
  | idle | takeRxOverflow | canTxPump => trivial

def RingAction.opened : RingAction → Option MainPoint
  | .pop none => some .idle
  | .pop (some into) => some (.canRxPop (.compare into))
  | .take => some (.takeRxOverflow .enter)
  | .pump => some .canTxPump
  | .enqueue _ | .main _ | .interrupt _ _ | .handler => none

namespace RingState

inductive Stepped (s : RingState) : RingAction → RingState → Prop where
  | pop : s.main = .canRxPop point → Stepped s (.main inputs) (s.popStep inputs.headFirst point)
  | take : s.main = .takeRxOverflow point → Stepped s (.main inputs) (s.takeStep point)
  | pump : s.main = .canTxPump → Stepped s (.main inputs) (s.pumpOnce inputs.tsr)
  | handler : s.primask = false → s.handlerStep = some next → Stepped s .handler next
  | interrupt : s.handler = .idle → Stepped s (.interrupt fifo monotonicMs) (s.enterHandler (fifo.frame monotonicMs))
  | enqueue : s.main = .idle → Stepped s (.enqueue frame) (s.txEnqueue frame)
  | call : s.main = .idle → action.opened = some target → Stepped s action {s with main := target}

theorem main_stepped (taken : mainStep s inputs = some next) : Stepped s (.main inputs) next := by
  unfold mainStep at taken
  cases here : s.main with
  | idle =>
      rw [here] at taken
      cases taken
  | canRxPop point =>
      rw [here] at taken
      cases taken
      exact .pop here
  | takeRxOverflow point =>
      rw [here] at taken
      cases taken
      exact .take here
  | canTxPump =>
      rw [here] at taken
      cases taken
      exact .pump here

theorem step_stepped (taken : step s action = some next) : Stepped s action next := by
  cases action with
  | main inputs => exact main_stepped taken
  | handler =>
      simp only [step,Option.ite_none_right_eq_some] at taken
      exact .handler taken.1 taken.2
  | interrupt fifo monotonicMs =>
      simp only [step,Option.ite_none_right_eq_some,Option.some.injEq] at taken
      obtain ⟨⟨_,idle⟩,rfl⟩ := taken
      exact .interrupt idle
  | enqueue frame =>
      simp only [step,Option.ite_none_right_eq_some,Option.some.injEq] at taken
      obtain ⟨idle,rfl⟩ := taken
      exact .enqueue idle
  | pop into =>
      cases into with
      | none =>
          simp only [step,Option.ite_none_right_eq_some,Option.some.injEq] at taken
          obtain ⟨idle,rfl⟩ := taken
          have same : s = {s with main := .idle} := by rw [← idle]
          rw [same]
          exact .call rfl rfl
      | some into =>
          simp only [step,Option.ite_none_right_eq_some,Option.some.injEq] at taken
          obtain ⟨idle,rfl⟩ := taken
          exact .call idle rfl
  | take | pump =>
      simp only [step,Option.ite_none_right_eq_some,Option.some.injEq] at taken
      obtain ⟨idle,rfl⟩ := taken
      exact .call idle rfl

theorem txEnqueue_parts (s : RingState) (frame : Option RcrCanFrame) :
    s.txEnqueue frame = s ∨
      ∃ accepted queue,RcrCanFrame.Sendable accepted ∧ s.txQueue.push accepted = some queue ∧
        s.txEnqueue frame = {s with txQueue := queue,enqueued := s.enqueued ++ [accepted]} := by
  cases frame with
  | none => exact Or.inl rfl
  | some frame =>
      unfold txEnqueue
      dsimp only
      split
      · exact Or.inl rfl
      · rename_i passed
        simp only [not_or,Bool.not_eq_true,not_not] at passed
        split
        · exact Or.inl rfl
        · rename_i queue pushed
          exact Or.inr ⟨frame,queue,passed,pushed,rfl⟩

theorem pumpOnce_parts (s : RingState) (tsr : UInt32) :
    s.pumpOnce tsr = {s with main := .idle} ∨
      ∃ mailbox,s.txQueue.tail ≠ s.txQueue.head ∧ tryLoadTxMailbox s.txQueue.front tsr = some mailbox ∧
        s.pumpOnce tsr = {s with txQueue := s.txQueue.advance,mailboxes := s.mailboxes ++ [mailbox]} := by
  unfold pumpOnce
  split
  · exact Or.inl rfl
  · rename_i filled
    split
    · exact Or.inl rfl
    · rename_i mailbox loaded
      exact Or.inr ⟨mailbox,filled,loaded,rfl⟩

structure Receiving (s : RingState) : Prop where
  kept : s.accepted = s.popped ++ s.rxQueue.contents
  placed : s.received.Perm (s.accepted ++ (s.refused ++ s.handler.holding))
  handler : s.handler.Fits s.rxQueue
  main : s.main.Fits s.rxQueue

theorem handler_receiving (rx : Receiving s) (taken : s.handlerStep = some next) : Receiving next := by
  have knows := rx.handler
  have placed := rx.placed
  unfold handlerStep at taken
  cases here : s.handler with
  | idle =>
      rw [here] at taken
      cases taken
  | readHead frame =>
      rw [here] at taken placed
      cases taken
      exact ⟨rx.kept,placed,rfl,rx.main⟩
  | readTail frame ahead =>
      rw [here] at taken knows placed
      cases taken
      by_cases full : ahead = s.rxQueue.tail
      · rw [if_pos full]
        exact ⟨rx.kept,placed,trivial,rx.main⟩
      · rw [if_neg full]
        exact ⟨rx.kept,placed,⟨knows,full,FrameMember.finish_all _ _⟩,rx.main⟩
  | flag frame =>
      rw [here] at taken placed
      cases taken
      refine ⟨rx.kept,?_,trivial,rx.main⟩
      show s.received.Perm (s.accepted ++ (s.refused ++ [frame] ++ []))
      rw [List.append_nil]
      exact placed
  | store frame ahead rest =>
      rw [here] at taken knows placed
      obtain ⟨rfl,room,done⟩ := knows
      cases rest with
      | nil =>
          cases taken
          refine ⟨?_,?_,trivial,MainPoint.fits_publish rx.main room⟩
          · have stored : s.rxQueue.slots[s.rxQueue.head] = frame := done
            show s.accepted ++ [frame] = s.popped ++ s.rxQueue.publish.contents
            rw [s.rxQueue.publish_contents room,stored,rx.kept,List.append_assoc]
          · show s.received.Perm (s.accepted ++ [frame] ++ (s.refused ++ []))
            rw [List.append_nil,List.append_assoc]
            exact placed.trans (List.perm_append_comm.append_left s.accepted)
      | cons member rest =>
          cases taken
          refine ⟨?_,placed,⟨rfl,room,?_⟩,MainPoint.fits_write rx.main _⟩
          · show s.accepted = s.popped ++ (s.rxQueue.write _).contents
            rw [s.rxQueue.write_contents _ room]
            exact rx.kept
          · have written : (s.rxQueue.write (FrameMember.copy frame s.rxQueue.slots[s.rxQueue.head] member)).slots[s.rxQueue.head] =
                FrameMember.copy frame s.rxQueue.slots[s.rxQueue.head] member := Vector.getElem_set_self s.rxQueue.head.isLt
            exact (congrArg (FrameMember.finish frame rest) written).trans done

theorem pop_receiving (rx : Receiving s) (here : s.main = .canRxPop point) (headFirst : Bool) :
    Receiving (s.popStep headFirst point) := by
  have knows := rx.main
  rw [here] at knows
  cases point with
  | compare into =>
      refine ⟨rx.kept,rx.placed,rx.handler,?_⟩
      cases headFirst with
      | true => exact fun filled => filled
      | false => rfl
  | readTail into head =>
      refine ⟨rx.kept,rx.placed,rx.handler,?_⟩
      dsimp only [popStep]
      split
      · trivial
      · rename_i filled
        exact knows filled
  | readHead into tail =>
      have same : tail = s.rxQueue.tail := knows
      refine ⟨rx.kept,rx.placed,rx.handler,?_⟩
      dsimp only [popStep]
      split
      · trivial
      · rename_i filled
        exact fun empty => filled (same.trans empty)
  | readIndex into => exact ⟨rx.kept,rx.placed,rx.handler,rfl,knows,FrameMember.finish_all _ _⟩
  | copy into index rest =>
      obtain ⟨rfl,filled,done⟩ := knows
      cases rest with
      | nil => exact ⟨rx.kept,rx.placed,rx.handler,rfl,filled,done⟩
      | cons member rest => exact ⟨rx.kept,rx.placed,rx.handler,rfl,filled,done⟩
  | store frame tail =>
      obtain ⟨rfl,filled,rfl⟩ := knows
      refine ⟨?_,rx.placed,HandlerPoint.fits_advance rx.handler filled,trivial⟩
      show s.accepted = s.popped ++ [s.rxQueue.front] ++ s.rxQueue.advance.contents
      rw [rx.kept,s.rxQueue.front_contents filled,List.append_assoc,List.singleton_append]

theorem opened_fits {action : RingAction} (opened : action.opened = some target) (queue : FrameQueue) : target.Fits queue := by
  cases action with
  | pop into => cases into <;> cases opened <;> trivial
  | take | pump => cases opened; trivial
  | enqueue | main | interrupt | handler => cases opened

theorem step_receiving (rx : Receiving s) (taken : s.step action = some next) : Receiving next := by
  cases step_stepped taken with
  | pop here => exact pop_receiving rx here _
  | @take point _ here => cases point <;> exact ⟨rx.kept,rx.placed,rx.handler,trivial⟩
  | pump here =>
      rcases s.pumpOnce_parts _ with ended | ⟨mailbox,_,_,moved⟩
      · rw [ended]
        exact ⟨rx.kept,rx.placed,rx.handler,trivial⟩
      · rw [moved]
        exact ⟨rx.kept,rx.placed,rx.handler,rx.main⟩
  | handler _ ran => exact handler_receiving rx ran
  | interrupt idle =>
      have placed := rx.placed
      rw [idle,HandlerPoint.holding,List.append_nil] at placed
      refine ⟨rx.kept,?_,trivial,rx.main⟩
      show (s.received ++ [_]).Perm (s.accepted ++ (s.refused ++ [_]))
      rw [← List.append_assoc]
      exact placed.append_right _
  | enqueue _ =>
      rcases s.txEnqueue_parts _ with same | ⟨_,_,_,_,pushed⟩
      · rw [same]
        exact rx
      · rw [pushed]
        exact ⟨rx.kept,rx.placed,rx.handler,rx.main⟩
  | call _ opened => exact ⟨rx.kept,rx.placed,rx.handler,opened_fits opened _⟩

structure Transmitting (s : RingState) : Prop where
  loaded : ∃ loaded,s.enqueued = loaded ++ s.txQueue.contents ∧
    s.mailboxes.map TxMailbox.frame = loaded.map RcrCanFrame.onBus
  sendable : ∀ frame ∈ s.enqueued,frame.Sendable

theorem enqueue_transmitting (tx : Transmitting s) (frame : Option RcrCanFrame) : Transmitting (s.txEnqueue frame) := by
  rcases s.txEnqueue_parts frame with same | ⟨accepted,queue,sendable,pushed,moved⟩
  · rw [same]
    exact tx
  · rw [moved]
    obtain ⟨loaded,queued,sent⟩ := tx.loaded
    refine ⟨⟨loaded,?_,sent⟩,?_⟩
    · show s.enqueued ++ [accepted] = loaded ++ queue.contents
      rw [SpscRing.push_contents pushed,queued,List.append_assoc]
    · intro other present
      rcases List.mem_append.mp present with earlier | last
      · exact tx.sendable other earlier
      · rw [List.mem_singleton.mp last]
        exact sendable

theorem pump_transmitting (tx : Transmitting s) (tsr : UInt32) : Transmitting (s.pumpOnce tsr) := by
  rcases s.pumpOnce_parts tsr with ended | ⟨mailbox,filled,found,moved⟩
  · rw [ended]
    exact ⟨tx.loaded,tx.sendable⟩
  · rw [moved]
    obtain ⟨loaded,queued,sent⟩ := tx.loaded
    rw [s.txQueue.front_contents filled] at queued
    have sendable : s.txQueue.front.Sendable := by
      apply tx.sendable
      rw [queued]
      exact List.mem_append_right _ List.mem_cons_self
    refine ⟨⟨loaded ++ [s.txQueue.front],?_,?_⟩,tx.sendable⟩
    · rw [List.append_assoc]
      exact queued
    · rw [List.map_append,List.map_append,sent,List.map_singleton,List.map_singleton,loaded_frame sendable found]

theorem pop_transmitting (tx : Transmitting s) (headFirst : Bool) (point : PopPoint) : Transmitting (s.popStep headFirst point) := by
  cases point with
  | copy into index rest => cases rest <;> exact ⟨tx.loaded,tx.sendable⟩
  | compare | readTail | readHead | readIndex | store => exact ⟨tx.loaded,tx.sendable⟩

theorem handler_transmitting (tx : Transmitting s) (taken : s.handlerStep = some next) : Transmitting next := by
  unfold handlerStep at taken
  cases here : s.handler with
  | idle =>
      rw [here] at taken
      cases taken
  | store frame ahead rest =>
      rw [here] at taken
      cases rest <;> cases taken <;> exact ⟨tx.loaded,tx.sendable⟩
  | readHead | readTail | flag =>
      rw [here] at taken
      cases taken
      exact ⟨tx.loaded,tx.sendable⟩

theorem step_transmitting (tx : Transmitting s) (taken : s.step action = some next) : Transmitting next := by
  cases step_stepped taken with
  | pop here => exact pop_transmitting tx _ _
  | @take point _ here => cases point <;> exact ⟨tx.loaded,tx.sendable⟩
  | pump here => exact pump_transmitting tx _
  | handler _ ran => exact handler_transmitting tx ran
  | interrupt _ => exact ⟨tx.loaded,tx.sendable⟩
  | enqueue _ => exact enqueue_transmitting tx _
  | call _ _ => exact ⟨tx.loaded,tx.sendable⟩

end RingState

namespace TakePoint

def Critical (primask overflow : Bool) : TakePoint → Prop
  | .read _ => primask = true
  | .clear _ seen => primask = true ∧ seen = overflow
  | .enter | .mask _ | .leave _ _ | .done _ => True

def seen : TakePoint → Option Bool
  | .clear _ overflow | .leave _ overflow | .done overflow => some overflow
  | .enter | .mask _ | .read _ => none

def Positive (overflow : Bool) : TakePoint → Prop
  | .enter | .mask _ | .read _ => overflow = true
  | .clear _ seen | .leave _ seen | .done seen => seen = true

end TakePoint

namespace RingState

def Critical (s : RingState) : Prop := ∀ point,s.main = .takeRxOverflow point → point.Critical s.primask s.rxOverflow

def Flagged (s : RingState) : Prop := s.rxOverflow = true ∨ ∃ point,s.main = .takeRxOverflow point ∧ point.seen = some true

def Positive (s : RingState) : Prop := ∃ point,s.main = .takeRxOverflow point ∧ point.Positive s.rxOverflow

def Refuses (m : Moment RingState RingAction) : Prop := m.action = .handler ∧ ∃ frame,m.before.handler = .flag frame

def EntersTake (m : Moment RingState RingAction) : Prop := m.action = .take

def ReturnsTake (value : Bool) (m : Moment RingState RingAction) : Prop :=
  (∃ inputs,m.action = .main inputs) ∧ m.before.main = .takeRxOverflow (.done value)

theorem handler_flag (taken : handlerStep s = some next) :
    next.main = s.main ∧ next.primask = s.primask ∧ (s.rxOverflow = true → next.rxOverflow = true) := by
  unfold handlerStep at taken
  cases here : s.handler with
  | idle =>
      rw [here] at taken
      cases taken
  | flag frame =>
      rw [here] at taken
      cases taken
      exact ⟨rfl,rfl,fun _ => rfl⟩
  | store frame ahead rest =>
      rw [here] at taken
      cases rest <;> cases taken <;> exact ⟨rfl,rfl,fun set => set⟩
  | readHead | readTail =>
      rw [here] at taken
      cases taken
      exact ⟨rfl,rfl,fun set => set⟩

theorem refusal_flags (taken : step s action = some next) (refuses : Refuses ⟨s,action,next⟩) : next.rxOverflow = true := by
  obtain ⟨handler,frame,here⟩ := refuses
  dsimp only at handler here
  subst handler
  simp only [step,Option.ite_none_right_eq_some,handlerStep,here,Option.some.injEq] at taken
  rw [← taken.2]

theorem outside_take (taken : step s action = some next) (outside : ∀ point,s.main ≠ .takeRxOverflow point) :
    (s.rxOverflow = true → next.rxOverflow = true) ∧ ∀ point,next.main = .takeRxOverflow point → point = .enter := by
  cases step_stepped taken with
  | @pop point _ here =>
      cases point with
      | copy into index rest => cases rest <;> exact ⟨id,nofun⟩
      | readTail | readHead =>
          refine ⟨id,fun point at_take => ?_⟩
          dsimp only [popStep] at at_take
          split at at_take <;> cases at_take
      | compare | readIndex | store => exact ⟨id,nofun⟩
  | @take point _ here => exact absurd here (outside point)
  | pump here =>
      rcases s.pumpOnce_parts _ with ended | ⟨_,_,_,moved⟩
      · rw [ended]
        exact ⟨id,nofun⟩
      · rw [moved]
        exact ⟨id,fun point at_take => absurd at_take (outside point)⟩
  | handler _ ran =>
      obtain ⟨main,_,set⟩ := handler_flag ran
      refine ⟨set,fun point at_take => ?_⟩
      rw [main] at at_take
      exact absurd at_take (outside point)
  | interrupt _ => exact ⟨id,fun point at_take => absurd at_take (outside point)⟩
  | enqueue _ =>
      rcases s.txEnqueue_parts _ with same | ⟨_,_,_,_,pushed⟩
      · rw [same]
        exact ⟨id,fun point at_take => absurd at_take (outside point)⟩
      · rw [pushed]
        exact ⟨id,fun point at_take => absurd at_take (outside point)⟩
  | call _ opened =>
      refine ⟨id,fun point at_take => ?_⟩
      dsimp only at at_take
      subst at_take
      cases action with
      | pop into => cases into <;> cases opened
      | take => cases opened; rfl
      | pump | enqueue | main | interrupt | handler => cases opened

-- During a take the step is its own, or one of the interrupt: that one leaves main
-- where it is, and the flag too while the interrupt is masked.
theorem during_take (taken : step s action = some next) (here : s.main = .takeRxOverflow point) :
    ((∃ inputs,action = .main inputs) ∧ next = s.takeStep point) ∨
      (next.main = s.main ∧ next.primask = s.primask ∧ (s.rxOverflow = true → next.rxOverflow = true) ∧
        (s.primask = true → next.rxOverflow = s.rxOverflow)) := by
  cases step_stepped taken with
  | pop other | pump other => cases here.symm.trans other
  | @take found inputs same =>
      cases here.symm.trans same
      exact Or.inl ⟨⟨inputs,rfl⟩,rfl⟩
  | handler free ran =>
      obtain ⟨main,primask,set⟩ := handler_flag ran
      refine Or.inr ⟨main,primask,set,fun masked => ?_⟩
      cases free.symm.trans masked
  | interrupt _ => exact Or.inr ⟨rfl,rfl,id,fun _ => rfl⟩
  | enqueue idle | call idle _ => cases here.symm.trans idle

theorem take_critical {s : RingState} {point : TakePoint} (knows : point.Critical s.primask s.rxOverflow) :
    Critical (s.takeStep point) := by
  intro later at_take
  cases point with
  | mask primask => cases at_take; rfl
  | read primask => cases at_take; exact ⟨knows,rfl⟩
  | enter | clear | leave => cases at_take; trivial
  | done => cases at_take

theorem step_critical (critical : Critical s) (taken : s.step action = some next) : Critical next := by
  cases here : s.main with
  | takeRxOverflow point =>
      have knows := critical point here
      rcases during_take taken here with ⟨_,rfl⟩ | ⟨same,primask,_,kept⟩
      · exact take_critical knows
      · intro later at_take
        cases here.symm.trans (same.symm.trans at_take)
        rw [primask]
        cases point with
        | read saved => exact knows
        | clear saved seen => exact ⟨knows.1,knows.2.trans (kept knows.1).symm⟩
        | enter | mask | leave | done => trivial
  | idle | canRxPop | canTxPump =>
      intro later at_take
      have outside : ∀ point,s.main ≠ .takeRxOverflow point := by
        rw [here]
        nofun
      rw [(outside_take taken outside).2 later at_take]
      trivial

theorem take_flagged {s : RingState} {point : TakePoint} (knows : point.Critical s.primask s.rxOverflow)
    (flagged : s.rxOverflow = true ∨ point.seen = some true) : Flagged (s.takeStep point) ∨ point = .done true := by
  cases point with
  | clear primask seen =>
      refine Or.inl (Or.inr ⟨_,rfl,?_⟩)
      rcases flagged with set | held
      · exact congrArg some (knows.2.trans set)
      · exact held
  | leave primask seen =>
      rcases flagged with set | held
      · exact Or.inl (Or.inl set)
      · exact Or.inl (Or.inr ⟨_,rfl,held⟩)
  | done seen =>
      rcases flagged with set | held
      · exact Or.inl (Or.inl set)
      · cases held
        exact Or.inr rfl
  | enter | mask | read =>
      rcases flagged with set | held
      · exact Or.inl (Or.inl set)
      · cases held

theorem step_flagged (critical : Critical s) (flagged : Flagged s) (taken : s.step action = some next) :
    Flagged next ∨ ReturnsTake true ⟨s,action,next⟩ := by
  cases here : s.main with
  | takeRxOverflow point =>
      have shown : s.rxOverflow = true ∨ point.seen = some true := by
        rcases flagged with set | ⟨found,same,held⟩
        · exact Or.inl set
        · cases here.symm.trans same
          exact Or.inr held
      rcases during_take taken here with ⟨main,rfl⟩ | ⟨same,_,set,_⟩
      · rcases take_flagged (critical point here) shown with still | rfl
        · exact Or.inl still
        · exact Or.inr ⟨main,here⟩
      · rcases shown with up | held
        · exact Or.inl (Or.inl (set up))
        · exact Or.inl (Or.inr ⟨point,same.trans here,held⟩)
  | idle | canRxPop | canTxPump =>
      have outside : ∀ point,s.main ≠ .takeRxOverflow point := by
        rw [here]
        nofun
      rcases flagged with up | ⟨point,inside,_⟩
      · exact Or.inl (Or.inl ((outside_take taken outside).1 up))
      · exact absurd inside (outside point)

theorem take_positive {s : RingState} {point : TakePoint} (positive : point.Positive s.rxOverflow) :
    Positive (s.takeStep point) ∨ point = .done true := by
  cases point with
  | enter | mask | read | clear | leave => exact Or.inl ⟨_,rfl,positive⟩
  | done seen =>
      have returned : seen = true := positive
      exact Or.inr (by rw [returned])

theorem step_positive (positive : Positive s) (taken : s.step action = some next) :
    Positive next ∨ ReturnsTake true ⟨s,action,next⟩ := by
  obtain ⟨point,here,certain⟩ := positive
  rcases during_take taken here with ⟨main,rfl⟩ | ⟨same,_,set,_⟩
  · rcases take_positive certain with still | rfl
    · exact Or.inl still
    · exact Or.inr ⟨main,here⟩
  · refine Or.inl ⟨point,same.trans here,?_⟩
    cases point with
    | enter | mask | read => exact set certain
    | clear | leave | done => exact certain

def start : RingState := {}

structure Sound (s : RingState) : Prop where
  receiving : Receiving s
  transmitting : Transmitting s
  critical : Critical s

theorem start_sound : Sound start where
  receiving := ⟨rfl,.nil,trivial,trivial⟩
  transmitting := ⟨⟨[],rfl,rfl⟩,fun _ absent => absurd absent List.not_mem_nil⟩
  critical := nofun

theorem step_sound (sound : Sound s) (taken : s.step action = some next) : Sound next :=
  ⟨step_receiving sound.receiving taken,step_transmitting sound.transmitting taken,step_critical sound.critical taken⟩

theorem reached_sound (path : Reached step start history s) : Sound s :=
  reached_invariant (fun _ s => Sound s) start_sound (fun _ _ _ _ sound taken => step_sound sound taken) path

theorem entered_positive (taken : step s action = some next) (enters : EntersTake ⟨s,action,next⟩) (flagged : Flagged s) :
    Positive next := by
  have take : action = .take := enters
  subst take
  simp only [step,Option.ite_none_right_eq_some,Option.some.injEq] at taken
  obtain ⟨idle,rfl⟩ := taken
  rcases flagged with up | ⟨point,inside,_⟩
  · exact ⟨.enter,rfl,up⟩
  · cases idle.symm.trans inside

-- Histories are newest-first: a frame is refused, then a take is entered, then one
-- returns.
theorem refusal_reported
    (path : Reached step start (last ++ returned :: (during ++ entered :: (earlier ++ refusal :: past))) s)
    (refuses : Refuses refusal) (enters : EntersTake entered) (returns : ReturnsTake value returned) :
    ∃ m ∈ returned :: (during ++ entered :: earlier),ReturnsTake true m := by
  obtain ⟨_,upToReturn,_⟩ := path.split
  cases upToReturn with
  | step upToCall _ =>
  obtain ⟨_,upToEnter,call⟩ := upToCall.split
  cases upToEnter with
  | step prior entering =>
  obtain ⟨_,upToRefusal,waiting⟩ := prior.split
  have sound := reached_sound upToRefusal
  cases upToRefusal with
  | step _ refusing =>
  have flagged : Flagged _ := Or.inl (refusal_flags refusing refuses)
  -- Up to the entry the refusal is reported, or the flag is up at the entry.
  rcases reached_until (fun s => Critical s ∧ Flagged s) ⟨sound.critical,flagged⟩ (fun s action next held taken =>
      (step_flagged held.1 held.2 taken).imp (fun still => ⟨step_critical held.1 taken,still⟩) id) waiting with
    ⟨_,still⟩ | ⟨m,present,reported⟩
  · have positive := entered_positive entering enters still
    rcases reached_until Positive positive (fun s action next held taken => step_positive held taken) call with
      certain | ⟨m,present,reported⟩
    · refine ⟨_,List.mem_cons_self,returns.1,?_⟩
      obtain ⟨point,here,seen⟩ := certain
      cases here.symm.trans returns.2
      have up : value = true := seen
      rw [here,up]
    · exact ⟨m,List.mem_cons_of_mem _ (List.mem_append_left _ present),reported⟩
  · exact ⟨m,List.mem_cons_of_mem _ (List.mem_append_right _ (List.mem_cons_of_mem _ present)),reported⟩

-- What is popped or loaded is the start of what was accepted, the queues hold the
-- rest and one cell stays free. A frame from the FIFO is accepted or refused, and a
-- take that is entered after a refusal does not return without the refusal being
-- reported.
structure Lossless (history : List (Moment RingState RingAction)) (s : RingState) : Prop where
  received : s.accepted = s.popped ++ s.rxQueue.contents
  placed : s.received.Perm (s.accepted ++ (s.refused ++ s.handler.holding))
  receiving : s.rxQueue.contents.length ≤ queueCapacity - 1
  transmitted : ∃ loaded,s.enqueued = loaded ++ s.txQueue.contents ∧
    s.mailboxes.map TxMailbox.frame = loaded.map RcrCanFrame.onBus
  standard : ∀ frame ∈ s.enqueued,frame.canId < 0x800 → frame.onBus = {frame with receiveMs := 0}
  transmitting : s.txQueue.contents.length ≤ queueCapacity - 1
  reported : ∀ last returned during entered earlier refusal past value,
    history = last ++ returned :: (during ++ entered :: (earlier ++ refusal :: past)) →
    Refuses refusal → EntersTake entered → ReturnsTake value returned →
      ∃ m ∈ returned :: (during ++ entered :: earlier),ReturnsTake true m

theorem held_bound (queue : FrameQueue) : queue.contents.length ≤ queueCapacity - 1 := by
  rw [queue.contents_length]
  exact Nat.le_sub_one_of_lt queue.used_lt

theorem rings_lossless (path : Reached step start history s) : Lossless history s := by
  have sound := reached_sound path
  refine ⟨sound.receiving.kept,sound.receiving.placed,held_bound _,sound.transmitting.loaded,fun _ _ standard => onBus_standard standard,held_bound _,?_⟩
  rintro last returned during entered earlier refusal past value rfl refuses enters returns
  exact refusal_reported path refuses enters returns

def receiveSteps : List RingAction := .interrupt {rir := (0x061 : UInt32) <<< 21,rdtr := 8} 0 :: List.replicate 16 .handler

def refuseSteps : List RingAction := .interrupt {rir := (0x061 : UInt32) <<< 21,rdtr := 8} 0 :: List.replicate 3 .handler

def floodedSteps : List RingAction :=
  (List.replicate 7 receiveSteps).flatten ++ (refuseSteps ++ (.pop (some {}) :: List.replicate 8 (.main {}) ++
    (refuseSteps ++ (List.replicate 10 (.main {}) ++ (.take :: List.replicate 6 (.main {}) ++
      [.enqueue (some {canId := 0x081,dlc := 8}),.pump,.main {tsr := (1 : UInt32) <<< 26},.main {}])))))

theorem rings_lossless_flooded :
    ∃ history s,Reached step start history s ∧ s.popped.length = 1 ∧ s.refused.length = 2 ∧ s.mailboxes.length = 1 ∧
      s.main = .idle ∧ s.rxOverflow = false ∧ Lossless history s := by
  have path : Reached step start _ _ := replayed_reached floodedSteps (by decide +kernel)
  exact ⟨_,_,path,by decide +kernel,by decide +kernel,by decide +kernel,by decide +kernel,by decide +kernel,rings_lossless path⟩

theorem identifier_cut :
    ∃ history s,Reached step start history s ∧
      ¬ s.mailboxes.map TxMailbox.frame <+: s.enqueued.map fun frame => {frame with receiveMs := 0} := by
  have path : Reached step start _ _ := replayed_reached
    [.enqueue (some {canId := 0x861,dlc := 8}),.pump,.main {tsr := (1 : UInt32) <<< 26}] (by decide +kernel)
  exact ⟨_,_,path,by decide +kernel⟩

end RingState

end RobotControlRuntime.Firmware
