import RobotControlRuntime.Library.Descriptors
import RobotControlRuntime.Library.StepHistory
import RobotControlRuntime.RuntimeDaemon

-- What the daemon holds of the system between start and stop: descriptors, the
-- signal mask of its thread, and its threads.
namespace RobotControlRuntime
open StepHistory

-- An fd of -1 is `none`. The mask is the one of the thread `owner`.
structure SignalFd where
  fd : Option Nat := none
  owner : Nat := 0
  previousBlocked : Bool := false
  restorePending : Bool := false
  deriving DecidableEq

inductive HeldThread where
  | absent | running | ended
  deriving DecidableEq

structure HeldIo where
  reactor : Option Nat
  bus : Option Nat := none
  thread : HeldThread := .absent
  deriving DecidableEq

-- How the wait for the I/O thread ends: it runs, it has ended again (with the error
-- it left, if any), or it said nothing for a second.
inductive Handshake where
  | running
  | ended (startupError : Option Error)
  | timedOut

-- What each call of start() meets, in its order. `setmask` is the one time at most
-- that a start has the mask of its thread put back.
structure StartOutcomes where
  interfaceAvailable : Bool := true
  sigmask : Result Unit := .ok ()
  signalfd : Result Unit := .ok ()
  setmask : Result Unit := .ok ()
  eventfd : Result Unit := .ok ()
  worker : Result Unit := .ok ()
  epollCreate : Bool := true
  socket : Result Unit := .ok ()
  ifindex : Result Unit := .ok ()
  bind : Result Unit := .ok ()
  nonblocking : Result Unit := .ok ()
  addBus : Result Unit := .ok ()
  addStop : Result Unit := .ok ()
  addSignals : Result Unit := .ok ()
  thread : Bool := true
  handshake : Handshake := .running
  durationThread : Bool := true

def StartOutcomes.restored (o : StartOutcomes) : Bool :=
  match o.setmask with
  | .ok () => true
  | .error _ => false

-- `masked` are the threads that have SIGINT and SIGTERM blocked.
structure DaemonProcess where
  config : DaemonConfig
  lasts : Bool := false
  fds : Descriptors := {}
  masked : Finset Nat := ∅
  signals : SignalFd := {}
  stopEvent : Option Nat := none
  io : Option HeldIo := none
  scheduler : Bool := false
  duration : Bool := false
  started : Bool := false
  deriving DecidableEq

namespace DaemonProcess

def closeFd (fds : Descriptors) : Option Nat → Descriptors
  | some fd => fds.close fd
  | none => fds

def setMask (masked : Finset Nat) (thread : Nat) (blocked : Bool) : Finset Nat :=
  if blocked then insert thread masked else masked.erase thread

-- SignalFd::reset on the thread `caller`; whether the mask could be set is not asked.
def resetSignals (caller : Nat) (restored : Bool) (p : DaemonProcess) : DaemonProcess :=
  {p with
    fds := closeFd p.fds p.signals.fd
    masked :=
      if p.signals.restorePending ∧ caller = p.signals.owner ∧ restored then setMask p.masked caller p.signals.previousBlocked
      else p.masked
    signals := {}}

def resetStopEvent (p : DaemonProcess) : DaemonProcess := {p with fds := closeFd p.fds p.stopEvent,stopEvent := none}

def blockAndOpenShutdownSignals (caller : Nat) (p : DaemonProcess) (o : StartOutcomes) : DaemonProcess × Result SignalFd :=
  match o.sigmask with
  | .error error => (p,.error error)
  | .ok () =>
    let previous := decide (caller ∈ p.masked)
    let masked := insert caller p.masked
    match o.signalfd,o.setmask with
    | .error error,.ok () => ({p with masked := setMask masked caller previous},.error error)
    | .error _,.error error => ({p with masked := masked},.error error)
    | .ok (),_ => ({p with fds := p.fds.alloc,masked := masked},.ok ⟨some p.fds.lowest,caller,previous,true⟩)

def createEventFd (p : DaemonProcess) (o : StartOutcomes) : DaemonProcess × Result Nat :=
  match o.eventfd with
  | .error error => (p,.error error)
  | .ok () => ({p with fds := p.fds.alloc},.ok p.fds.lowest)

def openBus (canIf : String) (fds : Descriptors) (o : StartOutcomes) : Descriptors × Result Nat :=
  if canIf = "" then (fds,.error ⟨.invalidArgument,"empty CAN interface name"⟩)
  else
    match o.socket with
    | .error error => (fds,.error error)
    | .ok () =>
      match o.ifindex,o.bind with
      | .error error,_ => (fds.alloc.close fds.lowest,.error error)
      | .ok (),.error error => (fds.alloc.close fds.lowest,.error error)
      | .ok (),.ok () => (fds.alloc,.ok fds.lowest)

def setup (canIf : String) (fds : Descriptors) (reactor stopEvent signals : Option Nat) (o : StartOutcomes) :
    Descriptors × Result Nat :=
  match reactor,stopEvent,signals with
  | none,_,_ => (fds,.error ⟨.ioError,"epoll reactor invalid"⟩)
  | some epoll,some stop,some signal =>
    match openBus canIf fds o with
    | (fds,.error error) => (fds,.error error)
    | (fds,.ok bus) =>
      match o.nonblocking with
      | .error error => (fds.close bus,.error error)
      | .ok () =>
        match o.addBus with
        | .error error => (fds.close bus,.error error)
        | .ok () =>
          let fds := fds.watch epoll bus
          match o.addStop with
          | .error error => ((fds.unwatch epoll bus).close bus,.error error)
          | .ok () =>
            let fds := fds.watch epoll stop
            match o.addSignals with
            | .error error => (((fds.unwatch epoll stop).unwatch epoll bus).close bus,.error error)
            | .ok () => (fds.watch epoll signal,.ok bus)
  | some _,_,_ => (fds,.error ⟨.notOpen,"stop eventfd or signalfd not open"⟩)

def unwatchFd (fds : Descriptors) (reactor fd : Option Nat) : Descriptors :=
  match reactor,fd with
  | some epoll,some fd => fds.unwatch epoll fd
  | _,_ => fds

def teardown (p : DaemonProcess) (io : HeldIo) : DaemonProcess × HeldIo :=
  let fds := unwatchFd (unwatchFd (unwatchFd p.fds io.reactor io.bus) io.reactor p.stopEvent) io.reactor p.signals.fd
  ({p with fds := closeFd fds io.bus},{io with bus := none})

def requestIoStop (p : DaemonProcess) : DaemonProcess :=
  {p with fds := match p.stopEvent with | some fd => p.fds.use fd | none => p.fds}

def joinIo (p : DaemonProcess) (io : HeldIo) : DaemonProcess × HeldIo :=
  match io.thread with
  | .absent => (p,io)
  | .ended => (p,{io with thread := .absent})
  | .running => ((p.teardown io).1,{(p.teardown io).2 with thread := .absent})

def destroyIo (p : DaemonProcess) (io : HeldIo) : DaemonProcess :=
  let (p,io) := p.requestIoStop.joinIo io
  {p with fds := closeFd (closeFd p.fds io.bus) io.reactor,io := none}

def startIo (p : DaemonProcess) (io : HeldIo) (o : StartOutcomes) : DaemonProcess × HeldIo × Result Unit :=
  match setup p.config.canIf p.fds io.reactor p.stopEvent p.signals.fd o with
  | (fds,.error error) => ({p with fds := fds},io,.error error)
  | (fds,.ok bus) =>
    let p := {p with fds := fds}
    let io := {io with bus := some bus}
    if o.thread = false then
      let (p,io) := p.teardown io
      (p,io,.error ⟨.ioError,"failed to create I/O thread"⟩)
    else
      let io := {io with thread := .running}
      match o.handshake with
      | .running => (p,io,.ok ())
      | .ended startupError =>
        let (p,io) := p.joinIo io
        (p,io,.error (startupError.getD ⟨.ioError,"I/O thread failed during startup"⟩))
      | .timedOut =>
        let (p,io) := p.requestIoStop.joinIo io
        (p,io,.error ⟨.timeout,"I/O thread startup handshake timed out"⟩)

def stopIo (p : DaemonProcess) : DaemonProcess :=
  match p.io with
  | some io => {(p.requestIoStop.joinIo io).1 with io := some (p.requestIoStop.joinIo io).2}
  | none => p

def resetIo (p : DaemonProcess) : DaemonProcess :=
  match p.io with
  | some io => p.destroyIo io
  | none => p

def rollbackStartedParts (caller : Nat) (restored : Bool) (p : DaemonProcess) : DaemonProcess :=
  {resetSignals caller restored (resetStopEvent {resetIo (stopIo p) with scheduler := false}) with started := false}

-- A start that ends in an exception returns nothing: the thread for the duration is
-- made when the daemon counts as started.
def ioStarted (caller : Nat) (p : DaemonProcess) (io : HeldIo) (o : StartOutcomes) : Result Unit → DaemonProcess × Option (Result Unit)
  | .error error => (rollbackStartedParts caller o.restored {p with io := some io},some (.error error))
  | .ok () =>
    let p := {p with io := some io,started := true}
    if p.lasts = false then (p,some (.ok ()))
    else if o.durationThread then ({p with duration := true},some (.ok ()))
    else (p,none)

-- The loop makes its reactor when it is constructed; a missing one shows in its start.
def startLoop (caller : Nat) (p : DaemonProcess) (o : StartOutcomes) : DaemonProcess × Option (Result Unit) :=
  let (p,reactor) : DaemonProcess × Option Nat :=
    if o.epollCreate then ({p with fds := p.fds.alloc},some p.fds.lowest) else (p,none)
  let (p,io,result) := p.startIo {reactor := reactor} o
  ioStarted caller p io o result

def startParts (caller : Nat) (p : DaemonProcess) (o : StartOutcomes) : DaemonProcess × Option (Result Unit) :=
  let (runtime,worker) := (LinuxRuntime.construct p.config.runtimeConfig).start o.worker
  match worker with
  | .error error => (p.rollbackStartedParts caller o.restored,some (.error error))
  | .ok () =>
    let p := {p with scheduler := true}
    if (runtime.handle .boot).2.accepted = false then
      (p.rollbackStartedParts caller o.restored,some (.error ⟨.rejected,"runtime Boot failed during daemon startup"⟩))
    else startLoop caller p o

def start (caller : Nat) (p : DaemonProcess) (o : StartOutcomes) : DaemonProcess × Option (Result Unit) :=
  if p.started then (p,some (.error ⟨.busy,"RuntimeDaemon already started"⟩))
  else
    match p.config.invalid with
    | some error => (p,some (.error error))
    | none =>
      if o.interfaceAvailable = false then
        (p,some (.error ⟨.notOpen,"CAN interface missing or not ARPHRD_CAN: " ++ p.config.canIf⟩))
      else
        match blockAndOpenShutdownSignals caller p o with
        | (p,.error error) => (p,some (.error error))
        | (p,.ok signals) =>
          let p := {p.resetSignals caller o.restored with signals := signals}
          match p.createEventFd o with
          | (p,.error error) => (p.resetSignals caller o.restored,some (.error error))
          | (p,.ok fd) => startParts caller {p.resetStopEvent with stopEvent := some fd} o

def ioEnds (p : DaemonProcess) : Option DaemonProcess :=
  match p.io with
  | some io =>
    if io.thread = .running then
      let (p,io) := p.teardown io
      some {p with io := some {io with thread := .ended}}
    else none
  | none => none

def requestStop (p : DaemonProcess) : DaemonProcess := if p.io.isSome then p.requestIoStop else p

-- The summary that is logged on the way reads and changes nothing.
def stop (caller : Nat) (restored : Bool) (p : DaemonProcess) : DaemonProcess :=
  {resetSignals caller restored (resetStopEvent (resetIo {stopIo p with duration := false,scheduler := false})) with started := false}

end DaemonProcess

-- Start and stop, each on a thread of its own; `restored` is whether the mask of the
-- thread could be set.
inductive ResourceAction where
  | start (caller : Nat) (outcomes : StartOutcomes)
  | ioEnds
  | requestStop
  | stop (caller : Nat) (restored : Bool)

def DaemonProcess.step (p : DaemonProcess) : ResourceAction → Option DaemonProcess
  | .start caller outcomes => some (p.start caller outcomes).1
  | .ioEnds => p.ioEnds
  | .requestStop => some p.requestStop
  | .stop caller restored => some (p.stop caller restored)

def StartOutcomes.setup (o : StartOutcomes) (canIf : String) : Result Unit := do
  if canIf = "" then throw ⟨.invalidArgument,"empty CAN interface name"⟩
  o.socket
  o.ifindex
  o.bind
  o.nonblocking
  o.addBus
  o.addStop
  o.addSignals

def StartOutcomes.threadStarts (o : StartOutcomes) : Result Unit :=
  if o.thread = false then throw ⟨.ioError,"failed to create I/O thread"⟩
  else
    match o.handshake with
    | .running => pure ()
    | .ended startupError => throw (startupError.getD ⟨.ioError,"I/O thread failed during startup"⟩)
    | .timedOut => throw ⟨.timeout,"I/O thread startup handshake timed out"⟩

def StartOutcomes.loops (o : StartOutcomes) (canIf : String) : Result Unit := do o.setup canIf; o.threadStarts

def StartOutcomes.environment (o : StartOutcomes) (canIf : String) : StartEnvironment where
  interfaceAvailable := o.interfaceAvailable
  signals := do
    o.sigmask
    match o.signalfd,o.setmask with
    | .error error,.ok () => throw error
    | .error _,.error error => throw error
    | .ok (),_ => pure ()
  stopEvent := o.eventfd
  worker := o.worker
  io := do
    if o.epollCreate = false then throw ⟨.ioError,"epoll reactor invalid"⟩
    o.loops canIf

namespace DaemonProcess

def ready (fds : Descriptors) (epoll stop signal : Nat) : Descriptors :=
  ((fds.alloc.watch epoll fds.lowest).watch epoll stop).watch epoll signal

section Registered

structure Grounded (fds : Descriptors) (e s g : Nat) : Prop where
  sound : fds.Sound
  epoll : e ∈ fds.opened
  stop : s ∈ fds.opened
  signal : g ∈ fds.opened
  apart : s ≠ g
  unwatching : ∀ pair ∈ fds.watched, pair.1 ≠ e

variable {fds : Descriptors} {e s g : Nat}

theorem bus_fresh (ground : Grounded fds e s g) : fds.lowest ≠ s ∧ fds.lowest ≠ g ∧ fds.lowest ≠ e := by
  have fresh := fds.lowest_fresh
  exact ⟨fun same => fresh (same ▸ ground.stop),fun same => fresh (same ▸ ground.signal),fun same => fresh (same ▸ ground.epoll)⟩

theorem unwatched (ground : Grounded fds e s g) (fd : Nat) : (e,fd) ∉ fds.watched := fun present => ground.unwatching _ present rfl

theorem bus_undone (ground : Grounded fds e s g) :
    (fds.alloc.watch e fds.lowest).unwatch e fds.lowest = fds.alloc :=
  Descriptors.unwatch_watch (Descriptors.alloc_keeps ground.epoll) (fds.alloc_opened.mpr (.inl rfl)) (unwatched ground _)

theorem stop_undone (ground : Grounded fds e s g) :
    ((fds.alloc.watch e fds.lowest).watch e s).unwatch e s = fds.alloc.watch e fds.lowest := by
  refine Descriptors.unwatch_watch (Descriptors.alloc_keeps ground.epoll) (Descriptors.alloc_keeps ground.stop) ?_
  intro present
  rcases Finset.mem_insert.mp present with same | older
  · exact (bus_fresh ground).1 (Prod.ext_iff.mp same).2.symm
  · exact unwatched ground _ older

theorem setup_outcome (ground : Grounded fds e s g) (canIf : String) (o : StartOutcomes) :
    setup canIf fds (some e) (some s) (some g) o =
      match o.setup canIf with
      | .error error => (fds,.error error)
      | .ok () => (ready fds e s g,.ok fds.lowest) := by
  have closed := Descriptors.close_alloc ground.sound
  have noBus := bus_undone ground
  have noStop := stop_undone ground
  unfold setup openBus StartOutcomes.setup
  by_cases named : canIf = ""
  · rw [if_pos named,if_pos named]
    rfl
  rw [if_neg named,if_neg named]
  cases o.socket with
  | error error => rfl
  | ok _ =>
  cases o.ifindex with
  | error error => simp only [closed]; rfl
  | ok _ =>
  cases o.bind with
  | error error => simp only [closed]; rfl
  | ok _ =>
  cases o.nonblocking with
  | error error => simp only [closed]; rfl
  | ok _ =>
  cases o.addBus with
  | error error => simp only [closed]; rfl
  | ok _ =>
  cases o.addStop with
  | error error => simp only [closed,noBus]; rfl
  | ok _ =>
  cases o.addSignals with
  | error error => simp only [closed,noBus,noStop]; rfl
  | ok _ => rfl

-- Tearing down takes the registrations out in another order than they came in.
theorem teardown_ready {p : DaemonProcess} (ground : Grounded fds e s g) (fds_eq : p.fds = ready fds e s g)
    (stop : p.stopEvent = some s) (signal : p.signals.fd = some g) (thread : HeldThread) :
    p.teardown ⟨some e,some fds.lowest,thread⟩ = ({p with fds := fds},⟨some e,none,thread⟩) := by
  obtain ⟨notStop,notSignal,_⟩ := bus_fresh ground
  have first : (ready fds e s g).unwatch e fds.lowest = (fds.alloc.watch e s).watch e g := by
    unfold ready
    rw [Descriptors.unwatch_other notSignal,Descriptors.unwatch_other notStop,bus_undone ground]
  have second : ((fds.alloc.watch e s).watch e g).unwatch e s = fds.alloc.watch e g := by
    rw [Descriptors.unwatch_other ground.apart,
      Descriptors.unwatch_watch (Descriptors.alloc_keeps ground.epoll) (Descriptors.alloc_keeps ground.stop) (unwatched ground _)]
  have third : (fds.alloc.watch e g).unwatch e g = fds.alloc :=
    Descriptors.unwatch_watch (Descriptors.alloc_keeps ground.epoll) (Descriptors.alloc_keeps ground.signal) (unwatched ground _)
  simp only [teardown,unwatchFd,closeFd,fds_eq,stop,signal]
  rw [first,second,third,Descriptors.close_alloc ground.sound]

end Registered

def own (p : DaemonProcess) : List Nat :=
  [p.signals.fd,p.stopEvent,p.io.bind HeldIo.reactor,p.io.bind HeldIo.bus].filterMap id

def registered (p : DaemonProcess) : List (Nat × Nat) :=
  match p.io with
  | some ⟨some epoll,some bus,.running⟩ => [some bus,p.stopEvent,p.signals.fd].filterMap id |>.map (epoll,·)
  | _ => []

end DaemonProcess

structure Host where
  config : DaemonConfig
  lasts : Bool := false
  fds : Descriptors
  masked : Finset Nat := ∅
  sound : fds.Sound

namespace Host
open DaemonProcess

def signal (h : Host) : Nat := h.fds.lowest

def stopEvent (h : Host) : Nat := h.fds.alloc.lowest

def epoll (h : Host) : Nat := h.fds.alloc.alloc.lowest

def owned (h : Host) : Descriptors := h.fds.alloc.alloc.alloc

def bus (h : Host) : Nat := h.owned.lowest

def initial (h : Host) : DaemonProcess := {config := h.config,lasts := h.lasts,fds := h.fds,masked := h.masked}

def signals (h : Host) (owner : Nat) : SignalFd := ⟨some h.signal,owner,decide (owner ∈ h.masked),true⟩

def opening (h : Host) (owner : Nat) : DaemonProcess :=
  {h.initial with
    fds := h.fds.alloc.alloc
    masked := insert owner h.masked
    signals := h.signals owner
    stopEvent := some h.stopEvent}

def booted (h : Host) (owner : Nat) : DaemonProcess := {h.opening owner with scheduler := true}

def reacting (h : Host) (owner : Nat) : DaemonProcess := {h.booted owner with fds := h.owned}

inductive Phase where
  | idle
  | running (owner : Nat) (timed : Bool)
  | ended (owner : Nat) (timed : Bool)
  deriving DecidableEq

def held (h : Host) : Phase → DaemonProcess
  | .idle => h.initial
  | .running owner timed =>
    {h.booted owner with
      fds := ready h.owned h.epoll h.stopEvent h.signal
      io := some ⟨some h.epoll,some h.bus,.running⟩
      duration := timed
      started := true}
  | .ended owner timed =>
    {h.booted owner with
      fds := h.owned
      io := some ⟨some h.epoll,none,.ended⟩
      duration := timed
      started := true}

-- The process a daemon leaves behind: the mask stays with its owner if it was not
-- put back, or on another thread.
def left (h : Host) (owner caller : Nat) (restored : Bool) : Host :=
  {h with masked := if caller = owner ∧ restored then h.masked else insert owner h.masked}

-- A started daemon has masked the shutdown signals and holds its own descriptors,
-- none of them twice or someone else's.
structure Holds (h : Host) (p : DaemonProcess) : Prop where
  masked : p.signals.owner ∈ p.masked
  restores : p.signals.restorePending = true ∧ (p.signals.owner ∈ h.masked → p.signals.previousBlocked = true)
  scheduled : p.scheduler = true
  timed : p.duration = true → h.lasts = true
  distinct : p.own.Nodup
  foreign : ∀ fd ∈ p.own, fd ∉ h.fds.opened
  opened : p.fds.opened = h.fds.opened ∪ p.own.toFinset
  watched : p.fds.watched = h.fds.watched ∪ p.registered.toFinset
  serving : ∃ io, p.io = some io ∧ (io.thread = .running ∧ p.registered.length = 3 ∨ io.thread = .ended ∧ io.bus = none)

variable (h : Host)

theorem grounded : Grounded h.owned h.epoll h.stopEvent h.signal where
  sound := Descriptors.alloc_sound (Descriptors.alloc_sound (Descriptors.alloc_sound h.sound))
  epoll := Descriptors.alloc_opened _ |>.mpr (.inl rfl)
  stop := Descriptors.alloc_keeps (Descriptors.alloc_opened _ |>.mpr (.inl rfl))
  signal := Descriptors.alloc_keeps (Descriptors.alloc_keeps (Descriptors.alloc_opened _ |>.mpr (.inl rfl)))
  apart := by
    intro same
    have opened : h.signal ∈ h.fds.alloc.opened := h.fds.alloc_opened.mpr (.inl rfl)
    rw [← same] at opened
    exact h.fds.alloc.lowest_fresh opened
  unwatching := by
    intro pair present same
    have opened := (Descriptors.alloc_sound (Descriptors.alloc_sound h.sound) pair present).1
    rw [same] at opened
    exact h.fds.alloc.alloc.lowest_fresh opened

theorem mask_restored (masked : Finset Nat) (thread : Nat) :
    setMask (insert thread masked) thread (decide (thread ∈ masked)) = masked := by
  unfold setMask
  by_cases up : thread ∈ masked
  · simp [up]
  · simp [up,Finset.erase_insert up]

theorem signals_reset {p : DaemonProcess} (opened : p.fds = h.fds.alloc) (masked : p.masked = insert owner h.masked)
    (signals : p.signals = h.signals owner) :
    resetSignals caller restored p = {p with fds := h.fds,masked := (h.left owner caller restored).masked,signals := {}} := by
  have closed : h.fds.alloc.close h.signal = _ := Descriptors.close_alloc h.sound
  have mask : (if (h.signals owner).restorePending ∧ caller = (h.signals owner).owner ∧ restored then
      setMask (insert owner h.masked) caller (h.signals owner).previousBlocked else insert owner h.masked) =
      (h.left owner caller restored).masked := by
    simp only [Host.signals,left,true_and]
    by_cases own : caller = owner ∧ restored = true
    · rw [if_pos own,if_pos own,own.1]
      exact mask_restored h.masked owner
    · rw [if_neg own,if_neg own]
  simp only [resetSignals,opened,masked,signals,mask]
  simp only [Host.signals,closeFd,closed]

theorem opening_closed {p : DaemonProcess} (opened : p.fds = h.fds.alloc.alloc) (masked : p.masked = insert owner h.masked)
    (signals : p.signals = h.signals owner) (stop : p.stopEvent = some h.stopEvent) :
    resetSignals caller restored (resetStopEvent p) =
      {p with fds := h.fds,masked := (h.left owner caller restored).masked,signals := {},stopEvent := none} := by
  have closed : h.fds.alloc.alloc.close h.stopEvent = _ := Descriptors.close_alloc (Descriptors.alloc_sound h.sound)
  have event : resetStopEvent p = {p with fds := h.fds.alloc,stopEvent := none} := by
    simp only [resetStopEvent,opened,stop,closeFd,closed]
  rw [event]
  exact h.signals_reset rfl masked signals

theorem requestIoStop_open {p : DaemonProcess} (stop : p.stopEvent = some fd) (present : fd ∈ p.fds.opened) : p.requestIoStop = p := by
  have used : (match p.stopEvent with | some fd => p.fds.use fd | none => p.fds) = p.fds := by
    rw [stop]
    exact Descriptors.use_open present
  unfold requestIoStop
  rw [used]

theorem destroyIo_reactor {p : DaemonProcess} (opened : p.fds = h.owned) (stop : p.stopEvent = some h.stopEvent) :
    p.destroyIo ⟨some h.epoll,none,.absent⟩ = {p with fds := h.fds.alloc.alloc,io := none} := by
  have closed : h.owned.close h.epoll = _ := Descriptors.close_alloc (Descriptors.alloc_sound (Descriptors.alloc_sound h.sound))
  unfold destroyIo
  rw [requestIoStop_open stop (opened ▸ h.grounded.stop)]
  simp only [joinIo,closeFd,opened]
  rw [closed]

theorem destroyIo_nothing {p : DaemonProcess} (stop : p.stopEvent = some fd) (present : fd ∈ p.fds.opened) :
    p.destroyIo ⟨none,none,.absent⟩ = {p with io := none} := by
  unfold destroyIo
  rw [requestIoStop_open stop present]
  rfl

theorem stop_opened {d : Descriptors} : d.alloc.lowest ∈ d.alloc.alloc.opened := d.alloc.alloc_opened.mpr (.inl rfl)

section Rollback
variable (caller : Nat) (restored : Bool)

-- Before there is a loop, with the scheduler or without it.
theorem rollback_opening (scheduler : Bool) :
    rollbackStartedParts caller restored {h.opening owner with scheduler := scheduler} = (h.left owner caller restored).initial := by
  unfold rollbackStartedParts
  rw [h.opening_closed rfl rfl rfl rfl]
  rfl

theorem rollback_nothing :
    rollbackStartedParts caller restored {h.booted owner with io := some ⟨none,none,.absent⟩} = (h.left owner caller restored).initial := by
  unfold rollbackStartedParts stopIo
  simp only
  rw [requestIoStop_open rfl stop_opened]
  simp only [joinIo,resetIo]
  rw [destroyIo_nothing rfl stop_opened,h.opening_closed rfl rfl rfl rfl]
  rfl

theorem rollback_reactor :
    rollbackStartedParts caller restored {h.reacting owner with io := some ⟨some h.epoll,none,.absent⟩} =
      (h.left owner caller restored).initial := by
  unfold rollbackStartedParts stopIo
  simp only
  rw [requestIoStop_open rfl h.grounded.stop]
  simp only [joinIo,resetIo]
  rw [h.destroyIo_reactor rfl rfl,h.opening_closed rfl rfl rfl rfl]
  rfl

end Rollback

theorem startIo_outcome {p : DaemonProcess} (ground : Grounded p.fds e s g) (stop : p.stopEvent = some s)
    (signal : p.signals.fd = some g) (o : StartOutcomes) :
    (∃ error, o.loops p.config.canIf = .error error ∧
        p.startIo ⟨some e,none,.absent⟩ o = (p,⟨some e,none,.absent⟩,.error error)) ∨
      (o.loops p.config.canIf = .ok () ∧
        p.startIo ⟨some e,none,.absent⟩ o =
          ({p with fds := ready p.fds e s g},⟨some e,some p.fds.lowest,.running⟩,.ok ())) := by
  have torn := teardown_ready (p := {p with fds := ready p.fds e s g}) ground rfl stop signal
  have present : s ∈ (ready p.fds e s g).opened := p.fds.alloc_opened.mpr (.inr ground.stop)
  have asked : requestIoStop {p with fds := ready p.fds e s g} = {p with fds := ready p.fds e s g} := requestIoStop_open stop present
  have begun := setup_outcome ground p.config.canIf o
  rw [← stop,← signal] at begun
  unfold startIo
  rw [begun]
  unfold StartOutcomes.loops
  cases o.setup p.config.canIf with
  | error error => exact .inl ⟨error,rfl,rfl⟩
  | ok _ =>
  unfold StartOutcomes.threadStarts
  cases o.thread with
  | false => exact .inl ⟨_,rfl,by simp only [torn]; rfl⟩
  | true =>
  cases o.handshake with
  | running => exact .inr ⟨rfl,rfl⟩
  | ended startupError => exact .inl ⟨_,rfl,by simp only [joinIo,torn]; rfl⟩
  | timedOut => exact .inl ⟨_,rfl,by simp only [asked,joinIo,torn]; rfl⟩

theorem startLoop_reactor {p : DaemonProcess} {o : StartOutcomes} (created : o.epollCreate = true) :
    startLoop caller p o =
      ioStarted caller (startIo {p with fds := p.fds.alloc} ⟨some p.fds.lowest,none,.absent⟩ o).1
        (startIo {p with fds := p.fds.alloc} ⟨some p.fds.lowest,none,.absent⟩ o).2.1 o
        (startIo {p with fds := p.fds.alloc} ⟨some p.fds.lowest,none,.absent⟩ o).2.2 := by
  simp only [startLoop,created,if_true]

def begun (h : Host) (o : StartOutcomes) : Option (Result Unit) := if h.lasts && !o.durationThread then none else some (.ok ())

theorem ioStarted_ok (stood : p.duration = false) (io : HeldIo) (o : StartOutcomes) :
    ioStarted caller p io o (.ok ()) =
      ({p with io := some io,duration := p.lasts && o.durationThread,started := true},
        if p.lasts && !o.durationThread then none else some (.ok ())) := by
  obtain ⟨_,lasts,_,_,_,_,_,_,_,_⟩ := p
  subst stood
  simp only [ioStarted]
  cases lasts <;> cases o.durationThread <;> rfl

theorem startLoop_outcome (caller : Nat) (o : StartOutcomes) :
    (∃ error, (o.environment h.config.canIf).io = .error error ∧
        startLoop caller (h.booted caller) o = ((h.left caller caller o.restored).initial,some (.error error))) ∨
      ((o.environment h.config.canIf).io = .ok () ∧
        startLoop caller (h.booted caller) o = (h.held (.running caller (h.lasts && o.durationThread)),h.begun o)) := by
  cases created : o.epollCreate with
  | false =>
      refine .inl ⟨⟨.ioError,"epoll reactor invalid"⟩,by simp [StartOutcomes.environment,created]; rfl,?_⟩
      simp only [startLoop,created]
      exact Prod.ext (h.rollback_nothing caller o.restored) rfl
  | true =>
      have io : (o.environment h.config.canIf).io = o.loops h.config.canIf := by
        simp only [StartOutcomes.environment,created]
        rfl
      have ground : Grounded (h.reacting caller).fds h.epoll h.stopEvent h.signal := h.grounded
      have begun := startIo_outcome ground rfl rfl o
      have same : {h.booted caller with fds := (h.booted caller).fds.alloc} = h.reacting caller := rfl
      have epoll : (h.booted caller).fds.lowest = h.epoll := rfl
      rw [startLoop_reactor created,io,same,epoll]
      rcases begun with ⟨error,failed,begun⟩ | ⟨looped,begun⟩
      · refine .inl ⟨error,failed,?_⟩
        rw [begun]
        exact Prod.ext (h.rollback_reactor caller o.restored) rfl
      · refine .inr ⟨looped,?_⟩
        rw [begun]
        exact ioStarted_ok rfl _ o

inductive Taken (h : Host) (caller : Nat) (o : StartOutcomes) : DaemonProcess × Option (Result Unit) → RuntimeDaemon × Result Unit → Prop where
  | failed {daemon : RuntimeDaemon} (kept : p = h.initial ∨ p = (h.left caller caller o.restored).initial) (idle : daemon.parts = none) (code : DaemonExitCode) (error : Error) :
      Taken h caller o (p,some (.error error)) (daemon.fail code error)
  | started {daemon : RuntimeDaemon} (parts : daemon.parts.isSome = true) :
      Taken h caller o (h.held (.running caller (h.lasts && o.durationThread)),h.begun o) (daemon,.ok ())

theorem startParts_taken (caller : Nat) (o : StartOutcomes) (daemon : RuntimeDaemon) (same : daemon.config = h.config)
    (idle : daemon.parts = none) :
    h.Taken caller o (startParts caller (h.opening caller) o) (daemon.startParts (o.environment h.config.canIf)) := by
  have looped := h.startLoop_outcome caller o
  have worker : (o.environment h.config.canIf).worker = o.worker := rfl
  unfold startParts RuntimeDaemon.startParts
  rw [worker,same]
  generalize launch : (LinuxRuntime.construct h.config.runtimeConfig).start o.worker = launched
  have same : (LinuxRuntime.construct (h.opening caller).config.runtimeConfig).start o.worker = launched := launch
  rw [same]
  obtain ⟨runtime,result⟩ := launched
  cases result with
  | error error => exact .failed (.inr (h.rollback_opening caller o.restored false)) idle _ error
  | ok _ =>
  cases accepted : (runtime.handle .boot).2.accepted with
  | false =>
      simp only [accepted]
      exact .failed (.inr (h.rollback_opening caller o.restored true)) idle _ _
  | true =>
      simp only [accepted,Bool.true_eq_false,if_false,Bool.not_true,Bool.false_eq_true]
      have begun : startLoop caller {h.opening caller with scheduler := true} o = startLoop caller (h.booted caller) o := rfl
      rcases looped with ⟨error,failed,looped⟩ | ⟨started,looped⟩
      · rw [begun,looped,failed]
        exact .failed (.inr rfl) idle _ error
      · rw [begun,looped,started]
        exact .started rfl

theorem start_taken (caller : Nat) (o : StartOutcomes) (daemon : RuntimeDaemon) (same : daemon.config = h.config) (idle : daemon.parts = none) :
    h.Taken caller o (h.initial.start caller o) (daemon.start (o.environment h.config.canIf)) := by
  have parts := h.startParts_taken caller o daemon same idle
  have stands : daemon.started = false := by rw [RuntimeDaemon.started,idle]; rfl
  have stood : h.initial.started = false := rfl
  have config : h.initial.config = h.config := rfl
  have probed : (o.environment h.config.canIf).interfaceAvailable = o.interfaceAvailable := rfl
  have stopEvent : (o.environment h.config.canIf).stopEvent = o.eventfd := rfl
  unfold start RuntimeDaemon.start blockAndOpenShutdownSignals createEventFd
  rw [stands,stood,config,same,probed,stopEvent]
  simp only [Bool.false_eq_true,if_false,StartOutcomes.environment]
  cases h.config.invalid with
  | some error => exact .failed (.inl rfl) idle _ error
  | none =>
  cases o.interfaceAvailable with
  | false => exact .failed (.inl rfl) idle _ _
  | true =>
  cases o.sigmask with
  | error error => exact .failed (.inl rfl) idle _ error
  | ok _ =>
  cases o.signalfd with
  | error failure =>
      cases set : o.setmask with
      | ok _ =>
          have back : {h.initial with masked := setMask (insert caller h.masked) caller (decide (caller ∈ h.masked))} = h.initial := by
            rw [mask_restored]
            rfl
          exact .failed (.inl back) idle _ failure
      | error error =>
          have kept : {h.initial with masked := insert caller h.masked} = (h.left caller caller o.restored).initial := by
            simp only [left,StartOutcomes.restored,set]
            rfl
          exact .failed (.inr kept) idle _ error
  | ok _ =>
  cases o.eventfd with
  | error error =>
      refine .failed (.inr ?_) idle _ error
      exact h.signals_reset rfl rfl rfl
  | ok _ => exact parts

theorem requestIoStop_held (phase : Phase) : (h.held phase).requestIoStop = h.held phase := by
  cases phase with
  | idle => rfl
  | running => exact requestIoStop_open rfl (Descriptors.alloc_keeps h.grounded.stop)
  | ended => exact requestIoStop_open rfl h.grounded.stop

theorem teardown_running :
    (h.held (.running owner timed)).teardown ⟨some h.epoll,some h.bus,.running⟩ =
      ({h.held (.running owner timed) with fds := h.owned},⟨some h.epoll,none,.running⟩) :=
  teardown_ready h.grounded rfl rfl rfl .running

theorem stopIo_running :
    (h.held (.running owner timed)).stopIo = {h.held (.ended owner timed) with io := some ⟨some h.epoll,none,.absent⟩} := by
  have asked := h.requestIoStop_held (.running owner timed)
  have here : (h.held (.running owner timed)).io = some ⟨some h.epoll,some h.bus,.running⟩ := rfl
  unfold stopIo
  rw [here]
  simp only [asked,joinIo]
  rw [h.teardown_running]
  rfl

theorem stopIo_ended :
    (h.held (.ended owner timed)).stopIo = {h.held (.ended owner timed) with io := some ⟨some h.epoll,none,.absent⟩} := by
  have asked := h.requestIoStop_held (.ended owner timed)
  have here : (h.held (.ended owner timed)).io = some ⟨some h.epoll,none,.ended⟩ := rfl
  unfold stopIo
  rw [here]
  simp only [asked,joinIo]

theorem stopped_closed :
    ({resetSignals caller restored (resetStopEvent (resetIo {{h.held (.ended owner timed) with io := some ⟨some h.epoll,none,.absent⟩} with
      duration := false,scheduler := false})) with started := false} : DaemonProcess) = (h.left owner caller restored).initial := by
  simp only [resetIo]
  rw [h.destroyIo_reactor rfl rfl,h.opening_closed rfl rfl rfl rfl]
  rfl

def after (h : Host) (caller : Nat) (restored : Bool) : Phase → Host
  | .idle => h
  | .running owner _ | .ended owner _ => h.left owner caller restored

theorem stop_held (phase : Phase) (caller : Nat) (restored : Bool) : (h.held phase).stop caller restored = (h.after caller restored phase).initial := by
  cases phase with
  | idle => rfl
  | running owner timed =>
      unfold stop
      rw [h.stopIo_running]
      exact h.stopped_closed
  | ended owner timed =>
      unfold stop
      rw [h.stopIo_ended]
      exact h.stopped_closed

theorem ioEnds_held (ended : (h.held phase).ioEnds = some next) : ∃ owner timed, phase = .running owner timed ∧ next = h.held (.ended owner timed) := by
  cases phase with
  | idle | ended => cases ended
  | running owner timed =>
      have here : (h.held (.running owner timed)).io = some ⟨some h.epoll,some h.bus,.running⟩ := rfl
      unfold ioEnds at ended
      rw [here] at ended
      simp only [if_true] at ended
      rw [h.teardown_running] at ended
      cases ended
      exact ⟨owner,timed,rfl,rfl⟩

theorem start_busy (started : phase ≠ .idle) (caller : Nat) (o : StartOutcomes) :
    (h.held phase).start caller o = (h.held phase,some (.error ⟨.busy,"RuntimeDaemon already started"⟩)) := by
  cases phase with
  | idle => exact absurd rfl started
  | running | ended => rfl

end Host

def ResourceAction.Restores (thread : Nat) : ResourceAction → Prop
  | .start caller o => caller = thread ∧ o.restored = true
  | .stop caller restored => caller = thread ∧ restored = true
  | _ => True

namespace Host
open DaemonProcess

def Phase.OwnedBy (thread : Nat) : Phase → Prop
  | .idle => True
  | .running owner _ | .ended owner _ => owner = thread

def Phase.timed : Phase → Bool
  | .idle => false
  | .running _ timed | .ended _ timed => timed

-- The process is that of a host which differs in its masks only, in one of the phases.
-- Masks are not taken away, and on one thread that can set its mask none is left.
structure Stands (h : Host) (past : List (Moment DaemonProcess ResourceAction)) (masks : Finset Nat) (phase : Phase) (p : DaemonProcess) : Prop where
  state : p = held {h with masked := masks} phase
  grows : h.masked ⊆ masks
  lasting : phase.timed = true → h.lasts = true
  restored : ∀ thread, (∀ m ∈ past, m.action.Restores thread) → masks = h.masked ∧ phase.OwnedBy thread

theorem left_masked (h : Host) (owner caller : Nat) (restored : Bool) : h.masked ⊆ (h.left owner caller restored).masked := by
  simp only [left]
  split
  · exact Finset.Subset.refl _
  · exact Finset.subset_insert _ _

theorem left_restored (h : Host) (thread : Nat) : (h.left thread thread true).masked = h.masked := by simp [left]

theorem Stands.same {h : Host} (stands : h.Stands past masks phase p) (m : Moment DaemonProcess ResourceAction) :
    h.Stands (m :: past) masks phase p where
  state := stands.state
  grows := stands.grows
  lasting := stands.lasting
  restored thread all := stands.restored thread (List.forall_mem_of_forall_mem_cons all)

theorem left_stands (h : Host) (grows : h.masked ⊆ masks)
    (kept : ∀ thread, (∀ m ∈ past, m.action.Restores thread) → masks = h.masked ∧ owner = thread ∧ caller = thread ∧ back = true) :
    h.Stands past (left {h with masked := masks} owner caller back).masked .idle (left {h with masked := masks} owner caller back).initial where
  state := rfl
  grows := grows.trans (left_masked {h with masked := masks} owner caller back)
  lasting := nofun
  restored := by
    intro thread all
    obtain ⟨same,rfl,rfl,rfl⟩ := kept thread all
    exact ⟨(left_restored {h with masked := masks} _).trans same,trivial⟩

theorem start_stands (h : Host) (stands : h.Stands past masks phase p) (taken : p.step (.start caller o) = some next) :
    ∃ masks phase, h.Stands (⟨p,.start caller o,next⟩ :: past) masks phase next := by
  have same := stands.same
  obtain ⟨rfl,grows,_,restored⟩ := stands
  cases taken
  by_cases idle : phase = .idle
  · subst idle
    have begun := start_taken {h with masked := masks} caller o (.construct h.config) rfl rfl
    generalize RuntimeDaemon.start (.construct h.config) _ = meant at begun
    have standing : held {h with masked := masks} .idle = initial {h with masked := masks} := rfl
    rw [standing] at same ⊢
    generalize DaemonProcess.start caller (initial {h with masked := masks}) o = outcome at begun ⊢
    cases begun with
    | failed kept =>
        rcases kept with rfl | rfl
        · exact ⟨masks,.idle,same _⟩
        · refine ⟨_,.idle,left_stands h grows fun thread all => ?_⟩
          obtain ⟨mine,back⟩ := all _ (.head _)
          exact ⟨(restored thread (List.forall_mem_of_forall_mem_cons all)).1,mine,mine,back⟩
    | started _ =>
        refine ⟨masks,.running caller (h.lasts && o.durationThread),rfl,grows,fun timed => (Bool.and_eq_true_iff.mp timed).1,?_⟩
        intro thread all
        exact ⟨(restored thread (List.forall_mem_of_forall_mem_cons all)).1,(all _ (.head _)).1⟩
  · rw [start_busy _ idle]
    exact ⟨masks,phase,same _⟩

theorem stop_stands (h : Host) (stands : h.Stands past masks phase p) (taken : p.step (.stop caller back) = some next) :
    ∃ masks phase, h.Stands (⟨p,.stop caller back,next⟩ :: past) masks phase next := by
  have same := stands.same
  obtain ⟨rfl,grows,_,restored⟩ := stands
  cases taken
  rw [stop_held]
  cases phase with
  | idle => exact ⟨masks,.idle,same _⟩
  | running owner timed | ended owner timed =>
      refine ⟨_,.idle,left_stands h grows fun thread all => ?_⟩
      obtain ⟨kept,mine⟩ := restored thread (List.forall_mem_of_forall_mem_cons all)
      exact ⟨kept,mine,all _ (.head _)⟩

theorem step_stands (h : Host) (stands : h.Stands past masks phase p) (taken : p.step action = some next) :
    ∃ masks phase, h.Stands (⟨p,action,next⟩ :: past) masks phase next := by
  cases action with
  | start caller o => exact start_stands h stands taken
  | stop caller back => exact stop_stands h stands taken
  | ioEnds =>
      obtain ⟨rfl,grows,lasting,restored⟩ := stands
      obtain ⟨owner,timed,rfl,rfl⟩ := ioEnds_held _ taken
      exact ⟨masks,.ended owner timed,rfl,grows,lasting,fun thread all => restored thread (List.forall_mem_of_forall_mem_cons all)⟩
  | requestStop =>
      cases taken
      have still : p.requestStop = p := by
        rw [stands.state,requestStop,requestIoStop_held,ite_self]
      rw [still]
      exact ⟨masks,phase,stands.same _⟩

theorem reached_stands (h : Host) (path : Reached DaemonProcess.step h.initial past p) : ∃ masks phase, h.Stands past masks phase p := by
  induction path with
  | start => exact ⟨h.masked,.idle,rfl,Finset.Subset.refl _,nofun,fun _ _ => ⟨rfl,trivial⟩⟩
  | step _ taken ih =>
      obtain ⟨masks,phase,stands⟩ := ih
      exact step_stands h stands taken

variable (h : Host)

theorem own_fresh :
    h.signal ∉ h.fds.opened ∧ (h.stopEvent ≠ h.signal ∧ h.stopEvent ∉ h.fds.opened) ∧
      (h.epoll ≠ h.stopEvent ∧ h.epoll ≠ h.signal ∧ h.epoll ∉ h.fds.opened) ∧
      h.bus ≠ h.epoll ∧ h.bus ≠ h.stopEvent ∧ h.bus ≠ h.signal ∧ h.bus ∉ h.fds.opened := by
  have two := h.fds.alloc.lowest_fresh
  have three := h.fds.alloc.alloc.lowest_fresh
  have four := h.fds.alloc.alloc.alloc.lowest_fresh
  simp only [Descriptors.alloc_opened,not_or] at two three four
  exact ⟨h.fds.lowest_fresh,two,three,four⟩

theorem held_holds (started : phase ≠ .idle) (lasting : phase.timed = true → h.lasts = true) : h.Holds (h.held phase) := by
  obtain ⟨one,two,three,four⟩ := h.own_fresh
  cases phase with
  | idle => exact absurd rfl started
  | running owner timed =>
      have own : (h.held (.running owner timed)).own = [h.signal,h.stopEvent,h.epoll,h.bus] := rfl
      have registered : (h.held (.running owner timed)).registered = [(h.epoll,h.bus),(h.epoll,h.stopEvent),(h.epoll,h.signal)] := rfl
      have opened : (h.held (.running owner timed)).fds.opened = insert h.bus (insert h.epoll (insert h.stopEvent (insert h.signal h.fds.opened))) := rfl
      have watched : (h.held (.running owner timed)).fds.watched =
        insert (h.epoll,h.signal) (insert (h.epoll,h.stopEvent) (insert (h.epoll,h.bus) h.fds.watched)) := rfl
      refine ⟨Finset.mem_insert_self _ _,⟨rfl,decide_eq_true⟩,rfl,lasting,?_,?_,?_,?_,⟨_,rfl,.inl ⟨rfl,rfl⟩⟩⟩
      · rw [own]
        simp [two.1.symm,three.1.symm,three.2.1.symm,four.1.symm,four.2.1.symm,four.2.2.1.symm]
      · rw [own]
        simp [one,two.2,three.2.2,four.2.2.2]
      · rw [own,opened]
        grind [List.mem_toFinset]
      · rw [registered,watched]
        grind [List.mem_toFinset]
  | ended owner timed =>
      have own : (h.held (.ended owner timed)).own = [h.signal,h.stopEvent,h.epoll] := rfl
      have registered : (h.held (.ended owner timed)).registered = [] := rfl
      have opened : (h.held (.ended owner timed)).fds.opened = insert h.epoll (insert h.stopEvent (insert h.signal h.fds.opened)) := rfl
      have watched : (h.held (.ended owner timed)).fds.watched = h.fds.watched := rfl
      refine ⟨Finset.mem_insert_self _ _,⟨rfl,decide_eq_true⟩,rfl,lasting,?_,?_,?_,?_,⟨_,rfl,.inr ⟨rfl,rfl⟩⟩⟩
      · rw [own]
        simp [two.1.symm,three.1.symm,three.2.1.symm]
      · rw [own]
        simp [one,two.2,three.2.2]
      · rw [own,opened]
        grind [List.mem_toFinset]
      · rw [registered,watched]
        simp

theorem held_misused (phase : Phase) : (h.held phase).fds.misused = h.fds.misused := by
  have ground := h.grounded
  have epoll := Descriptors.alloc_keeps ground.epoll
  cases phase with
  | idle | ended => rfl
  | running =>
      have three := Descriptors.watch_open (d := (h.owned.alloc.watch h.epoll h.bus).watch h.epoll h.stopEvent)
        epoll (Descriptors.alloc_keeps ground.signal)
      have two := Descriptors.watch_open (d := h.owned.alloc.watch h.epoll h.bus) epoll (Descriptors.alloc_keeps ground.stop)
      have one := Descriptors.watch_open epoll ((Descriptors.alloc_opened h.owned).mpr (.inl rfl))
      exact three.trans (two.trans one)

-- A start returns what the parts of the daemon come to, or it throws for want of the
-- thread that watches the duration, when they have all come up.
structure Agrees (h : Host) (o : StartOutcomes) (taken : DaemonProcess × Option (Result Unit)) (meant : RuntimeDaemon × Result Unit) : Prop where
  returned : ∀ result, taken.2 = some result → result = meant.2
  threw : taken.2 = none → h.lasts = true ∧ o.durationThread = false ∧ meant.2 = .ok ()
  started : taken.1.started = meant.1.started

theorem taken_agrees (taken : h.Taken caller o outcome meant) : h.Agrees o outcome meant := by
  cases taken with
  | failed kept idle =>
      refine ⟨fun _ same => (Option.some.inj same).symm,(by simp),?_⟩
      rw [RuntimeDaemon.fail,RuntimeDaemon.started,idle]
      rcases kept with rfl | rfl <;> rfl
  | started parts =>
      refine ⟨?_,?_,parts.symm⟩
      · intro result same
        unfold begun at same
        split at same
        · cases same
        · exact (Option.some.inj same).symm
      · intro threw
        unfold begun at threw
        split at threw
        · rename_i missing
          simp only [Bool.and_eq_true,Bool.not_eq_true'] at missing
          exact ⟨missing.1,missing.2,rfl⟩
        · cases threw

-- In any run of starts, however they fail, of stops and of ends of the I/O thread: no
-- call names a descriptor that is not open and none is closed while it is watched. A
-- daemon that is not started has left its process as it found it, but for masks that
-- could not be put back or were asked for on another thread.
theorem resources_returned (unharmed : h.fds.misused = false) (path : Reached DaemonProcess.step h.initial past p) :
    p.fds.misused = false ∧ h.masked ⊆ p.masked ∧ (p.started = false → p = {h.initial with masked := p.masked}) ∧
      (p.started = true → h.Holds p) ∧
      (∀ thread, (∀ m ∈ past, m.action.Restores thread) → p.started = false → p = h.initial) ∧
      ∀ (caller : Nat) (o : StartOutcomes) (daemon : RuntimeDaemon), daemon.config = h.config → daemon.started = p.started →
        h.Agrees o (p.start caller o) (daemon.start (o.environment h.config.canIf)) := by
  obtain ⟨masks,phase,rfl,grows,lasting,restored⟩ := h.reached_stands path
  have stands : (held {h with masked := masks} phase).started = true ↔ phase ≠ .idle := by
    cases phase <;> simp [held,initial,booted,opening]
  have waits (stopped : (held {h with masked := masks} phase).started = false) : phase = .idle := by
    by_contra started
    rw [stands.mpr started] at stopped
    cases stopped
  refine ⟨(held_misused {h with masked := masks} phase).trans unharmed,?_,?_,?_,?_,?_⟩
  · cases phase with
    | idle => exact grows
    | running owner _ | ended owner _ => exact grows.trans (Finset.subset_insert owner masks)
  · intro stopped
    rw [waits stopped]
    rfl
  · intro started
    obtain ⟨up,restores,scheduled,timed,distinct,foreign,opened,watched,serving⟩ :=
      held_holds {h with masked := masks} (stands.mp started) lasting
    exact ⟨up,⟨restores.1,fun before => restores.2 (grows before)⟩,scheduled,timed,distinct,foreign,opened,watched,serving⟩
  · intro thread all stopped
    rw [waits stopped,(restored thread all).1]
    rfl
  · intro caller o daemon same agrees
    by_cases idle : phase = .idle
    · subst idle
      have parts : daemon.parts = none := Option.isNone_iff_eq_none.mp (Option.isSome_eq_false_iff.mp agrees)
      obtain ⟨returned,threw,started⟩ := taken_agrees _ (start_taken {h with masked := masks} caller o daemon same parts)
      exact ⟨returned,threw,started⟩
    · have busy : daemon.started = true := agrees.trans (stands.mpr idle)
      rw [start_busy _ idle,RuntimeDaemon.start,if_pos busy]
      exact ⟨fun _ same => (Option.some.inj same).symm,nofun,agrees.symm⟩

def standardStreams : Host := {config := {},lasts := true,fds := {opened := {0,1,2}},sound := by decide}

def failedThenStarted : List ResourceAction :=
  [.start 1 {bind := .error ⟨.ioError,"bind: No such device"⟩},.start 1 {durationThread := false},.requestStop,.ioEnds]

theorem failedThenStarted_runs : (replay DaemonProcess.step [] standardStreams.initial failedThenStarted).isSome = true := by
  decide +kernel

theorem resources_returned_restarted :
    let p := ((replay DaemonProcess.step [] standardStreams.initial failedThenStarted).get failedThenStarted_runs).2
    p.fds.misused = false ∧ p.started = true ∧ p.duration = false ∧ standardStreams.Holds p ∧ p.own = [3,4,5] := by
  have path := replayed_reached failedThenStarted failedThenStarted_runs
  have returned := standardStreams.resources_returned rfl path
  have started : ((replay DaemonProcess.step [] standardStreams.initial failedThenStarted).get failedThenStarted_runs).2.started = true := by
    decide +kernel
  exact ⟨returned.1,started,by decide +kernel,returned.2.2.2.1 started,by decide +kernel⟩

end Host

end RobotControlRuntime
