import RobotControlRuntime.RemoteFrame

namespace RobotControlRuntime

structure RemoteStatusView where
  observedMonotonicNs : Int64 := -1
  mode : RuntimeModeCode := .unknown
  fault : RuntimeFaultCode := .none
  started : Bool := false
  online : Bool := false
  sessionId : UInt16 := 0
  lastHeartbeatSequence : UInt16 := 0
  heartbeatAgeNs : Int64 := -1
  framesReceived : UInt64 := 0
  framesSent : UInt64 := 0
  decodeRejects : UInt64 := 0
  inputQueueDropCount : UInt64 := 0
  evidence : EvidenceClass := .loopback
  deriving DecidableEq

def remoteStatusWireSize : Nat := 64
def remoteLoopbackEvidenceTag : String := "LOOPBACK"

def RemoteStatusView.fields (status : RemoteStatusView) : List UInt8 :=
  u64Le status.observedMonotonicNs.toUInt64 ++
    [status.mode.raw,status.fault.raw,flagByte status.started,flagByte status.online] ++
    u16Le status.sessionId ++ u16Le status.lastHeartbeatSequence ++ u64Le status.heartbeatAgeNs.toUInt64 ++
    u64Le status.framesReceived ++ u64Le status.framesSent ++ u64Le status.decodeRejects ++
    u64Le status.inputQueueDropCount ++ [status.evidence.raw]

def encodeRemoteStatusPayload (status : RemoteStatusView) : Option (List UInt8) :=
  let out := status.fields ++ List.replicate (remoteStatusWireSize - status.fields.length) 0
  if out.length = remoteStatusWireSize then some out else none

theorem remote_fields_length (status : RemoteStatusView) : status.fields.length = 57 := by
  simp [RemoteStatusView.fields]

theorem remote_status_encodes (status : RemoteStatusView) :
    ∃ payload, encodeRemoteStatusPayload status = some payload ∧ payload.length = remoteStatusWireSize := by
  unfold encodeRemoteStatusPayload
  exact ⟨_,padded_exact (remote_fields_length status) (by decide)⟩

-- `none` is the refusal: the caller's view is left as it was.
def decodeRemoteStatusPayload (payload : List UInt8) : Option RemoteStatusView :=
  if payload.length ≠ remoteStatusWireSize then none
  else some
    {observedMonotonicNs := (readU64Le payload).toInt64
     mode := .ofRaw (byteAt payload 8)
     fault := .ofRaw (byteAt payload 9)
     started := byteAt payload 10 != 0
     online := byteAt payload 11 != 0
     sessionId := readU16Le (payload.drop 12)
     lastHeartbeatSequence := readU16Le (payload.drop 14)
     heartbeatAgeNs := (readU64Le (payload.drop 16)).toInt64
     framesReceived := readU64Le (payload.drop 24)
     framesSent := readU64Le (payload.drop 32)
     decodeRejects := readU64Le (payload.drop 40)
     inputQueueDropCount := readU64Le (payload.drop 48)
     evidence := .ofRaw (byteAt payload 56)}

inductive RemoteSessionState where
  | waitingHello | established | faulted
  deriving DecidableEq, Repr

structure RemoteEndpointCounters where
  framesAccepted : UInt64 := 0
  framesRejected : UInt64 := 0
  hellos : UInt64 := 0
  heartbeats : UInt64 := 0
  statusReplies : UInt64 := 0
  malformed : UInt64 := 0
  deriving DecidableEq

structure RemoteControlEndpoint where
  status : RemoteStatusView := {}
  parser : RemoteFrameParser := {}
  sessionState : RemoteSessionState := .waitingHello
  counters : RemoteEndpointCounters := {}
  heartbeatRepliesEnabled : Bool := true
  lastError : String := ""
  deriving DecidableEq

inductive RemoteCall where
  | pushBytes (inbound : List UInt8)
  | setStatus (status : RemoteStatusView)
  | setHeartbeatRepliesEnabled (enabled : Bool)
  | resetSession
  deriving DecidableEq

namespace RemoteControlEndpoint

def replyFrame (type : RemoteMessageType) (sequence : UInt16) (payload : List UInt8) : RemoteFrame :=
  {type := type,sequence := sequence,payload := payload}

-- The second component of every entry below is what it appends to `outbound`.
-- An error frame that does not encode is not sent.
def replyError (e : RemoteControlEndpoint) (sequence : UInt16) (message : String) : RemoteControlEndpoint × List UInt8 :=
  ({e with lastError := message},((replyFrame .error sequence ([1,0] ++ (text message).take 64)).encode).getD [])

def handleFrame (endpoint : RemoteControlEndpoint) (request : RemoteFrame) : RemoteControlEndpoint × List UInt8 :=
  let e := {endpoint with counters.framesAccepted := endpoint.counters.framesAccepted + 1}
  match request.type with
  | .hello =>
    let e := {e with counters.hellos := e.counters.hellos + 1}
    match (replyFrame .helloAck request.sequence ([RemoteFrame.protocolVersion] ++ text remoteLoopbackEvidenceTag ++ [0])).encode with
    | none => ({e with lastError := "encode HELLO_ACK failed"},[])
    | some wire => ({e with sessionState := .established,lastError := ""},wire)
  | .heartbeat =>
    if e.sessionState ≠ .established then e.replyError request.sequence "HEARTBEAT before HELLO"
    else
      let e := {e with counters.heartbeats := e.counters.heartbeats + 1}
      if e.heartbeatRepliesEnabled = false then (e,[])
      else
        let payload := if request.payload.length = 8 then request.payload else u64Le e.status.observedMonotonicNs.toUInt64
        match (replyFrame .heartbeatAck request.sequence payload).encode with
        | none => ({e with lastError := "encode HEARTBEAT_ACK failed"},[])
        | some wire => (e,wire)
  | .getStatus =>
    if e.sessionState ≠ .established then e.replyError request.sequence "GET_STATUS before HELLO"
    else match encodeRemoteStatusPayload e.status with
      | none => e.replyError request.sequence "status encode failed"
      | some payload =>
        match (replyFrame .status request.sequence payload).encode with
        | none => e.replyError request.sequence "STATUS encode failed"
        | some wire => ({e with counters.statusReplies := e.counters.statusReplies + 1},wire)
  | _ =>
    let e := {e with counters.framesRejected := e.counters.framesRejected + 1}
    e.replyError request.sequence "unsupported message type"

-- A bad frame does not end an established session.
def noteRejected (e : RemoteControlEndpoint) (status : RemoteFrameParseStatus) : RemoteControlEndpoint :=
  {e with
    counters.malformed := e.counters.malformed + 1
    counters.framesRejected := e.counters.framesRejected + 1
    lastError := status.toText}

-- The loop of push_bytes, with the length of the buffer as its fuel.
def drain : Nat → RemoteControlEndpoint → RemoteControlEndpoint × List UInt8
  | 0,e => (e,[])
  | fuel + 1,e =>
    let (parser,status) := e.parser.tryPop
    let e := {e with parser := parser}
    match status with
    | .needMore => (e,[])
    | .ok frame =>
      let (next,out) := e.handleFrame frame
      let (last,more) := drain fuel next
      (last,out ++ more)
    | status => drain fuel (e.noteRejected status)

def pushBytes (e : RemoteControlEndpoint) (inbound : List UInt8) : RemoteControlEndpoint × List UInt8 :=
  let (parser,status) := e.parser.append inbound
  let e := {e with parser := parser}
  if status = .bufferOverflow then
    let e := {e with
      counters.malformed := e.counters.malformed + 1
      lastError := "rx buffer overflow"
      sessionState := .faulted}
    e.replyError 0 e.lastError
  else drain e.parser.buffer.length e

def resetSession (e : RemoteControlEndpoint) : RemoteControlEndpoint := {status := e.status}

def call (e : RemoteControlEndpoint) : RemoteCall → RemoteControlEndpoint × List UInt8
  | .pushBytes inbound => e.pushBytes inbound
  | .setStatus status => ({e with status := status},[])
  | .setHeartbeatRepliesEnabled enabled => ({e with heartbeatRepliesEnabled := enabled},[])
  | .resetSession => (e.resetSession,[])

def calls (e : RemoteControlEndpoint) : List RemoteCall → RemoteControlEndpoint × List UInt8
  | [] => (e,[])
  | next :: rest =>
    let (middle,out) := e.call next
    let (last,more) := middle.calls rest
    (last,out ++ more)

end RemoteControlEndpoint

inductive RemoteInbound where
  | frame (request : RemoteFrame)
  | overflow
  | reset
  deriving DecidableEq

def RemoteFrameParseStatus.accepted : RemoteFrameParseStatus → Option RemoteInbound
  | .ok frame => some (.frame frame)
  | _ => none

def RemoteFrameParser.hears (p : RemoteFrameParser) : RemoteCall → RemoteFrameParser × List RemoteInbound
  | .pushBytes inbound =>
    match p.append inbound with
    | (cleared,.bufferOverflow) => (cleared,[.overflow])
    | (held,_) =>
      let (next,popped) := held.popAll held.buffer.length
      (next,popped.filterMap (·.accepted))
  | .resetSession => ({},[.reset])
  | .setStatus _ => (p,[])
  | .setHeartbeatRepliesEnabled _ => (p,[])

def RemoteFrameParser.received (p : RemoteFrameParser) : List RemoteCall → List RemoteInbound
  | [] => []
  | next :: rest => (p.hears next).2 ++ (p.hears next).1.received rest

structure RemoteEntry where
  inbound : RemoteInbound
  reply : Option RemoteFrame

namespace RemoteSession

-- The session as it is meant: HELLO opens it, a reset or an overflow closes it, and
-- only an open one is served. Every reply carries the sequence of its request.
inductive Step : Bool → RemoteEntry → Bool → Prop where
  | reset : Step opened ⟨.reset,none⟩ false
  | overflow : reply.type = .error → Step opened ⟨.overflow,some reply⟩ false
  | hello : request.type = .hello → reply.type = .helloAck → reply.sequence = request.sequence →
      Step opened ⟨.frame request,some reply⟩ true
  | silent : Step true ⟨.frame request,none⟩ true
  | refused : reply.type = .error → reply.sequence = request.sequence → Step opened ⟨.frame request,some reply⟩ opened
  | served : reply.type = .status ∨ reply.type = .heartbeatAck → reply.sequence = request.sequence →
      Step true ⟨.frame request,some reply⟩ true

inductive Runs : Bool → List RemoteEntry → Bool → Prop where
  | nil : Runs opened [] opened
  | cons : Step opened entry middle → Runs middle rest final → Runs opened (entry :: rest) final

theorem runs_append (one : Runs opened entries middle) (two : Runs middle more final) : Runs opened (entries ++ more) final := by
  induction one with
  | nil => exact two
  | cons step _ ih => exact .cons step (ih two)

theorem runs_split (runs : Runs opened (before ++ entry :: after) final) :
    ∃ middle next, Runs opened before middle ∧ Step middle entry next := by
  induction before generalizing opened with
  | nil =>
      cases runs with
      | cons step _ => exact ⟨opened,_,.nil,step⟩
  | cons first before ih =>
      cases runs with
      | cons step rest =>
          obtain ⟨middle,next,reached,last⟩ := ih rest
          exact ⟨middle,next,.cons step reached,last⟩

def Greeted (record : List RemoteInbound) : Prop :=
  ∃ older hello newer, record = older ++ .frame hello :: newer ∧ hello.type = .hello ∧ .reset ∉ newer ∧ .overflow ∉ newer

theorem greeted_cons (first : RemoteInbound) (greeted : Greeted record) : Greeted (first :: record) := by
  obtain ⟨older,hello,newer,rfl,rest⟩ := greeted
  exact ⟨first :: older,hello,newer,rfl,rest⟩

theorem runs_greeted (runs : Runs opened entries final) (live : final = true) :
    opened = true ∧ .reset ∉ entries.map (·.inbound) ∧ .overflow ∉ entries.map (·.inbound) ∨
      Greeted (entries.map (·.inbound)) := by
  induction runs with
  | nil => exact .inl ⟨live,List.not_mem_nil,List.not_mem_nil⟩
  | @cons opened entry middle rest final step _ ih =>
      rcases ih live with ⟨onward,noReset,noOverflow⟩ | greeted
      · have clean (request : RemoteFrame) (same : entry.inbound = .frame request) :
            .reset ∉ (entry :: rest).map (·.inbound) ∧ .overflow ∉ (entry :: rest).map (·.inbound) := by
          simp [same,noReset,noOverflow]
        cases step with
        | reset => cases onward
        | overflow _ => cases onward
        | hello greets _ _ => exact .inr ⟨[],_,_,rfl,greets,noReset,noOverflow⟩
        | silent => exact .inl ⟨rfl,clean _ rfl⟩
        | refused _ _ => exact .inl ⟨onward,clean _ rfl⟩
        | served _ _ => exact .inl ⟨rfl,clean _ rfl⟩
      · exact .inr (greeted_cons _ greeted)

end RemoteSession

namespace RemoteControlEndpoint
open RemoteSession

def opened (e : RemoteControlEndpoint) : Bool := e.sessionState == .established

def sent (entry : RemoteEntry) : List UInt8 := (entry.reply.map remoteWire).getD []

-- Some entries stand for what the endpoint did: they are the record of a session, and
-- their replies encode to exactly the bytes appended to `outbound`.
structure Recorded (before : Bool) (arrived : List RemoteInbound) (after : Bool) (outbound : List UInt8)
    (entries : List RemoteEntry) : Prop where
  listed : entries.map (·.inbound) = arrived
  bytes : outbound = entries.flatMap sent
  encodes : ∀ entry ∈ entries, ∀ frame, entry.reply = some frame → frame.encode.isSome
  runs : Runs before entries after

theorem recorded_nil : Recorded before [] before [] [] :=
  ⟨rfl,rfl,fun _ present => absurd present List.not_mem_nil,.nil⟩

theorem Recorded.append (one : Recorded before arrived middle out entries) (two : Recorded middle later after more others) :
    Recorded before (arrived ++ later) after (out ++ more) (entries ++ others) := by
  refine ⟨?_,?_,?_,runs_append one.runs two.runs⟩
  · rw [List.map_append,one.listed,two.listed]
  · rw [List.flatMap_append,one.bytes,two.bytes]
  · intro entry listed
    rcases List.mem_append.mp listed with first | second
    · exact one.encodes entry first
    · exact two.encodes entry second

theorem reply_encodes (type : RemoteMessageType) (sequence : UInt16) (payload : List UInt8)
    (fits : payload.length ≤ RemoteFrame.maxPayloadSize) :
    (replyFrame type sequence payload).encode = some (remoteWire (replyFrame type sequence payload)) := by
  have encoded : ∃ wire, (replyFrame type sequence payload).encode = some wire :=
    ⟨_,(if_neg (Nat.not_lt.mpr fits)).trans (if_neg (not_not_intro rfl))⟩
  obtain ⟨wire,encoded⟩ := encoded
  rw [remoteWire,encoded]
  rfl

theorem error_fits (message : String) : ([1,0] ++ (text message).take 64).length ≤ RemoteFrame.maxPayloadSize := by
  simp [RemoteFrame.maxPayloadSize]
  omega

theorem recorded_reply (frame : RemoteFrame) (encoded : frame.encode = some (remoteWire frame))
    (step : Step before ⟨arrived,some frame⟩ after) :
    Recorded before [arrived] after (remoteWire frame) [⟨arrived,some frame⟩] := by
  refine ⟨rfl,by simp [sent],?_,.cons step .nil⟩
  intro entry listed other same
  cases List.mem_singleton.mp listed
  cases same
  rw [encoded]
  rfl

theorem recorded_silent (step : Step before ⟨arrived,none⟩ after) : Recorded before [arrived] after [] [⟨arrived,none⟩] := by
  refine ⟨rfl,rfl,?_,.cons step .nil⟩
  intro entry listed frame same
  cases List.mem_singleton.mp listed
  cases same

theorem recorded_error (e : RemoteControlEndpoint) (sequence : UInt16) (message : String)
    (step : ∀ frame : RemoteFrame, frame.type = .error → frame.sequence = sequence →
      Step before ⟨arrived,some frame⟩ after) :
    ∃ entries, Recorded before [arrived] after (e.replyError sequence message).2 entries := by
  have encoded := reply_encodes .error sequence _ (error_fits message)
  rw [replyError,encoded]
  exact ⟨_,recorded_reply _ encoded (step _ rfl rfl)⟩

theorem refused_recorded (e : RemoteControlEndpoint) (request : RemoteFrame) (message : String) :
    ∃ entries, Recorded e.opened [.frame request] e.opened (e.replyError request.sequence message).2 entries :=
  recorded_error e request.sequence message fun _ kind sequence => .refused kind sequence

theorem served_recorded {type : RemoteMessageType} (request : RemoteFrame) (kind : type = .status ∨ type = .heartbeatAck)
    (fits : payload.length ≤ RemoteFrame.maxPayloadSize) :
    Recorded true [.frame request] true (remoteWire (replyFrame type request.sequence payload))
      [⟨.frame request,some (replyFrame type request.sequence payload)⟩] :=
  recorded_reply _ (reply_encodes type request.sequence payload fits) (.served kind rfl)

theorem handle_recorded (e : RemoteControlEndpoint) (request : RemoteFrame) :
    ∃ entries, Recorded e.opened [.frame request] (e.handleFrame request).1.opened (e.handleFrame request).2 entries := by
  cases kind : request.type with
  | hello =>
      have encoded := reply_encodes .helloAck request.sequence
        ([RemoteFrame.protocolVersion] ++ text remoteLoopbackEvidenceTag ++ [0]) (by decide)
      simp only [handleFrame,kind,encoded]
      exact ⟨_,recorded_reply _ encoded (.hello kind rfl rfl)⟩
  | heartbeat =>
      simp only [handleFrame,kind]
      by_cases waiting : e.sessionState ≠ .established
      · rw [if_pos waiting]
        exact refused_recorded _ request _
      have live := not_not.mp waiting
      rw [if_neg waiting]
      by_cases muted : e.heartbeatRepliesEnabled = false
      · simp only [if_pos muted,opened,live]
        exact ⟨_,recorded_silent .silent⟩
      have fits : (if request.payload.length = 8 then request.payload else u64Le e.status.observedMonotonicNs.toUInt64).length ≤
          RemoteFrame.maxPayloadSize := by
        split
        · rename_i eight
          rw [eight]
          decide
        · rw [u64_length]
          decide
      rw [if_neg muted,reply_encodes .heartbeatAck request.sequence _ fits]
      simp only [opened,live]
      exact ⟨_,served_recorded request (.inr rfl) fits⟩
  | getStatus =>
      simp only [handleFrame,kind]
      by_cases waiting : e.sessionState ≠ .established
      · rw [if_pos waiting]
        exact refused_recorded _ request _
      have live := not_not.mp waiting
      obtain ⟨payload,encoded,length⟩ := remote_status_encodes e.status
      have fits : payload.length ≤ RemoteFrame.maxPayloadSize := by
        rw [length]
        decide
      rw [if_neg waiting]
      simp only [encoded,reply_encodes .status request.sequence payload fits,opened,live]
      exact ⟨_,served_recorded request (.inl rfl) fits⟩
  | _ =>
      simp only [handleFrame,kind]
      exact refused_recorded _ request _

theorem handle_keeps_buffer (e : RemoteControlEndpoint) (request : RemoteFrame) : (e.handleFrame request).1.parser = e.parser := by
  unfold handleFrame
  dsimp only
  repeat' split
  all_goals rfl

theorem drain_recorded (fuel : Nat) (e : RemoteControlEndpoint) :
    (drain fuel e).1.parser = (e.parser.popAll fuel).1 ∧
      ∃ entries, Recorded e.opened ((e.parser.popAll fuel).2.filterMap (·.accepted)) (drain fuel e).1.opened
        (drain fuel e).2 entries := by
  induction fuel generalizing e with
  | zero => exact ⟨rfl,[],recorded_nil⟩
  | succ fuel ih =>
      unfold drain RemoteFrameParser.popAll
      cases popped : e.parser.tryPop with
      | mk parser status =>
          cases status with
          | needMore => exact ⟨rfl,[],recorded_nil⟩
          | ok frame =>
              obtain ⟨first,recorded⟩ := handle_recorded {e with parser := parser} frame
              have kept := handle_keeps_buffer {e with parser := parser} frame
              obtain ⟨same,later,rest⟩ := ih ({e with parser := parser}.handleFrame frame).1
              rw [kept] at same rest
              exact ⟨same,first ++ later,recorded.append rest⟩
          | _ => exact ih (noteRejected {e with parser := parser} _)

theorem push_recorded (e : RemoteControlEndpoint) (inbound : List UInt8) :
    (e.pushBytes inbound).1.parser = (e.parser.hears (.pushBytes inbound)).1 ∧
      ∃ entries, Recorded e.opened (e.parser.hears (.pushBytes inbound)).2 (e.pushBytes inbound).1.opened
        (e.pushBytes inbound).2 entries := by
  simp only [pushBytes,RemoteFrameParser.hears]
  cases appended : e.parser.append inbound with
  | mk parser status =>
      cases status with
      | bufferOverflow => exact ⟨rfl,recorded_error _ 0 _ fun _ kind _ => .overflow kind⟩
      | _ => exact drain_recorded parser.buffer.length {e with parser := parser}

theorem call_recorded (e : RemoteControlEndpoint) (next : RemoteCall) :
    (e.call next).1.parser = (e.parser.hears next).1 ∧
      ∃ entries, Recorded e.opened (e.parser.hears next).2 (e.call next).1.opened (e.call next).2 entries := by
  cases next with
  | pushBytes inbound => exact push_recorded e inbound
  | setStatus status => exact ⟨rfl,[],recorded_nil⟩
  | setHeartbeatRepliesEnabled enabled => exact ⟨rfl,[],recorded_nil⟩
  | resetSession => exact ⟨rfl,_,recorded_silent .reset⟩

theorem calls_recorded (e : RemoteControlEndpoint) (history : List RemoteCall) :
    ∃ entries, Recorded e.opened (e.parser.received history) (e.calls history).1.opened (e.calls history).2 entries := by
  induction history generalizing e with
  | nil => exact ⟨[],recorded_nil⟩
  | cons next rest ih =>
      obtain ⟨parser,entries,recorded⟩ := call_recorded e next
      obtain ⟨later,onward⟩ := ih (e.call next).1
      rw [parser] at onward
      exact ⟨entries ++ later,recorded.append onward⟩

theorem step_reply (step : Step before entry after) (answered : entry.reply = some frame) :
    frame.type ∈ [.helloAck,.heartbeatAck,.status,.error] ∧
      (∀ request, entry.inbound = .frame request → frame.sequence = request.sequence) ∧
      (frame.type = .status ∨ frame.type = .heartbeatAck → before = true) := by
  cases step with
  | reset => cases answered
  | silent => cases answered
  | overflow kind =>
      cases answered
      exact ⟨by simp [kind],nofun,by simp [kind]⟩
  | hello _ kind sequence =>
      cases answered
      exact ⟨by simp [kind],fun _ same => by cases same; exact sequence,by simp [kind]⟩
  | refused kind sequence =>
      cases answered
      exact ⟨by simp [kind],fun _ same => by cases same; exact sequence,by simp [kind]⟩
  | served kind sequence =>
      cases answered
      exact ⟨by rcases kind with kind | kind <;> simp [kind],fun _ same => by cases same; exact sequence,fun _ => rfl⟩

theorem session_gated (history : List RemoteCall) :
    ∃ entries : List RemoteEntry,
      entries.map (·.inbound) = ({} : RemoteFrameParser).received history ∧
      (calls {} history).2 = entries.flatMap sent ∧
      (∀ entry ∈ entries, ∀ frame, entry.reply = some frame →
        frame.encode.isSome ∧ frame.type ∈ [.helloAck,.heartbeatAck,.status,.error] ∧
          ∀ request, entry.inbound = .frame request → frame.sequence = request.sequence) ∧
      ∀ before entry after frame, entries = before ++ entry :: after → entry.reply = some frame →
        frame.type = .status ∨ frame.type = .heartbeatAck → Greeted (before.map (·.inbound)) := by
  obtain ⟨entries,recorded⟩ := calls_recorded {} history
  refine ⟨entries,recorded.listed,recorded.bytes,?_,?_⟩
  · intro entry listed frame answered
    obtain ⟨older,newer,rfl⟩ := List.append_of_mem listed
    obtain ⟨_,_,_,step⟩ := runs_split recorded.runs
    obtain ⟨kind,sequence,_⟩ := step_reply step answered
    exact ⟨recorded.encodes entry listed frame answered,kind,sequence⟩
  · intro before entry after frame split answered served
    subst split
    obtain ⟨middle,_,reached,step⟩ := runs_split recorded.runs
    have live := (step_reply step answered).2.2 served
    rcases runs_greeted reached live with ⟨opened,_⟩ | greeted
    · cases opened
    · exact greeted

end RemoteControlEndpoint

end RobotControlRuntime
