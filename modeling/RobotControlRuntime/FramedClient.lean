import RobotControlRuntime.FrameFormat
import RobotControlRuntime.Library.StepHistory

namespace RobotControlRuntime
open FrameStream StepHistory

-- The two TCP clients share their exchange. They differ in their frames and
-- errors, in whether a failed call closes the connection, and in whether there is
-- a reconnect (then `noPeer` is its error before the first connect).
structure ClientProfile (Message : Type) where
  format : FrameFormat Message
  errorType : Message
  notConnected : Error
  encodeFailed : Error
  returnedError : Error
  unexpected : Error
  disconnects : Bool
  noPeer : Option Error

-- A connection from outside: the requests the client has written, the replies
-- the peer has given to them in order, and the reply bytes still on their way.
structure Connection (Message : Type) where
  requests : List (WireFrame Message) := []
  replies : List (WireFrame Message) := []
  incoming : List UInt8 := []

-- A call that waits in read_frame. `index` is the place of its request on the
-- connection; the code knows neither.
structure PendingCall (Message : Type) where
  request : WireFrame Message
  index : Nat
  ack : Message
  buffer : List UInt8 := []

structure FramedClient (Message : Type) where
  connection : Option (Connection Message) := none
  nextSequence : UInt16 := 1
  call : Option (PendingCall Message) := none
  host : List UInt8 := []
  port : UInt16 := 0

-- One call of exchange is `exchange`, any number of `receive`, and possibly a
-- `giveUp` for its timeout or a socket error. `answer` is the peer's.
inductive ClientAction (Message : Type) where
  | connect (host : List UInt8) (port : UInt16) (result : Result Unit)
  | reconnect (result : Result Unit)
  | disconnect
  | exchange (request ack : Message) (payload : List UInt8) (sent : Result Unit)
  | answer (reply : WireFrame Message)
  | receive (count : Nat)
  | giveUp (error : Error)

namespace FramedClient
variable {Message : Type}

section Exchange
variable [DecidableEq Message] (profile : ClientProfile Message)

def opened (c : FramedClient Message) (host : List UInt8) (port : UInt16) (result : Result Unit) : FramedClient Message :=
  {c with
    host := host
    port := port
    connection := match result with
      | .ok () => some {}
      | .error _ => none}

def failed (c : FramedClient Message) : FramedClient Message :=
  {c with call := none,connection := if profile.disconnects then none else c.connection}

def conclude (c : FramedClient Message) (ack : Message) (raw : List UInt8) :
    FramedClient Message × Result (WireFrame Message) :=
  match profile.format.tryDecode raw with
  | .error error => (c.failed profile,.error error)
  | .ok (frame,_) =>
    if frame.type = profile.errorType then ({c with call := none},.error profile.returnedError)
    else if frame.type ≠ ack then (c.failed profile,.error profile.unexpected)
    else ({c with call := none},.ok frame)

-- One turn of read_frame's loop. Bytes after the first frame are dropped.
def received (c : FramedClient Message) (call : PendingCall Message) (bytes : List UInt8) :
    FramedClient Message × Option (Result (WireFrame Message)) :=
  let buffer := call.buffer ++ bytes
  match profile.format.tryDecode buffer with
  | .error error =>
    if error.code = .wouldBlock then ({c with call := some {call with buffer := buffer}},none)
    else (c.failed profile,some (.error error))
  | .ok (_,consumed) =>
    let (next,result) := c.conclude profile call.ack (buffer.take consumed)
    (next,some result)

def act (c : FramedClient Message) :
    ClientAction Message → Option (FramedClient Message × Option (Result (WireFrame Message)))
  | .connect host port result => if c.call.isSome then none else some (c.opened host port result,none)
  | .reconnect result =>
    if c.call.isSome ∨ profile.noPeer = none then none
    else if c.host = [] ∨ c.port = 0 then some (c,none)
    else some (c.opened c.host c.port result,none)
  | .disconnect => some ({c with connection := none},none)
  | .exchange type ack payload sent =>
    if c.call.isSome then none
    else match c.connection with
      | none => some (c,some (.error profile.notConnected))
      | some link =>
        let request : WireFrame Message := ⟨type,c.nextSequence,payload⟩
        let next := {c with nextSequence := c.nextSequence + 1}
        match profile.format.encode request with
        | none => some (next,some (.error profile.encodeFailed))
        | some _ =>
          match sent with
          | .error error => some (next.failed profile,some (.error error))
          | .ok () =>
            some ({next with
              connection := some {link with requests := link.requests ++ [request]}
              call := some ⟨request,link.requests.length,ack,[]⟩},none)
  | .answer reply =>
    match c.connection with
    | none => none
    | some link =>
      match link.requests[link.replies.length]?,profile.format.encode reply with
      | some request,some wire =>
        let answered := {link with replies := link.replies ++ [reply],incoming := link.incoming ++ wire}
        if reply.sequence = request.sequence then some ({c with connection := some answered},none) else none
      | _,_ => none
  | .receive count =>
    match c.call,c.connection with
    | some call,some link =>
      if count = 0 ∨ 256 < count ∨ link.incoming.length < count then none
      else some (({c with connection := some {link with incoming := link.incoming.drop count}} :
        FramedClient Message).received profile call (link.incoming.take count))
    | _,_ => none
  | .giveUp error => if c.call.isSome then some (c.failed profile,some (.error error)) else none

def step (c : FramedClient Message) (action : ClientAction Message) : Option (FramedClient Message) :=
  (c.act profile action).map (·.1)

def returned (c : FramedClient Message) (action : ClientAction Message) : Option (Result (WireFrame Message)) :=
  (c.act profile action).bind (·.2)

abbrev ClientMoment (Message : Type) := Moment (FramedClient Message) (ClientAction Message)

def Attributed (m : ClientMoment Message) : Prop :=
  ∀ frame, m.before.returned profile m.action = some (.ok frame) →
    ∃ call link, m.before.call = some call ∧ m.before.connection = some link ∧
      link.requests[call.index]? = some call.request ∧ link.replies[call.index]? = some frame ∧
      frame.sequence = call.request.sequence

end Exchange

def Opens (m : ClientMoment Message) : Prop :=
  match m.action with
  | .connect _ _ _ => True
  | .reconnect _ => ¬ (m.before.host = [] ∨ m.before.port = 0)
  | _ => False

def GivesUp (m : ClientMoment Message) : Prop :=
  match m.action with
  | .giveUp _ => True
  | .exchange _ _ payload (.error _) => m.before.connection ≠ none ∧ payload.length ≤ FrameFormat.maxPayload
  | _ => False

def Abandoned : List (ClientMoment Message) → Prop := Since (fun m => ¬ Opens m) fun m _ => GivesUp m

def Starts (m : ClientMoment Message) : Prop := m.before.call = none ∧ m.after.call ≠ none

def StartsClean (m : ClientMoment Message) (past : List (ClientMoment Message)) : Prop := Starts m → ¬ Abandoned past

instance (m : ClientMoment Message) : Decidable (Opens m) := by
  unfold Opens
  split <;> infer_instance

instance (m : ClientMoment Message) : Decidable (GivesUp m) := by
  unfold GivesUp
  split <;> infer_instance

instance (past : List (ClientMoment Message)) : Decidable (Abandoned past) := decidableSince _ _ past

instance (m : ClientMoment Message) : Decidable (Starts m) := inferInstanceAs (Decidable (_ ∧ _))

instance (m : ClientMoment Message) (past : List (ClientMoment Message)) : Decidable (StartsClean m past) :=
  inferInstanceAs (Decidable (Starts m → ¬ Abandoned past))

section Step
variable [DecidableEq Message]

inductive Acts (profile : ClientProfile Message) (c : FramedClient Message) :
    ClientAction Message → FramedClient Message → Option (Result (WireFrame Message)) → Prop where
  | connected {host : List UInt8} {port : UInt16} (idle : c.call = none) :
      Acts profile c (.connect host port outcome) (c.opened host port outcome) none
  | unknownPeer (missing : c.host = [] ∨ c.port = 0) : Acts profile c (.reconnect outcome) c none
  | reconnected (idle : c.call = none) (known : ¬ (c.host = [] ∨ c.port = 0)) :
      Acts profile c (.reconnect outcome) (c.opened c.host c.port outcome) none
  | disconnected : Acts profile c .disconnect {c with connection := none} none
  | closed (idle : c.call = none) (none : c.connection = none) :
      Acts profile c (.exchange type expected payload sent) c (some (.error profile.notConnected))
  | oversized (idle : c.call = none) (large : FrameFormat.maxPayload < payload.length) :
      Acts profile c (.exchange type expected payload sent) {c with nextSequence := c.nextSequence + 1}
        (some (.error profile.encodeFailed))
  | unsent (idle : c.call = none) (live : c.connection ≠ none) (fits : payload.length ≤ FrameFormat.maxPayload) :
      Acts profile c (.exchange type expected payload (.error error))
        (({c with nextSequence := c.nextSequence + 1} : FramedClient Message).failed profile) (some (.error error))
  | sent (idle : c.call = none) (live : c.connection = some link) :
      Acts profile c (.exchange type expected payload (.ok ()))
        {c with
          nextSequence := c.nextSequence + 1
          connection := some {link with requests := link.requests ++ [⟨type,c.nextSequence,payload⟩]}
          call := some ⟨⟨type,c.nextSequence,payload⟩,link.requests.length,expected,[]⟩} none
  | answered (live : c.connection = some link) (unanswered : link.requests[link.replies.length]? = some request)
      (encoded : profile.format.encode reply = some wire) (same : reply.sequence = request.sequence) :
      Acts profile c (.answer reply)
        {c with connection := some {link with replies := link.replies ++ [reply],incoming := link.incoming ++ wire}} none
  | received {call : PendingCall Message} {link : Connection Message} {count : Nat} {next : FramedClient Message}
      {result : Option (Result (WireFrame Message))} (calling : c.call = some call) (live : c.connection = some link)
      (some : count ≠ 0)
      (inside : count ≤ link.incoming.length)
      (got : ({c with connection := .some {link with incoming := link.incoming.drop count}} :
        FramedClient Message).received profile call (link.incoming.take count) = (next,result)) :
      Acts profile c (.receive count) next result
  | gaveUp (calling : c.call ≠ none) : Acts profile c (.giveUp error) (c.failed profile) (some (.error error))

variable {profile : ClientProfile Message} {c next : FramedClient Message} {action : ClientAction Message}
  {result : Option (Result (WireFrame Message))}

theorem act_exact (taken : c.act profile action = some (next,result)) : Acts profile c action next result := by
  cases action with
  | connect host port outcome =>
      simp only [act] at taken
      split at taken
      · cases taken
      · rename_i idle
        cases taken
        exact .connected (by simpa using idle)
  | reconnect outcome =>
      simp only [act] at taken
      split at taken
      · cases taken
      · rename_i idle
        split at taken
        · rename_i missing
          cases taken
          exact .unknownPeer missing
        · rename_i known
          cases taken
          exact .reconnected (by simpa using (not_or.mp idle).1) known
  | disconnect =>
      cases taken
      exact .disconnected
  | exchange type ack payload sent =>
      simp only [act] at taken
      split at taken
      · cases taken
      · rename_i idle
        have idle : c.call = none := by simpa using idle
        obtain ⟨connection,nextSequence,call,host,port⟩ := c
        cases connection with
        | none =>
            cases taken
            exact .closed idle rfl
        | some link =>
            by_cases large : FrameFormat.maxPayload < payload.length
            · simp only [FrameFormat.encode,if_pos large] at taken
              cases taken
              exact .oversized idle large
            · simp only [FrameFormat.encode,if_neg large] at taken
              cases sent with
              | error error =>
                  cases taken
                  exact .unsent idle (by simp) (Nat.not_lt.mp large)
              | ok _ =>
                  cases taken
                  exact .sent idle rfl
  | answer reply =>
      cases live : c.connection with
      | none => simp [act,live] at taken
      | some link =>
          simp only [act,live] at taken
          split at taken
          · rename_i request wire unanswered encoded
            split at taken
            · rename_i same
              cases taken
              exact .answered live unanswered encoded same
            · cases taken
          · cases taken
  | receive count =>
      simp only [act] at taken
      split at taken
      · rename_i call link calling live
        split at taken
        · cases taken
        · rename_i sized
          simp only [not_or] at sized
          exact .received calling live sized.1 (by omega) (Option.some.inj taken)
      · cases taken
  | giveUp error =>
      simp only [act] at taken
      split at taken
      · rename_i calling
        cases taken
        exact .gaveUp (by simpa [Option.isSome_iff_ne_none] using calling)
      · cases taken

theorem received_part {call : PendingCall Message} (encoded : profile.format.encode reply = some wire)
    (split : call.buffer ++ bytes ++ rest = wire) (missing : rest ≠ []) :
    c.received profile call bytes = ({c with call := some {call with buffer := call.buffer ++ bytes}},none) := by
  have whole := FrameFormat.decode_encoded encoded
  rw [← split] at whole
  obtain ⟨reason,judged,waiting⟩ := Decoder.prefix_waits (d := profile.format.codec.toDecoder) whole missing
  have judged : profile.format.tryDecode (call.buffer ++ bytes) = .error reason := judged
  have code : reason.code = .wouldBlock := by simpa [FrameFormat.codec] using waiting
  simp only [received,judged,code,if_true]

theorem conclude_exact (ack : Message) (decoded : profile.format.tryDecode wire = .ok (reply,n)) :
    (c.conclude profile ack wire).1.call = none ∧
      ((c.conclude profile ack wire).1.connection = c.connection ∨ (c.conclude profile ack wire).1.connection = none) ∧
      ∀ frame, (c.conclude profile ack wire).2 = .ok frame → frame = reply := by
  simp only [conclude,decoded]
  split
  · exact ⟨rfl,.inl rfl,nofun⟩
  · split
    · refine ⟨rfl,?_,nofun⟩
      simp only [failed]
      split
      · exact .inr rfl
      · exact .inl rfl
    · refine ⟨rfl,.inl rfl,fun frame same => ?_⟩
      cases same
      rfl

theorem received_last {call : PendingCall Message} (encoded : profile.format.encode reply = some wire)
    (split : call.buffer ++ bytes = wire) :
    ∃ next result, c.received profile call bytes = (next,some result) ∧ next.call = none ∧
      (next.connection = c.connection ∨ next.connection = none) ∧ ∀ frame, result = .ok frame → frame = reply := by
  have whole := FrameFormat.decode_encoded encoded
  have exactly := conclude_exact (c := c) call.ack whole
  refine ⟨(c.conclude profile call.ack wire).1,(c.conclude profile call.ack wire).2,?_,exactly⟩
  simp only [received,split,whole,List.take_length]

theorem received_own {call : PendingCall Message} (encoded : profile.format.encode reply = some wire)
    (split : call.buffer ++ bytes = wire) (typed : reply.type = call.ack) (accepted : call.ack ≠ profile.errorType) :
    c.received profile call bytes = ({c with call := none},some (.ok reply)) := by
  have whole := FrameFormat.decode_encoded encoded
  simp only [received,conclude,split,whole,List.take_length,typed,accepted,if_false,ne_eq,not_true_eq_false]

end Step

structure Linked (link : Connection Message) : Prop where
  behind : link.replies.length ≤ link.requests.length
  paired : ∀ (i : Nat) (reply : WireFrame Message), link.replies[i]? = some reply →
    ∃ request, link.requests[i]? = some request ∧ reply.sequence = request.sequence

-- What the client's own state says about the bytes of its connection. Between
-- calls nothing is on its way unless a call has been given up on it.
structure Reading (profile : ClientProfile Message) (call : PendingCall Message) (link : Connection Message) : Prop where
  last : link.requests.length = call.index + 1
  own : link.requests[call.index]? = some call.request
  bytes : (link.replies.length = call.index ∧ call.buffer = [] ∧ link.incoming = []) ∨
    ∃ reply wire, link.replies.length = call.index + 1 ∧ link.replies[call.index]? = some reply ∧
      profile.format.encode reply = some wire ∧ call.buffer ++ link.incoming = wire

structure ClientInvariant (profile : ClientProfile Message) (past : List (ClientMoment Message))
    (c : FramedClient Message) : Prop where
  linked : ∀ link, c.connection = some link → Linked link
  idle : c.call = none → ∀ link, c.connection = some link → ¬ Abandoned past →
    link.replies.length = link.requests.length ∧ link.incoming = []
  reading : ∀ call link, c.call = some call → c.connection = some link → Reading profile call link

theorem initial_client (profile : ClientProfile Message) : ClientInvariant profile [] ({} : FramedClient Message) := by
  refine ⟨?_,?_,?_⟩
  · intro link live
    cases live
  · intro _ link live
    cases live
  · intro call link calling
    cases calling

theorem linked_answered (linked : Linked link) (unanswered : link.requests[link.replies.length]? = some request)
    (same : reply.sequence = request.sequence) (incoming : List UInt8) :
    Linked ({link with replies := link.replies ++ [reply],incoming := incoming} : Connection Message) := by
  have room := (List.getElem?_eq_some_iff.mp unanswered).1
  refine ⟨by simpa using Nat.succ_le_of_lt room,fun i other found => ?_⟩
  rcases Nat.lt_or_ge i link.replies.length with older | newer
  · rw [List.getElem?_append_left older] at found
    exact linked.paired i other found
  · obtain ⟨k,rfl⟩ := Nat.exists_eq_add_of_le newer
    rw [List.getElem?_append_right newer,Nat.add_sub_cancel_left] at found
    cases k with
    | zero =>
        cases found
        exact ⟨request,unanswered,same⟩
    | succ k => simp at found

theorem linked_sent (linked : Linked link) (request : WireFrame Message) :
    Linked ({link with requests := link.requests ++ [request]} : Connection Message) := by
  refine ⟨by simpa using Nat.le_succ_of_le linked.behind,fun i reply found => ?_⟩
  obtain ⟨own,listed,same⟩ := linked.paired i reply found
  exact ⟨own,(List.getElem?_append_left (List.getElem?_eq_some_iff.mp listed).1).trans listed,same⟩

theorem reading_answered {profile : ClientProfile Message} {call : PendingCall Message}
    (reading : Reading profile call link) (unanswered : link.requests[link.replies.length]? = some request)
    (encoded : profile.format.encode reply = some wire) :
    Reading profile call {link with replies := link.replies ++ [reply],incoming := link.incoming ++ wire} := by
  have room := (List.getElem?_eq_some_iff.mp unanswered).1
  obtain ⟨last,own,bytes⟩ := reading
  rcases bytes with ⟨behind,empty,quiet⟩ | ⟨_,_,answered,_⟩
  · refine ⟨last,own,.inr ⟨reply,wire,by simp [behind],?_,encoded,by simp [empty,quiet]⟩⟩
    rw [← behind]
    exact List.getElem?_concat_length
  · omega

theorem gives_exchange {c next : FramedClient Message} (gives : GivesUp ⟨c,.exchange type expected payload sent,next⟩) :
    c.connection ≠ none ∧ payload.length ≤ FrameFormat.maxPayload := by
  cases sent with
  | ok _ => exact gives.elim
  | error _ => exact gives

section Moves
variable {profile : ClientProfile Message} {c next : FramedClient Message} {m : ClientMoment Message}
  {past : List (ClientMoment Message)}

theorem cut_client (gone : next.connection = none) : ClientInvariant profile past next := by
  refine ⟨?_,?_,?_⟩
  · intro link live
    cases gone.symm.trans live
  · intro _ link live
    cases gone.symm.trans live
  · intro call link _ live
    cases gone.symm.trans live

theorem opened_client (idle : c.call = none) (host : List UInt8) (port : UInt16) (outcome : Result Unit) :
    ClientInvariant profile past (c.opened host port outcome) := by
  cases outcome with
  | error error => exact cut_client rfl
  | ok _ =>
      refine ⟨?_,?_,?_⟩
      · intro link live
        cases live
        exact ⟨Nat.le_refl _,fun i reply found => by cases found⟩
      · intro _ link live _
        cases live
        exact ⟨rfl,rfl⟩
      · intro call link calling
        cases idle.symm.trans calling

theorem quiet_client (invariant : ClientInvariant profile past c) (connection : next.connection = c.connection)
    (call : next.call = c.call) (still : ¬ Opens m) : ClientInvariant profile (m :: past) next := by
  refine ⟨?_,?_,?_⟩
  · rw [connection]
    exact invariant.linked
  · rw [connection,call]
    exact fun idle link live kept => invariant.idle idle link live fun before => kept (.inr ⟨still,before⟩)
  · rw [connection,call]
    exact invariant.reading

theorem failed_client (invariant : ClientInvariant profile past c) (connection : next.connection = c.connection)
    (gives : GivesUp m) : ClientInvariant profile (m :: past) (next.failed profile) := by
  cases closes : profile.disconnects with
  | true => exact cut_client (by simp [failed,closes])
  | false =>
      refine ⟨?_,fun _ _ _ kept => absurd (.inl gives) kept,nofun⟩
      simp only [failed,closes,connection]
      exact invariant.linked

end Moves

section Invariant
variable [DecidableEq Message] {profile : ClientProfile Message} {c next : FramedClient Message}
  {action : ClientAction Message} {past : List (ClientMoment Message)}

theorem reading_received {call : PendingCall Message} (reading : Reading profile call link) (some : count ≠ 0)
    (inside : count ≤ link.incoming.length)
    (got : ({c with connection := .some {link with incoming := link.incoming.drop count}} :
      FramedClient Message).received profile call (link.incoming.take count) = (next,result)) :
    ∃ reply, link.replies[call.index]? = .some reply ∧ link.replies.length = link.requests.length ∧
      ((result = none ∧ next.connection = .some {link with incoming := link.incoming.drop count} ∧
          ∃ buffer, next.call = .some {call with buffer := buffer} ∧
            Reading profile {call with buffer := buffer} {link with incoming := link.incoming.drop count}) ∨
        (next.call = none ∧ (next.connection = .some {link with incoming := []} ∨ next.connection = none) ∧
          ∃ ended, result = .some ended ∧ ∀ frame, ended = .ok frame → frame = reply)) := by
  obtain ⟨last,own,bytes⟩ := reading
  rcases bytes with ⟨_,_,empty⟩ | ⟨reply,wire,answered,listed,encoded,whole⟩
  · rw [empty,List.length_nil] at inside
    omega
  refine ⟨reply,listed,answered.trans last.symm,?_⟩
  have split : call.buffer ++ link.incoming.take count ++ link.incoming.drop count = wire := by
    rw [List.append_assoc,List.take_append_drop,whole]
  by_cases complete : link.incoming.drop count = []
  · rw [complete] at split got
    rw [List.append_nil] at split
    obtain ⟨_,ended,returns,done,connection,own⟩ := received_last
      (c := {c with connection := .some {link with incoming := []}}) encoded split
    cases returns.symm.trans got
    exact .inr ⟨done,connection,ended,rfl,own⟩
  · have returns := received_part
      (c := {c with connection := .some {link with incoming := link.incoming.drop count}}) encoded split complete
    cases returns.symm.trans got
    exact .inl ⟨rfl,rfl,_,rfl,last,own,.inr ⟨reply,wire,answered,listed,encoded,split⟩⟩

theorem client_preserved (invariant : ClientInvariant profile past c) (taken : c.act profile action = some (next,result))
    (clean : StartsClean ⟨c,action,next⟩ past) : ClientInvariant profile (⟨c,action,next⟩ :: past) next := by
  have acts := act_exact taken
  clear taken
  cases acts with
  | connected idle => exact opened_client idle _ _ _
  | unknownPeer missing => exact quiet_client invariant rfl rfl fun known => known missing
  | reconnected idle known => exact opened_client idle _ _ _
  | disconnected => exact cut_client rfl
  | closed idle none => exact quiet_client invariant rfl rfl id
  | oversized idle _ => exact quiet_client invariant rfl rfl id
  | unsent idle live fits => exact failed_client invariant rfl ⟨live,fits⟩
  | gaveUp calling => exact failed_client invariant rfl True.intro
  | @sent link type ack payload idle live =>
      have linked := invariant.linked link live
      obtain ⟨level,empty⟩ := invariant.idle idle link live (clean ⟨idle,nofun⟩)
      refine ⟨?_,nofun,?_⟩
      · intro other found
        cases found
        exact linked_sent linked _
      · intro call other calling found
        cases calling
        cases found
        exact ⟨by simp,List.getElem?_concat_length,.inl ⟨level,rfl,empty⟩⟩
  | @answered link request reply wire live unanswered encoded same =>
      have room := (List.getElem?_eq_some_iff.mp unanswered).1
      refine ⟨?_,?_,?_⟩
      · intro other found
        cases found
        exact linked_answered (invariant.linked link live) unanswered same _
      · intro idle other found kept
        have level := (invariant.idle idle link live fun before => kept (.inr ⟨id,before⟩)).1
        omega
      · intro call other calling found
        cases found
        exact reading_answered (invariant.reading call link calling live) unanswered encoded
  | @received call link count next result calling live some inside got =>
      have linked := invariant.linked link live
      have reading := invariant.reading call link calling live
      obtain ⟨_,_,level,⟨_,connection,buffer,waits,onward⟩ | ⟨done,same | gone,_⟩⟩ :=
        reading_received reading some inside got
      · refine ⟨?_,?_,?_⟩
        · intro other found
          cases connection.symm.trans found
          exact ⟨linked.behind,linked.paired⟩
        · intro idle
          cases waits.symm.trans idle
        · intro other link' calls found
          cases waits.symm.trans calls
          cases connection.symm.trans found
          exact onward
      · refine ⟨?_,?_,?_⟩
        · intro other found
          cases same.symm.trans found
          exact ⟨linked.behind,linked.paired⟩
        · intro _ other found _
          cases same.symm.trans found
          exact ⟨level,rfl⟩
        · intro other _ calls
          cases done.symm.trans calls
      · exact cut_client gone

theorem client_attributed (invariant : ClientInvariant profile past c)
    (taken : c.act profile action = some (next,result)) : Attributed profile ⟨c,action,next⟩ := by
  intro frame returns
  have ends : result = some (.ok frame) := by simpa [returned,taken] using returns
  have acts := act_exact taken
  subst ends
  cases acts with
  | @received call link count _ _ calling live some inside got =>
      have reading := invariant.reading call link calling live
      obtain ⟨reply,listed,_,⟨none,_⟩ | ⟨_,_,ended,same,own⟩⟩ := reading_received reading some inside got
      · cases none
      cases same
      cases own frame rfl
      obtain ⟨request,asked,sequence⟩ := (invariant.linked link live).paired _ _ listed
      cases asked.symm.trans reading.own
      exact ⟨call,link,calling,live,reading.own,listed,sequence⟩

theorem step_act (taken : c.step profile action = some next) : ∃ result, c.act profile action = some (next,result) := by
  obtain ⟨⟨_,result⟩,acted,rfl⟩ := Option.map_eq_some_iff.mp taken
  exact ⟨result,acted⟩

theorem replies_attributed (path : Reached (step profile) {} history c) (clean : Throughout StartsClean history) :
    Throughout (fun m _ => Attributed profile m) history := by
  refine throughout_under (ClientInvariant profile) (initial_client profile) ?_ ?_ path clean
  · intro past s action next invariant taken clean
    obtain ⟨result,acted⟩ := step_act taken
    exact client_preserved invariant acted clean
  · intro past s action next invariant taken _
    obtain ⟨result,acted⟩ := step_act taken
    exact client_attributed invariant acted

def Closed (past : List (ClientMoment Message)) (c : FramedClient Message) : Prop :=
  Abandoned past → c.connection = none ∧ c.call = none

theorem closed_preserved (closes : profile.disconnects = true) (closed : Closed past c)
    (taken : c.act profile action = some (next,result)) : Closed (⟨c,action,next⟩ :: past) next := by
  have acts := act_exact taken
  have shut : ∀ client : FramedClient Message, (client.failed profile).connection = none ∧
      (client.failed profile).call = none := by simp [failed,closes]
  rintro (gives | ⟨still,before⟩)
  · cases acts with
    | closed _ none => exact absurd none (gives_exchange gives).1
    | oversized _ large => exact absurd (gives_exchange gives).2 (Nat.not_le.mpr large)
    | unsent _ _ _ | gaveUp _ => exact shut _
    | connected _ | unknownPeer _ | reconnected _ _ | disconnected | sent _ _ | answered _ _ _ _
    | received _ _ _ _ _ => exact gives.elim
  · obtain ⟨gone,idle⟩ := closed before
    cases acts with
    | connected _ => exact absurd True.intro still
    | reconnected _ known => exact absurd known still
    | unknownPeer _ | closed _ _ | oversized _ _ => exact ⟨gone,idle⟩
    | disconnected => exact ⟨rfl,idle⟩
    | unsent _ live _ => exact absurd gone live
    | sent _ live | answered live _ _ _ | received _ live _ _ _ => cases gone.symm.trans live
    | gaveUp calling => exact absurd idle calling

theorem disconnecting_clean (closes : profile.disconnects = true) (path : Reached (step profile) {} history c) :
    Throughout StartsClean history := by
  refine throughout_invariant Closed (fun before => before.elim) ?_ ?_ path
  · intro past s action next closed taken
    obtain ⟨result,acted⟩ := step_act taken
    exact closed_preserved closes closed acted
  · rintro past s action next closed taken ⟨_,started⟩ before
    obtain ⟨result,acted⟩ := step_act taken
    obtain ⟨gone,idle⟩ := closed before
    have acts := act_exact acted
    cases acts with
    | connected _ | reconnected _ _ | unknownPeer _ | disconnected | closed _ _ | oversized _ _ =>
        exact started idle
    | unsent _ live _ => exact live gone
    | sent _ live | answered live _ _ _ | received _ live _ _ _ => cases gone.symm.trans live
    | gaveUp calling => exact calling idle

end Invariant

end FramedClient

end RobotControlRuntime
