import RobotControlRuntime.ModbusTcpClient

namespace RobotControlRuntime.Mbus
open FrameStream FrameStream.Decoder FrameStream.Codec

namespace RecvOutcome

def bytes : RecvOutcome → List UInt8
  | .received chunk => chunk.bytes
  | _ => []

def unbroken : RecvOutcome → Bool
  | .received _ => true
  | .interrupted => true
  | _ => false

end RecvOutcome

structure Link where
  client : Client := {}
  owed : List UInt8 := []

-- One transaction: its PDU and the server's answer. The arrivals are what comes
-- before a poll times out, `late` what comes after.
structure Turn where
  pdu : List UInt8
  answer : List UInt8
  sends : List SendOutcome
  arrivals : List RecvOutcome
  late : List UInt8

namespace Turn

def request (config : ClientConfig) (link : Link) (t : Turn) : Adu := Client.requestAdu config t.pdu link.client.nextTid

-- The server echoes the identifiers of the request.
def response (config : ClientConfig) (link : Link) (t : Turn) : Adu := {t.request config link with pdu := t.answer}

-- The request goes out, the server answers it behind what it owes already, and
-- the connection delivers those bytes in order.
structure Fair (config : ClientConfig) (link : Link) (t : Turn) : Prop where
  asks : Encoded (t.request config link) (aduWire (t.request config link))
  answers : Encoded (t.response config link) (aduWire (t.response config link))
  sent : sendAll (aduWire (t.request config link)) 0 t.sends = .ok ()
  unbroken : ∀ arrival ∈ t.arrivals, arrival.unbroken = true
  ordered : link.owed ++ aduWire (t.response config link) = t.arrivals.flatMap (·.bytes) ++ t.late

end Turn

namespace Link

def take (config : ClientConfig) (link : Link) (t : Turn) : Link × Result Adu :=
  let returned := link.client.transactRaw config t.pdu {exchange := ⟨t.sends,t.arrivals⟩}
  (⟨returned.client,returned.unread.flatMap (·.bytes) ++ t.late⟩,returned.result)

inductive Runs (config : ClientConfig) : Link → List (Result Adu) → Link → Prop where
  | nil : Runs config link [] link
  | snoc : Runs config start results link → t.Fair config link →
      Runs config start (results ++ [(link.take config t).2]) (link.take config t).1

end Link

def timedOut : Result Adu → Bool
  | .error failure => failure.error == .timeout
  | .ok _ => false

theorem front_due (e : Encoded adu wire) (f : StreamFramer) (stream : f.buffer ++ tail = wire ++ more) :
    (∃ extra, f.tryPopAdu = (⟨extra⟩,.ok wire) ∧ extra ++ tail = more) ∨ StreamFramer.codec.Waits f.buffer ∧ tail ≠ [] := by
  have decoded := StreamFramer.codec.decodes wire wire e.frame
  have whole (extra : List UInt8) (held : f.buffer = wire ++ extra) : f.tryPopAdu = (⟨extra⟩,.ok wire) := by
    have popped := (StreamFramer.decode_ok (StreamFramer.codec.framed wire extra wire _ decoded)).1
    rw [← held] at popped
    refine popped.trans ?_
    rw [held,List.drop_left]
  rcases List.append_eq_append_iff.mp stream with ⟨missing,split,rest⟩ | ⟨extra,held,rest⟩
  · by_cases complete : missing = []
    · subst complete
      exact .inl ⟨[],whole [] (by rw [split,List.append_nil,List.append_nil]),rest⟩
    · rw [split] at decoded
      refine .inr ⟨prefix_waits decoded complete,?_⟩
      rw [rest]
      exact fun none => complete (List.append_eq_nil_iff.mp none).1
  · exact .inl ⟨extra,whole extra held,rest.symm⟩

theorem recv_pops (popped : f.tryPopAdu = (g,.ok frame)) (arrivals : List RecvOutcome) :
    recvAdu f arrivals = (g,arrivals,.ok frame) := by
  unfold recvAdu
  rw [popped]

theorem recv_waits (waits : StreamFramer.codec.Waits f.buffer) :
    recvAdu f [] = (f,[],.error ⟨.timeout,"response timeout"⟩) ∧
      (∀ chunk rest, recvAdu f (.received chunk :: rest) = recvAdu (f.append chunk.bytes) rest) ∧
      ∀ rest, recvAdu f (.interrupted :: rest) = recvAdu f rest := by
  obtain ⟨reason,judged,waiting⟩ := waits
  have popped : f.tryPopAdu = (f,.error reason) := StreamFramer.decode_error judged
  have code : reason.error = .needMore := by simpa [StreamFramer.codec] using waiting
  refine ⟨?_,?_,?_⟩
  · rw [recvAdu,popped]
    exact if_neg (not_not_intro code)
  · intro chunk rest
    rw [recvAdu,popped]
    exact if_neg (not_not_intro code)
  · intro rest
    rw [recvAdu,popped]
    exact if_neg (not_not_intro code)

theorem recv_front (e : Encoded adu wire) (arrivals : List RecvOutcome)
    (unbroken : ∀ arrival ∈ arrivals, arrival.unbroken = true) (f : StreamFramer)
    (stream : f.buffer ++ (arrivals.flatMap (·.bytes) ++ late) = wire ++ more) :
    (∃ g unread, recvAdu f arrivals = (g,unread,.ok wire) ∧ g.buffer ++ (unread.flatMap (·.bytes) ++ late) = more) ∨
      ∃ g, recvAdu f arrivals = (g,[],.error ⟨.timeout,"response timeout"⟩) ∧ g.buffer ++ late = wire ++ more ∧ late ≠ [] := by
  induction arrivals generalizing f with
  | nil =>
      rcases front_due e f stream with ⟨extra,popped,rest⟩ | ⟨waits,missing⟩
      · exact .inl ⟨_,_,recv_pops popped _,rest⟩
      · exact .inr ⟨f,(recv_waits waits).1,stream,missing⟩
  | cons arrival arrivals ih =>
      rcases front_due e f stream with ⟨extra,popped,rest⟩ | ⟨waits,_⟩
      · exact .inl ⟨_,_,recv_pops popped _,rest⟩
      simp only [List.forall_mem_cons] at unbroken
      cases arrival with
      | received chunk =>
          rw [(recv_waits waits).2.1]
          refine ih unbroken.2 (f.append chunk.bytes) ?_
          rw [← stream,List.flatMap_cons,StreamFramer.append,List.append_assoc,List.append_assoc]
          rfl
      | interrupted =>
          rw [(recv_waits waits).2.2]
          exact ih unbroken.2 f stream
      | _ => cases unbroken.1

def tidAt (k : Nat) : UInt16 := UInt16.ofNat (k % 65535 + 1)

theorem tidAt_value (k : Nat) : (tidAt k).toNat = k % 65535 + 1 := by
  rw [tidAt,UInt16.toNat_ofNat']
  omega

theorem tidAt_eq_iff : tidAt j = tidAt k ↔ j % 65535 = k % 65535 := by
  rw [← UInt16.toNat_inj,tidAt_value,tidAt_value]
  omega

theorem tidAt_succ (k : Nat) : (if tidAt k + 1 = 0 then 1 else tidAt k + 1) = tidAt (k + 1) := by
  have value := tidAt_value k
  have sum : (tidAt k + 1).toNat = (k % 65535 + 2) % 65536 := by
    rw [UInt16.toNat_add,value]
    rfl
  apply UInt16.toNat_inj.mp
  rw [tidAt_value]
  by_cases wraps : tidAt k + 1 = 0
  · rw [if_pos wraps]
    rw [wraps] at sum
    have last : 0 = (k % 65535 + 2) % 65536 := sum
    exact show 1 = (k + 1) % 65535 + 1 by omega
  · rw [if_neg wraps,sum]
    have more : (k % 65535 + 2) % 65536 ≠ 0 := fun zero => wraps (UInt16.toNat_inj.mp (sum.trans zero))
    omega

-- After `sent` transactions the last `lost` responses have not been read.
structure Behind (config : ClientConfig) (sent lost : Nat) (link : Link) : Prop where
  connected : link.client.connected = true
  tid : link.client.nextTid = tidAt sent
  fewer : lost ≤ sent
  unread : ∃ queue : List Adu, link.client.framer.buffer ++ link.owed = queue.flatMap aduWire ∧
    (∀ adu ∈ queue, Encoded adu (aduWire adu) ∧ adu.mbap.unitId = config.unitId) ∧
    queue.map (·.mbap.transactionId) = (List.range' (sent - lost) lost).map tidAt

section Transaction
variable {config : ClientConfig} {link : Link} {t : Turn}

theorem raw_awaits (connected : link.client.connected = true) (fair : t.Fair config link)
    (settled : ∀ reason, (link.client.tookTid.awaitAnswer config link.client.nextTid t.arrivals).result = .error reason →
      reason.error ≠ .closed ∧ reason.error ≠ .io) :
    link.client.transactRaw config t.pdu {exchange := ⟨t.sends,t.arrivals⟩} =
      link.client.tookTid.awaitAnswer config link.client.nextTid t.arrivals := by
  have encoded := encode_exact.mpr fair.asks
  have once : link.client.tookTid.transactOnce config t.pdu link.client.nextTid ⟨t.sends,t.arrivals⟩ =
      link.client.tookTid.awaitAnswer config link.client.nextTid t.arrivals := by
    unfold Client.transactOnce
    erw [encoded]
    dsimp only
    rw [fair.sent]
  unfold Client.transactRaw Client.ensureConnected
  rw [if_pos connected]
  dsimp only
  rw [once]
  split
  · rfl
  · rename_i reason failed
    obtain ⟨notClosed,notIo⟩ := settled reason failed
    exact if_neg (not_or.mpr ⟨notClosed,notIo⟩)

theorem raw_popped (connected : link.client.connected = true) (fair : t.Fair config link)
    (received : recvAdu link.client.framer t.arrivals = (g,unread,.ok wire)) (decoded : decodeAdu wire = .ok adu)
    (unit : adu.mbap.unitId = config.unitId) :
    link.client.transactRaw config t.pdu {exchange := ⟨t.sends,t.arrivals⟩} =
      ⟨{link.client.tookTid with framer := g},unread,
        if adu.mbap.transactionId = link.client.nextTid then .ok adu
        else .error ⟨.transactionMismatch,"response transaction id mismatch"⟩⟩ := by
  have awaited : link.client.tookTid.awaitAnswer config link.client.nextTid t.arrivals =
      ⟨{link.client.tookTid with framer := g},unread,
        if adu.mbap.transactionId = link.client.nextTid then .ok adu
        else .error ⟨.transactionMismatch,"response transaction id mismatch"⟩⟩ := by
    have received : recvAdu link.client.tookTid.framer t.arrivals = (g,unread,.ok wire) := received
    simp only [Client.awaitAnswer,received,decoded]
    by_cases same : adu.mbap.transactionId = link.client.nextTid
    · rw [if_neg (not_not_intro same),if_neg (not_not_intro unit),if_pos same]
    · rw [if_pos same,if_neg same]
  rw [← awaited]
  refine raw_awaits connected fair ?_
  rw [awaited]
  intro reason failed
  split at failed
  · cases failed
  · cases failed
    exact ⟨by decide,by decide⟩

theorem raw_timedOut (connected : link.client.connected = true) (fair : t.Fair config link)
    (received : recvAdu link.client.framer t.arrivals = (g,[],.error ⟨.timeout,"response timeout"⟩)) :
    link.client.transactRaw config t.pdu {exchange := ⟨t.sends,t.arrivals⟩} =
      ⟨{link.client.tookTid with framer := g},[],.error ⟨.timeout,"response timeout"⟩⟩ := by
  have awaited : link.client.tookTid.awaitAnswer config link.client.nextTid t.arrivals =
      ⟨{link.client.tookTid with framer := g},[],.error ⟨.timeout,"response timeout"⟩⟩ := by
    have received : recvAdu link.client.tookTid.framer t.arrivals = (g,[],.error ⟨.timeout,"response timeout"⟩) := received
    simp only [Client.awaitAnswer,received]
  rw [← awaited]
  refine raw_awaits connected fair ?_
  rw [awaited]
  intro reason failed
  cases failed
  exact ⟨by decide,by decide⟩

theorem stream_next (behind : Behind config sent lost link) (fair : t.Fair config link) :
    ∃ first rest, link.client.framer.buffer ++ (t.arrivals.flatMap (·.bytes) ++ t.late) =
        aduWire first ++ rest.flatMap aduWire ∧
      (∀ adu ∈ first :: rest, Encoded adu (aduWire adu) ∧ adu.mbap.unitId = config.unitId) ∧
      (first :: rest).map (·.mbap.transactionId) = (List.range' (sent - lost) (lost + 1)).map tidAt := by
  obtain ⟨queue,bytes,good,ids⟩ := behind.unread
  have fewer := behind.fewer
  have stream : link.client.framer.buffer ++ (t.arrivals.flatMap (·.bytes) ++ t.late) =
      (queue ++ [t.response config link]).flatMap aduWire := by
    rw [← fair.ordered,← List.append_assoc,bytes,List.flatMap_append,List.flatMap_singleton]
  have known : ∀ adu ∈ queue ++ [t.response config link], Encoded adu (aduWire adu) ∧ adu.mbap.unitId = config.unitId := by
    rw [List.forall_mem_append]
    refine ⟨good,?_⟩
    intro adu listed
    cases List.mem_singleton.mp listed
    exact ⟨fair.answers,rfl⟩
  have numbered : (queue ++ [t.response config link]).map (·.mbap.transactionId) =
      (List.range' (sent - lost) (lost + 1)).map tidAt := by
    have last : (t.response config link).mbap.transactionId = tidAt sent := behind.tid
    rw [List.map_append,ids,List.range'_concat,List.map_append,List.map_singleton,List.map_singleton,last,Nat.one_mul,
      Nat.sub_add_cancel fewer]
  cases all : queue ++ [t.response config link] with
  | nil => cases (List.append_eq_nil_iff.mp all).2
  | cons first rest =>
      rw [all] at stream known numbered
      exact ⟨first,rest,stream,known,numbered⟩

theorem take_step (behind : Behind config sent lost link) (fair : t.Fair config link) :
    Behind config (sent + 1) lost (link.take config t).1 ∧ timedOut (link.take config t).2 = false ∧
        ((∃ adu, (link.take config t).2 = .ok adu) ↔ tidAt (sent - lost) = tidAt sent) ∨
      Behind config (sent + 1) (lost + 1) (link.take config t).1 ∧ timedOut (link.take config t).2 = true ∧ t.late ≠ [] := by
  obtain ⟨first,rest,stream,known,numbered⟩ := stream_next behind fair
  have fewer := behind.fewer
  have next : link.client.tookTid.nextTid = tidAt (sent + 1) := by
    rw [Client.tookTid,behind.tid]
    exact tidAt_succ sent
  rcases recv_front (known first (.head _)).1 t.arrivals fair.unbroken link.client.framer stream with
    ⟨g,unread,received,left⟩ | ⟨g,received,left,late⟩
  · have raw := raw_popped behind.connected fair received (known first (.head _)).1.decodes (known first (.head _)).2
    obtain ⟨oldest,others⟩ := List.cons.inj (numbered.trans (congrArg (List.map tidAt) List.range'_succ))
    have judged : (link.take config t).2 = if first.mbap.transactionId = link.client.nextTid then .ok first.sized
        else .error ⟨.transactionMismatch,"response transaction id mismatch"⟩ := congrArg Returned.result raw
    have oldest : first.mbap.transactionId = tidAt (sent - lost) := oldest
    have same : first.mbap.transactionId = link.client.nextTid ↔ tidAt (sent - lost) = tidAt sent := by
      rw [behind.tid,oldest]
    refine .inl ⟨?_,?_,?_⟩
    · unfold Link.take
      rw [raw]
      refine ⟨behind.connected,next,by omega,rest,left,fun adu listed => known adu (.tail _ listed),?_⟩
      rw [others,show sent - lost + 1 = sent + 1 - lost by omega]
    · rw [judged]
      split
      · rfl
      · rfl
    · rw [judged,← same]
      split
      · rename_i equal
        exact ⟨fun _ => equal,fun _ => ⟨_,rfl⟩⟩
      · rename_i differ
        refine ⟨?_,fun equal => absurd equal differ⟩
        rintro ⟨_,wrong⟩
        cases wrong
  · have raw := raw_timedOut behind.connected fair received
    refine .inr ⟨?_,?_,late⟩
    · unfold Link.take
      rw [raw]
      refine ⟨behind.connected,next,by omega,first :: rest,left,known,?_⟩
      rw [numbered,Nat.add_sub_add_right]
    · exact congrArg (timedOut ∘ Returned.result) raw

end Transaction

theorem runs_behind (start : Behind config 0 0 first) (runs : Link.Runs config first results link) :
    Behind config results.length (results.countP timedOut) link := by
  induction runs with
  | nil => exact start
  | snoc _ fair ih =>
      rw [List.length_append,List.length_singleton,List.countP_append,List.countP_singleton]
      rcases take_step ih fair with ⟨behind,answered,_⟩ | ⟨behind,lost,_⟩
      · rw [answered]
        exact behind
      · rw [lost]
        exact behind

def fresh : Link := {client := {connected := true}}

theorem fresh_behind (config : ClientConfig) : Behind config 0 0 fresh :=
  ⟨rfl,rfl,Nat.le_refl 0,[],rfl,nofun,rfl⟩

def lateTurn : Turn := ⟨[0x03,0,0,0,1],[0x03,2,0,7],[.sent 12],[],[0,1,0,0,0,5,1,0x03,2,0,7]⟩

def nextTurn : Turn :=
  ⟨[0x03,0,0,0,1],[0x03,2,0,9],[.sent 12],
    [.received ⟨[0,1,0,0,0,5,1,0x03,2,0,7,0,2,0,0,0,5,1,0x03,2,0,9],by decide,by decide⟩],[]⟩

theorem late_fair : lateTurn.Fair {} fresh := ⟨wire_encoded rfl,wire_encoded rfl,rfl,nofun,rfl⟩

theorem next_fair : nextTurn.Fair {} (fresh.take {} lateTurn).1 :=
  ⟨wire_encoded rfl,wire_encoded rfl,rfl,by simp [nextTurn,RecvOutcome.unbroken],rfl⟩

theorem late_response_misleads :
    ∃ results link turn, Link.Runs {} fresh results link ∧ turn.Fair {} link ∧ turn.late = [] ∧
      (link.take {} turn).2 = .error ⟨.transactionMismatch,"response transaction id mismatch"⟩ :=
  ⟨_,_,nextTurn,.snoc .nil late_fair,next_fair,rfl,rfl⟩

-- Every answer is taken for the request as many places later as there were
-- timeouts, and identifiers come round after 65535.
theorem timely_answer_accepted_iff {turn : Turn} (runs : Link.Runs config fresh results link) (fair : turn.Fair config link)
    (timely : turn.late = []) : (∃ adu, (link.take config turn).2 = .ok adu) ↔ results.countP timedOut % 65535 = 0 := by
  have behind := runs_behind (fresh_behind config) runs
  have fewer := behind.fewer
  rcases take_step behind fair with ⟨_,_,accepted⟩ | ⟨_,_,late⟩
  · rw [accepted,tidAt_eq_iff]
    omega
  · exact absurd timely late

-- A read answered at once, then a second one, answered at once or too late, and after
-- the late one a third.
def promptTurn : Turn :=
  ⟨[0x03,0,0,0,1],[0x03,2,0,7],[.sent 12],[.received ⟨[0,1,0,0,0,5,1,0x03,2,0,7],by decide,by decide⟩],[]⟩

def secondTurn : Turn :=
  ⟨[0x03,0,0,0,1],[0x03,2,0,8],[.sent 12],[.received ⟨[0,2,0,0,0,5,1,0x03,2,0,8],by decide,by decide⟩],[]⟩

def lateSecond : Turn := ⟨[0x03,0,0,0,1],[0x03,2,0,8],[.sent 12],[],[0,2,0,0,0,5,1,0x03,2,0,8]⟩

def thirdTurn : Turn :=
  ⟨[0x03,0,0,0,1],[0x03,2,0,9],[.sent 12],
    [.received ⟨[0,2,0,0,0,5,1,0x03,2,0,8,0,3,0,0,0,5,1,0x03,2,0,9],by decide,by decide⟩],[]⟩

theorem timely_answer_accepted_iff_earlier :
    let answered := (fresh.take {} promptTurn).1
    (∃ adu, (answered.take {} secondTurn).2 = .ok adu) ∧ ¬ ∃ adu, ((answered.take {} lateSecond).1.take {} thirdTurn).2 = .ok adu := by
  have first : promptTurn.Fair {} fresh := ⟨wire_encoded rfl,wire_encoded rfl,rfl,by simp [promptTurn,RecvOutcome.unbroken],rfl⟩
  have second : secondTurn.Fair {} (fresh.take {} promptTurn).1 :=
    ⟨wire_encoded rfl,wire_encoded rfl,rfl,by simp [secondTurn,RecvOutcome.unbroken],rfl⟩
  have late : lateSecond.Fair {} (fresh.take {} promptTurn).1 := ⟨wire_encoded rfl,wire_encoded rfl,rfl,nofun,rfl⟩
  have third : thirdTurn.Fair {} ((fresh.take {} promptTurn).1.take {} lateSecond).1 :=
    ⟨wire_encoded rfl,wire_encoded rfl,rfl,by simp [thirdTurn,RecvOutcome.unbroken],rfl⟩
  have once : Link.Runs {} fresh _ _ := .snoc .nil first
  have lost := timely_answer_accepted_iff (.snoc once late) third rfl
  exact ⟨(timely_answer_accepted_iff once second rfl).mpr rfl,mt lost.mp (by decide)⟩

end RobotControlRuntime.Mbus
