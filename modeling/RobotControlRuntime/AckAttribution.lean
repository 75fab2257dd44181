import RobotControlRuntime.CanRoundTrip
import RobotControlRuntime.NodeLink

namespace RobotControlRuntime.NodeLink
open StepHistory

-- What an acknowledgement is matched by: the session and the wire sequence, read
-- off a command frame and off a status that reports it applied.
def commandKey (frame : CanFrame) : Option (UInt16 × UInt16) :=
  match CanV1.decodeOutputCommand frame with
  | .ok cmd => some (cmd.sessionId,cmd.sequence)
  | .error _ => none

def appliedKey (frame : CanFrame) : Option (UInt16 × UInt16) :=
  match CanV1.decode frame with
  | .ok (.outputStatus status) =>
    if status.result = .applied then some (status.sessionId,status.sequence) else none
  | _ => none

def AttributesAck (m : LinkMoment) (_ : List LinkMoment) : Prop :=
  ∀ nowNs sent rest, m.action = .deliverStatus nowNs → m.before.uplink = sent :: rest →
    m.before.io.runtime.outputAckPending = true → m.after.io.runtime.outputAckPending = false →
    sent.tag = m.before.awaited

def FreshKey (m : LinkMoment) : Prop :=
  ∀ wire frame nowNs, m.action = .io (.send .sent) → m.before.io.stage = .encoded wire frame nowNs →
    (∀ other ∈ m.before.downlink, commandKey other.frame ≠ some (wire.sessionId,wire.sequence)) ∧
    ∀ other ∈ m.before.uplink, appliedKey other.frame ≠ some (wire.sessionId,wire.sequence)

structure Sole (s : NodeLink) (key : UInt16 × UInt16) (tag : Nat) : Prop where
  command : ∀ other ∈ s.downlink, commandKey other.frame = some key → other.tag = tag
  status : ∀ other ∈ s.uplink, appliedKey other.frame = some key → other.tag = tag

theorem Sole.shrink (sole : Sole s key tag) (down : next.downlink ⊆ s.downlink) (up : next.uplink ⊆ s.uplink) :
    Sole next key tag :=
  ⟨fun other present => sole.command other (down present),fun other present => sole.status other (up present)⟩

theorem answer_key (node : CanNodeLogic) (receiveNs nowNs : Int)
    (sends : (node.handleFrame frame receiveNs nowNs).2.sendStatus = true)
    (encoded : CanV1.encodeOutputStatus (node.handleFrame frame receiveNs nowNs).2.status = .ok answer)
    (applied : appliedKey answer = some key) : commandKey frame = some key := by
  have decoded := CanV1.decode_encoded (.outputStatus _) encoded
  rw [appliedKey,decoded] at applied
  have handled := node.frame_exact frame receiveNs nowNs
  generalize (node.handleFrame frame receiveNs nowNs).1 = next at handled
  generalize (node.handleFrame frame receiveNs nowNs).2 = result at handled sends applied
  cases handled with
  | silent _ quiet => cases quiet.symm.trans sends
  | answered command answer =>
      cases answer with
      | rejected _ _ _ _ negative => simp [negative] at applied
      | applied admitted _ _ _ =>
          simp only [if_true] at applied
          rw [commandKey,command,← applied,← admitted.session]

theorem deliver_sole (sole : Sole s key tag) (waiting : s.downlink = sent :: rest) :
    Sole (s.deliverCommand sent rest receiveNs nowNs) key tag := by
  have kept : rest ⊆ s.downlink := by rw [waiting]; exact List.subset_cons_self sent rest
  simp only [deliverCommand]
  split
  · rename_i sends
    split
    · exact sole.shrink kept (List.Subset.refl _)
    · rename_i frame encoded
      refine ⟨fun other present => sole.command other (kept present),?_⟩
      intro other present applied
      rcases List.mem_append.mp present with before | new
      · exact sole.status other before applied
      · rw [List.mem_singleton.mp new] at applied ⊢
        exact sole.command sent (by simp [waiting]) (answer_key s.node receiveNs nowNs sends encoded applied)
  · exact sole.shrink kept (List.Subset.refl _)

structure AckInvariant (past : List LinkMoment) (s : NodeLink) : Prop where
  io : IoSystem.IoInvariant (ioHistory past) s.io
  sent : ∀ wire nowNs, s.io.stage = .sent wire nowNs → Sole s (wire.sessionId,wire.sequence) (s.sends - 1)
  awaited : s.io.runtime.outputAckPending = true →
    Sole s (s.io.runtime.lastSentSession,s.io.runtime.lastSentSequence) s.awaited

theorem ack_framed (invariant : AckInvariant past s) (base : IoSystem.IoInvariant (ioHistory later) next.io)
    (io : next.io = s.io) (sends : next.sends = s.sends) (awaited : next.awaited = s.awaited)
    (soles : ∀ key tag, Sole s key tag → Sole next key tag) : AckInvariant later next := by
  refine ⟨base,?_,?_⟩
  · intro wire nowNs stage
    rw [sends]
    exact soles _ _ (invariant.sent wire nowNs (io ▸ stage))
  · intro pending
    rw [awaited]
    rw [io] at pending ⊢
    exact soles _ _ (invariant.awaited pending)

theorem ack_preserved (invariant : AckInvariant past s) (taken : step s action = some next)
    (met : FreshKey ⟨s,action,next⟩) : AckInvariant (⟨s,action,next⟩ :: past) next := by
  have base := io_invariant invariant.io taken
  cases step_exact taken with
  | io moved other =>
      refine ⟨base,?_,?_⟩
      · intro wire nowNs stage
        exact (invariant.sent wire nowNs (IoSystem.stage_sent moved other stage)).shrink
          (List.Subset.refl _) (List.Subset.refl _)
      · intro pending
        rcases IoSystem.ack_source invariant.io moved pending with
          ⟨before,session,sequence⟩ | ⟨free,wire,nowNs,stage,session,sequence⟩
        · have sole := invariant.awaited before
          rw [← session,← sequence] at sole
          simp only [registers,before,Bool.not_true,Bool.false_and,Bool.false_eq_true,if_false]
          exact sole.shrink (List.Subset.refl _) (List.Subset.refl _)
        · have sole := invariant.sent wire nowNs stage
          rw [← session,← sequence] at sole
          rw [if_pos (by simpa [registers,free] using pending)]
          exact sole.shrink (List.Subset.refl _) (List.Subset.refl _)
  | @sent moved wire frame nowNs _ stage done runtime =>
      obtain ⟨command,held⟩ := invariant.io.held (by simp [stage])
      obtain ⟨commands,statuses⟩ := met wire frame nowNs rfl stage
      refine ⟨base,?_,?_⟩
      · intro other time same
        cases done.symm.trans same
        refine ⟨?_,fun other present matched => absurd matched (statuses other present)⟩
        intro other present matched
        rcases List.mem_append.mp present with before | new
        · exact absurd matched (commands other before)
        · rw [List.mem_singleton.mp new]
          rfl
      · intro pending
        rw [runtime,invariant.io.unacknowledged command held] at pending
        cases pending
  | commandDelivered waiting =>
      obtain ⟨io,sends,awaited⟩ := deliver_frame s _ _ _ _
      exact ack_framed invariant base io sends awaited fun _ _ sole => deliver_sole sole waiting
  | commandLost waiting =>
      refine ack_framed invariant base rfl rfl rfl fun _ _ sole => sole.shrink ?_ (List.Subset.refl _)
      rw [waiting]
      exact List.subset_cons_self _ _
  | @statusDelivered sent rest nowNs waiting =>
      have kept : rest ⊆ s.uplink := by rw [waiting]; exact List.subset_cons_self sent rest
      cases called : statusCall s.io.io.nodeId sent.frame nowNs with
      | none =>
          simp only [deliverStatus,called] at base ⊢
          exact ack_framed invariant base rfl rfl rfl fun _ _ sole => sole.shrink (List.Subset.refl _) kept
      | some call =>
          obtain ⟨status,_,rfl⟩ := status_observes called
          simp only [deliverStatus,called] at base ⊢
          refine ⟨base,?_,?_⟩
          · intro wire time stage
            exact (invariant.sent wire time stage).shrink (List.Subset.refl _) kept
          · intro pending
            simp only [LinuxRuntime.apply] at pending ⊢
            rw [LinuxRuntime.observe_pending,Bool.and_eq_true] at pending
            obtain ⟨_,_,_,_,_,session,sequence⟩ := LinuxRuntime.observe_frame s.io.runtime _ _ _ _
            rw [session,sequence]
            exact (invariant.awaited pending.1).shrink (List.Subset.refl _) kept
  | statusLost waiting =>
      refine ack_framed invariant base rfl rfl rfl fun _ _ sole => sole.shrink (List.Subset.refl _) ?_
      rw [waiting]
      exact List.subset_cons_self _ _
  | expired | interlocked | restarted =>
      exact ack_framed invariant base rfl rfl rfl fun _ _ sole => sole.shrink (List.Subset.refl _) (List.Subset.refl _)

theorem ack_attributed (invariant : AckInvariant past s) (taken : step s action = some next) :
    AttributesAck ⟨s,action,next⟩ past := by
  rintro nowNs sent rest rfl waiting pending closed
  cases step_exact taken with
  | statusDelivered found =>
      cases found.symm.trans waiting
      have pending : s.io.runtime.outputAckPending = true := pending
      have here : sent ∈ s.uplink := by rw [found]; exact List.mem_cons_self
      simp only [deliverStatus] at closed
      cases called : statusCall s.io.io.nodeId sent.frame nowNs with
      | none =>
          rw [called] at closed
          cases pending.symm.trans closed
      | some call =>
          obtain ⟨status,decoded,rfl⟩ := status_observes called
          rw [called] at closed
          simp only [LinuxRuntime.apply,LinuxRuntime.observe_pending,LinuxRuntime.closesAck,LinuxRuntime.ackMatches,
            pending,Bool.true_and,Bool.not_eq_false',Bool.and_eq_true,beq_iff_eq] at closed
          obtain ⟨⟨session,sequence⟩,applied⟩ := closed
          refine (invariant.awaited pending).status sent here ?_
          simp only [appliedKey,decoded,applied,if_true,session,sequence]

def lateStatus : List LinkAction :=
  activated ++ transmitted ⟨7,1,900000000,1,1⟩ 100 ++ [.deliverCommand 110 110] ++ reactivated ++
    transmitted ⟨7,1,900000000,1,0⟩ 200 ++ [.deliverStatus 210]

theorem ack_misattributed :
    ∃ history s, Reached step session7 history s ∧ ¬ Throughout AttributesAck history := by
  refine ⟨_,_,replay_reached lateStatus .start rfl,?_⟩
  intro attributes
  cases attributes.1 210 _ _ rfl rfl rfl rfl

theorem acks_attributed (config : RuntimeConfig) (queue : BoundedInputQueue) (nodeConfig : CanNodeConfig)
    (path : Reached step (launched config queue nodeConfig) history s)
    (met : Throughout (fun m _ => FreshKey m) history) : Throughout AttributesAck history := by
  refine throughout_under AckInvariant ⟨launched_io config queue nodeConfig,?_,?_⟩
    (fun _ _ _ _ invariant taken met => ack_preserved invariant taken met)
    (fun _ _ _ _ invariant taken _ => ack_attributed invariant taken) path met
  · intro _ _ stage; cases stage
  · intro pending; cases pending

def lateStatusApart : List LinkAction :=
  activated ++ transmitted ⟨7,1,900000000,1,1⟩ 100 ++ [.deliverCommand 110 110] ++ reactivated ++
    transmitted ⟨7,2,900000000,1,0⟩ 200 ++ [.deliverStatus 210,.deliverCommand 220 220,.deliverStatus 230]

theorem acks_attributed_late_status :
    ∃ history s, Reached step session7 history s ∧ s.io.runtime.outputAckPending = false ∧
      s.io.runtime.lastAckSequence = 2 ∧ Throughout AttributesAck history := by
  have path : Reached step session7 _ _ := replay_reached lateStatusApart .start rfl
  refine ⟨_,_,path,rfl,rfl,acks_attributed {} _ {sessionId := 7} path ?_⟩
  refine ⟨?_,?_,?_,?_,?_,?_,?_,?_,?_,?_,?_,?_,?_,?_,?_,?_,?_,?_,?_,?_,?_,?_,?_,?_,trivial⟩
  all_goals intro _ _ _ same encoded
  all_goals first
    | cases same; done
    | cases encoded
      exact ⟨by decide,by decide⟩

end RobotControlRuntime.NodeLink
