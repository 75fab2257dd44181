import RobotControlRuntime.NodeLink

namespace RobotControlRuntime.NodeLink
open StepHistory

def sessionSequence (sessionId : UInt16) (frame : CanFrame) : Option UInt16 :=
  match CanV1.decodeOutputCommand frame with
  | .ok cmd => if cmd.sessionId = sessionId then some cmd.sequence else none
  | .error _ => none

-- The sequences of the node's session, oldest first: the last accepted one and
-- those still on their way to it.
def numbered (s : NodeLink) : List UInt16 :=
  (if s.node.hasAcceptedSequence then [s.node.lastAcceptedSequence] else []) ++
    s.downlink.filterMap fun sent => sessionSequence s.node.sessionId sent.frame

-- A command of the node's session that arrives at a ready node before the end of
-- its validity is answered Applied.
def AdmitsEligible (m : LinkMoment) (_ : List LinkMoment) : Prop :=
  ∀ receiveNs nowNs sent rest cmd, m.action = .deliverCommand receiveNs nowNs → m.before.downlink = sent :: rest →
    CanV1.decodeOutputCommand sent.frame = .ok cmd → cmd.sessionId = m.before.node.sessionId →
    m.before.node.config.interlockReady = true →
    nowNs < CanV1.deadlineFromValidity10ms receiveNs cmd.validity10ms →
    (m.before.node.handleFrame sent.frame receiveNs nowNs).2.sendStatus = true ∧
      (m.before.node.handleFrame sent.frame receiveNs nowNs).2.status.result = .applied

def lossless : LinkAction → Bool
  | .loseCommand | .loseStatus | .softRestart | .io (.call .stop) => false
  | _ => true

-- A frame goes out with a sequence newer, in the order of the ring, than every
-- one before it that the node still has to compare with.
def NumbersOn (m : LinkMoment) : Prop :=
  ∀ wire frame nowNs, m.action = .io (.send .sent) → m.before.io.stage = .encoded wire frame nowNs →
    wire.sessionId = m.before.node.sessionId →
    ∀ earlier ∈ numbered m.before, CanV1.seqNewer wire.sequence earlier = true

structure OrderInvariant (past : List LinkMoment) (s : NodeLink) : Prop where
  io : IoSystem.IoInvariant (ioHistory past) s.io
  node : s.io.io.nodeId = s.node.config.nodeId
  addressed : ∀ sent ∈ s.downlink, ∃ wire, CanV1.encodeOutputCommand wire = .ok sent.frame ∧
    wire.nodeId = s.node.config.nodeId
  ordered : (numbered s).Pairwise fun earlier later => CanV1.seqNewer later earlier = true

theorem encoded_sequence (sessionId : UInt16) (encoded : CanV1.encodeOutputCommand wire = .ok frame) :
    sessionSequence sessionId frame = if wire.sessionId = sessionId then some wire.sequence else none := by
  rw [sessionSequence,CanV1.command_roundtrip wire encoded]

theorem deliver_numbered (s : NodeLink) (waiting : s.downlink = sent :: rest) (receiveNs nowNs : Int) :
    (numbered (s.deliverCommand sent rest receiveNs nowNs)).Sublist (numbered s) := by
  obtain ⟨node,downlink⟩ := deliver_parts s sent rest receiveNs nowNs
  simp only [numbered,node,downlink,waiting]
  have dropped := (List.sublist_cons_self sent rest).filterMap fun sent => sessionSequence s.node.sessionId sent.frame
  have handled := s.node.frame_exact sent.frame receiveNs nowNs
  generalize (s.node.handleFrame sent.frame receiveNs nowNs).1 = next at handled ⊢
  generalize (s.node.handleFrame sent.frame receiveNs nowNs).2 = result at handled
  cases handled with
  | silent _ _ => exact (List.Sublist.refl _).append dropped
  | @answered cmd _ _ decoded answer =>
      cases answer with
      | rejected _ same history last _ =>
          rw [same.session,history,last]
          exact (List.Sublist.refl _).append dropped
      | applied admitted same history last =>
          have first : sessionSequence s.node.sessionId sent.frame = some cmd.sequence := by
            simp [sessionSequence,decoded,admitted.session]
          rw [same.session,history,last,if_pos rfl]
          simp only [List.filterMap_cons,first]
          exact List.sublist_append_right _ _

theorem ordered_newer {sequence : UInt16} (waiting : s.downlink = sent :: rest)
    (ordered : (numbered s).Pairwise fun earlier later => CanV1.seqNewer later earlier = true)
    (first : sessionSequence s.node.sessionId sent.frame = some sequence)
    (accepted : s.node.hasAcceptedSequence = true) :
    CanV1.seqNewer sequence s.node.lastAcceptedSequence = true := by
  rw [numbered,if_pos accepted,waiting] at ordered
  simp only [List.filterMap_cons,first] at ordered
  exact (List.pairwise_append.mp ordered).2.2 _ List.mem_cons_self _ List.mem_cons_self

theorem order_admits (invariant : OrderInvariant past s) : AdmitsEligible ⟨s,action,next⟩ past := by
  rintro receiveNs nowNs sent rest cmd rfl waiting decoded session ready fresh
  have waiting : s.downlink = sent :: rest := waiting
  obtain ⟨wire,encoded,named⟩ := invariant.addressed sent (by rw [waiting]; exact List.mem_cons_self)
  have same : wire = cmd := Except.ok.inj ((CanV1.command_roundtrip wire encoded).symm.trans decoded)
  subst same
  have first := (encoded_sequence s.node.sessionId encoded).trans (if_pos session)
  have admitted : s.node.Admissible wire receiveNs nowNs :=
    ⟨session,ready,ordered_newer waiting invariant.ordered first,fresh⟩
  dsimp only
  rw [s.node.addressed_answered encoded named]
  have answer := s.node.apply_exact wire receiveNs nowNs
  generalize (s.node.applyCommand wire receiveNs nowNs).1 = after at answer
  generalize (s.node.applyCommand wire receiveNs nowNs).2 = result at answer ⊢
  cases answer with
  | rejected refused _ _ _ _ => exact absurd admitted refused
  | applied _ _ _ _ => exact ⟨rfl,rfl⟩

theorem order_framed (invariant : OrderInvariant past s) (base : IoSystem.IoInvariant (ioHistory later) next.io)
    (own : next.io.io.nodeId = s.io.io.nodeId) (config : next.node.config.nodeId = s.node.config.nodeId)
    (fewer : next.downlink ⊆ s.downlink) (order : (numbered next).Sublist (numbered s)) : OrderInvariant later next := by
  refine ⟨base,?_,?_,invariant.ordered.sublist order⟩
  · rw [own,config]
    exact invariant.node
  · rw [config]
    exact fun sent present => invariant.addressed sent (fewer present)

theorem order_preserved (invariant : OrderInvariant past s) (taken : step s action = some next)
    (kept : lossless action = true) (met : NumbersOn ⟨s,action,next⟩) :
    OrderInvariant (⟨s,action,next⟩ :: past) next := by
  have base := io_invariant invariant.io taken
  cases step_exact taken with
  | io moved _ =>
      exact order_framed invariant base (IoSystem.step_nodeId moved) rfl (List.Subset.refl _) (List.Sublist.refl _)
  | @sent _ wire frame nowNs moved stage _ _ =>
      obtain ⟨command,held⟩ := invariant.io.held (by simp [stage])
      obtain ⟨wired,encoded⟩ := invariant.io.wired wire frame nowNs command stage held
      refine ⟨base,(IoSystem.step_nodeId moved).trans invariant.node,?_,?_⟩
      · intro sent present
        rcases List.mem_append.mp present with before | new
        · exact invariant.addressed sent before
        · rw [List.mem_singleton.mp new]
          exact ⟨wire,encoded,(wire_parts wired).1.trans invariant.node⟩
      · have newer := met wire frame nowNs rfl stage
        have ordered := invariant.ordered
        simp only [numbered,List.filterMap_append,← List.append_assoc] at ordered newer ⊢
        refine List.pairwise_append.mpr ⟨ordered,?_,?_⟩
        · simp only [List.filterMap_cons,List.filterMap_nil]
          split <;> simp
        · intro earlier listed later new
          simp only [List.filterMap_cons,List.filterMap_nil,encoded_sequence _ encoded] at new
          split at new
          · cases new
          · rename_i found
            split at found
            · rename_i session
              cases found
              rw [List.mem_singleton.mp new]
              exact newer session earlier listed
            · cases found
  | commandDelivered waiting =>
      obtain ⟨node,downlink⟩ := deliver_parts s _ _ _ _
      refine order_framed invariant base ?_ ?_ ?_ (deliver_numbered s waiting _ _)
      · rw [(deliver_frame s _ _ _ _).1]
      · rw [node,s.node.frame_config]
      · rw [downlink,waiting]
        exact List.subset_cons_self _ _
  | commandLost _ | statusLost _ | restarted => cases kept
  | statusDelivered _ =>
      obtain ⟨own,node,downlink⟩ := status_frame s _ _ _
      refine order_framed invariant base (by rw [own]) (by rw [node]) (by rw [downlink]; exact List.Subset.refl _) ?_
      simp only [numbered,node,downlink]
      exact List.Sublist.refl _
  | @expired nowNs =>
      obtain ⟨same,history,last⟩ := s.node.expire_same nowNs
      refine order_framed invariant base rfl (by rw [same.config]) (List.Subset.refl _) ?_
      simp only [numbered,same.session,history,last]
      exact List.Sublist.refl _
  | @interlocked ready =>
      have same : (s.node.setInterlockReady ready).config.nodeId = s.node.config.nodeId ∧
          numbered {s with node := s.node.setInterlockReady ready} = numbered s := by
        cases ready <;> exact ⟨rfl,rfl⟩
      exact order_framed invariant base rfl same.1 (List.Subset.refl _) (same.2 ▸ List.Sublist.refl _)

def restartedSequence : List LinkAction :=
  activated ++ transmitted ⟨7,1,900000000,1,1⟩ 100 ++ [.deliverCommand 110 110,.deliverStatus 120] ++ reactivated ++
    transmitted ⟨7,1,900000000,1,0⟩ 200 ++ [.deliverCommand 210 210]

theorem accepted_refused :
    ∃ history s, Reached step session7 history s ∧ Throughout (fun m _ => lossless m.action = true) history ∧
      ¬ Throughout AdmitsEligible history := by
  refine ⟨_,_,replay_reached restartedSequence .start rfl,?_,?_⟩
  · repeat' constructor
  · intro admits
    have answered := admits.1 210 210 _ _ _ rfl rfl rfl rfl rfl (by decide)
    cases answered.2

theorem node_admits (config : RuntimeConfig) (queue : BoundedInputQueue) (nodeConfig : CanNodeConfig)
    (path : Reached step (launched config queue nodeConfig) history s)
    (met : Throughout (fun m _ => lossless m.action = true ∧ NumbersOn m) history) :
    Throughout AdmitsEligible history := by
  refine throughout_under OrderInvariant ⟨launched_io config queue nodeConfig,rfl,?_,?_⟩
    (fun _ _ _ _ invariant taken met => order_preserved invariant taken met.1 met.2)
    (fun _ _ _ _ invariant _ _ => order_admits invariant) path met
  · intro _ present; cases present
  · exact .nil

theorem node_admits_numberedOn :
    ∃ history s, Reached step session7 history s ∧ s.node.lastAcceptedSequence = 2 ∧
      Throughout AdmitsEligible history := by
  have path : Reached step session7 _ _ := replay_reached
    (activated ++ transmitted ⟨7,1,900000000,1,1⟩ 100 ++ [.deliverCommand 110 110,.deliverStatus 120] ++ reactivated ++
      transmitted ⟨7,2,900000000,1,0⟩ 200 ++ [.deliverCommand 210 210]) .start rfl
  refine ⟨_,_,path,rfl,node_admits {} _ {sessionId := 7} path ?_⟩
  repeat' apply And.intro
  all_goals first
    | rfl
    | exact True.intro
    | intro _ _ _ same; cases same; done
    | intro _ _ _ _ stage _; cases stage; exact List.all_eq_true.mp rfl

end RobotControlRuntime.NodeLink
