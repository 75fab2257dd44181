import Mathlib.Data.List.InsertIdx
import RobotControlRuntime.CellAppServer

namespace RobotControlRuntime

def maxEngineeringClients : Nat := 8

structure EngineeringSession where
  fd : Nat
  buffer : List UInt8 := []
  deriving DecidableEq, Repr

-- The bits of a revents field that are looked at: POLLIN, and any of POLLERR,
-- POLLHUP and POLLNVAL.
structure Revents where
  input : Bool := false
  trouble : Bool := false
  deriving DecidableEq, Repr

-- One accept4; a list of them ends where it would block.
inductive AcceptOutcome where
  | connection (fd : Nat)
  | interrupted
  | failed (reason : String)

-- `revents i` is what the kernel writes into entry i of the array it was given.
inductive PollOutcome where
  | interrupted
  | failed (reason : String)
  | timedOut
  | ready (revents : Nat → Revents)

-- What the sockets do during one call. A read past the end of the array finds
-- whatever lies there: `stray`.
structure PollTurn where
  outcome : PollOutcome
  accepts : List AcceptOutcome := []
  stray : Nat → Revents := fun _ => {}
  receives : Nat → Received := fun _ => .nothing
  writes : Nat → Nat → Bool := fun _ _ => true

structure PollFd where
  fd : Nat
  revents : Revents
  deriving DecidableEq, Repr

-- A session that poll serviced or dropped, its place in clients_ at that moment and
-- the revents it was judged by.
structure Visit where
  index : Nat
  fd : Nat
  revents : Revents
  dropped : Bool
  deriving DecidableEq, Repr

-- `visits` are those of the last call of poll.
structure CellAppServer (Application : Type) where
  application : Application
  clients : List EngineeringSession := []
  listening : Bool := true
  visits : List Visit := []

namespace CellAppServer
variable {Application : Type} (handler : CellAppHandler Application)

def acceptPending (clients : List EngineeringSession) : List AcceptOutcome → List EngineeringSession × Result Unit
  | [] => (clients,.ok ())
  | outcome :: rest =>
    if maxEngineeringClients ≤ clients.length then (clients,.ok ())
    else
      match outcome with
      | .connection fd => acceptPending (clients ++ [{fd := fd}]) rest
      | .interrupted => acceptPending clients rest
      | .failed reason => (clients,.error ⟨.ioError,"accept: " ++ reason⟩)

def dropClient (s : CellAppServer Application) (index : Nat) : CellAppServer Application :=
  {s with clients := s.clients.eraseIdx index}

def serviceClient (t : PollTurn) (s : CellAppServer Application) (index : Nat) (session : EngineeringSession) :
    CellAppServer Application × Result Unit :=
  let (served,result) := ClientSession.serviceClient handler (t.writes session.fd)
    {application := s.application,buffer := session.buffer} (t.receives session.fd)
  let next := {s with application := served.application,clients := s.clients.set index ⟨session.fd,served.buffer⟩}
  (if served.connected then next else next.dropClient index,result)

def pfds (clients : List EngineeringSession) (revents : Nat → Revents) : List PollFd :=
  clients.mapIdx fun index session => ⟨session.fd,revents (index + 1)⟩

def entry (t : PollTurn) (pfds : List PollFd) (index : Nat) : Revents :=
  match pfds[index]? with
  | some entry => entry.revents
  | none => t.stray (index + 1)

-- The loop over the sessions, last first: `i` of them are left.
def sweep (t : PollTurn) (pfds : List PollFd) : Nat → CellAppServer Application → CellAppServer Application × Result Unit
  | 0,s => (s,.ok ())
  | index + 1,s =>
    match s.clients[index]? with
    | none => sweep t pfds index s
    | some session =>
      let seen := entry t pfds index
      let noted (dropped : Bool) := {s with visits := s.visits ++ [⟨index,session.fd,seen,dropped⟩]}
      if seen.trouble ∧ seen.input = false then sweep t pfds index ((noted true).dropClient index)
      else if seen.input then
        match serviceClient handler t (noted false) index session with
        | (next,.error error) => (next,.error error)
        | (next,.ok ()) => sweep t pfds index next
      else sweep t pfds index s

def poll (t : PollTurn) (s : CellAppServer Application) : CellAppServer Application × Result Unit :=
  let s := {s with visits := []}
  if s.listening = false then (s,.error ⟨.notOpen,"cell server not listening"⟩)
  else
    match t.outcome with
    | .interrupted => (s,.ok ())
    | .failed reason => (s,.error ⟨.ioError,"poll: " ++ reason⟩)
    | .timedOut => (s,.ok ())
    | .ready revents =>
      if (revents 0).input then
        match acceptPending s.clients t.accepts with
        | (clients,.error error) => ({s with clients := clients},.error error)
        | (clients,.ok ()) => sweep handler t (pfds s.clients revents) clients.length {s with clients := clients}
      else sweep handler t (pfds s.clients revents) s.clients.length s

def joined (t : PollTurn) (s : CellAppServer Application) : List EngineeringSession :=
  if s.listening = false then []
  else
    match t.outcome with
    | .ready revents =>
      if (revents 0).input then
        match acceptPending s.clients t.accepts with
        | (clients,.ok ()) => clients.drop s.clients.length
        | (_,.error _) => []
      else []
    | _ => []

def polled (t : PollTurn) (s : CellAppServer Application) : List PollFd :=
  match t.outcome with
  | .ready revents => pfds s.clients revents
  | _ => []

-- Every visit was to a session that was polled, and was judged by the entry polled
-- for its own descriptor.
structure Paired (pfds : List PollFd) (visits : List Visit) : Prop where
  own : ∀ visit ∈ visits, pfds[visit.index]? = some ⟨visit.fd,visit.revents⟩
  judged : ∀ visit ∈ visits, if visit.dropped then visit.revents.trouble = true ∧ visit.revents.input = false else visit.revents.input = true

-- And if the call ran through, an entry with something in it was not passed over.
structure Judges (pfds : List PollFd) (done : CellAppServer Application × Result Unit) : Prop extends Paired pfds done.1.visits where
  whole : done.2 = .ok () → ∀ (index : Nat) (polled : PollFd), pfds[index]? = some polled → polled.revents ≠ {} →
    ∃ visit ∈ done.1.visits, visit.index = index

theorem accept_extends (clients : List EngineeringSession) (accepts : List AcceptOutcome) :
    ∃ more, (acceptPending clients accepts).1 = clients ++ more := by
  induction accepts generalizing clients with
  | nil => exact ⟨[],(List.append_nil _).symm⟩
  | cons outcome rest ih =>
      unfold acceptPending
      split
      · exact ⟨[],(List.append_nil _).symm⟩
      cases outcome with
      | connection fd =>
          obtain ⟨more,extended⟩ := ih (clients ++ [{fd := fd}])
          exact ⟨{fd := fd} :: more,by rw [extended,List.append_assoc]; rfl⟩
      | interrupted => exact ih clients
      | failed reason => exact ⟨[],(List.append_nil _).symm⟩

section Sweep
variable (t : PollTurn) (pfds : List PollFd)

theorem service_kept (s : CellAppServer Application) (index : Nat) (session : EngineeringSession) :
    (serviceClient handler t s index session).1.visits = s.visits ∧
      (serviceClient handler t s index session).1.clients.take index = s.clients.take index := by
  unfold serviceClient
  dsimp only
  split
  · exact ⟨rfl,List.take_set_of_le (Nat.le_refl index)⟩
  · refine ⟨rfl,?_⟩
    rw [dropClient,List.take_eraseIdx_eq_take_of_le _ _ _ (Nat.le_refl index)]
    exact List.take_set_of_le (Nat.le_refl index)

structure Visited (s : CellAppServer Application) (index : Nat) (session : EngineeringSession) (dropped : Bool)
    (next : CellAppServer Application) : Prop where
  present : s.clients[index]? = some session
  noted : next.visits = s.visits ++ [⟨index,session.fd,entry t pfds index,dropped⟩]
  judged : if dropped then (entry t pfds index).trouble = true ∧ (entry t pfds index).input = false else (entry t pfds index).input = true
  before : next.clients.take index = s.clients.take index

theorem sweep_step (index : Nat) (s : CellAppServer Application) :
    sweep handler t pfds (index + 1) s = sweep handler t pfds index s ∧ (s.clients[index]? = none ∨ entry t pfds index = {}) ∨
      ∃ session dropped next, Visited t pfds s index session dropped next ∧
        (sweep handler t pfds (index + 1) s = sweep handler t pfds index next ∨
          ∃ error, sweep handler t pfds (index + 1) s = (next,.error error)) := by
  rw [sweep]
  split
  · rename_i absent
    exact .inl ⟨rfl,.inl absent⟩
  rename_i session here
  dsimp only
  split
  · rename_i trouble
    refine .inr ⟨session,true,_,⟨here,rfl,trouble,?_⟩,.inl rfl⟩
    exact List.take_eraseIdx_eq_take_of_le _ _ _ (Nat.le_refl index)
  split
  · rename_i input
    obtain ⟨noted,kept⟩ := service_kept handler t {s with visits := s.visits ++ [⟨index,session.fd,entry t pfds index,false⟩]} index session
    split
    · rename_i next error served
      rw [served] at noted kept
      exact .inr ⟨session,false,next,⟨here,noted,input,kept⟩,.inr ⟨error,rfl⟩⟩
    · rename_i next served
      rw [served] at noted kept
      exact .inr ⟨session,false,next,⟨here,noted,input,kept⟩,.inl rfl⟩
  · rename_i calm silent
    have quiet : (entry t pfds index).input = false := Bool.eq_false_iff.mpr silent
    have still : (entry t pfds index).trouble = false := Bool.eq_false_iff.mpr fun up => calm ⟨up,quiet⟩
    refine .inl ⟨rfl,.inr ?_⟩
    cases seen : entry t pfds index with
    | mk input trouble =>
        rw [seen] at quiet still
        cases quiet
        cases still
        rfl

theorem sweep_grows (i : Nat) (s : CellAppServer Application) :
    ∀ visit ∈ s.visits, visit ∈ (sweep handler t pfds i s).1.visits := by
  induction i generalizing s with
  | zero => exact fun _ listed => listed
  | succ index ih =>
      intro visit listed
      rcases sweep_step handler t pfds index s with ⟨same,_⟩ | ⟨session,dropped,next,visited,onward⟩
      · rw [same]
        exact ih s visit listed
      · have kept : visit ∈ next.visits := by
          rw [visited.noted]
          exact List.mem_append_left _ listed
        rcases onward with onward | ⟨error,ended⟩
        · rw [onward]
          exact ih next visit kept
        · rw [ended]
          exact kept

section Polled
variable (start : CellAppServer Application) (revents : Nat → Revents)

theorem entry_polled (inside : index < start.clients.length) : entry t (CellAppServer.pfds start.clients revents) index = revents (index + 1) := by
  have own : (CellAppServer.pfds start.clients revents)[index]? = some ⟨(start.clients.get ⟨index,inside⟩).fd,revents (index + 1)⟩ := by
    rw [CellAppServer.pfds,List.getElem?_mapIdx,List.getElem?_eq_getElem inside]
    rfl
  rw [entry,own]

theorem take_shorter {one two : List EngineeringSession} (kept : one.take (index + 1) = two.take (index + 1)) :
    one.take index = two.take index ∧ one[index]? = two[index]? := by
  constructor
  · have cut := congrArg (List.take index) kept
    rwa [List.take_take,List.take_take,Nat.min_eq_left (Nat.le_succ index)] at cut
  · have here := congrArg (·[index]?) kept
    simpa only [List.getElem?_take_of_lt (Nat.lt_succ_self index)] using here

theorem sweep_paired (i : Nat) (s : CellAppServer Application)
    (inside : i ≤ start.clients.length) (kept : s.clients.take i = start.clients.take i)
    (paired : Paired (CellAppServer.pfds start.clients revents) s.visits) :
    Paired (CellAppServer.pfds start.clients revents) (sweep handler t (CellAppServer.pfds start.clients revents) i s).1.visits := by
  induction i generalizing s with
  | zero => exact paired
  | succ index ih =>
      obtain ⟨shorter,here⟩ := take_shorter kept
      rcases sweep_step handler t (CellAppServer.pfds start.clients revents) index s with ⟨same,_⟩ | ⟨session,dropped,next,visited,onward⟩
      · rw [same]
        exact ih s (by omega) shorter paired
      · have own : (CellAppServer.pfds start.clients revents)[index]? = some ⟨session.fd,revents (index + 1)⟩ := by
          rw [CellAppServer.pfds,List.getElem?_mapIdx,← here,visited.present]
          rfl
        have next_paired : Paired (CellAppServer.pfds start.clients revents) next.visits := by
          rw [visited.noted]
          constructor
          · intro visit listed
            rcases List.mem_append.mp listed with earlier | now
            · exact paired.own visit earlier
            · cases List.mem_singleton.mp now
              rw [entry_polled t start revents (by omega)]
              exact own
          · intro visit listed
            rcases List.mem_append.mp listed with earlier | now
            · exact paired.judged visit earlier
            · cases List.mem_singleton.mp now
              exact visited.judged
        rcases onward with onward | ⟨error,ended⟩
        · rw [onward]
          exact ih next (by omega) (visited.before.trans shorter) next_paired
        · rw [ended]
          exact next_paired

-- A loop that is not cut short by an error has been at every entry below.
theorem sweep_whole (i : Nat) (s : CellAppServer Application) (inside : i ≤ start.clients.length)
    (kept : s.clients.take i = start.clients.take i)
    (done : (sweep handler t (CellAppServer.pfds start.clients revents) i s).2 = .ok ()) (index : Nat) (below : index < i)
    (shown : revents (index + 1) ≠ {}) :
    ∃ visit ∈ (sweep handler t (CellAppServer.pfds start.clients revents) i s).1.visits, visit.index = index := by
  induction i generalizing s with
  | zero => exact absurd below (Nat.not_lt_zero index)
  | succ last ih =>
      obtain ⟨shorter,here⟩ := take_shorter kept
      rcases sweep_step handler t (CellAppServer.pfds start.clients revents) last s with ⟨same,passed⟩ | ⟨session,dropped,next,visited,onward⟩
      · rw [same] at done ⊢
        refine ih s (by omega) shorter done ?_
        rcases Nat.lt_succ_iff_lt_or_eq.mp below with lower | rfl
        · exact lower
        rcases passed with absent | quiet
        · rw [here,List.getElem?_eq_none_iff] at absent
          omega
        · rw [entry_polled t start revents (by omega)] at quiet
          exact absurd quiet shown
      · rcases onward with onward | ⟨error,ended⟩
        · rw [onward] at done ⊢
          rcases Nat.lt_succ_iff_lt_or_eq.mp below with lower | rfl
          · exact ih next (by omega) (visited.before.trans shorter) done lower
          · have noted : ⟨index,session.fd,entry t (CellAppServer.pfds start.clients revents) index,dropped⟩ ∈ next.visits := by
              rw [visited.noted]
              exact List.mem_append_right _ (.head _)
            exact ⟨_,sweep_grows handler t _ _ next _ noted,rfl⟩
        · rw [ended] at done
          cases done

end Polled

end Sweep

theorem sweep_stray (t : PollTurn) (revents : Nat → Revents) (s : CellAppServer Application)
    (more : List EngineeringSession) (last : EngineeringSession) (trouble : ∀ i, t.stray i = {trouble := true}) :
    ¬ Paired (pfds s.clients revents) (sweep handler t (pfds s.clients revents) (s.clients ++ more ++ [last]).length
      {s with clients := s.clients ++ more ++ [last],visits := []}).1.visits := by
  intro paired
  have here : (s.clients ++ more ++ [last])[(s.clients ++ more).length]? = some last := List.getElem?_concat_length
  have outside : (pfds s.clients revents)[(s.clients ++ more).length]? = none := by
    rw [List.getElem?_eq_none_iff,pfds,List.length_mapIdx,List.length_append]
    exact Nat.le_add_right _ _
  have visited : sweep handler t (pfds s.clients revents) ((s.clients ++ more).length + 1)
      {s with clients := s.clients ++ more ++ [last],visits := []} =
      sweep handler t (pfds s.clients revents) (s.clients ++ more).length
        (dropClient {s with
            clients := s.clients ++ more ++ [last]
            visits := [⟨(s.clients ++ more).length,last.fd,{trouble := true},true⟩]}
          (s.clients ++ more).length) := by
    rw [sweep]
    simp only [here,entry,outside,trouble]
    rfl
  rw [List.length_append,List.length_singleton,visited] at paired
  have own := paired.own ⟨(s.clients ++ more).length,last.fd,{trouble := true},true⟩ (sweep_grows handler _ _ _ _ _ (.head _))
  rw [outside] at own
  cases own

theorem no_visits (pfds : List PollFd) : Paired pfds [] := ⟨nofun,nofun⟩

theorem sweep_own (t : PollTurn) (revents : Nat → Revents) (s : CellAppServer Application) :
    Judges (pfds s.clients revents) (sweep handler t (pfds s.clients revents) s.clients.length {s with visits := []}) where
  toPaired := sweep_paired handler t s revents _ _ (Nat.le_refl _) rfl (no_visits _)
  whole := by
    intro done index polled present shown
    have inside : index < s.clients.length := by
      have listed := (List.getElem?_eq_some_iff.mp present).1
      rwa [pfds,List.length_mapIdx] at listed
    refine sweep_whole handler t s revents _ {s with visits := []} (Nat.le_refl _) rfl done index inside ?_
    have seen := entry_polled t s revents inside
    rw [entry,present] at seen
    exact seen ▸ shown

theorem sweep_paired_iff (t : PollTurn) (revents : Nat → Revents) (s : CellAppServer Application) (more : List EngineeringSession) :
    (∀ stray, Judges (pfds s.clients revents) (sweep handler {t with stray := stray} (pfds s.clients revents) (s.clients ++ more).length
      {s with clients := s.clients ++ more,visits := []})) ↔ more = [] := by
  constructor
  · intro judges
    rcases List.eq_nil_or_concat more with none | ⟨front,last,rfl⟩
    · exact none
    · rw [List.concat_eq_append,← List.append_assoc] at judges
      exact absurd (judges fun _ => {trouble := true}).toPaired (sweep_stray handler _ revents s front last fun _ => rfl)
  · rintro rfl stray
    rw [List.append_nil]
    exact sweep_own handler _ revents s

def firstClient : PollTurn :=
  {outcome := .ready fun _ => {input := true},accepts := [.connection 7],stray := fun _ => {trouble := true}}

theorem accepted_session_dropped :
    (poll ClientSession.counting firstClient {application := 0}).1.visits = [⟨0,7,{trouble := true},true⟩] ∧
      (poll ClientSession.counting firstClient {application := 0}).1.clients = [] := ⟨rfl,rfl⟩

-- The array is as long as the sessions were, the loop as long as they are: pairing
-- holds whatever lies behind the array exactly when none came in between.
theorem paired_iff_none_joined (t : PollTurn) (s : CellAppServer Application) :
    (∀ stray, Judges (s.polled t) (poll handler {t with stray := stray} s)) ↔ s.joined t = [] := by
  unfold joined
  split
  · rename_i closed
    refine iff_of_true (fun stray => ?_) rfl
    rw [poll]
    simp only [closed,if_true]
    exact ⟨no_visits _,fun done => by cases done⟩
  rename_i listening
  unfold polled
  cases outcome : t.outcome with
  | ready revents =>
      dsimp only
      by_cases input : (revents 0).input = true
      · obtain ⟨more,extended⟩ := accept_extends s.clients t.accepts
        cases accepted : acceptPending s.clients t.accepts with
        | mk clients result =>
            rw [accepted] at extended
            obtain rfl : clients = s.clients ++ more := extended
            simp only [poll,if_neg listening,if_pos input,accepted]
            cases result with
            | error error => exact iff_of_true (fun stray => ⟨no_visits _,fun done => by cases done⟩) rfl
            | ok _ =>
                dsimp only
                rw [List.drop_left]
                exact sweep_paired_iff handler {t with outcome := .ready revents} revents s more
      · rw [if_neg input]
        refine iff_of_true (fun stray => ?_) rfl
        simp only [poll,if_neg listening,if_neg input]
        exact sweep_own handler _ revents s
  | _ =>
      refine iff_of_true (fun stray => ?_) rfl
      simp only [poll,if_neg listening]
      exact ⟨no_visits _,fun _ _ _ present => by cases present⟩

end CellAppServer

end RobotControlRuntime
