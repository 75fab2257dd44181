import RobotControlRuntime.CellAppProtocol

namespace RobotControlRuntime
open FrameStream FrameStream.Decoder FrameStream.Codec

structure CellAppHandler (Application : Type) where
  status : Application → Application × CellAppStatus
  probeCellIo : Application → Application × CellAppStatus
  activate : Application → Application × CommandReply
  submitOutput : Application → DigitalOutputRequest → Application × CommandReply

inductive HandlerCall where
  | status | probeCellIo | activate
  | submitOutput (request : DigitalOutputRequest)
  deriving DecidableEq

def makeError (sequence : UInt16) (message : String) : CellAppFrame := ⟨.error,sequence,text message⟩

namespace CellAppHandler
variable {Application : Type} (handler : CellAppHandler Application)

def handleRequest (application : Application) (request : CellAppFrame) :
    Application × CellAppFrame × Option HandlerCall :=
  match request.type with
  | .getStatus =>
    let (next,status) := handler.status application
    match encodeCellAppStatus status with
    | none => (next,makeError request.sequence "status encode",some .status)
    | some payload => (next,⟨.getStatusAck,request.sequence,payload⟩,some .status)
  | .probeCellIo =>
    let (next,status) := handler.probeCellIo application
    match encodeCellAppStatus status with
    | none => (next,makeError request.sequence "cell io probe status encode",some .probeCellIo)
    | some payload => (next,⟨.probeCellIoAck,request.sequence,payload⟩,some .probeCellIo)
  | .activate =>
    let (next,reply) := handler.activate application
    (next,⟨.activateAck,request.sequence,encodeCellCommandReply reply⟩,some .activate)
  | .submitOutput =>
    match decodeCellOutputPayload request.payload with
    | .error error => (application,makeError request.sequence error.message,none)
    | .ok parsed =>
      let (next,reply) := handler.submitOutput application parsed
      (next,⟨.submitOutputAck,request.sequence,encodeCellCommandReply reply⟩,some (.submitOutput parsed))
  | _ => (application,makeError request.sequence "unknown cell message",none)

end CellAppHandler

-- One client session of the server and the application it serves. `sent` lists
-- what each successful write_all put on the socket, `calls` the entries called.
structure ClientSession (Application : Type) where
  application : Application
  buffer : List UInt8 := []
  connected : Bool := true
  sent : List (List UInt8) := []
  calls : List HandlerCall := []

inductive Received where
  | chunk (bytes : List UInt8)
  | nothing
  | closed

namespace ClientSession
variable {Application : Type} (handler : CellAppHandler Application) (writes : Nat → Bool)

def drop (s : ClientSession Application) : ClientSession Application := {s with connected := false}

-- The answer to bytes that cannot be decoded. Whether it could be written does
-- not matter: the client is dropped either way.
def refuse (s : ClientSession Application) (error : Error) : ClientSession Application :=
  match cellAppFormat.encode (makeError 0 error.message) with
  | none => s.drop
  | some wire => if writes s.sent.length then {s with connected := false,sent := s.sent ++ [wire]} else s.drop

-- The loop over a session's buffer. Every turn takes at least one byte off it,
-- so its length is fuel enough. `writes i` tells whether the i-th write succeeds.
def serve : Nat → ClientSession Application → ClientSession Application × Result Unit
  | 0,s => (s,.ok ())
  | fuel + 1,s =>
    if s.buffer = [] then (s,.ok ())
    else match cellAppFormat.tryDecode s.buffer with
      | .error error => if error.code = .wouldBlock then (s,.ok ()) else (s.refuse writes error,.ok ())
      | .ok (request,consumed) =>
        let (application,reply,call) := handler.handleRequest s.application request
        let next := {s with
          application := application
          buffer := s.buffer.drop consumed
          calls := s.calls ++ call.toList}
        match cellAppFormat.encode reply with
        | none => (next.drop,.error ⟨.invalidArgument,"failed to encode cell reply"⟩)
        | some wire =>
          if writes next.sent.length then serve fuel {next with sent := next.sent ++ [wire]}
          else (next.drop,.ok ())

def serviceClient (s : ClientSession Application) : Received → ClientSession Application × Result Unit
  | .nothing => (s,.ok ())
  | .closed => (s.drop,.ok ())
  | .chunk bytes => serve handler writes (s.buffer ++ bytes).length {s with buffer := s.buffer ++ bytes}

def serviceAll (s : ClientSession Application) (received : List Received) : ClientSession Application :=
  received.foldl (fun s next => if s.connected then (s.serviceClient handler writes next).1 else s) s

end ClientSession

namespace CellAppHandler
variable {Application : Type} {handler : CellAppHandler Application}

def asked (request : CellAppFrame) : Option HandlerCall :=
  match request.type with
  | .getStatus => some .status
  | .probeCellIo => some .probeCellIo
  | .activate => some .activate
  | .submitOutput => (decodeCellOutputPayload request.payload).toOption.map .submitOutput
  | _ => none

structure Brief (handler : CellAppHandler Application) : Prop where
  activate : ∀ application, (handler.activate application).2.message.length ≤ 252
  submitOutput : ∀ application request, (handler.submitOutput application request).2.message.length ≤ 252

def answers (handler : CellAppHandler Application) (application : Application) :
    List CellAppFrame → Application × List CellAppFrame
  | [] => (application,[])
  | request :: rest =>
    let (next,reply,_) := handler.handleRequest application request
    let (last,replies) := answers handler next rest
    (last,reply :: replies)

theorem command_fits (reply : CommandReply) (brief : reply.message.length ≤ 252) :
    (encodeCellCommandReply reply).length ≤ FrameFormat.maxPayload := by
  rw [reply_length,FrameFormat.maxPayload]
  omega

theorem output_refusal (refused : decodeCellOutputPayload payload = .error error) :
    error.message = "cell output payload" := by
  unfold decodeCellOutputPayload at refused
  split at refused
  · cases refused
    rfl
  · cases refused

structure Answers (handler : CellAppHandler Application) (request reply : CellAppFrame) (call : Option HandlerCall) : Prop where
  sequence : reply.sequence = request.sequence
  call : call = asked request
  fits : handler.Brief → reply.payload.length ≤ FrameFormat.maxPayload

theorem handle_exact (handler : CellAppHandler Application) (application : Application) (request : CellAppFrame) :
    Answers handler request (handler.handleRequest application request).2.1
      (handler.handleRequest application request).2.2 := by
  obtain ⟨type,sequence,payload⟩ := request
  cases type with
  | getStatus =>
      obtain ⟨payload,encoded,length⟩ := status_encodes (handler.status application).2
      simp only [handleRequest,encoded]
      refine ⟨rfl,rfl,fun _ => ?_⟩
      rw [length]
      decide
  | probeCellIo =>
      obtain ⟨payload,encoded,length⟩ := status_encodes (handler.probeCellIo application).2
      simp only [handleRequest,encoded]
      refine ⟨rfl,rfl,fun _ => ?_⟩
      rw [length]
      decide
  | activate => exact ⟨rfl,rfl,fun brief => command_fits _ (brief.activate application)⟩
  | submitOutput =>
      simp only [handleRequest]
      cases parsed : decodeCellOutputPayload payload with
      | error error =>
          refine ⟨rfl,by simp [asked,parsed,Except.toOption],fun _ => ?_⟩
          show (text error.message).length ≤ _
          rw [output_refusal parsed]
          decide
      | ok output =>
          exact ⟨rfl,by simp [asked,parsed,Except.toOption],fun brief => command_fits _ (brief.submitOutput application output)⟩
  | _ =>
      refine ⟨rfl,rfl,fun _ => ?_⟩
      show (text "unknown cell message").length ≤ _
      decide

variable (handler)

theorem answers_append (application : Application) (one two : List CellAppFrame) :
    handler.answers application (one ++ two) =
      ((handler.answers (handler.answers application one).1 two).1,
        (handler.answers application one).2 ++ (handler.answers (handler.answers application one).1 two).2) := by
  induction one generalizing application with
  | nil => rfl
  | cons request rest ih => simp only [List.cons_append,answers,ih]

end CellAppHandler

def cellAppWire (frame : CellAppFrame) : List UInt8 := (cellAppFormat.encode frame).getD []

theorem wire_encodes (frame : CellAppFrame) (fits : frame.payload.length ≤ FrameFormat.maxPayload) :
    cellAppFormat.encode frame = some (cellAppWire frame) := by
  have encoded : cellAppFormat.encode frame = some _ := if_neg (Nat.not_lt.mpr fits)
  rw [cellAppWire,encoded]
  rfl

namespace ClientSession
variable {Application : Type} (handler : CellAppHandler Application)

def progress (start : Application) (requests : List CellAppFrame) (rest : List UInt8) : ClientSession Application where
  application := (handler.answers start requests).1
  buffer := rest
  sent := (handler.answers start requests).2.map cellAppWire
  calls := requests.filterMap CellAppHandler.asked

variable {handler}

theorem serve_drains (brief : handler.Brief) (drains : cellAppFormat.codec.Drains bytes requests rest)
    (s : ClientSession Application) (buffered : s.buffer = bytes) (room : bytes.length ≤ fuel) :
    serve handler (fun _ => true) fuel s = ({s with
      application := (handler.answers s.application requests).1
      buffer := rest
      sent := s.sent ++ (handler.answers s.application requests).2.map cellAppWire
      calls := s.calls ++ requests.filterMap CellAppHandler.asked},.ok ()) := by
  induction drains generalizing s fuel with
  | @rest bytes waits =>
      have same : s = {s with
          application := (handler.answers s.application []).1
          buffer := bytes
          sent := s.sent ++ (handler.answers s.application []).2.map cellAppWire
          calls := s.calls ++ List.filterMap CellAppHandler.asked []} := by
        simp [CellAppHandler.answers,← buffered]
      rw [← same]
      obtain ⟨reason,judged,waiting⟩ := waits
      cases fuel with
      | zero => rfl
      | succ fuel =>
          have judged : cellAppFormat.tryDecode s.buffer = .error reason := buffered ▸ judged
          have code : reason.code = .wouldBlock := by simpa [FrameFormat.codec] using waiting
          simp only [serve,judged,code,if_true]
          split <;> rfl
  | @frame bytes request n requests rest decoded onward ih =>
      have decoded : cellAppFormat.tryDecode s.buffer = .ok (request,n) := buffered ▸ decoded
      obtain ⟨positive,inside⟩ := cellAppFormat.decode_consumed s.buffer request n decoded
      have nonempty : s.buffer ≠ [] := by
        intro none
        rw [none,List.length_nil] at inside
        omega
      obtain ⟨fuel,rfl⟩ : ∃ less, fuel = less + 1 := ⟨fuel - 1,by rw [buffered] at inside; omega⟩
      have answered := handler.handle_exact s.application request
      have encoded := wire_encodes _ (answered.fits brief)
      simp only [serve,if_neg nonempty,decoded,encoded,if_true]
      rw [ih _ (by rw [buffered]) (by rw [List.length_drop]; omega),answered.call]
      cases call : CellAppHandler.asked request <;> simp [CellAppHandler.answers,call]

theorem chunk_progress (brief : handler.Brief) (start : Application)
    (drains : cellAppFormat.codec.Drains (rest ++ chunk) others rest') :
    (progress handler start requests rest).serviceClient handler (fun _ => true) (.chunk chunk) =
      (progress handler start (requests ++ others) rest',.ok ()) := by
  have served := serve_drains brief drains {progress handler start requests rest with buffer := rest ++ chunk} rfl
    (Nat.le_refl _)
  simp only [serviceClient]
  refine served.trans ?_
  simp [progress,CellAppHandler.answers_append]

theorem chunks_progress (brief : handler.Brief) (start : Application) (requests : List CellAppFrame)
    (fed : cellAppFormat.codec.Fed held chunks others rest) :
    serviceAll handler (fun _ => true) (progress handler start requests held) (chunks.map .chunk) =
      progress handler start (requests ++ others) rest := by
  induction fed generalizing requests with
  | nil => rw [List.append_nil]; rfl
  | @cons held chunk arrived middle chunks more rest drains onward ih =>
      have reached := ih (requests ++ arrived)
      rw [List.append_assoc] at reached
      rw [← reached]
      simp only [serviceAll,List.map_cons,List.foldl_cons]
      rw [if_pos (show (progress handler start requests held).connected = true from rfl),
        chunk_progress brief start drains]

theorem requests_encode (requests : List CellAppFrame)
    (sized : ∀ request ∈ requests, request.payload.length ≤ FrameFormat.maxPayload) :
    cellAppFormat.codec.Encodes requests (requests.flatMap cellAppWire) := by
  induction requests with
  | nil => exact .nil
  | cons request rest ih =>
      simp only [List.forall_mem_cons] at sized
      exact .cons (wire_encodes request sized.1) (ih sized.2)

theorem answers_exact (brief : handler.Brief) (start : Application) (requests : List CellAppFrame) :
    (handler.answers start requests).2.map (·.sequence) = requests.map (·.sequence) ∧
      (handler.answers start requests).2.map cellAppFormat.encode =
        ((handler.answers start requests).2.map cellAppWire).map some := by
  induction requests generalizing start with
  | nil => exact ⟨rfl,rfl⟩
  | cons request rest ih =>
      have answered := handler.handle_exact start request
      obtain ⟨sequences,encoded⟩ := ih (handler.handleRequest start request).1
      simp only [CellAppHandler.answers,List.map_cons,answered.sequence,sequences,encoded,
        wire_encodes _ (answered.fits brief),and_self]

structure Answered (handler : CellAppHandler Application) (start : Application) (requests : List CellAppFrame)
    (s : ClientSession Application) : Prop where
  connected : s.connected = true
  drained : s.buffer = []
  replies : (handler.answers start requests).2.map cellAppFormat.encode = s.sent.map some
  sequences : (handler.answers start requests).2.map (·.sequence) = requests.map (·.sequence)
  application : s.application = (handler.answers start requests).1
  calls : s.calls = requests.filterMap CellAppHandler.asked

theorem segmentation_independent (brief : handler.Brief) (start : Application)
    (sized : ∀ request ∈ requests, request.payload.length ≤ 256) (cut : chunks.flatten = requests.flatMap cellAppWire) :
    Answered handler start requests
        (serviceAll handler (fun _ => true) {application := start} (chunks.map .chunk)) ∧
      ∀ done, done <+: chunks →
        (serviceAll handler (fun _ => true) {application := start} (done.map .chunk)).buffer.length < 270 := by
  have fed := encodes_fed (requests_encode requests sized) cut
  constructor
  · have reached := chunks_progress brief start [] fed
    rw [List.nil_append] at reached
    obtain ⟨sequences,encoded⟩ := answers_exact brief start requests
    exact reached ▸ ⟨rfl,rfl,encoded,sequences,rfl,rfl⟩
  · rintro done ⟨later,rfl⟩
    obtain ⟨answered,rest,front⟩ := fed_front fed
    have reached := chunks_progress brief start [] front
    obtain ⟨reason,judged,waiting⟩ := fed_waits cellAppFormat.codec.empty front
    have bound := cellAppFormat.decode_bounded rest reason judged waiting
    exact reached ▸ bound

def counting : CellAppHandler Nat where
  status n := (n + 1,{})
  probeCellIo n := (n + 1,{})
  activate n := (n + 1,{})
  submitOutput n _ := (n + 1,{})

def threeRequests : List CellAppFrame := [⟨.getStatus,1,[]⟩,⟨.submitOutput,2,List.replicate 28 1⟩,⟨.unlisted (spare 0),3,[]⟩]

theorem segmentation_independent_threeRequests :
    ∃ chunks, Answered counting 0 threeRequests
        (serviceAll counting (fun _ => true) {application := 0} (chunks.map .chunk)) ∧
      ∀ done, done <+: chunks →
        (serviceAll counting (fun _ => true) {application := 0} (done.map .chunk)).buffer.length < 270 :=
  have brief : counting.Brief := ⟨fun _ => Nat.zero_le _,fun _ _ => Nat.zero_le _⟩
  ⟨[(threeRequests.flatMap cellAppWire).take 5,(threeRequests.flatMap cellAppWire).drop 5],
    segmentation_independent brief 0 (by decide) (by simp)⟩

end ClientSession

end RobotControlRuntime
