/-
What comes of a call, given the frames with which the service answers it.

The service sends frames and hangs up; nothing interrupts the wait and the outputs take
everything.  The call ends at the first frame that is its last: one that cannot be read,
is an error, cannot be printed, or after which no other is awaited.  Output and exit
status are those of the frames up to this one.  If there is none, the frames are all
printed and the call fails because the connection is closed.

The wait is followed frame by frame: `run_not_last` takes the frames before the last one,
`run_last` the last one, `run_hangUp` the end of the connection.
-/
import VarlinkClient.Command.Call
import VarlinkClient.Proofs.ReplyStream
import VarlinkClient.Proofs.Wait

namespace VarlinkClient.CallRequest

open Connection (wire)

/-! ### Frames of an answer -/

/-- The call ends at this frame. -/
def endsAt (more : Bool) (frame : Bytes) : Bool :=
  match Reply.decode frame with
  | .ok reply => reply.isLast more
  | .error _ => true

/-- What is printed for a frame. -/
def printed (palette : Palette) (frame : Bytes) : Text :=
  match Reply.decode frame with
  | .ok reply => reply.printed palette
  | .error _ => []

/-- What is complained about when the call ends at this frame. -/
def complaint (frame : Bytes) : Text :=
  match Reply.decode frame with
  | .ok reply => reply.complaint
  | .error failure => "Unable to process events: " ++ failure.message ++ "\n"

/-- The exit status when the call ends at this frame. -/
def exitStatus (frame : Bytes) : Nat :=
  match Reply.decode frame with
  | .error _ => 13
  | .ok reply => if !reply.isPrintable then 7 else if reply.isError then 11 else 0

theorem exitStatus_ok {frame : Bytes} {reply : Reply} (h : Reply.decode frame = .ok reply) :
    exitStatus frame = reply.outcome.exitCode := by
  rw [exitStatus, h]
  dsimp only
  rw [Reply.outcome, Reply.isError]
  cases reply.isPrintable with
  | false => rfl
  | true => cases reply.error <;> rfl

/-! ### The wait -/

variable {service : Service} {limit : Option Nat} {more : Bool} {palette : Palette}

/-- A connection over which these frames have arrived, and whose other side has hung up. -/
def answered (sent : Bytes) (frames : List Bytes) : Connection :=
  ⟨wire frames, [], .finished, sent, false⟩

/-- A service that answers with frames and hangs up leaves the connection answered. -/
theorem receive_answered {call : Call} {frames : List Bytes}
    (hreacts : service.react call.encode.dropLast = .response ⟨wire frames, true⟩) :
    service.receive .fresh call = (.ok (), answered call.encode frames) := by
  simp [Service.receive, Connection.send, Connection.fresh, hreacts, Connection.receive,
    Connection.leave, answered]

theorem poll_answered (service : Service) (sent : Bytes) {frame : Bytes} (hframe : 0 ∉ frame)
    (frames : List Bytes) :
    service.channel.poll (answered sent (frame :: frames)) =
      (Connection.answer frame, answered sent frames) := by
  have hbytes : wire (frame :: frames) = frame ++ 0 :: wire frames := Connection.wire_cons ..
  exact Connection.poll_frame (c := answered sent (frame :: frames)) rfl (by simp [answered])
    hframe hbytes

theorem poll_answered_nil (sent : Bytes) :
    service.channel.poll (answered sent []) = (.ok .closed, answered sent []) := rfl

/-- Frames at which the call does not end are printed, and the wait goes on. -/
theorem run_not_last (sent : Bytes) (err : Text) (frames : List Bytes) :
    ∀ (before : List Bytes) (moments : List Moment) (out : Text),
      (∀ frame ∈ before, 0 ∉ frame) → (∀ frame ∈ before, endsAt more frame = false) →
      (∀ moment ∈ moments.take before.length, Wait.Calm limit moment) →
      before.length ≤ moments.length →
      Wait.run service.channel ReplyStream.handle limit moments
          (answered sent (before ++ frames)) (.unsettled more palette out err) =
        Wait.run service.channel ReplyStream.handle limit (moments.drop before.length)
          (answered sent frames)
          (.unsettled more palette (out ++ before.flatMap (printed palette)) err) := by
  intro before
  induction before with
  | nil => intro moments out _ _ _ _; simp
  | cons frame before ih =>
      intro moments out hfree hgoesOn hcalm hlength
      cases moments with
      | nil => simp at hlength
      | cons moment moments =>
          have hpoll := poll_answered service sent (hfree frame (by simp))
            (before ++ frames)
          have hlast := hgoesOn frame (by simp)
          cases hdecode : Reply.decode frame with
          | error failure => simp [endsAt, hdecode] at hlast
          | ok reply =>
              have hprinted : printed palette frame = reply.printed palette := by
                simp [printed, hdecode]
              rw [Connection.answer, hdecode] at hpoll
              rw [endsAt, hdecode] at hlast
              rw [List.cons_append, Wait.run_awaiting rfl (hcalm moment (by simp)) hpoll
                (ReplyStream.handle_not_last hlast palette out err)]
              rw [ih moments _ (fun f hf => hfree f (by simp [hf]))
                (fun f hf => hgoesOn f (by simp [hf])) (fun m hm => hcalm m (by simp [hm]))
                (by simpa using hlength)]
              simp [hprinted]

/-- The frame at which the call ends settles it. -/
theorem run_last (service : Service) (sent : Bytes) {frame : Bytes} (hfree : 0 ∉ frame)
    (later : List Bytes) (hlast : endsAt more frame = true) {moment : Moment}
    (calm : Wait.Calm limit moment) (moments : List Moment) (out : Text) :
    let wait := Wait.run service.channel ReplyStream.handle limit (moment :: moments)
      (answered sent (frame :: later)) (.unsettled more palette out [])
    ∃ outcome, settle wait.1 wait.2.2 =
        (.ok outcome, .unlimited (out ++ printed palette frame) (complaint frame)) ∧
      outcome.exitCode = exitStatus frame := by
  have hpoll := poll_answered service sent hfree later
  cases hdecode : Reply.decode frame with
  | error failure =>
      obtain ⟨reason, rfl⟩ := Connection.decode_error hdecode
      rw [Connection.answer, hdecode] at hpoll
      rw [Wait.run_failed rfl calm hpoll]
      refine ⟨.localFailure .invalidMessage, ?_, by simp [exitStatus, hdecode]; rfl⟩
      simp [settle, settleFailure, ReplyStream.unsettled, printed, complaint, hdecode,
        Failure.kind]
  | ok reply =>
      rw [Connection.answer, hdecode] at hpoll
      rw [endsAt, hdecode] at hlast
      rw [Wait.run_done rfl calm hpoll (ReplyStream.handle_last hlast palette out []) rfl]
      exact ⟨reply.outcome, by simp [settle, ReplyStream.settled, printed, complaint, hdecode],
        (exitStatus_ok hdecode).symm⟩

/-- Without such a frame the call fails when the other side is found to have hung up. -/
theorem run_hangUp (service : Service) (more : Bool) (palette : Palette) (sent : Bytes)
    {moment : Moment} (calm : Wait.Calm limit moment) (moments : List Moment) (out : Text) :
    let wait := Wait.run service.channel ReplyStream.handle limit (moment :: moments)
      (answered sent []) (.unsettled more palette out [])
    settle wait.1 wait.2.2 = (.ok (.localFailure .connectionClosed),
      .unlimited out "Connection closed.\n") := by
  rw [Wait.run_hungUp rfl calm (poll_answered_nil sent)]
  simp [settle, ReplyStream.unsettled]

/-! ### The command -/

/-- A call that is asked for, at an address that is given and where a service answers it with
these frames and then hangs up.  The outputs take everything and are empty, and at no turn at
which a frame is looked for, or one more, is the wait interrupted or its time up. -/
structure Answered (desk : Desk) (tokens : List Text) (request : CallRequest)
    (frames : List Bytes) (address : Address) (service : Service)
    (parameters : Option Json.Members) : Prop where
  parsed : parse tokens = .ok (.run request)
  given : request.target.address = some address
  reachable : desk.session.world.reach address = .ok service
  loaded : ParameterSource.load request.parameters desk.stdin = .ok parameters
  outputs : desk.outputs = .unlimited [] []
  free : ∀ frame ∈ frames, 0 ∉ frame
  responds : service.react (request.call parameters).encode.dropLast =
    .response ⟨wire frames, true⟩
  calm : ∀ moment ∈ (Session.momentsOf service (request.call parameters)).take (frames.length + 1),
    Wait.Calm desk.session.limit moment
  enough : frames.length < (Session.momentsOf service (request.call parameters)).length

namespace Answered

variable {desk : Desk} {tokens : List Text} {request : CallRequest} {frames : List Bytes}
  {address : Address} {parameters : Option Json.Members}

/-- The run of the command is the wait for the frames, settled. -/
theorem run_eq (h : Answered desk tokens request frames address service parameters) :
    let call := request.call parameters
    let wait := Wait.run service.channel ReplyStream.handle desk.session.limit
      (Session.momentsOf service call) (answered call.encode frames)
      (.unsettled request.more desk.palette [] [])
    let settled := settle wait.1 wait.2.2
    run desk tokens =
      ⟨settled.1.map Outcome.exitCode, settled.2, [⟨address, wait.2.1.sent⟩]⟩ := by
  have hsend : service.channel.send .fresh (request.call parameters) =
      (.ok (), answered (request.call parameters).encode frames) := receive_answered h.responds
  simp only [run_of_parse h.parsed, h.loaded, invoke, h.given, Session.locate, invokeAt,
    Session.visit, h.reachable, exchange, hsend, ReplyStream.start, h.outputs, List.nil_append]
  rfl

/-- How the command ends when the wait comes to an outcome. -/
theorem conclude_run (h : Answered desk tokens request frames address service parameters)
    {outcome : Outcome} {outputs : Outputs}
    (hsettled :
      let wait := Wait.run service.channel ReplyStream.handle desk.session.limit
        (Session.momentsOf service (request.call parameters))
        (answered (request.call parameters).encode frames)
        (.unsettled request.more desk.palette [] [])
      settle wait.1 wait.2.2 = (.ok outcome, outputs)) :
    (run desk tokens).conclude.exit = some outcome.exitCode ∧
      (run desk tokens).conclude.outputs = outputs := by
  rw [h.run_eq]
  dsimp only at hsettled ⊢
  rw [hsettled]
  exact ⟨rfl, rfl⟩

/-- After the frames at which the call does not end there is a moment left for what follows. -/
theorem run_after {before rest : List Bytes}
    (h : Answered desk tokens request (before ++ rest) address service parameters)
    (hbefore : ∀ f ∈ before, endsAt request.more f = false) :
    let sent := (request.call parameters).encode
    ∃ moment moments, Wait.Calm desk.session.limit moment ∧
      Wait.run service.channel ReplyStream.handle desk.session.limit
          (Session.momentsOf service (request.call parameters)) (answered sent (before ++ rest))
          (.unsettled request.more desk.palette [] []) =
        Wait.run service.channel ReplyStream.handle desk.session.limit (moment :: moments)
          (answered sent rest)
          (.unsettled request.more desk.palette (before.flatMap (printed desk.palette)) []) := by
  intro sent
  have henough := h.enough
  have hcalm := h.calm
  rw [List.length_append] at henough hcalm
  set moments := Session.momentsOf service (request.call parameters)
  have hcalmBefore : ∀ moment ∈ moments.take before.length,
      Wait.Calm desk.session.limit moment :=
    fun moment hmem => hcalm moment (List.take_subset_take_left moments (by omega) hmem)
  have hnext : before.length < moments.length := by omega
  refine ⟨moments[before.length], moments.drop (before.length + 1), hcalm _ ?_, ?_⟩
  · exact List.mem_take_iff_getElem.mpr ⟨before.length, by omega, rfl⟩
  · rw [run_not_last sent [] rest before moments [] (fun f hf => h.free f (by simp [hf])) hbefore
      hcalmBefore (by omega), List.drop_eq_getElem_cons hnext, List.nil_append]

end Answered

/-- **What comes of a call is decided by the frames up to the first at which it ends.**  With
such a frame, output and exit status do not depend on the frames after it; without one, all
frames are printed and the call fails. -/
theorem run_answered {desk : Desk} {tokens : List Text} {request : CallRequest}
    {frames : List Bytes} {address : Address} {service : Service}
    {parameters : Option Json.Members}
    (h : Answered desk tokens request frames address service parameters) :
    let ending := (run desk tokens).conclude
    (∀ before frame later, frames = before ++ frame :: later →
      (∀ f ∈ before, endsAt request.more f = false) → endsAt request.more frame = true →
      ending.exit = some (exitStatus frame) ∧
        ending.outputs = .unlimited ((before ++ [frame]).flatMap (printed desk.palette))
          (complaint frame)) ∧
    ((∀ f ∈ frames, endsAt request.more f = false) →
      ending.exit = some 14 ∧
        ending.outputs = .unlimited (frames.flatMap (printed desk.palette))
          "Connection closed.\n") := by
  intro ending
  constructor
  · rintro before frame later rfl hbefore hlast
    obtain ⟨moment, moments, calm, hwait⟩ := h.run_after hbefore
    obtain ⟨outcome, hsettled, hstatus⟩ := run_last service
      (request.call parameters).encode (h.free frame (by simp)) later hlast calm moments
      (before.flatMap (printed desk.palette))
    rw [← hwait] at hsettled
    obtain ⟨hexit, houtputs⟩ := h.conclude_run hsettled
    exact ⟨hstatus ▸ hexit, by simp [ending, houtputs]⟩
  · intro hframes
    rw [← List.append_nil frames] at h
    obtain ⟨moment, moments, calm, hwait⟩ := h.run_after hframes
    have hsettled := run_hangUp service request.more desk.palette
      (request.call parameters).encode calm moments (frames.flatMap (printed desk.palette))
    rw [← hwait] at hsettled
    exact h.conclude_run hsettled

/-- More replies are asked for: the first continues, the second is an error that says it
continues, and the third is not looked at. -/
theorem run_answered_error :
    let frames := ["\x7b\"continues\":true\x7d",
      "\x7b\"error\":\"E\",\"continues\":true\x7d", "["].map (Utf8.encode ·)
    let service : Service := .calm fun _ => ⟨wire frames, true⟩
    let desk : Desk := ⟨⟨⟨fun _ => .ok service⟩, .unix "/r", some 5⟩, .plain, [],
      .unlimited [] []⟩
    let request : CallRequest := ⟨true, ⟨some (.unix "/s"), "a", "B"⟩, none⟩
    let ending := (run desk ["--more", "unix:/s/a.B"]).conclude
    Answered desk ["--more", "unix:/s/a.B"] request frames (.unix "/s") service none ∧
      ending.exit = some 11 ∧
      ending.outputs = .unlimited "\x7b\x7d\n\x7b\x7d\n" "Call failed with error: E\n" := by
  intro frames service desk request ending
  have answered :
      Answered desk ["--more", "unix:/s/a.B"] request frames (.unix "/s") service none :=
    { parsed := by decide
      given := rfl
      reachable := rfl
      loaded := rfl
      outputs := rfl
      free := by decide
      responds := rfl
      calm := by decide
      enough := by decide }
  exact ⟨answered, (run_answered answered).1 [_] _ [_] rfl (by decide) (by decide)⟩

end VarlinkClient.CallRequest
