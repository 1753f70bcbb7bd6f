/-
What an exchange does, step by step.

The channel is given a record of the call that is sent, the polls and the closing.  After its
call an exchange polls in vain for a while, and then comes to one of a few endings, which
`Ending` lists with what comes of each.  None of them is a wait that ends well without a reply.

A wait whose replies are printed looks at the state of the stream only, never at its outcome.  That
the outcome is there when the wait ends well is an invariant of the stream, which no reply breaks
and which `ReplyStream.wait_keeps` carries through the wait.
-/
import VarlinkClient.Proofs.Interruption
import VarlinkClient.Proofs.ReplyStream
import VarlinkClient.Script

namespace VarlinkClient

namespace Exchange

variable {σ : Type}

/-! ### Records -/

/-- Something that is done with a channel during an exchange. -/
inductive Step
  /-- A call was sent, with this result. -/
  | sent (call : Call) (result : Except Failure Unit)
  /-- The channel was polled or given up. -/
  | waited (step : Wait.Step)

/-- The channel with a record of what is done with it. -/
def recorded (channel : Channel σ) : Channel (σ × List Step) where
  send s call := ((channel.send s.1 call).1,
    ((channel.send s.1 call).2, s.2 ++ [.sent call (channel.send s.1 call).1]))
  poll s := ((channel.poll s.1).1,
    ((channel.poll s.1).2, s.2 ++ [.waited (.polled (channel.poll s.1).1)]))
  close s := (channel.close s.1, s.2 ++ [.waited .closed])
  isClosed s := channel.isClosed s.1

/-- How an exchange ends whose call was sent: given the moment after the polls that found nothing,
what is done then, and what comes of it. -/
inductive Ending (limit : Option Nat) :
    Option Moment → List Wait.Step → Except Stop Answer → Prop
  | waiting : Ending limit none [] (.error .waiting)
  | canceled {moment : Moment} (h : moment.canceled = true) :
      Ending limit (some moment) [.closed] (.error (.failed .canceled))
  | timedOut {moment : Moment} (h : moment.canceled = false)
      (hexpired : Wait.expired limit moment = true) :
      Ending limit (some moment) [.closed] (.error (.failed .timedOut))
  | failed {moment : Moment} (calm : Wait.Calm limit moment) (failure : Failure) :
      Ending limit (some moment) [.polled (.error failure)] (.error (.failed failure))
  | hungUp {moment : Moment} (calm : Wait.Calm limit moment) :
      Ending limit (some moment) [.polled (.ok .closed)] (.error (.failed .connectionClosed))
  | replied {moment : Moment} (calm : Wait.Calm limit moment) (reply : Reply) :
      Ending limit (some moment) [.polled (.ok (.reply reply)), .closed]
        ((Answer.ofReply reply).mapError .failed)

/-! ### The wait -/

/-- What an exchange makes of its wait. -/
def conclude (result : Except Stop Unit) (kept : Option Reply) : Except Stop Answer :=
  match result, kept with
  | .error stop, _ => .error stop
  | .ok (), none => .error (.failed .noOutcome)
  | .ok (), some reply => (Answer.ofReply reply).mapError .failed

theorem callOnce_of_unsent {channel : Channel σ} {method : Text}
    {parameters : Option Json.Members} {s s' : σ} {failure : Failure}
    (h : channel.send s ⟨method, parameters, false⟩ = (.error failure, s')) (limit : Option Nat)
    (moments : List Moment) :
    callOnce channel limit moments method parameters s = (.error (.failed failure), s') := by
  rw [callOnce, h]

theorem callOnce_of_sent {channel : Channel σ} {method : Text}
    {parameters : Option Json.Members} {s s' : σ}
    (h : channel.send s ⟨method, parameters, false⟩ = (.ok (), s')) (limit : Option Nat)
    (moments : List Moment) :
    callOnce channel limit moments method parameters s =
      let wait := Wait.run channel keepFirst limit moments s' none
      (conclude wait.1 wait.2.2, wait.2.1) := by
  rw [callOnce, h]
  dsimp only
  rcases Wait.run channel keepFirst limit moments s' none with ⟨stop | u, s'', none | reply⟩ <;> rfl

theorem recorded_poll {channel : Channel σ} {s s' : σ} {found : Except Failure Poll}
    (hpoll : channel.poll s = (found, s')) (log : List Step) :
    (recorded channel).poll (s, log) = (found, (s', log ++ [.waited (.polled found)])) := by
  simp [recorded, hpoll]

/-- The polls that found nothing. -/
def inVain (n : Nat) : List Wait.Step :=
  List.replicate n (.polled (.ok .pending))

/-- **The wait for the only reply polls in vain for a while and then comes to an end**, and the
records that are kept are those of that end. -/
theorem run_keepFirst {channel : Channel σ} (stays : Wait.StaysOpen channel) (limit : Option Nat)
    (moments : List Moment) : ∀ (s : σ) (log : List Step), channel.isClosed s = false →
      let wait := Wait.run channel keepFirst limit moments s none
      ∃ n ending, (∀ moment ∈ moments.take n, Wait.Calm limit moment) ∧
        Ending limit moments[n]? ending (conclude wait.1 wait.2.2) ∧
        Wait.run (recorded channel) keepFirst limit moments (s, log) none =
          (wait.1, (wait.2.1, log ++ (inVain n ++ ending).map .waited), wait.2.2) := by
  induction moments with
  | nil =>
      intro s log hopen
      have hrun : Wait.run channel keepFirst limit [] s none = (.error .waiting, s, none) := by
        simp [Wait.run, hopen]
      rw [hrun]
      exact ⟨0, [], by simp, .waiting, by simp [Wait.run, recorded, hopen, inVain]⟩
  | cons moment moments ih =>
      intro s log hopen
      have hopen' : (recorded channel).isClosed (s, log) = false := hopen
      cases stays.turn limit moment hopen with
      | canceled hcanceled =>
          rw [Wait.run_canceled hopen hcanceled, Wait.run_canceled hopen' hcanceled]
          exact ⟨0, _, by simp, .canceled hcanceled, by simp [recorded, inVain]⟩
      | timedOut hcanceled hexpired =>
          rw [Wait.run_timedOut hopen hcanceled hexpired, Wait.run_timedOut hopen' hcanceled hexpired]
          exact ⟨0, _, by simp, .timedOut hcanceled hexpired, by simp [recorded, inVain]⟩
      | @failed calm failure s' hpoll =>
          rw [Wait.run_failed hopen calm hpoll,
            Wait.run_failed hopen' calm (recorded_poll hpoll log)]
          exact ⟨0, _, by simp, .failed calm failure, by simp [inVain]⟩
      | hungUp calm hpoll =>
          rw [Wait.run_hungUp hopen calm hpoll,
            Wait.run_hungUp hopen' calm (recorded_poll hpoll log)]
          exact ⟨0, _, by simp, .hungUp calm, by simp [inVain]⟩
      | @replied calm reply s' hpoll _ =>
          -- Whatever the reply says, the handler is done with it.
          have hclosed := stays.close_closed s'
          have hclosed' : (recorded channel).isClosed ((recorded channel).close
              (s', log ++ [.waited (.polled (.ok (.reply reply)))])) = true := hclosed
          rw [Wait.run_done hopen calm hpoll rfl hclosed,
            Wait.run_done hopen' calm (recorded_poll hpoll log) rfl hclosed']
          exact ⟨0, _, by simp, .replied calm reply, by simp [recorded, inVain]⟩
      | @pending calm s' hpoll hstays =>
          rw [Wait.run_pending hopen calm hpoll,
            Wait.run_pending hopen' calm (recorded_poll hpoll log)]
          obtain ⟨n, ending, hcalm, hending, hrun⟩ :=
            ih s' (log ++ [.waited (.polled (.ok .pending))]) hstays
          refine ⟨n + 1, ending, ?_, hending, ?_⟩
          · simpa [calm] using hcalm
          · rw [hrun]
            simp [inVain, List.replicate_succ]

/-- An exchange sends its call, and comes to an ending if the call could be sent. -/
theorem callOnce_recorded {channel : Channel σ} (stays : Wait.StaysOpen channel)
    (limit : Option Nat) (moments : List Moment) {method : Text}
    {parameters : Option Json.Members} {s : σ}
    (hopen : (channel.send s ⟨method, parameters, false⟩).1 = .ok () →
      channel.isClosed (channel.send s ⟨method, parameters, false⟩).2 = false) :
    let call : Call := ⟨method, parameters, false⟩
    let done := callOnce channel limit moments method parameters s
    ∃ steps, callOnce (recorded channel) limit moments method parameters (s, []) =
        (done.1, (done.2, steps)) ∧
      ((∃ failure, steps = [.sent call (.error failure)] ∧ done.1 = .error (.failed failure)) ∨
        ∃ n ending, steps = .sent call (.ok ()) :: (inVain n ++ ending).map .waited ∧
          (∀ moment ∈ moments.take n, Wait.Calm limit moment) ∧
          Ending limit moments[n]? ending done.1) := by
  intro call done
  rcases hsend : channel.send s call with ⟨failure | u, s'⟩
  · have hsend' : (recorded channel).send (s, []) call =
        (.error failure, (s', [.sent call (.error failure)])) := by
      simp [recorded, hsend]
    have hdone : done = (.error (.failed failure), s') := callOnce_of_unsent hsend limit moments
    rw [callOnce_of_unsent hsend' limit moments, hdone]
    exact ⟨_, rfl, Or.inl ⟨failure, rfl, rfl⟩⟩
  · have hsend' : (recorded channel).send (s, []) call =
        (.ok (), (s', [.sent call (.ok ())])) := by
      simp [recorded, hsend]
    have hopen' : channel.isClosed s' = false := by
      rw [hsend] at hopen
      exact hopen rfl
    obtain ⟨n, ending, hcalm, hending, hrun⟩ :=
      run_keepFirst stays limit moments s' [.sent call (.ok ())] hopen'
    have hdone : done = _ := callOnce_of_sent hsend limit moments
    rw [callOnce_of_sent hsend' limit moments, hrun, hdone]
    exact ⟨_, rfl, Or.inr ⟨n, ending, rfl, hcalm, hending⟩⟩

theorem ofReply_ne_noOutcome (reply : Reply) :
    (Answer.ofReply reply).mapError Stop.failed ≠ .error (.failed .noOutcome) := by
  unfold Answer.ofReply
  split <;> simp [Except.mapError]

/-- An ending is without an outcome only when a poll itself says so. -/
theorem Ending.polled_noOutcome {limit : Option Nat} {moment : Option Moment}
    {ending : List Wait.Step} {result : Except Stop Answer}
    (h : Ending limit moment ending result) (hresult : result = .error (.failed .noOutcome)) :
    .polled (.error .noOutcome) ∈ ending := by
  cases h with
  | failed calm failure =>
      cases hresult
      exact List.mem_singleton_self _
  | replied calm reply => exact absurd hresult (ofReply_ne_noOutcome reply)
  | _ => cases hresult

end Exchange

/-! ### Replies that are printed -/

namespace ReplyStream

theorem print_ne_internalFault {palette : Palette} {reply : Reply} {outputs after : Outputs}
    {outcome : Outcome} (h : print palette reply outputs = (after, some outcome)) :
    outcome ≠ .localFailure .internalFault := by
  unfold print at h
  split at h
  · cases h
    simp
  · split at h
    · cases h
    · cases h
      simp

theorem settle_ne_internalFault {more : Bool} {reply : Reply} {outcome : Outcome}
    (h : settle more reply = some outcome) : outcome ≠ .localFailure .internalFault := by
  unfold settle at h
  split at h
  · cases h
    simp
  · split at h
    · cases h
    · cases h
      simp

/-- The stream is coherent, and what it has come to, if it has, is no fault of the program. -/
structure IsSound (stream : ReplyStream) : Prop where
  coherent : stream.IsCoherent
  no_fault : stream.outcome ≠ some (.localFailure .internalFault)

theorem isSound_start (more : Bool) (palette : Palette) (outputs : Outputs) :
    (start more palette outputs).IsSound :=
  ⟨isCoherent_start more palette outputs, nofun⟩

/-- **A reply never settles a call as a fault of the program.** -/
theorem Takes.isSound {stream next : ReplyStream} {reply : Reply} {state : ReplyState}
    (h : Takes stream reply next state) (hstream : stream.IsSound) : next.IsSound := by
  refine ⟨h.isCoherent hstream.coherent, ?_⟩
  cases h with
  | ignored h => exact hstream.no_fault
  | goesOn h hprint hsettle => exact hstream.no_fault
  | unprinted h hprint => simpa using print_ne_internalFault hprint
  | last h hprint hsettle => simpa using settle_ne_internalFault hsettle

/-- A stream that is done has come to an outcome. -/
theorem IsCoherent.exists_outcome {stream : ReplyStream} (h : stream.IsCoherent)
    (hdone : stream.state = .done) : ∃ outcome, stream.outcome = some outcome :=
  Option.isSome_iff_exists.mp (h.mpr hdone)

/-- **What no reply breaks holds of the stream after a wait**, however that ends; and when it ends
well the stream is done. -/
theorem wait_keeps {σ : Type} {channel : Channel σ} (stays : Wait.StaysOpen channel)
    {P : ReplyStream → Prop}
    (hstep : ∀ {stream next reply state}, Takes stream reply next state → P stream → P next)
    {Q : Failure → Prop} (hpoll : ∀ s failure, (channel.poll s).1 = .error failure → Q failure)
    (hown : Q .canceled ∧ Q .timedOut ∧ Q .connectionClosed) (limit : Option Nat)
    (moments : List Moment) {s : σ} {stream : ReplyStream} (hopen : channel.isClosed s = false)
    (h : P stream) :
    let wait := Wait.run channel ReplyStream.handle limit moments s stream
    P wait.2.2 ∧ (wait.1 = .ok () ∧ wait.2.2.state = .done ∨ wait.1 = .error .waiting ∨
      ∃ failure, wait.1 = .error (.failed failure) ∧ Q failure) := by
  have hends := Wait.run_ends stays (P := P) (D := fun stream => P stream ∧ stream.state = .done)
    (fun stream reply h _ => hstep (stream.takes_handle reply) h)
    (fun stream reply h hdone =>
      ⟨hstep (stream.takes_handle reply) h, (stream.takes_handle reply).state_eq.trans hdone⟩)
    hpoll hown limit moments s stream hopen h
  rcases hends with ⟨hok, hP, hdone⟩ | ⟨hP, hstop⟩
  · exact ⟨hP, Or.inl ⟨hok, hdone⟩⟩
  · exact ⟨hP, Or.inr hstop⟩

end ReplyStream

namespace CallRequest

variable {σ : Type}

/-- A call does not come to a fault of the program unless the channel itself fails with one. -/
theorem exchange_ne_internalFault {channel : Channel σ} (stays : Wait.StaysOpen channel)
    (limit : Option Nat) (moments : List Moment) {call : Call} {s : σ}
    (hopen : channel.isClosed (channel.send s call).2 = false)
    (hsend : ∀ failure, (channel.send s call).1 = .error failure → failure.kind ≠ .internalFault)
    (hpoll : ∀ s failure, (channel.poll s).1 = .error failure → failure.kind ≠ .internalFault)
    {stream : ReplyStream} (hstream : stream.IsSound) :
    (exchange channel limit moments call stream s).1.1 ≠ .ok (.localFailure .internalFault) := by
  rw [exchange]
  rcases hsent : channel.send s call with ⟨failure | u, s'⟩
  · rw [hsent] at hsend
    have hkind := hsend failure rfl
    simpa [settleFailure] using hkind
  · rw [hsent] at hopen
    obtain ⟨hsound, hends⟩ := ReplyStream.wait_keeps stays (·.isSound) hpoll (by decide) limit
      moments hopen hstream
    dsimp only
    rcases hrun : Wait.run channel ReplyStream.handle limit moments s' stream with
      ⟨result, s'', last⟩
    rw [hrun] at hsound hends
    dsimp only at hsound hends ⊢
    rcases hends with ⟨rfl, hdone⟩ | rfl | ⟨failure, rfl, hkind⟩
    · obtain ⟨outcome, houtcome⟩ := hsound.coherent.exists_outcome hdone
      have hne := hsound.no_fault
      rw [houtcome] at hne
      simpa [settle, houtcome] using hne
    · simp [settle]
    · unfold settle
      split
      · rename_i heq
        cases heq
      · simp
      · simp
      · simp
      · rename_i heq
        cases heq
        simpa [settleFailure] using hkind

theorem invokeAt_ne_internalFault (desk : Desk) (request : CallRequest)
    (parameters : Option Json.Members) (address : Address) :
    (invokeAt desk request parameters address).1.1 ≠ .ok (.localFailure .internalFault) := by
  rw [invokeAt, Session.visit]
  cases desk.session.world.reach address with
  | error reason => simp [settleFailure, Failure.kind]
  | ok service =>
      have hopen : service.channel.isClosed
          (service.channel.send .fresh (request.call parameters)).2 = false :=
        service.called_closed _
      have hsend : ∀ failure,
          (service.channel.send .fresh (request.call parameters)).1 = .error failure →
            failure.kind ≠ .internalFault := by
        intro failure hfailed
        rw [Service.send_fresh] at hfailed
        dsimp only at hfailed
        split at hfailed
        · cases hfailed
          simp [Failure.kind]
        · cases hfailed
      have hpoll : ∀ (c : Connection) (failure : Failure),
          (service.channel.poll c).1 = .error failure → failure.kind ≠ .internalFault := by
        intro c failure hfailed
        rcases Connection.poll_error hfailed with ⟨reason, rfl⟩ | ⟨reason, rfl⟩
        · simp [Failure.kind]
        · simp [Failure.kind]
      exact exchange_ne_internalFault service.steady.staysOpen _ _ hopen hsend hpoll
        (ReplyStream.isSound_start _ _ _)

/-- No call comes to a fault of the program. -/
theorem invoke_ne_internalFault (desk : Desk) (request : CallRequest)
    (parameters : Option Json.Members) :
    (invoke desk request parameters).1.1 ≠ .ok (.localFailure .internalFault) := by
  unfold invoke
  split
  · simp
  · rename_i failure visits hlocate
    obtain ⟨reason, rfl⟩ := Session.locate_failed (congrArg Prod.fst hlocate)
    simp [settleFailure, Failure.kind]
  · exact invokeAt_ne_internalFault desk request parameters _

end CallRequest

/-! ### Waits that end well -/

namespace Wait

variable {σ : Type}

/-- **A wait that ends well has something to show for it**: what prints the replies, if its state
and its outcome agreed before as they do at the start, is done and has an outcome, and what keeps
the first reply has one.  So a call with a single reply is sent once, and what comes of it is that
reply or the first failure on the way, and that nothing came of it only when the channel itself
says so; and a call whose replies are printed never comes to a fault of the program. -/
theorem StaysOpen.shows_result {channel : Channel σ} (stays : StaysOpen channel)
    (limit : Option Nat) (moments : List Moment) :
    (∀ s, channel.isClosed s = false →
      (∀ stream : ReplyStream, stream.IsCoherent →
        let wait := run channel ReplyStream.handle limit moments s stream
        wait.2.2.IsCoherent ∧ (wait.1 = .ok () →
          wait.2.2.state = .done ∧ ∃ outcome, wait.2.2.outcome = some outcome)) ∧
      (∀ kept, (run channel Exchange.keepFirst limit moments s kept).1 = .ok () →
        ∃ reply, (run channel Exchange.keepFirst limit moments s kept).2.2 = some reply)) ∧
    (∀ (method : Text) (parameters : Option Json.Members) (s : σ),
      let call : Call := ⟨method, parameters, false⟩
      let done := Exchange.callOnce channel limit moments method parameters s
      ((channel.send s call).1 = .ok () → channel.isClosed (channel.send s call).2 = false) →
      ∃ steps, Exchange.callOnce (Exchange.recorded channel) limit moments method parameters
          (s, []) = (done.1, (done.2, steps)) ∧
        ((∃ failure, steps = [.sent call (.error failure)] ∧ done.1 = .error (.failed failure)) ∨
          ∃ n ending, steps = .sent call (.ok ()) :: (Exchange.inVain n ++ ending).map .waited ∧
            (∀ moment ∈ moments.take n, Calm limit moment) ∧
            Exchange.Ending limit moments[n]? ending done.1) ∧
        (done.1 = .error (.failed .noOutcome) → .sent call (.error .noOutcome) ∈ steps ∨
          .waited (.polled (.error .noOutcome)) ∈ steps)) ∧
    (∀ desk request parameters,
      (CallRequest.invoke desk request parameters).1.1 ≠ .ok (.localFailure .internalFault)) := by
  refine ⟨?_, ?_, CallRequest.invoke_ne_internalFault⟩
  · intro s hopen
    constructor
    · intro stream hstream wait
      obtain ⟨hcoherent, hends⟩ := ReplyStream.wait_keeps stays (·.isCoherent)
        (Q := fun _ => True) (fun _ _ _ => trivial) ⟨trivial, trivial, trivial⟩ limit moments hopen
        hstream
      refine ⟨hcoherent, fun hok => ?_⟩
      rcases hends with ⟨-, hdone⟩ | hwaiting | ⟨failure, hfailed, -⟩
      · exact ⟨hdone, hcoherent.exists_outcome hdone⟩
      · cases hok.symm.trans hwaiting
      · cases hok.symm.trans hfailed
    · intro kept hok
      exact run_done_of_ok stays (D := fun kept => ∃ reply, kept = some reply)
        (fun _ reply _ => ⟨reply, rfl⟩) hopen hok
  · intro method parameters s call done hopen
    obtain ⟨steps, hrecorded, hsteps⟩ := Exchange.callOnce_recorded stays limit moments hopen
    refine ⟨steps, hrecorded, hsteps, fun hnothing => ?_⟩
    rcases hsteps with ⟨failure, rfl, hfailed⟩ | ⟨n, ending, rfl, -, hending⟩
    · have hsame : Except.error (Stop.failed failure) = .error (.failed .noOutcome) :=
        hfailed.symm.trans hnothing
      cases hsame
      exact Or.inl (List.mem_singleton_self _)
    · have hpolled := hending.polled_noOutcome hnothing
      refine Or.inr (List.mem_cons_of_mem _ (List.mem_map_of_mem ?_))
      exact List.mem_append_right _ hpolled

/-- A script is closed only when it is given up. -/
theorem staysOpen_script : StaysOpen Script.channel where
  poll_open s hopen := by
    have hopen : s.closed = false := hopen
    show (Script.poll s).2.closed = false
    unfold Script.poll
    split
    · exact hopen
    · dsimp only
      split
      · split <;> exact hopen
      · exact hopen
      · exact hopen
      · exact hopen
      · exact hopen
  close_closed _ := rfl

/-- The reply says that others follow, and is the answer nevertheless; the other is not looked at,
as the channel has been given up. -/
theorem shows_result_continues :
    let items : List Script.Item := [.pending,
      .frame (Utf8.encode "\x7b\"continues\":true\x7d"), .frame (Utf8.encode "\x7b\x7d")]
    let s : Script.State := ⟨items, false, false, []⟩
    let moments : List Moment := [⟨false, 0⟩, ⟨false, 1⟩, ⟨false, 2⟩]
    let call : Call := ⟨"a.B", none, false⟩
    let printed := run Script.channel ReplyStream.handle (some 5) moments s
      (.start false .plain (.unlimited [] []))
    let done := Exchange.callOnce Script.channel (some 5) moments "a.B" none s
    StaysOpen Script.channel ∧
      (printed.1 = .ok () ∧ ∃ outcome, printed.2.2.outcome = some outcome) ∧
      (Script.channel.send s call).2.closed = false ∧
      done.1 = .ok ⟨none, []⟩ ∧ done.2.items.length = 1 ∧
      ∃ steps, Exchange.callOnce (Exchange.recorded Script.channel) (some 5) moments "a.B" none
          (s, []) = (done.1, (done.2, steps)) ∧
        ∃ n ending, steps = .sent call (.ok ()) :: (Exchange.inVain n ++ ending).map .waited ∧
          Exchange.Ending (some 5) moments[n]? ending done.1 := by
  intro items s moments call printed done
  have hprinted : printed.1 = .ok () := rfl
  obtain ⟨-, hsettled⟩ := ((staysOpen_script.shows_result (some 5) moments).1 s rfl).1 _
    (ReplyStream.isCoherent_start false .plain (.unlimited [] []))
  have hdone : done.1 = .ok ⟨none, []⟩ := rfl
  obtain ⟨steps, hrecorded, hsteps, -⟩ :=
    (staysOpen_script.shows_result (some 5) moments).2.1 "a.B" none s (fun _ => rfl)
  refine ⟨staysOpen_script, ⟨hprinted, (hsettled hprinted).2⟩, rfl, hdone, rfl, steps, hrecorded,
    ?_⟩
  rcases hsteps with ⟨failure, -, hfailed⟩ | ⟨n, ending, heq, -, hending⟩
  · cases hdone.symm.trans hfailed
  · exact ⟨n, ending, heq, hending⟩

end Wait

end VarlinkClient
