/-
What a run that fails says.

A failure is either told where it is found or handed up with a wording and told when the run is
concluded.  `Run.Accounts` says that one of the two is so, or that there is nothing to tell; every
command keeps to it with one exception.  A reply to a call that does not fit on the output ends
the call with a failure that nobody tells, unless the reply is an error: its name has been told by
then.  A call that a service refuses is told (`CallRequest.invokeAt_refused`), and so is a
connection that breaks during the wait (`CallRequest.invokeAt_broken`).
-/
import VarlinkClient.Proofs.Interruption
import VarlinkClient.Proofs.ReplyStream
import VarlinkClient.Proofs.Text.Lines

namespace VarlinkClient

/-! ### Texts that say something -/

/-- The text has a character that is not blank. -/
def Text.Says (t : Text) : Prop :=
  isAllBlank t = false

namespace Text

instance (t : Text) : Decidable t.Says :=
  inferInstanceAs (Decidable (_ = false))

theorem says_iff {t : Text} : t.Says ↔ ∃ c ∈ t, isBlank c = false := by
  simp [Says, isAllBlank]

theorem says_of_head {t rest : Text} {c : Char} (h : t = c :: rest) (hblank : isBlank c = false) :
    t.Says :=
  says_iff.mpr ⟨c, by simp [h], hblank⟩

theorem Says.append_right {t : Text} (h : t.Says) (u : Text) : (t ++ u).Says := by
  obtain ⟨c, hc, hblank⟩ := says_iff.mp h
  exact says_iff.mpr ⟨c, List.mem_append_left u hc, hblank⟩

theorem Says.append_left {u : Text} (h : u.Says) (t : Text) : (t ++ u).Says := by
  obtain ⟨c, hc, hblank⟩ := says_iff.mp h
  exact says_iff.mpr ⟨c, List.mem_append_right t hc, hblank⟩

/-- A text that says something has a line that does. -/
theorem Says.exists_line {t : Text} (h : t.Says) :
    ∃ line ∈ splitOn (· = '\n') t, line.Says := by
  obtain ⟨c, hc, hblank⟩ := says_iff.mp h
  have hline : c ≠ '\n' := by
    rintro rfl
    exact absurd hblank (by decide)
  obtain ⟨line, hmem, hcline⟩ :=
    @exists_of_mem_splitOn (· = '\n') t c hc (decide_eq_false hline)
  exact ⟨line, hmem, says_iff.mpr ⟨c, hcline, hblank⟩⟩

end Text

/-! ### Complaints -/

namespace Sink

/-- Something was said on an output that takes all that comes. -/
def Tells (before after : Sink) : Prop :=
  ∃ t : Text, t.Says ∧ after = ⟨before.written ++ Utf8.encode t, none⟩

variable {before after : Sink}

theorem tells_writeText (hroom : before.room = none) {t : Text} (h : t.Says) :
    before.Tells (before.writeText t).1 := by
  refine ⟨t, h, ?_⟩
  rw [writeText, write, hroom]

theorem tells_note (hroom : before.room = none) {line : Text} (h : line.Says) :
    before.Tells (before.note line) :=
  tells_writeText hroom (h.append_right _)

/-- What was told stays told. -/
theorem Tells.note (h : before.Tells after) (line : Text) : before.Tells (after.note line) := by
  obtain ⟨t, ht, rfl⟩ := h
  refine ⟨t ++ (line ++ "\n"), ht.append_right _, ?_⟩
  rw [Sink.note, writeLine, writeText, write, Utf8.encode_append t, List.append_assoc]

end Sink

/-! ### Replies to a call -/

namespace ReplyStream

/-- A reply that is no error was not printed, or only in part, and nothing was said about that. -/
def CutOff (palette : Palette) (before : Sink) (after : Outputs) : Prop :=
  after.stderr = before ∧ ∃ (reply : Reply) (t : Text) (stdout : Sink),
    reply.error = none ∧ Json.layoutParameters palette reply.parameters = .ok t ∧
      stdout.writeLine t = (after.stdout, false)

/-- If the call has failed then that was told, or a reply was cut off. -/
inductive Accounts (palette : Palette) (before : Sink) : Outcome → Outputs → Prop
  | good {outcome : Outcome} {after : Outputs} (h : outcome.exitCode = 0) :
      Accounts palette before outcome after
  | told {outcome : Outcome} {after : Outputs} (h : before.Tells after.stderr) :
      Accounts palette before outcome after
  | cutOff {after : Outputs} (h : CutOff palette before after) :
      Accounts palette before (.localFailure .callFailed) after

/-- The stream awaits a reply and has said nothing. -/
structure IsQuiet (palette : Palette) (before : Sink) (stream : ReplyStream) : Prop where
  palette_eq : stream.palette = palette
  state : stream.state = .awaiting
  stderr : stream.outputs.stderr = before

/-- The stream has settled on an outcome that is accounted for. -/
def IsSettled (palette : Palette) (before : Sink) (stream : ReplyStream) : Prop :=
  ∃ outcome, stream.outcome = some outcome ∧ Accounts palette before outcome stream.outputs

variable {palette : Palette} {before : Sink} {outputs : Outputs} {reply : Reply}

theorem tells_print (h : before.Tells outputs.stderr) (palette : Palette) (reply : Reply) :
    before.Tells (print palette reply outputs).1.stderr := by
  unfold print
  split
  · exact h.note _
  · split <;> exact h

/-- A reply that is an error is told before it is printed. -/
theorem tells_tellError (hroom : outputs.stderr.room = none) {name : Text}
    (h : reply.error = some name) : outputs.stderr.Tells (tellError reply outputs).stderr := by
  rw [tellError, h]
  exact Sink.tells_note hroom (Text.says_of_head rfl (by decide))

theorem tellError_none (h : reply.error = none) (outputs : Outputs) :
    tellError reply outputs = outputs := by
  rw [tellError, h]

/-- A reply that is no error is printed, complained about, or cut off. -/
theorem print_cases (hroom : outputs.stderr.room = none) (palette : Palette)
    (h : reply.error = none) :
    (∃ stdout, print palette reply outputs = ({ outputs with stdout }, none)) ∨
      ∃ after outcome, print palette reply outputs = (after, some outcome) ∧
        Accounts palette outputs.stderr outcome after := by
  unfold print
  split
  · exact Or.inr ⟨_, _, rfl, .told (Sink.tells_note hroom (Text.says_of_head rfl (by decide)))⟩
  · rename_i t hlayout
    split
    · exact Or.inl ⟨_, rfl⟩
    · rename_i stdout hwrite
      exact Or.inr ⟨_, _, rfl, .cutOff ⟨rfl, reply, t, outputs.stdout, h, hlayout, hwrite⟩⟩

/-- A reply that is not printed is told, or cut off. -/
theorem accounts_unprinted (hroom : outputs.stderr.room = none) {palette : Palette}
    {after : Outputs} {outcome : Outcome}
    (h : print palette reply (tellError reply outputs) = (after, some outcome)) :
    Accounts palette outputs.stderr outcome after := by
  cases herror : reply.error with
  | some name =>
      have htold := tells_print (tells_tellError hroom herror) palette reply
      rw [h] at htold
      exact .told htold
  | none =>
      rw [tellError_none herror] at h
      rcases print_cases hroom palette herror with
        ⟨stdout, hprint⟩ | ⟨after, outcome, hprint, haccounts⟩
      · cases h.symm.trans hprint
      · cases h.symm.trans hprint
        exact haccounts

/-- **One reply leaves the stream quiet or settles it.** -/
theorem Takes.isQuiet_or_isSettled {stream next : ReplyStream} {state : ReplyState}
    (h : Takes stream reply next state) (hquiet : stream.IsQuiet palette before)
    (hroom : before.room = none) :
    state = .awaiting ∧ next.IsQuiet palette before ∨
      state = .done ∧ next.IsSettled palette before := by
  obtain ⟨rfl, hawaiting, rfl⟩ := hquiet
  cases h with
  | ignored h => cases hawaiting.symm.trans h
  | unprinted _ hprint => exact Or.inr ⟨rfl, _, rfl, accounts_unprinted hroom hprint⟩
  | @last outputs outcome _ hprint hsettle =>
      refine Or.inr ⟨rfl, outcome, rfl, ?_⟩
      cases herror : reply.error with
      | some name =>
          have htold := tells_print (tells_tellError hroom herror) stream.palette reply
          rw [hprint] at htold
          exact .told htold
      | none =>
          rw [settle, herror] at hsettle
          dsimp only at hsettle
          split at hsettle
          · cases hsettle
          · cases hsettle
            exact .good rfl
  | goesOn _ hprint hsettle =>
      -- Only a reply that is no error is followed by another, and nothing is said about it.
      cases herror : reply.error with
      | some name =>
          rw [settle, herror] at hsettle
          cases hsettle
      | none =>
          rw [tellError_none herror] at hprint
          rcases print_cases hroom stream.palette herror with
            ⟨stdout, hprinted⟩ | ⟨after, outcome, hprinted, -⟩
          · cases hprint.symm.trans hprinted
            exact Or.inl ⟨rfl, rfl, hawaiting, rfl⟩
          · cases hprint.symm.trans hprinted

theorem IsQuiet.handle_awaiting {stream : ReplyStream} (h : stream.IsQuiet palette before)
    (hroom : before.room = none) (hawaiting : (stream.handle reply).2 = .awaiting) :
    (stream.handle reply).1.IsQuiet palette before := by
  rcases (stream.takes_handle reply).isQuiet_or_isSettled h hroom with
    ⟨-, hquiet⟩ | ⟨hdone, -⟩
  · exact hquiet
  · cases hawaiting.symm.trans hdone

theorem IsQuiet.handle_done {stream : ReplyStream} (h : stream.IsQuiet palette before)
    (hroom : before.room = none) (hdone : (stream.handle reply).2 = .done) :
    (stream.handle reply).1.IsSettled palette before := by
  rcases (stream.takes_handle reply).isQuiet_or_isSettled h hroom with
    ⟨hawaiting, -⟩ | ⟨-, hsettled⟩
  · cases hawaiting.symm.trans hdone
  · exact hsettled

end ReplyStream

/-! ### The command `call` -/

namespace CallRequest

open ReplyStream (Accounts IsQuiet IsSettled)

/-- If the call has failed then that was told, or a reply was cut off. -/
def IsAccounted (palette : Palette) (before : Sink) (settled : Settled) : Prop :=
  settled.1 = .error .waiting ∨
    ∃ outcome, settled.1 = .ok outcome ∧ Accounts palette before outcome settled.2

variable {palette : Palette} {outputs : Outputs}

/-- A failure of the call itself is told. -/
theorem isAccounted_settleFailure (hroom : outputs.stderr.room = none) (stage : Text)
    (failure : Failure) :
    IsAccounted palette outputs.stderr (settleFailure stage failure outputs) := by
  have hsays : Text.Says (stage ++ ": " ++ failure.message) :=
    (Text.Says.append_left (by decide) stage).append_right _
  exact Or.inr ⟨_, rfl, .told (Sink.tells_note hroom hsays)⟩

/-- A wait that ended without an outcome is told, unless it was interrupted. -/
theorem isAccounted_settle_error {before : Sink} (hroom : before.room = none)
    {stream : ReplyStream} (h : stream.IsQuiet palette before) (stop : Stop) :
    IsAccounted palette before (settle (.error stop) stream) := by
  obtain ⟨-, -, rfl⟩ := h
  unfold settle
  split
  · rename_i heq
    cases heq
  · exact Or.inl rfl
  · exact Or.inr ⟨_, rfl, .good rfl⟩
  · exact Or.inr ⟨_, rfl, .told (Sink.tells_note hroom (by decide))⟩
  · exact isAccounted_settleFailure hroom _ _

/-- A call that gets through comes to an outcome that is accounted for, unless it never ends. -/
theorem isAccounted_delivered (hroom : outputs.stderr.room = none) {service : Service} {call : Call}
    (hsent : service.refusal? call = none) (limit : Option Nat) (more : Bool) :
    IsAccounted palette outputs.stderr
      (exchange service.channel limit (Session.momentsOf service call) call
        (.start more palette outputs) .fresh).1 := by
  have hstart : (ReplyStream.start more palette outputs).IsQuiet palette outputs.stderr :=
    ⟨rfl, rfl, rfl⟩
  have hawaiting : ∀ (stream : ReplyStream) (reply : Reply),
      stream.IsQuiet palette outputs.stderr → (stream.handle reply).2 = .awaiting →
        (stream.handle reply).1.IsQuiet palette outputs.stderr :=
    fun _ _ h => h.handle_awaiting hroom
  have hdone : ∀ (stream : ReplyStream) (reply : Reply),
      stream.IsQuiet palette outputs.stderr → (stream.handle reply).2 = .done →
        (stream.handle reply).1.IsSettled palette outputs.stderr :=
    fun _ _ h => h.handle_done hroom
  have hends := Wait.run_ends (Q := fun _ => True) service.steady.staysOpen hawaiting hdone
    (fun _ _ _ => trivial) ⟨trivial, trivial, trivial⟩ limit (Session.momentsOf service call)
    (service.called call) _ (service.called_closed call) hstart
  rw [exchange_delivered limit _ hsent, Service.await]
  dsimp only
  rcases hrun : Wait.run service.channel ReplyStream.handle limit (Session.momentsOf service call)
    (service.called call) (.start more palette outputs) with ⟨result, c, stream⟩
  rw [hrun] at hends
  rcases hends with ⟨hok, outcome, houtcome, haccounts⟩ | ⟨hquiet, hstop⟩
  · dsimp only at hok houtcome haccounts
    rw [hok, settle]
    exact Or.inr ⟨outcome, by rw [houtcome]; rfl, haccounts⟩
  · dsimp only at hquiet hstop
    obtain ⟨stop, rfl⟩ : ∃ stop, result = .error stop := by
      rcases hstop with hwaiting | ⟨failure, hfailed, -⟩
      · exact ⟨_, hwaiting⟩
      · exact ⟨_, hfailed⟩
    exact isAccounted_settle_error hroom hquiet stop

/-- **A call is accounted for**, whether or not it gets through. -/
theorem isAccounted_exchange (hroom : outputs.stderr.room = none) (service : Service)
    (limit : Option Nat) (call : Call) (more : Bool) :
    IsAccounted palette outputs.stderr
      (exchange service.channel limit (Session.momentsOf service call) call
        (.start more palette outputs) .fresh).1 := by
  cases hrefusal : service.refusal? call with
  | some reason =>
      rw [exchange_refused limit _ hrefusal]
      exact isAccounted_settleFailure hroom "Unable to call" (.sendFailed reason)
  | none => exact isAccounted_delivered hroom hrefusal limit more

variable {desk : Desk}

/-- A call that does not get through is told with the reason. -/
theorem invokeAt_refused {request : CallRequest} {parameters : Option Json.Members}
    {address : Address} {service : Service} {reason : Text}
    (hreach : desk.session.world.reach address = .ok service)
    (hrefusal : service.refusal? (request.call parameters) = some reason) :
    (invokeAt desk request parameters address).1 =
      settleFailure "Unable to call" (.sendFailed reason) desk.outputs := by
  rw [invokeAt, Session.visit, hreach]
  dsimp only
  rw [exchange_refused desk.session.limit _ hrefusal]
  rfl

/-- The service hangs up when it has read three bytes of the call. -/
example :
    let service : Service := ⟨fun _ => .refusal 3 "Broken pipe (os error 32)", fun _ => []⟩
    let desk : Desk := ⟨⟨⟨fun _ => .ok service⟩, .unix "/r", none⟩, .plain, [], .unlimited [] []⟩
    let ending := (run desk ["unix:/s/a.B"]).conclude
    ending.exit = some 12 ∧ ending.visits = [⟨.unix "/s", Utf8.encode "\x7b\"m"⟩] ∧
      ending.outputs = .unlimited []
        "Unable to call: failed to send call: Broken pipe (os error 32)\n" := by
  decide +kernel

/-- A connection that breaks before a reply is complete is told with the reason. -/
theorem invokeAt_broken {request : CallRequest} {parameters : Option Json.Members}
    {address : Address} {service : Service} {bytes : Bytes} {reason : Text} {moment : Moment}
    {moments : List Moment} (hreach : desk.session.world.reach address = .ok service)
    (hreact : service.react (request.call parameters).encode.dropLast = .breakdown bytes reason)
    (hfree : 0 ∉ bytes)
    (hmoments : Session.momentsOf service (request.call parameters) = moment :: moments)
    (calm : Wait.Calm desk.session.limit moment) :
    (invokeAt desk request parameters address).1 =
      settleFailure "Unable to process events" (.readFailed reason) desk.outputs := by
  have hsent : service.refusal? (request.call parameters) = none := by
    rw [Service.refusal?, hreact]
  have hcalled : service.called (request.call parameters) =
      ⟨bytes, [], .broken reason, (request.call parameters).encode, false⟩ := by
    rw [Service.called_eq, Service.delivered_eq hsent, hreact]
    rfl
  have hpoll : service.channel.poll (service.called (request.call parameters)) = _ :=
    Connection.poll_unfinished (by rw [hcalled]) (by rw [hcalled]; exact hfree)
  rw [hcalled] at hpoll
  rw [invokeAt, Session.visit, hreach]
  dsimp only
  rw [exchange_delivered desk.session.limit _ hsent, Service.await, hmoments, hcalled,
    Wait.run_failed rfl calm hpoll]
  rfl

theorem isAccounted_invokeAt (hroom : desk.outputs.stderr.room = none) (request : CallRequest)
    (parameters : Option Json.Members) (address : Address) :
    IsAccounted desk.palette desk.outputs.stderr (invokeAt desk request parameters address).1 := by
  rw [invokeAt, Session.visit]
  cases desk.session.world.reach address with
  | error reason => exact isAccounted_settleFailure hroom _ _
  | ok service => exact isAccounted_exchange hroom service _ _ _

theorem isAccounted_invoke (hroom : desk.outputs.stderr.room = none) (request : CallRequest)
    (parameters : Option Json.Members) :
    IsAccounted desk.palette desk.outputs.stderr (invoke desk request parameters).1 := by
  unfold invoke
  split
  · exact Or.inl rfl
  · exact isAccounted_settleFailure hroom _ _
  · exact isAccounted_invokeAt hroom request parameters _

end CallRequest

/-! ### Failures that are told in the end -/

theorem UsageError.says_message (error : UsageError) : Text.Says error.message :=
  Text.says_of_head rfl (by decide)

/-- The failure has a wording, and does not stand for one that has been told. -/
structure Failure.IsTellable (failure : Failure) : Prop where
  fresh : ∀ kind, failure ≠ .reported kind
  wording : Text.Says failure.message

/-- If there is no result because of a failure, then that can be told. -/
def FailsTellably {α : Type} (result : Except Stop α) : Prop :=
  ∀ failure, result = .error (.failed failure) → failure.IsTellable

/-- The wordings of most failures begin with a letter. -/
theorem Failure.isTellable {failure : Failure} (hfresh : ∀ kind, failure ≠ .reported kind)
    {c : Char} {rest : Text} (h : failure.message = c :: rest) (hblank : isBlank c = false) :
    failure.IsTellable :=
  ⟨hfresh, Text.says_of_head h hblank⟩

theorem failsTellably_ok {α : Type} (a : α) : FailsTellably (.ok a) :=
  nofun

theorem failsTellably_stop {α : Type} {failure : Failure} (h : failure.IsTellable) :
    FailsTellably (.error (.failed failure) : Except Stop α) := by
  rintro found ⟨⟩
  exact h

/-- A reading that fails with failures that can be told. -/
theorem failsTellably_mapError {α : Type} {result : Except Failure α}
    (h : ∀ failure, result = .error failure → failure.IsTellable) :
    FailsTellably (result.mapError .failed) := by
  cases result with
  | ok a => exact failsTellably_ok a
  | error failure => exact failsTellably_stop (h failure rfl)

theorem FailsTellably.error {α β : Type} {stop : Stop}
    (h : FailsTellably (.error stop : Except Stop α)) :
    FailsTellably (.error stop : Except Stop β) := by
  rintro failure ⟨⟩
  exact h failure rfl

theorem Service.failsTellably_await {η : Type} (handle : η → Reply → η × ReplyState)
    (limit : Option Nat) (service : Service) (call : Call) (h : η) :
    FailsTellably (service.await handle limit call h).1 := by
  have hpoll : ∀ (c : Connection) (failure : Failure), (service.channel.poll c).1 = .error failure →
      failure.IsTellable := by
    intro c failure hfailed
    rcases Connection.poll_error hfailed with ⟨reason, rfl⟩ | ⟨reason, rfl⟩
    · exact Failure.isTellable nofun rfl (by decide)
    · exact Failure.isTellable nofun rfl (by decide)
  have hown : Failure.canceled.IsTellable ∧ Failure.timedOut.IsTellable ∧
      Failure.connectionClosed.IsTellable :=
    ⟨⟨nofun, by decide⟩, ⟨nofun, by decide⟩, ⟨nofun, by decide⟩⟩
  have hany : ∀ (state : ReplyState) (h : η) (reply : Reply), True →
      (handle h reply).2 = state → True := fun _ _ _ _ _ => trivial
  have hends := Wait.run_ends (P := fun _ => True) (D := fun _ => True)
    service.steady.staysOpen
    (hany .awaiting) (hany .done) hpoll hown limit (Session.momentsOf service call)
    (service.called call) h (service.called_closed call) trivial
  intro failure hfailed
  rw [await] at hfailed
  rw [hfailed] at hends
  rcases hends with ⟨hok, -⟩ | ⟨-, hwaiting | ⟨found, hfound, htellable⟩⟩
  · cases hok
  · cases hwaiting
  · cases hfound
    exact htellable

theorem Answer.isTellable_ofReply {reply : Reply} {failure : Failure}
    (h : ofReply reply = .error failure) : failure.IsTellable := by
  unfold ofReply at h
  split at h
  · cases h
  · cases h
  · cases h
  · cases h
    exact ⟨nofun, by decide⟩

theorem Exchange.failsTellably_callOnce (service : Service) (limit : Option Nat) (method : Text)
    (parameters : Option Json.Members) :
    FailsTellably (callOnce service.channel limit
      (Session.momentsOf service ⟨method, parameters, false⟩) method parameters .fresh).1 := by
  have hawait :=
    Service.failsTellably_await keepFirst limit service ⟨method, parameters, false⟩ none
  rw [callOnce_eq]
  split
  · exact failsTellably_stop (Failure.isTellable nofun rfl (by decide))
  split
  · rename_i heq
    rw [heq] at hawait
    exact hawait.error
  · exact failsTellably_stop ⟨nofun, by decide⟩
  · exact failsTellably_mapError fun _ => Answer.isTellable_ofReply

namespace Session

variable {session : Session}

theorem isTellable_unreachable (address reason : Text) :
    (Failure.unreachable address reason).IsTellable :=
  Failure.isTellable nofun rfl (by decide)

theorem failsTellably_ask (address : Address) (method : Text) (parameters : Option Json.Members) :
    FailsTellably (session.ask address method parameters).1 := by
  rw [ask, visit]
  cases session.world.reach address with
  | error reason => exact failsTellably_stop (isTellable_unreachable _ _)
  | ok service => exact Exchange.failsTellably_callOnce service _ _ _

theorem isTellable_introspection {answer : Answer} {failure : Failure}
    (h : Exchange.introspection answer = .error failure) : failure.IsTellable := by
  unfold Exchange.introspection at h
  split at h
  · cases h
  split at h
  · cases h
    exact Failure.isTellable nofun rfl (by decide)
  split at h
  · cases h
  · cases h
    exact Failure.isTellable nofun rfl (by decide)

theorem failsTellably_describeAt (address : Address) (interface : Text) :
    FailsTellably (session.describeAt address interface).1 := by
  rw [describeAt, visit]
  cases session.world.reach address with
  | error reason => exact failsTellably_stop (isTellable_unreachable _ _)
  | ok service =>
      have hcall := Exchange.failsTellably_callOnce service session.limit Method.describe
        (some (Exchange.interfaceParameters interface))
      dsimp only
      rw [Exchange.describe]
      split
      · rename_i heq
        rw [heq] at hcall
        exact hcall.error
      · exact failsTellably_mapError fun _ => isTellable_introspection

theorem isTellable_unresolved (interface reason : Text) :
    (Failure.unresolved interface reason).IsTellable :=
  Failure.isTellable nofun rfl (by decide)

/-- Why an interface is not resolved can always be told. -/
theorem failsTellably_locate (address : Option Address) (interface : Text) :
    FailsTellably (session.locate address interface).1 := by
  intro failure hfailed
  obtain ⟨reason, rfl⟩ := locate_failed hfailed
  exact isTellable_unresolved interface reason

theorem failsTellably_describe (address : Option Address) (interface : Text) :
    FailsTellably (session.describe address interface).1 := by
  have hlocate := session.failsTellably_locate address interface
  unfold describe
  split
  · rename_i heq
    rw [heq] at hlocate
    exact hlocate.error
  · exact session.failsTellably_describeAt _ interface

end Session

theorem ParameterSource.isTellable_load {source : Option ParameterSource} {stdin : Bytes}
    {failure : Failure} (h : load source stdin = .error failure) : failure.IsTellable := by
  have hparse : ∀ {t failure}, parse t = .error failure → failure.IsTellable := by
    intro t failure h
    unfold parse at h
    split at h
    · cases h
    split at h
    · cases h
    · cases h
      exact ⟨nofun, by decide⟩
    · cases h
      exact Failure.isTellable nofun rfl (by decide)
  unfold load take at h
  split at h
  · cases h
  · exact hparse h
  · split at h
    · exact hparse h
    · cases h
      exact ⟨nofun, by decide⟩

/-! ### Runs -/

namespace Run

/-- If the run has failed then that was told, or it will be when the run is concluded. -/
inductive Accounts (before : Sink) : Run → Prop
  | done {outputs : Outputs} {visits : List Visit} : Accounts before (exit 0 outputs visits)
  | waiting {outputs : Outputs} {visits : List Visit} :
      Accounts before ⟨.error .waiting, outputs, visits⟩
  | told {result : Except Stop Nat} {outputs : Outputs} {visits : List Visit}
      (h : before.Tells outputs.stderr) : Accounts before ⟨result, outputs, visits⟩
  | untold {failure : Failure} {outputs : Outputs} {visits : List Visit}
      (h : failure.IsTellable) (hbefore : outputs.stderr = before) :
      Accounts before (fail failure outputs visits)

variable {outputs : Outputs} {visits : List Visit}

theorem accounts_print (t : Text) : (print t outputs visits).Accounts outputs.stderr := by
  unfold print
  split
  · exact .done
  · exact .untold ⟨nofun, by decide⟩ rfl

theorem accounts_complain (hroom : outputs.stderr.room = none) {line : Text} (h : line.Says)
    (kind : FailureKind) : (complain line kind outputs visits).Accounts outputs.stderr :=
  .told (Sink.tells_note hroom h)

/-- **A run that is concluded has told its failure.** -/
theorem Accounts.tells_conclude {before : Sink} {run : Run} (h : run.Accounts before)
    (hroom : before.room = none) {status : Nat} (hexit : run.conclude.exit = some status)
    (hstatus : status ≠ 0) : before.Tells run.conclude.outputs.stderr := by
  cases h with
  | done =>
      cases hexit
      exact absurd rfl hstatus
  | waiting => cases hexit
  | told h =>
      unfold conclude
      split
      · exact h
      · exact h
      · exact h
      · exact h
      · exact h.note _
  | @untold failure outputs visits h hbefore =>
      subst hbefore
      have htold := Sink.tells_note hroom h.wording
      cases failure with
      | reported kind => exact absurd rfl (h.fresh kind)
      | canceled =>
          cases hexit
          exact absurd rfl hstatus
      | _ => exact htold

end Run

/-! ### Commands -/

theorem Command.says_reminder (command : Command) (error : ArgumentError) :
    Text.Says (command.reminder error) := by
  unfold reminder
  split
  · decide
  · exact Text.says_of_head rfl (by decide)
  · exact Text.says_of_head rfl (by decide)

variable {desk : Desk}

/-- **A call that fails is accounted for, or a reply was cut off.** -/
theorem CallRequest.accounts_run (hroom : desk.outputs.stderr.room = none) (tokens : List Text) :
    (run desk tokens).Accounts desk.outputs.stderr ∨
      ∃ outputs visits, run desk tokens = .exit FailureKind.callFailed.code outputs visits ∧
        ReplyStream.CutOff desk.palette desk.outputs.stderr outputs := by
  rcases hparse : parse tokens with error | _ | request
  · rw [run, runOn, hparse]
    exact Or.inl (Run.accounts_complain hroom (Command.call.says_reminder _) _)
  · rw [run, runOn, hparse]
    exact Or.inl (Run.accounts_print _)
  rw [run_of_parse hparse]
  split
  · rename_i hload
    exact Or.inl (.untold (ParameterSource.isTellable_load hload) rfl)
  · rename_i parameters _
    have hinvoke := isAccounted_invoke hroom request parameters
    rcases hcall : invoke desk request parameters with ⟨⟨result, outputs⟩, visits⟩
    rw [hcall] at hinvoke
    rcases hinvoke with hwaiting | ⟨outcome, houtcome, haccounts⟩
    · dsimp only at hwaiting ⊢
      subst hwaiting
      exact Or.inl .waiting
    · dsimp only at houtcome haccounts ⊢
      subst houtcome
      cases haccounts with
      | good h =>
          have hdone : Run.Accounts desk.outputs.stderr (.exit 0 outputs visits) := .done
          rw [← h] at hdone
          exact Or.inl hdone
      | told h => exact Or.inl (.told h)
      | cutOff h => exact Or.inr ⟨outputs, visits, rfl, h⟩

theorem InterfaceTarget.accounts_run (hroom : desk.outputs.stderr.room = none)
    (tokens : List Text) : (run desk tokens).Accounts desk.outputs.stderr := by
  unfold run
  split
  · exact Run.accounts_complain hroom (Command.help.says_reminder _) _
  · exact Run.accounts_print _
  · rename_i target _
    have hdescribe := desk.session.failsTellably_describe target.address target.interface
    split
    · rename_i stop visits heq
      rw [heq] at hdescribe
      cases stop with
      | waiting => exact .waiting
      | failed failure => exact .untold (hdescribe failure rfl) rfl
    · exact Run.accounts_print _

theorem Address.accounts_printInfo (hroom : desk.outputs.stderr.room = none) (answer : Answer)
    (visits : List Visit) : (printInfo desk answer visits).Accounts desk.outputs.stderr := by
  unfold printInfo
  split
  · exact Run.accounts_complain hroom (Text.says_of_head rfl (by decide)) _
  split
  · rename_i heq
    unfold Answer.serviceInfo at heq
    split at heq
    · cases heq
    · cases heq
      exact .untold (Failure.isTellable nofun rfl (by decide)) rfl
  · exact Run.accounts_print _

theorem Address.accounts_run (hroom : desk.outputs.stderr.room = none) (tokens : List Text) :
    (run desk tokens).Accounts desk.outputs.stderr := by
  unfold run
  split
  · exact Run.accounts_complain hroom (Command.info.says_reminder _) _
  · exact Run.accounts_print _
  · rename_i address _
    have hask := desk.session.failsTellably_ask address Method.serviceInfo none
    split
    · rename_i stop visits heq
      rw [heq] at hask
      cases stop with
      | waiting => exact .waiting
      | failed failure => exact .untold (hask failure rfl) rfl
    · exact accounts_printInfo hroom _ _

theorem Completion.accounts_run (desk : Desk) (command : Option Text) (tokens : List Text)
    (word : Text) : (Completion.run desk command tokens word).Accounts desk.outputs.stderr := by
  unfold Completion.run
  dsimp only
  split
  · exact .waiting
  · exact Run.accounts_print _

/-! ### Whole runs -/

namespace Invocation

variable {invocation : Invocation}

theorem accounts_stop (outputs : Outputs) (reason : FlagStop) :
    (stop outputs reason).Accounts outputs.stderr := by
  cases reason with
  | help atLength => exact Run.accounts_print _
  | version => exact Run.accounts_print _
  | refused error => exact .untold ⟨nofun, error.says_message⟩ rfl

theorem accounts_bare {outputs : Outputs} (hroom : outputs.stderr.room = none) :
    (bare outputs).Accounts outputs.stderr := by
  have htold := Sink.tells_writeText hroom (t := Help.bare) (Text.says_of_head rfl (by decide))
  unfold bare
  split
  · rename_i heq
    rw [heq] at htold
    exact .told htold
  · rename_i heq
    rw [heq] at htold
    exact .told htold

/-- **A run that fails is accounted for, or a reply to a call was cut off.** -/
theorem accounts_begin (hroom : invocation.outputs.stderr.room = none) :
    invocation.begin.Accounts invocation.outputs.stderr ∨
      ∃ desk tokens outputs visits, invocation.Performs desk .call tokens ∧
        invocation.begin = .exit FailureKind.callFailed.code outputs visits ∧
        ReplyStream.CutOff desk.palette invocation.outputs.stderr outputs := by
  unfold begin
  dsimp only
  split
  · exact Or.inl (accounts_stop _ _)
  rename_i flags hflags
  split
  · exact Or.inl (accounts_bare hroom)
  rename_i hbare
  unfold configure
  split
  · exact Or.inl (.untold (Failure.isTellable nofun rfl (by decide)) rfl)
  rename_i config hconfig
  split
  · exact Or.inl (.untold (Failure.isTellable nofun rfl (by decide)) rfl)
  rename_i hfilter
  let desk := invocation.desk flags config
  have hdesk : desk.outputs.stderr.room = none := hroom
  unfold perform
  dsimp only
  split
  · exact Or.inl (Completion.accounts_run desk _ _ _)
  · rename_i name hcomplete hname
    unfold Command.runNamed
    split
    · exact Or.inl (Run.accounts_complain hroom (Text.Says.append_left (by decide) _) _)
    rename_i command hcommand
    cases command with
    | call =>
        rcases CallRequest.accounts_run hdesk (Split.ofCommandLine invocation.arguments).command
          with haccounts | ⟨outputs, visits, hrun, hcut⟩
        · exact Or.inl haccounts
        · exact Or.inr ⟨_, _, outputs, visits,
            .intro hflags hcomplete hname hcommand hconfig hfilter, hrun, hcut⟩
    | help => exact Or.inl (InterfaceTarget.accounts_run hdesk _)
    | info => exact Or.inl (Address.accounts_run hdesk _)
  · rename_i hcomplete hname
    exact absurd (by simp [Flags.isBare, hcomplete, hname]) hbare

/-- **No failure is silent but one.**  When a run ends with a status that is not zero and the
output for complaints takes all that comes, a line that is not blank was written there; or the
run was a call, its status is that of a failed call, and a reply that is no error was cut off. -/
theorem run_tells {status : Nat} (hstderr : invocation.outputs.stderr = .empty none)
    (hexit : invocation.run.exit = some status) (hstatus : status ≠ 0) :
    (∃ t : Text, invocation.run.outputs.stderr.written = Utf8.encode t ∧
      ∃ line ∈ Text.splitOn (· = '\n') t, line.Says) ∨
    (status = FailureKind.callFailed.code ∧ ∃ desk tokens,
      invocation.Performs desk .call tokens ∧
        ReplyStream.CutOff desk.palette (.empty none) invocation.run.outputs) := by
  have hroom : invocation.outputs.stderr.room = none := by rw [hstderr]; rfl
  rcases accounts_begin hroom with
    haccounts | ⟨desk, tokens, outputs, visits, hperforms, hbegin, hcut⟩
  · obtain ⟨t, ht, hwritten⟩ := haccounts.tells_conclude hroom hexit hstatus
    refine Or.inl ⟨t, ?_, ht.exists_line⟩
    rw [run, hwritten, hstderr]
    rfl
  · rw [hstderr] at hcut
    have hrun : invocation.run = ⟨some FailureKind.callFailed.code, outputs, visits⟩ := by
      rw [run, hbegin]
      rfl
    rw [hrun] at hexit ⊢
    cases hexit
    exact Or.inr ⟨rfl, desk, tokens, hperforms, hcut⟩

/-- A run with these arguments, where all services answer every call with an empty object and the
output for results is full from the start. -/
def onFullOutput (arguments : List Text) : Invocation where
  arguments := arguments.map Utf8.encode
  stdin := []
  terminal := false
  outputs := ⟨.empty (some 0), .empty none⟩
  surroundings := ⟨[], []⟩
  world := ⟨fun _ => .ok (.calm fun _ => ⟨Utf8.encode "\x7b\x7d\x00", false⟩)⟩
  logs := true

/-- That no command has a name is told. -/
theorem run_tells_unknown :
    let run := (onFullOutput ["varlink", "frob"]).run
    run.exit = some FailureKind.unknownCommand.code ∧
      ∃ t : Text, run.outputs.stderr.written = Utf8.encode t ∧
        ∃ line ∈ Text.splitOn (· = '\n') t, line.Says := by
  intro run
  have hexit : run.exit = some FailureKind.unknownCommand.code := by decide +kernel
  refine ⟨hexit, ?_⟩
  rcases @run_tells (onFullOutput ["varlink", "frob"]) _ rfl hexit (by decide) with
    htold | ⟨hstatus, -⟩
  · exact htold
  · exact absurd hstatus (by decide)

/-- **A failure can be silent**: a call whose reply does not fit on the output fails, and not a
word is said. -/
theorem exists_silent_failure :
    ¬ ∀ (invocation : Invocation) (status : Nat), invocation.outputs.stderr = .empty none →
      invocation.run.exit = some status → status ≠ 0 →
        ∃ t : Text, invocation.run.outputs.stderr.written = Utf8.encode t ∧
          ∃ line ∈ Text.splitOn (· = '\n') t, line ≠ [] := by
  intro h
  let invocation := onFullOutput ["varlink", "call", "unix:/s/a.B"]
  have hexit : invocation.run.exit = some FailureKind.callFailed.code := by decide +kernel
  have hsilent : invocation.run.outputs.stderr.written = Utf8.encode [] := by decide +kernel
  obtain ⟨t, hwritten, line, hline, hne⟩ := h invocation _ rfl hexit (by decide)
  obtain rfl : t = [] := Utf8.encode_injective (hwritten.symm.trans hsilent)
  exact hne (List.mem_singleton.mp hline)

end Invocation

end VarlinkClient
