/-
What an interruption does to a run.

Interrupting the wait for a service ends the run with status 0, as an interruption is no
failure.  Interrupting the wait for the resolver does not: by then the interruption is the
reason why an interface is not resolved (`Session.locate_interrupted`), and that is a
failure, with status 2.  The waits of a run are those of `Command.waits`.
-/
import VarlinkClient.Proofs.Text.Utf8
import VarlinkClient.Proofs.Visits

namespace VarlinkClient

/-! ### Waits that are interrupted -/

namespace Wait

variable {σ η : Type}

/-- An interruption is seen before the wait is over. -/
def Interrupted (channel : Channel σ) (handle : η → Reply → η × ReplyState) (limit : Option Nat)
    (moments : List Moment) (s : σ) (h : η) : Prop :=
  let records := (run (recorded channel) (recordedHandler handle) limit moments (s, []) (h, [])).2
  ¬ Over records.1.2 records.2.2 ∧
    ∃ moment, moments[(polls records.1.2).length]? = some moment ∧ moment.canceled = true

theorem interrupted_iff {channel : Channel σ} (steady : Steady channel)
    {handle : η → Reply → η × ReplyState} {limit : Option Nat} {moments : List Moment} {s : σ}
    {h : η} (hopen : channel.isClosed s = false) :
    Interrupted channel handle limit moments s h ↔
      (run channel handle limit moments s h).1 = .error (.failed .canceled) := by
  -- The records are those of the course that the wait takes, which says how it ends.
  obtain ⟨steps, handed, course, heq⟩ := run_course steady handle limit moments s h [] [] hopen
  unfold Interrupted
  rw [heq]
  exact course.canceled_iff.symm

end Wait

namespace Service

theorem steady (service : Service) : Wait.Steady service.channel where
  poll_open := Wait.steady_connection.poll_open
  close_closed := Wait.steady_connection.close_closed
  failure_own := Wait.steady_connection.failure_own

variable {η : Type} (handle : η → Reply → η × ReplyState) (limit : Option Nat)

/-- The wait for what a service answers is interrupted. -/
def Interrupted (service : Service) (call : Call) (h : η) : Prop :=
  Wait.Interrupted service.channel handle limit (Session.momentsOf service call)
    (service.called call) h

theorem await_of_interrupted {service : Service} {call : Call} {h : η}
    (hi : service.Interrupted handle limit call h) :
    (service.await handle limit call h).1 = .error (.failed .canceled) :=
  (Wait.interrupted_iff service.steady (service.called_closed call)).mp hi

/-- A wait is interrupted when the first moment says so. -/
theorem interrupted_of_first {service : Service} {call : Call} {moment : Moment}
    {moments : List Moment} (hmoments : Session.momentsOf service call = moment :: moments)
    (hcanceled : moment.canceled = true) (h : η) : service.Interrupted handle limit call h := by
  refine (Wait.interrupted_iff service.steady (service.called_closed call)).mpr ?_
  rw [hmoments, Wait.run_canceled (service.called_closed call) hcanceled]

end Service

/-- An interruption is seen before the wait for the answer is over. -/
def Inquiry.Interrupted (limit : Option Nat) (inquiry : Inquiry) : Prop :=
  match inquiry.stream with
  | none => inquiry.service.Interrupted Exchange.keepFirst limit inquiry.call none
  | some stream => inquiry.service.Interrupted ReplyStream.handle limit inquiry.call stream

theorem Inquiry.refusal_eq_none {inquiry : Inquiry} (h : inquiry.isSent = true) :
    inquiry.service.refusal? inquiry.call = none :=
  Option.isNone_iff_eq_none.mp h

/-- The exit status of a run that is interrupted while it waits. -/
def Purpose.interruptedStatus : Purpose → Nat
  | resolution => 2
  | answer => 0

/-! ### Sessions -/

theorem Exchange.callOnce_interrupted {service : Service} {limit : Option Nat} {method : Text}
    {parameters : Option Json.Members}
    (hsent : service.refusal? ⟨method, parameters, false⟩ = none)
    (hi : service.Interrupted keepFirst limit ⟨method, parameters, false⟩ none) :
    (callOnce service.channel limit (Session.momentsOf service ⟨method, parameters, false⟩) method
      parameters .fresh).1 = .error (.failed .canceled) := by
  have hwait := Service.await_of_interrupted keepFirst limit hi
  rw [callOnce_eq, hsent]
  dsimp only
  generalize service.await keepFirst limit ⟨method, parameters, false⟩ none = wait at hwait
  obtain ⟨result, c, h⟩ := wait
  cases hwait
  rfl

namespace Session

variable {session : Session}

theorem mem_inquiriesAt {purpose : Purpose} {address : Address} {call : Call}
    {stream : Option ReplyStream} {w : Inquiry} :
    w ∈ session.inquiriesAt purpose address call stream ↔
      ∃ service, session.world.reach address = .ok service ∧
        w = ⟨purpose, address, service, call, stream⟩ := by
  unfold inquiriesAt
  cases session.world.reach address with
  | error reason => simp
  | ok service => simp

theorem ask_interrupted {purpose : Purpose} {address : Address} {method : Text}
    {parameters : Option Json.Members} {w : Inquiry}
    (hw : w ∈ session.inquiriesAt purpose address ⟨method, parameters, false⟩ none)
    (hsent : w.isSent = true) (hi : w.Interrupted session.limit) :
    (session.ask address method parameters).1 = .error (.failed .canceled) := by
  obtain ⟨service, hreach, rfl⟩ := mem_inquiriesAt.mp hw
  rw [ask_of_reach hreach]
  exact Exchange.callOnce_interrupted (Inquiry.refusal_eq_none hsent) hi

theorem describeAt_interrupted {purpose : Purpose} {address : Address} {interface : Text}
    {w : Inquiry}
    (hw : w ∈ session.inquiriesAt purpose address
      ⟨Method.describe, some (Exchange.interfaceParameters interface), false⟩ none)
    (hsent : w.isSent = true) (hi : w.Interrupted session.limit) :
    (session.describeAt address interface).1 = .error (.failed .canceled) := by
  obtain ⟨service, hreach, rfl⟩ := mem_inquiriesAt.mp hw
  have hexchange := @Exchange.callOnce_interrupted service session.limit Method.describe
    (some (Exchange.interfaceParameters interface)) (Inquiry.refusal_eq_none hsent) hi
  rw [describeAt, visit, hreach]
  dsimp only
  rw [Exchange.describe]
  split
  · rename_i heq
    rw [heq] at hexchange
    cases hexchange
    rfl
  · rename_i heq
    rw [heq] at hexchange
    cases hexchange

/-- The resolver is called for an interface that has no address. -/
theorem mem_inquiriesToLocate {address : Option Address} {interface : Text} {w : Inquiry}
    (hw : w ∈ session.inquiriesToLocate address interface) :
    address = none ∧ interface ≠ resolverInterface ∧ w ∈ session.inquiriesAt .resolution
      session.resolver ⟨Method.resolve, some (Exchange.interfaceParameters interface), false⟩
      none := by
  unfold inquiriesToLocate at hw
  split at hw
  · cases hw
  · rename_i hno
    rw [not_or] at hno
    exact ⟨by simpa using hno.1, hno.2, hw⟩

theorem resolvedAddress_failed {interface : Text} {answer : Answer} {failure : Failure}
    (h : resolvedAddress interface answer = .error failure) :
    ∃ reason, failure = .unresolved interface reason := by
  unfold resolvedAddress at h
  split at h
  · cases h
    exact ⟨_, rfl⟩
  split at h
  · cases h
    exact ⟨_, rfl⟩
  split at h
  · cases h
  · cases h
    exact ⟨_, rfl⟩

/-- Where no service is found, that is the failure, with a reason. -/
theorem locate_failed {address : Option Address} {interface : Text} {failure : Failure}
    (h : (session.locate address interface).1 = .error (.failed failure)) :
    ∃ reason, failure = .unresolved interface reason := by
  unfold locate at h
  split at h
  · cases h
  unfold resolve at h
  split at h
  · cases h
  split at h
  · rename_i stop _ _
    cases stop with
    | waiting => cases h
    | failed _ =>
        cases h
        exact ⟨_, rfl⟩
  · rename_i answer _ _
    dsimp only at h
    cases hfound : resolvedAddress interface answer with
    | ok _ => rw [hfound] at h; cases h
    | error _ =>
        rw [hfound] at h
        cases h
        exact resolvedAddress_failed hfound

/-- The interruption becomes the reason why the interface is not resolved. -/
theorem locate_interrupted {address : Option Address} {interface : Text} {w : Inquiry}
    (hw : w ∈ session.inquiriesToLocate address interface) (hsent : w.isSent = true)
    (hi : w.Interrupted session.limit) :
    ∃ visits, session.locate address interface =
      (.error (.failed (.unresolved interface Failure.canceled.message)), visits) := by
  obtain ⟨rfl, hne, hw⟩ := mem_inquiriesToLocate hw
  have hask := ask_interrupted hw hsent hi
  rw [locate, resolve, if_neg hne]
  split
  · rename_i visits heq
    rw [heq] at hask
    cases hask
    exact ⟨visits, rfl⟩
  · rename_i heq
    rw [heq] at hask
    cases hask

theorem mem_inquiries {address : Option Address} {interface : Text} {call : Call}
    {stream : Option ReplyStream} {w : Inquiry}
    (hw : w ∈ session.inquiries address interface call stream) :
    (w.purpose = .resolution ∧ w ∈ session.inquiriesToLocate address interface) ∨
      (w.purpose = .answer ∧ ∃ target visits,
        session.locate address interface = (.ok target, visits) ∧
          w ∈ session.inquiriesAt .answer target call stream) := by
  rcases List.mem_append.mp hw with hlocate | hanswer
  · obtain ⟨-, -, hat⟩ := mem_inquiriesToLocate hlocate
    obtain ⟨service, -, heq⟩ := mem_inquiriesAt.mp hat
    exact Or.inl ⟨by rw [heq], hlocate⟩
  · cases hresult : session.locate address interface with
    | mk result visits =>
        rw [hresult] at hanswer
        cases result with
        | error stop => cases hanswer
        | ok target =>
            obtain ⟨service, -, heq⟩ := mem_inquiriesAt.mp hanswer
            exact Or.inr ⟨by rw [heq], target, visits, rfl, hanswer⟩

end Session

/-! ### Interrupted commands -/

section Interrupted

variable {desk : Desk} {tokens : List Text} {w : Inquiry}

/-- A call whose wait is interrupted comes to that. -/
theorem CallRequest.exchange_interrupted {service : Service} {limit : Option Nat} {call : Call}
    {stream : ReplyStream} (hsent : service.refusal? call = none)
    (hi : service.Interrupted ReplyStream.handle limit call stream) :
    (exchange service.channel limit (Session.momentsOf service call) call stream .fresh).1.1 =
      .ok .canceled := by
  have hwait := Service.await_of_interrupted ReplyStream.handle limit hi
  rw [exchange_delivered limit stream hsent]
  dsimp only
  rw [hwait]
  rfl

theorem CallRequest.invokeAt_interrupted {request : CallRequest}
    {parameters : Option Json.Members} {address : Address}
    (hw : w ∈ desk.session.inquiriesAt .answer address (request.call parameters)
      (some (.start request.more desk.palette desk.outputs)))
    (hsent : w.isSent = true) (hi : w.Interrupted desk.session.limit) :
    (invokeAt desk request parameters address).1.1 = .ok .canceled := by
  obtain ⟨service, hreach, rfl⟩ := Session.mem_inquiriesAt.mp hw
  rw [invokeAt, Session.visit, hreach]
  exact CallRequest.exchange_interrupted (Inquiry.refusal_eq_none hsent) hi

theorem CallRequest.exit_interrupted (hw : w ∈ Command.call.inquiries desk tokens)
    (hsent : w.isSent = true) (hi : w.Interrupted desk.session.limit) :
    (run desk tokens).conclude.exit = some w.purpose.interruptedStatus := by
  unfold Command.inquiries at hw
  dsimp only at hw
  split at hw
  · rename_i request hparse
    split at hw
    · rename_i parameters hload
      rw [run_of_parse hparse, hload]
      dsimp only
      rw [invoke]
      rcases Session.mem_inquiries hw with ⟨hpurpose, hlocate⟩ |
        ⟨hpurpose, target, visits, hlocate, hat⟩
      · obtain ⟨visits, hlocated⟩ := Session.locate_interrupted hlocate hsent hi
        rw [hpurpose, hlocated]
        rfl
      · have hinvoked := invokeAt_interrupted hat hsent hi
        rw [hpurpose, hlocate]
        dsimp only
        rw [hinvoked]
        rfl
    · cases hw
  · cases hw

theorem InterfaceTarget.exit_interrupted (hw : w ∈ Command.help.inquiries desk tokens)
    (hsent : w.isSent = true) (hi : w.Interrupted desk.session.limit) :
    (run desk tokens).conclude.exit = some w.purpose.interruptedStatus := by
  unfold Command.inquiries at hw
  dsimp only at hw
  split at hw
  · rename_i target htarget
    unfold run
    rw [htarget]
    dsimp only
    rw [Session.describe]
    rcases Session.mem_inquiries hw with ⟨hpurpose, hlocate⟩ | ⟨hpurpose, found, visits, hlocate, hat⟩
    · obtain ⟨visits, hlocated⟩ := Session.locate_interrupted hlocate hsent hi
      rw [hpurpose, hlocated]
      rfl
    · have hdescribed := Session.describeAt_interrupted hat hsent hi
      rw [hpurpose, hlocate]
      dsimp only
      rw [hdescribed]
      rfl
  · cases hw

theorem Address.exit_interrupted (hw : w ∈ Command.info.inquiries desk tokens)
    (hsent : w.isSent = true) (hi : w.Interrupted desk.session.limit) :
    (run desk tokens).conclude.exit = some w.purpose.interruptedStatus := by
  unfold Command.inquiries at hw
  dsimp only at hw
  split at hw
  · rename_i address haddress
    have hasked := Session.ask_interrupted hw hsent hi
    obtain ⟨service, -, rfl⟩ := Session.mem_inquiriesAt.mp hw
    unfold run
    rw [haddress]
    dsimp only
    split
    · rename_i heq
      rw [heq] at hasked
      cases hasked
      rfl
    · rename_i heq
      rw [heq] at hasked
      cases hasked
  · cases hw

end Interrupted

/-! ### Whole runs -/

namespace Invocation

/-- The desk of a run under a configuration. -/
def desk (invocation : Invocation) (flags : Flags) (config : Config) : Desk :=
  ⟨⟨invocation.world, config.resolver, config.limit⟩,
    .ofBool ((flags.color.getD .auto).resolve invocation.terminal), invocation.stdin,
    invocation.outputs⟩

/-- The command line asks for a command, and nothing is wrong before it begins. -/
inductive Performs (invocation : Invocation) : Desk → Command → List Text → Prop
  | intro {flags : Flags} {config : Config} {name : Text} {command : Command}
      (hflags : Flags.read (Split.ofCommandLine invocation.arguments).globals.tail = .ok flags)
      (hcomplete : flags.complete = none) (hname : flags.command = some name)
      (hcommand : Command.ofName? name = some command)
      (hconfig : Config.load invocation.surroundings
        (Split.ofCommandLine invocation.arguments).settings = .ok config)
      (hfilter : invocation.filterFault config = none) :
      Performs invocation (invocation.desk flags config) command
        (Split.ofCommandLine invocation.arguments).command

variable {invocation : Invocation} {desk : Desk} {command : Command} {tokens : List Text}
  {w : Inquiry}

theorem Performs.run_eq (h : invocation.Performs desk command tokens) :
    invocation.run = (command.run desk tokens).conclude := by
  obtain ⟨hflags, hcomplete, hname, hcommand, hconfig, hfilter⟩ := h
  rw [run, begin, hflags]
  dsimp only
  rw [if_neg (by simp [Flags.isBare, hname]), configure, hconfig]
  dsimp only
  rw [hfilter]
  dsimp only
  rw [perform, hcomplete, hname]
  dsimp only
  rw [Command.runNamed, hcommand]
  rfl

/-- **An interruption ends a run** with status 0 while it waits for an answer, and with status 2
while it waits to learn where the service is. -/
theorem run_interrupted (h : invocation.Performs desk command tokens)
    (hw : w ∈ command.waits desk tokens) (hi : w.Interrupted desk.session.limit) :
    invocation.run.exit = some w.purpose.interruptedStatus := by
  obtain ⟨hw, hsent⟩ := List.mem_filter.mp hw
  rw [h.run_eq]
  cases command with
  | call => exact CallRequest.exit_interrupted hw hsent hi
  | help => exact InterfaceTarget.exit_interrupted hw hsent hi
  | info => exact Address.exit_interrupted hw hsent hi

/-- A service that says nothing, while the wait for it is interrupted at once. -/
def silent : Service :=
  ⟨fun _ => .response ⟨[], false⟩, fun _ => [⟨true, 0⟩]⟩

theorem interrupted_silent (limit : Option Nat) (purpose : Purpose) (address : Address)
    (call : Call) : Inquiry.Interrupted limit ⟨purpose, address, silent, call, none⟩ :=
  Service.interrupted_of_first Exchange.keepFirst limit
    (show Session.momentsOf silent call = [⟨true, 0⟩] from rfl) rfl none

/-- The run that asks for the description of an interface where all services are silent. -/
def helpAbout (target : Text) : Invocation where
  arguments := [Utf8.encode "varlink", Utf8.encode "help", Utf8.encode target]
  stdin := []
  terminal := false
  outputs := ⟨.empty none, .empty none⟩
  surroundings := ⟨[], []⟩
  world := ⟨fun _ => .ok silent⟩
  logs := true

/-- Its desk. -/
def helpDesk (target : Text) : Desk :=
  (helpAbout target).desk { Flags.none with command := some "help" } .default

theorem performs_helpAbout (target : Text) :
    (helpAbout target).Performs (helpDesk target) .help [target] := by
  have htokens : (Split.ofCommandLine (helpAbout target).arguments).command = [target] :=
    congrArg (fun t => [t]) (Utf8.decodeLossy_encode target)
  rw [← htokens]
  refine .intro ?_ rfl rfl (by decide) ?_ rfl
  · show Flags.read [Utf8.encode "help"] = _
    decide
  · show Config.load ⟨[], []⟩ [Utf8.encode "varlink"] = _
    decide

/-- The service is asked directly, and the run is interrupted while it waits for the answer. -/
theorem run_interrupted_help :
    let w : Inquiry := ⟨.answer, .unix "/s", silent,
      ⟨Method.describe, some (Exchange.interfaceParameters "a.b"), false⟩, none⟩
    (helpAbout "unix:/s/a.b").Performs (helpDesk "unix:/s/a.b") .help ["unix:/s/a.b"] ∧
      w ∈ Command.help.waits (helpDesk "unix:/s/a.b") ["unix:/s/a.b"] ∧
      w.Interrupted (helpDesk "unix:/s/a.b").session.limit ∧
      (helpAbout "unix:/s/a.b").run.exit = some w.purpose.interruptedStatus := by
  intro w
  have hwaits : Command.help.waits (helpDesk "unix:/s/a.b") ["unix:/s/a.b"] = [w] := rfl
  have hw : w ∈ Command.help.waits (helpDesk "unix:/s/a.b") ["unix:/s/a.b"] := by
    rw [hwaits]
    exact List.mem_singleton_self w
  have hi := interrupted_silent (helpDesk "unix:/s/a.b").session.limit w.purpose w.address w.call
  exact ⟨performs_helpAbout _, hw, hi, run_interrupted (performs_helpAbout _) hw hi⟩

/-- Not every run that is interrupted ends with status 0: this one waits for the resolver. -/
theorem exists_interrupted_failure :
    ¬ ∀ (invocation : Invocation) (desk : Desk) (command : Command) (tokens : List Text)
      (w : Inquiry), invocation.Performs desk command tokens → w ∈ command.waits desk tokens →
        w.Interrupted desk.session.limit → invocation.run.exit = some 0 := by
  intro h
  let w : Inquiry := ⟨.resolution, Config.default.resolver, silent,
    ⟨Method.resolve, some (Exchange.interfaceParameters "a.b"), false⟩, none⟩
  have hwaits : Command.help.waits (helpDesk "a.b") ["a.b"] = [w] := rfl
  have hw : w ∈ Command.help.waits (helpDesk "a.b") ["a.b"] := by
    rw [hwaits]
    exact List.mem_singleton_self w
  have hexit := h _ _ _ _ w (performs_helpAbout "a.b") hw (interrupted_silent _ _ _ _)
  have hfails : (helpAbout "a.b").run.exit = some 2 := rfl
  rw [hfails] at hexit
  cases hexit

end Invocation

end VarlinkClient
