/-
The calls of a command, its waits, and the connections it opens.

A command makes at most two calls: to the resolver, when it has to find the service, and to
the service itself.  `Command.inquiries` lists these calls in order.  None is missing:
`Command.visits_eq` shows that every connection that a command opens is opened for one of
them, and that over it this call is sent, as far as it gets through, and nothing else.  For
what is answered to a call that got through the command waits (`Command.waits`).
-/
import VarlinkClient.CommandLine.Run
import VarlinkClient.Proofs.Wait

namespace VarlinkClient

/-! ### One call on a new connection -/

namespace Reaction

/-- What is sent back to a call. -/
def bytes : Reaction → Bytes
  | .response answer => answer.bytes
  | .breakdown bytes _ => bytes
  | .refusal _ _ => []

/-- How the service stands afterwards. -/
def far : Reaction → FarEnd
  | .response answer => if answer.hangsUp then .finished else .open
  | .breakdown _ reason => .broken reason
  | .refusal _ _ => .finished

end Reaction

namespace Service

/-- Why a call does not get through to a service, if it does not. -/
def refusal? (service : Service) (call : Call) : Option Text :=
  match service.react call.encode.dropLast with
  | .refusal _ reason => some reason
  | .response _ | .breakdown _ _ => none

/-- What gets through to a service of a call: all of it, unless it is refused. -/
def delivered (service : Service) (call : Call) : Bytes :=
  match service.react call.encode.dropLast with
  | .refusal length _ => call.encode.take length
  | .response _ | .breakdown _ _ => call.encode

/-- The connection to a service when a call has been sent over it and has had its effect. -/
def called (service : Service) (call : Call) : Connection :=
  (service.receive .fresh call).2

/-- A call is sent unless it is refused. -/
theorem send_fresh (service : Service) (call : Call) :
    service.channel.send .fresh call =
      (match service.refusal? call with
        | some reason => .error (.sendFailed reason)
        | none => .ok (), service.called call) := by
  show service.receive .fresh call = _
  rw [called, receive, refusal?]
  cases service.react call.encode.dropLast <;> rfl

theorem send_refused {service : Service} {call : Call} {reason : Text}
    (h : service.refusal? call = some reason) :
    service.channel.send .fresh call = (.error (.sendFailed reason), service.called call) := by
  rw [send_fresh, h]

theorem send_delivered {service : Service} {call : Call} (h : service.refusal? call = none) :
    service.channel.send .fresh call = (.ok (), service.called call) := by
  rw [send_fresh, h]

theorem delivered_eq {service : Service} {call : Call} (h : service.refusal? call = none) :
    service.delivered call = call.encode := by
  unfold refusal? at h
  unfold delivered
  split at h
  · cases h
  · rfl
  · rfl

/-- A call has its effect on the connection, and sends what gets through of it. -/
theorem called_eq (service : Service) (call : Call) :
    service.called call =
      ⟨(service.react call.encode.dropLast).bytes, [], (service.react call.encode.dropLast).far,
        service.delivered call, false⟩ := by
  have hsend : Connection.fresh.send call =
      (.ok (), { Connection.fresh with sent := call.encode }) := rfl
  rw [called, receive, delivered, hsend]
  dsimp only
  cases service.react call.encode.dropLast with
  | response answer =>
      obtain ⟨bytes, hangsUp⟩ := answer
      cases hangsUp <;> rfl
  | breakdown bytes reason => rfl
  | refusal length reason => rfl

theorem called_closed (service : Service) (call : Call) :
    (service.called call).closed = false := by
  rw [called_eq]

theorem called_sent (service : Service) (call : Call) :
    (service.called call).sent = service.delivered call := by
  rw [called_eq]

variable {η : Type} (handle : η → Reply → η × ReplyState) (limit : Option Nat)

/-- The wait for what a service answers to a call. -/
def await (service : Service) (call : Call) (h : η) : Except Stop Unit × Connection × η :=
  Wait.run service.channel handle limit (Session.momentsOf service call) (service.called call) h

/-- Nothing more is sent during a wait. -/
theorem await_sent (service : Service) (call : Call) (h : η) :
    (service.await handle limit call h).2.1.sent = service.delivered call := by
  have hpoll : ∀ c : Connection, c.sent = service.delivered call →
      c.poll.2.sent = service.delivered call := by
    intro c hc
    rw [Connection.poll_sent, hc]
  have hclose : ∀ c : Connection, c.sent = service.delivered call →
      c.close.sent = service.delivered call :=
    fun _ hc => hc
  exact Wait.run_keeps (P := fun c : Connection => c.sent = service.delivered call) hpoll hclose
    handle limit _ _ h (service.called_sent call)

end Service

namespace Exchange

/-- What an exchange comes to is decided by its wait, if its call gets through. -/
theorem callOnce_eq (service : Service) (limit : Option Nat) (method : Text)
    (parameters : Option Json.Members) :
    callOnce service.channel limit (Session.momentsOf service ⟨method, parameters, false⟩) method
        parameters .fresh =
      match service.refusal? ⟨method, parameters, false⟩ with
      | some reason =>
        (.error (.failed (.sendFailed reason)), service.called ⟨method, parameters, false⟩)
      | none =>
        match service.await keepFirst limit ⟨method, parameters, false⟩ none with
        | (.error stop, c, _) => (.error stop, c)
        | (.ok (), c, none) => (.error (.failed .noOutcome), c)
        | (.ok (), c, some reply) => ((Answer.ofReply reply).mapError .failed, c) := by
  cases hrefusal : service.refusal? ⟨method, parameters, false⟩ with
  | some reason => rw [callOnce, Service.send_refused hrefusal]
  | none =>
      rw [callOnce, Service.send_delivered hrefusal]
      unfold Service.await
      dsimp only
      rcases Wait.run service.channel keepFirst limit _ (service.called _) none with
        ⟨stop | u, c, none | reply⟩ <;> rfl

theorem callOnce_sent (service : Service) (limit : Option Nat) (method : Text)
    (parameters : Option Json.Members) :
    (callOnce service.channel limit (Session.momentsOf service ⟨method, parameters, false⟩) method
      parameters .fresh).2.sent = service.delivered ⟨method, parameters, false⟩ := by
  rw [callOnce_eq]
  cases service.refusal? ⟨method, parameters, false⟩ with
  | some reason => exact service.called_sent _
  | none =>
      have hsent := Service.await_sent keepFirst limit service ⟨method, parameters, false⟩ none
      dsimp only
      revert hsent
      rcases service.await keepFirst limit ⟨method, parameters, false⟩ none with
        ⟨stop | u, c, none | reply⟩ <;> exact fun hsent => hsent

end Exchange

namespace CallRequest

variable {service : Service} {call : Call} (limit : Option Nat) (stream : ReplyStream)

/-- A call that is refused is told, and nothing is waited for. -/
theorem exchange_refused {reason : Text} (h : service.refusal? call = some reason) :
    exchange service.channel limit (Session.momentsOf service call) call stream .fresh =
      (settleFailure "Unable to call" (.sendFailed reason) stream.outputs,
        service.called call) := by
  rw [exchange, Service.send_refused h]

/-- What comes of a call that gets through is decided by its wait. -/
theorem exchange_delivered (h : service.refusal? call = none) :
    exchange service.channel limit (Session.momentsOf service call) call stream .fresh =
      let wait := service.await ReplyStream.handle limit call stream
      (settle wait.1 wait.2.2, wait.2.1) := by
  rw [exchange, Service.send_delivered h]
  rfl

theorem exchange_sent (service : Service) (call : Call) :
    (exchange service.channel limit (Session.momentsOf service call) call stream .fresh).2.sent =
      service.delivered call := by
  cases hrefusal : service.refusal? call with
  | some reason =>
      rw [exchange_refused limit stream hrefusal]
      exact service.called_sent call
  | none =>
      rw [exchange_delivered limit stream hrefusal]
      exact service.await_sent ReplyStream.handle limit call stream

end CallRequest

/-! ### The calls of a command -/

/-- What a call is for. -/
inductive Purpose
  /-- To learn where an interface is found. -/
  | resolution
  /-- To have an answer. -/
  | answer
  deriving DecidableEq, Repr

/-- A call to a service. -/
structure Inquiry where
  purpose : Purpose
  address : Address
  service : Service
  call : Call
  /-- What prints the replies; without it, the only reply is kept. -/
  stream : Option ReplyStream

namespace Inquiry

/-- The connection that is opened for a call. -/
def visit (inquiry : Inquiry) : Visit :=
  ⟨inquiry.address, inquiry.service.delivered inquiry.call⟩

/-- The call is not refused, so its answer is waited for. -/
def isSent (inquiry : Inquiry) : Bool :=
  (inquiry.service.refusal? inquiry.call).isNone

end Inquiry

namespace Session

/-- The call at an address, if anybody is there. -/
def inquiriesAt (session : Session) (purpose : Purpose) (address : Address) (call : Call)
    (stream : Option ReplyStream) : List Inquiry :=
  match session.world.reach address with
  | .error _ => []
  | .ok service => [⟨purpose, address, service, call, stream⟩]

/-- The call to the resolver, if it has to be asked. -/
def inquiriesToLocate (session : Session) (address : Option Address) (interface : Text) :
    List Inquiry :=
  if address.isSome ∨ interface = resolverInterface then []
  else session.inquiriesAt .resolution session.resolver
    ⟨Method.resolve, some (Exchange.interfaceParameters interface), false⟩ none

/-- The calls that are made to have a call answered at an address that is given or found. -/
def inquiries (session : Session) (address : Option Address) (interface : Text) (call : Call)
    (stream : Option ReplyStream) : List Inquiry :=
  session.inquiriesToLocate address interface ++
    match (session.locate address interface).1 with
    | .error _ => []
    | .ok address => session.inquiriesAt .answer address call stream

end Session

namespace Command

/-- The calls of a command, in order. -/
def inquiries (desk : Desk) (command : Command) (tokens : List Text) : List Inquiry :=
  match command with
  | .call =>
    match CallRequest.parse tokens with
    | .ok (.run request) =>
      match ParameterSource.load request.parameters desk.stdin with
      | .ok parameters =>
        desk.session.inquiries request.target.address request.target.interface
          (request.call parameters)
          (some (.start request.more desk.palette desk.outputs))
      | .error _ => []
    | _ => []
  | .help =>
    match InterfaceTarget.ofTokens tokens with
    | .ok (.run target) =>
      desk.session.inquiries target.address target.interface
        ⟨Method.describe, some (Exchange.interfaceParameters target.interface), false⟩ none
    | _ => []
  | .info =>
    match Address.ofTokens tokens with
    | .ok (.run address) =>
      desk.session.inquiriesAt .answer address ⟨Method.serviceInfo, none, false⟩ none
    | _ => []

/-- The calls whose answers a command waits for, in order. -/
def waits (desk : Desk) (command : Command) (tokens : List Text) : List Inquiry :=
  (command.inquiries desk tokens).filter Inquiry.isSent

end Command

/-! ### No call is missing -/

namespace Session

variable {session : Session}

theorem ask_of_reach {address : Address} {service : Service}
    (hreach : session.world.reach address = .ok service) (method : Text)
    (parameters : Option Json.Members) :
    session.ask address method parameters =
      let exchange := Exchange.callOnce service.channel session.limit
        (momentsOf service ⟨method, parameters, false⟩) method parameters .fresh
      (exchange.1, [⟨address, exchange.2.sent⟩]) := by
  rw [ask, visit, hreach]

variable (session : Session)

theorem visits_ask (purpose : Purpose) (address : Address) (method : Text)
    (parameters : Option Json.Members) :
    (session.ask address method parameters).2 =
      (session.inquiriesAt purpose address ⟨method, parameters, false⟩ none).map Inquiry.visit := by
  cases hreach : session.world.reach address with
  | error reason => rw [ask, visit, inquiriesAt, hreach]; rfl
  | ok service =>
      rw [ask_of_reach hreach, inquiriesAt, hreach]
      dsimp only
      rw [Exchange.callOnce_sent]
      rfl

theorem visits_describeAt (purpose : Purpose) (address : Address) (interface : Text) :
    (session.describeAt address interface).2 =
      (session.inquiriesAt purpose address
        ⟨Method.describe, some (Exchange.interfaceParameters interface), false⟩ none).map
          Inquiry.visit := by
  rw [describeAt, visit, inquiriesAt]
  cases session.world.reach address with
  | error reason => rfl
  | ok service =>
      have hsent := Exchange.callOnce_sent service session.limit Method.describe
        (some (Exchange.interfaceParameters interface))
      dsimp only
      rw [Exchange.describe]
      split
      · rename_i heq
        rw [heq] at hsent
        exact congrArg (fun sent => [(⟨address, sent⟩ : Visit)]) hsent
      · rename_i heq
        rw [heq] at hsent
        exact congrArg (fun sent => [(⟨address, sent⟩ : Visit)]) hsent

theorem visits_locate (address : Option Address) (interface : Text) :
    (session.locate address interface).2 =
      (session.inquiriesToLocate address interface).map Inquiry.visit := by
  unfold locate inquiriesToLocate
  cases address with
  | some address => rfl
  | none =>
      dsimp only
      rw [resolve]
      by_cases hown : interface = resolverInterface
      · rw [if_pos hown, if_pos (Or.inr hown)]
        rfl
      · rw [if_neg hown, if_neg (by simp [hown]), ← visits_ask]
        split <;> rename_i heq <;> rw [heq]

end Session

theorem CallRequest.visits_invokeAt (desk : Desk) (request : CallRequest)
    (parameters : Option Json.Members) (address : Address) :
    (invokeAt desk request parameters address).2 =
      (desk.session.inquiriesAt .answer address (request.call parameters)
        (some (.start request.more desk.palette desk.outputs))).map Inquiry.visit := by
  rw [invokeAt, Session.visit, Session.inquiriesAt]
  cases desk.session.world.reach address with
  | error reason => rfl
  | ok service =>
      exact congrArg (fun sent => [(⟨address, sent⟩ : Visit)])
        (exchange_sent desk.session.limit _ service (request.call parameters))

theorem Run.visits_print (t : Text) (outputs : Outputs) (visits : List Visit) :
    (Run.print t outputs visits).visits = visits := by
  unfold print
  split <;> rfl

theorem CallRequest.visits_run (desk : Desk) (tokens : List Text) :
    (run desk tokens).visits = (Command.call.inquiries desk tokens).map Inquiry.visit := by
  unfold Command.inquiries
  dsimp only
  cases hparse : parse tokens with
  | error error => rw [run, runOn, hparse]; rfl
  | ok request =>
      cases request with
      | help =>
          rw [run, runOn, hparse]
          exact Run.visits_print _ _ _
      | run request =>
          rw [run_of_parse hparse]
          dsimp only
          cases ParameterSource.load request.parameters desk.stdin with
          | error failure => rfl
          | ok parameters =>
              have hlocate := desk.session.visits_locate request.target.address
                request.target.interface
              dsimp only
              rw [invoke, Session.inquiries, List.map_append, ← hlocate]
              rcases desk.session.locate request.target.address request.target.interface with
                ⟨stop | address, visits⟩
              · cases stop <;> exact (List.append_nil _).symm
              · exact congrArg (visits ++ ·) (visits_invokeAt desk request parameters address)

theorem InterfaceTarget.visits_run (desk : Desk) (tokens : List Text) :
    (run desk tokens).visits = (Command.help.inquiries desk tokens).map Inquiry.visit := by
  unfold run Command.inquiries
  dsimp only
  cases ofTokens tokens with
  | error error => rfl
  | ok request =>
      cases request with
      | help => exact Run.visits_print _ _ _
      | run target =>
          have hlocate := desk.session.visits_locate target.address target.interface
          dsimp only
          rw [Session.describe, Session.inquiries, List.map_append, ← hlocate]
          rcases desk.session.locate target.address target.interface with ⟨stop | address, visits⟩
          · exact (List.append_nil _).symm
          · have hdescribe := desk.session.visits_describeAt .answer address target.interface
            dsimp only
            rw [← hdescribe]
            rcases desk.session.describeAt address target.interface with ⟨stop | answer, more⟩
            · rfl
            · exact Run.visits_print _ _ _

theorem Address.visits_run (desk : Desk) (tokens : List Text) :
    (run desk tokens).visits = (Command.info.inquiries desk tokens).map Inquiry.visit := by
  unfold run Command.inquiries
  dsimp only
  cases ofTokens tokens with
  | error error => rfl
  | ok request =>
      cases request with
      | help => exact Run.visits_print _ _ _
      | run address =>
          dsimp only
          rw [← Session.visits_ask]
          rcases desk.session.ask address Method.serviceInfo none with ⟨stop | answer, visits⟩
          · rfl
          · dsimp only
            unfold printInfo
            split
            · rfl
            · split
              · rfl
              · exact Run.visits_print _ _ _

/-- Every connection that a command opens is opened for one of its calls, and in order. -/
theorem Command.visits_eq (desk : Desk) (command : Command) (tokens : List Text) :
    (command.run desk tokens).visits = (command.inquiries desk tokens).map Inquiry.visit := by
  cases command with
  | call => exact CallRequest.visits_run desk tokens
  | help => exact InterfaceTarget.visits_run desk tokens
  | info => exact Address.visits_run desk tokens

end VarlinkClient
