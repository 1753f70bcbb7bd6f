/-
Resolution is transparent.

A command that names an interface without an address asks the resolver for one, and from
there on does what it does when the same address is written in front of the target.  That
is a statement about two runs, and each part of it has its section.

The tokens of the second run are those of the first with the address put in front of the
first positional (`Options.aimed`).  They are read as the same request, but for the address
in its target.  The resolver's answer gives the first run the same address
(`Session.locate_resolved`), at the price of one visit.  What follows depends on the address
and on the rest of the request only.  And a command line with other tokens for its command has
the same flags and the same configuration (`Performs.withTokens`).
-/
import VarlinkClient.Proofs.Address
import VarlinkClient.Proofs.CommandLine.Shares
import VarlinkClient.Proofs.Interruption
import VarlinkClient.Proofs.Options
import VarlinkClient.Proofs.Target

namespace VarlinkClient

/-! ### An address in front of the target -/

namespace Options

/-- The positionals with a text in front of the first. -/
def ahead (front : Text) : List Text → List Text
  | [] => []
  | first :: rest => (front ++ first) :: rest

/-- The tokens with a text in front of the first that is no option. -/
def aimed (front : Text) : List Text → List Text
  | [] => []
  | token :: tokens =>
    match token with
    | ['-', '-'] => token :: ahead front tokens
    | '-' :: _ :: _ => token :: aimed front tokens
    | _ => (front ++ token) :: tokens

example : aimed "unix:/s/" ["-m", "a.b.C", "\x7b\x7d"] = ["-m", "unix:/s/a.b.C", "\x7b\x7d"] := rfl

example : aimed "unix:/s/" ["--", "-a.b", "c"] = ["--", "unix:/s/-a.b", "c"] := rfl

/-- Options with a text in front of the first positional. -/
def aim (front : Text) (options : Options) : Options :=
  { options with positionals := ahead front options.positionals }

/-- Tokens with a text in front of the first positional are read as the same options with that
text there. -/
theorem parse_aimed (schema : Schema) {front : Text} {c : Char} {rest : Text}
    (hfront : front = c :: rest) (hc : c ≠ '-') (tokens : List Text) :
    parse schema (aimed front tokens) = (parse schema tokens).map (aim front) := by
  fun_induction aimed front tokens with
  | case1 => rfl
  | case2 tokens => rfl
  | case3 tokens letter letters hdashes ih =>
      have htoken : IsOption ('-' :: letter :: letters) :=
        isOption_iff.mpr ⟨letter, letters, rfl⟩
      have hne : '-' :: letter :: letters ≠ "--" := by
        intro heq
        cases heq
        exact hdashes rfl rfl
      rw [parse_option schema htoken hne, parse_option schema htoken hne, ih,
        foldr_applyOption_map rfl fun _ _ => rfl]
  | case4 token tokens hdashes hoption =>
      have htoken : ¬ IsOption token := by
        rw [isOption_iff]
        rintro ⟨letter, letters, rfl⟩
        exact hoption letter letters rfl
      have hbehind : ¬ IsOption (front ++ token) := by
        rw [hfront, isOption_iff]
        rintro ⟨d, more, heq⟩
        rw [List.cons_append] at heq
        exact hc (List.cons.inj heq).1
      rw [parse_positional schema htoken, parse_positional schema hbehind]
      cases parse schema tokens <;> rfl

end Options

/-- When the first positional is read as something else behind `front`, the request is for that. -/
theorem Request.parse_aimed {α β : Type} {command : Command} {name : Text}
    {read : Text → Except TargetError α} {hasSecond : Bool}
    {make : Options → α → Option Text → β} {tokens : List Text} {details : β}
    (h : parse command name read hasSecond make tokens = .ok (.run details)) :
    ∃ options first second a, read first = .ok a ∧ details = make options a second ∧
      ∀ front c rest b, front = c :: rest → c ≠ '-' → read (front ++ first) = .ok b →
        parse command name read hasSecond make (Options.aimed front tokens) =
          .ok (.run (make (options.aim front) b second)) := by
  obtain ⟨options, first, second, a, hoptions, hhelp, hpositionals, hsecond, hread, hdetails⟩ :=
    parse_eq_run_iff.mp h
  refine ⟨options, first, second, a, hread, hdetails, fun front c rest b hfront hc hb => ?_⟩
  refine parse_eq_run_iff.mpr
    ⟨options.aim front, front ++ first, second, b, ?_, hhelp, ?_, hsecond, hb, rfl⟩
  · rw [Options.parse_aimed command.schema hfront hc, hoptions]
    rfl
  · rw [Options.aim, hpositionals]
    rfl

/-! ### Targets with and without an address -/

theorem InterfaceTarget.parse_append {t name : Text} {address : Address}
    {target : InterfaceTarget} (ht : Address.parse t = .ok address) (h : parse name = .ok target)
    (hnone : target.address = none) :
    parse (t ++ "/" ++ name) = .ok { target with address := some address } := by
  unfold parse at h
  split at h
  · cases h
  rename_i found rest hsplit
  dsimp only at h
  split at h
  · cases h
  rename_i hinterface
  split at h
  · rename_i hdot
    cases h
    cases hnone
    obtain ⟨hslash, rfl⟩ := splitAddress_eq_none_iff.mp hsplit
    rw [parse, splitAddress_append ht hslash]
    dsimp only
    rw [if_neg hinterface, if_pos hdot]
  · cases h

/-! ### The answer of the resolver -/

/-- The first reply in what is sent back, if it can be read. -/
def Reaction.firstReply? (reaction : Reaction) : Option Reply :=
  (Connection.frames reaction.bytes).head?.bind fun frame => (Reply.decode frame).toOption

theorem Reaction.exists_frame {reaction : Reaction} {reply : Reply}
    (h : reaction.firstReply? = some reply) :
    ∃ frame later, reaction.bytes = frame ++ 0 :: later ∧ 0 ∉ frame ∧
      Reply.decode frame = .ok reply := by
  obtain ⟨frames, rest, hbytes, hfree, hrest⟩ := Connection.exists_wire reaction.bytes
  rw [firstReply?, hbytes, Connection.frames_wire hfree, Connection.frames_eq_nil hrest] at h
  cases frames with
  | nil => cases h
  | cons frame others =>
      refine ⟨frame, Connection.wire others ++ rest, ?_, hfree frame (by simp), ?_⟩
      · rw [hbytes, Connection.wire_cons, List.append_assoc, List.cons_append]
      · rw [List.append_nil, List.head?_cons, Option.bind_some] at h
        cases hdecode : Reply.decode frame with
        | error failure => rw [hdecode] at h; cases h
        | ok found => rw [hdecode] at h; cases h; rfl

/-- A call that is replied to has got through. -/
theorem Service.refusal_eq_none {service : Service} {call : Call} {reply : Reply}
    (h : (service.react call.encode.dropLast).firstReply? = some reply) :
    service.refusal? call = none := by
  rw [refusal?]
  cases hreact : service.react call.encode.dropLast with
  | response response => rfl
  | breakdown bytes reason => rfl
  | refusal length reason =>
      rw [hreact] at h
      cases h

/-- A wait for one reply ends with the first when there is a turn to look for it. -/
theorem Service.await_first {service : Service} {limit : Option Nat} {call : Call} {reply : Reply}
    {moment : Moment} (hreply : (service.react call.encode.dropLast).firstReply? = some reply)
    (hmoment : (Session.momentsOf service call).head? = some moment)
    (calm : Wait.Calm limit moment) :
    ∃ c, service.await Exchange.keepFirst limit call none = (.ok (), c, some reply) := by
  obtain ⟨frame, later, hbytes, hfree, hdecode⟩ := Reaction.exists_frame hreply
  obtain ⟨moments, hmoments⟩ := List.head?_eq_some_iff.mp hmoment
  have hpoll := Connection.poll_frame (service.called_closed call) (by simp [service.called_eq])
    hfree (by rw [service.called_eq, hbytes, List.nil_append])
  rw [Connection.answer, hdecode] at hpoll
  rw [await, hmoments]
  exact ⟨_, Wait.run_done (service.called_closed call) calm hpoll rfl rfl moments⟩

/-- The address that a reply of the resolver gives, unless it is an error. -/
def Reply.foundAddress? (reply : Reply) : Option Text :=
  match reply.error, reply.parameters with
  | none, some (.object members) => (Json.Members.get? "address" members).bind Json.Value.asText?
  | _, _ => none

theorem Reply.exists_answer {reply : Reply} {t : Text} (h : reply.foundAddress? = some t) :
    ∃ answer, Answer.ofReply reply = .ok answer ∧ answer.error = none ∧
      answer.address Method.resolve = .ok t := by
  obtain ⟨error, parameters, continues⟩ := reply
  unfold foundAddress? at h
  dsimp only at h
  split at h
  · rename_i members
    obtain ⟨value, hvalue, htext⟩ := Option.bind_eq_some_iff.mp h
    refine ⟨⟨none, members⟩, rfl, rfl, ?_⟩
    rw [Answer.address, hvalue]
    cases value with
    | string u => cases htext; rfl
    | null | bool _ | number _ | array _ | object _ => cases htext
  · cases h

namespace Session

/-- The call that asks where an interface is found. -/
def resolution (interface : Text) : Call :=
  ⟨Method.resolve, some (Exchange.interfaceParameters interface), false⟩

/-- The resolver answers where an interface is found: its first reply is no error and gives a text
that is an address.  At the turn at which that reply is looked for the wait is neither interrupted
nor is its time up. -/
structure Resolves (session : Session) (interface t : Text) (address : Address)
    (service : Service) (moment : Moment) : Prop where
  other : interface ≠ resolverInterface
  reachable : session.world.reach session.resolver = .ok service
  answers : (service.react (resolution interface).encode.dropLast).firstReply?.bind
    Reply.foundAddress? = some t
  isAddress : Address.parse t = .ok address
  turn : (momentsOf service (resolution interface)).head? = some moment
  calm : Wait.Calm session.limit moment

variable {session : Session} {interface t : Text} {address : Address} {service : Service}
  {moment : Moment}

theorem Resolves.ask_eq (h : session.Resolves interface t address service moment) :
    ∃ answer, session.ask session.resolver Method.resolve
        (some (Exchange.interfaceParameters interface)) =
          (.ok answer, [⟨session.resolver, (resolution interface).encode⟩]) ∧
      answer.error = none ∧ answer.address Method.resolve = .ok t := by
  obtain ⟨reply, hreply, hfound⟩ := Option.bind_eq_some_iff.mp h.answers
  obtain ⟨answer, hanswer, herror, haddress⟩ := Reply.exists_answer hfound
  obtain ⟨c, hwait⟩ := Service.await_first hreply h.turn h.calm
  have hdelivered := Service.refusal_eq_none hreply
  have hsent := (Exchange.callOnce_sent service session.limit Method.resolve
    (some (Exchange.interfaceParameters interface))).trans (Service.delivered_eq hdelivered)
  have hresult : (Exchange.callOnce service.channel session.limit
      (momentsOf service (resolution interface)) Method.resolve
      (some (Exchange.interfaceParameters interface)) .fresh).1 = .ok answer := by
    rw [resolution] at hwait hdelivered ⊢
    rw [Exchange.callOnce_eq, hdelivered]
    dsimp only
    rw [hwait]
    dsimp only
    rw [hanswer]
    rfl
  refine ⟨answer, ?_, herror, haddress⟩
  rw [ask_of_reach h.reachable]
  dsimp only
  rw [hsent]
  exact congrArg (fun result => (result, _)) hresult

/-- The resolver is asked once, and its answer is the address to go to. -/
theorem locate_resolved (h : session.Resolves interface t address service moment) :
    session.locate none interface =
      (.ok address, [⟨session.resolver, (resolution interface).encode⟩]) := by
  obtain ⟨answer, hask, herror, haddress⟩ := h.ask_eq
  rw [locate, resolve, if_neg h.other, hask]
  dsimp only
  rw [resolvedAddress, herror]
  dsimp only
  rw [haddress]
  dsimp only
  rw [h.isAddress]
  rfl

end Session

/-! ### Two runs -/

/-- The same run with one more visit before all others. -/
def Run.after (visit : Visit) (run : Run) : Run :=
  { run with visits := visit :: run.visits }

theorem Run.visits_conclude (run : Run) : run.conclude.visits = run.visits := by
  unfold conclude
  split <;> rfl

theorem Run.conclude_after (visit : Visit) (run : Run) :
    (run.after visit).conclude = { run.conclude with visits := visit :: run.visits } := by
  obtain ⟨result, outputs, visits⟩ := run
  unfold conclude after
  dsimp only
  split <;> rfl

theorem Run.print_cons (t : Text) (outputs : Outputs) (visit : Visit) (visits : List Visit) :
    print t outputs (visit :: visits) = (print t outputs visits).after visit := by
  unfold print
  split <;> rfl

/-- With an address there is one call to make, if anybody is there. -/
theorem Session.visits_inquiries_given (session : Session) (address : Address) (interface : Text)
    (call : Call) (stream : Option ReplyStream) :
    (session.inquiries (some address) interface call stream).map Inquiry.visit =
      match session.world.reach address with
      | .ok service => [⟨address, service.delivered call⟩]
      | .error _ => [] := by
  have hlocated : session.inquiriesToLocate (some address) interface = [] := if_pos (Or.inl rfl)
  rw [inquiries, hlocated, List.nil_append, locate]
  dsimp only
  rw [inquiriesAt]
  cases session.world.reach address with
  | error reason => rfl
  | ok service => rfl

section Commands

variable {desk : Desk} {interface t : Text} {address : Address} {service : Service}
  {moment : Moment} {tokens : List Text}

/-- An address and a slash do not look like an option. -/
theorem Address.exists_cons_of_parse (h : parse t = .ok address) :
    ∃ c rest, (t ++ "/" : Text) = c :: rest ∧ c ≠ '-' := by
  rcases parse_eq_ok h with ⟨rest, rfl, -⟩ | ⟨rest, rfl, -⟩
  · exact ⟨'u', _, rfl, by decide⟩
  · exact ⟨'t', _, rfl, by decide⟩

theorem CallRequest.parse_aimed {request : CallRequest} (ht : Address.parse t = .ok address)
    (hparse : parse tokens = .ok (.run request)) (hnone : request.target.address = none) :
    parse (Options.aimed (t ++ "/") tokens) =
      .ok (.run { request with target := { request.target with address := some address } }) := by
  obtain ⟨options, first, second, target, hread, rfl, haimed⟩ := Request.parse_aimed hparse
  obtain ⟨c, rest, hfront, hc⟩ := Address.exists_cons_of_parse ht
  exact haimed _ c rest _ hfront hc (MethodTarget.parse_append ht hread hnone)

theorem InterfaceTarget.ofTokens_aimed {target : InterfaceTarget}
    (ht : Address.parse t = .ok address) (hparse : ofTokens tokens = .ok (.run target))
    (hnone : target.address = none) :
    ofTokens (Options.aimed (t ++ "/") tokens) =
      .ok (.run { target with address := some address }) := by
  obtain ⟨options, first, second, read, hread, rfl, haimed⟩ := Request.parse_aimed hparse
  obtain ⟨c, rest, hfront, hc⟩ := Address.exists_cons_of_parse ht
  exact haimed _ c rest _ hfront hc (parse_append ht hread hnone)

theorem CallRequest.run_after {request : CallRequest} {parameters : Option Json.Members}
    (h : desk.session.Resolves request.target.interface t address service moment)
    (hparse : parse tokens = .ok (.run request)) (hnone : request.target.address = none)
    (hload : ParameterSource.load request.parameters desk.stdin = .ok parameters) :
    run desk tokens = (run desk (Options.aimed (t ++ "/") tokens)).after
      ⟨desk.session.resolver, (Session.resolution request.target.interface).encode⟩ := by
  rw [run_of_parse hparse, run_of_parse (parse_aimed h.isAddress hparse hnone), hload]
  dsimp only
  rw [invoke, invoke, hnone, Session.locate_resolved h]
  rfl

theorem InterfaceTarget.run_after {target : InterfaceTarget}
    (h : desk.session.Resolves target.interface t address service moment)
    (hparse : ofTokens tokens = .ok (.run target)) (hnone : target.address = none) :
    run desk tokens = (run desk (Options.aimed (t ++ "/") tokens)).after
      ⟨desk.session.resolver, (Session.resolution target.interface).encode⟩ := by
  rw [run, run, hparse, ofTokens_aimed h.isAddress hparse hnone]
  dsimp only
  rw [Session.describe, Session.describe, hnone, Session.locate_resolved h]
  dsimp only
  rw [Session.locate]
  dsimp only
  rcases desk.session.describeAt address target.interface with ⟨stop | introspection, visits⟩
  · rfl
  · exact Run.print_cons _ _ _ _

end Commands

/-! ### Whole runs -/

/-- Where the resolver says that the interface is at the address, a run ends as the run that is
given the address, after one call to the resolver and no other; and that one makes one call. -/
structure Session.Transparent (session : Session) (interface : Text) (address : Address)
    (call : Call) (resolved given : Ending) : Prop where
  exit_eq : resolved.exit = given.exit
  outputs_eq : resolved.outputs = given.outputs
  visits_eq : resolved.visits =
    ⟨session.resolver, (Session.resolution interface).encode⟩ :: given.visits
  /-- The service is called when it is there; only a call that it refuses is not sent in full. -/
  calls : given.visits =
    match session.world.reach address with
    | .ok service => [⟨address, service.delivered call⟩]
    | .error _ => []

variable {desk : Desk} {interface t : Text} {address : Address} {service : Service}
  {moment : Moment} {tokens : List Text}

theorem Command.transparent_of_after {command : Command} {others : List Text} {call : Call}
    (stream : Option ReplyStream)
    (hafter : command.run desk tokens = (command.run desk others).after
      ⟨desk.session.resolver, (Session.resolution interface).encode⟩)
    (hinquiries : command.inquiries desk others =
      desk.session.inquiries (some address) interface call stream) :
    desk.session.Transparent interface address call (command.run desk tokens).conclude
      (command.run desk others).conclude := by
  rw [hafter, Run.conclude_after]
  refine ⟨rfl, rfl, by rw [Run.visits_conclude], ?_⟩
  rw [Run.visits_conclude, Command.visits_eq, hinquiries, Session.visits_inquiries_given]

/-- **A call is transparent to resolution.** -/
theorem CallRequest.transparent_run {request : CallRequest} {parameters : Option Json.Members}
    (h : desk.session.Resolves request.target.interface t address service moment)
    (hparse : parse tokens = .ok (.run request)) (hnone : request.target.address = none)
    (hload : ParameterSource.load request.parameters desk.stdin = .ok parameters) :
    desk.session.Transparent request.target.interface address (request.call parameters)
      (Command.call.run desk tokens).conclude
      (Command.call.run desk (Options.aimed (t ++ "/") tokens)).conclude := by
  refine Command.transparent_of_after (some (.start request.more desk.palette desk.outputs))
    (run_after h hparse hnone hload) ?_
  rw [Command.inquiries, parse_aimed h.isAddress hparse hnone]
  dsimp only
  rw [hload]
  rfl

/-- **Help is transparent to resolution.** -/
theorem InterfaceTarget.transparent_run {target : InterfaceTarget}
    (h : desk.session.Resolves target.interface t address service moment)
    (hparse : ofTokens tokens = .ok (.run target)) (hnone : target.address = none) :
    desk.session.Transparent target.interface address
      ⟨Method.describe, some (Exchange.interfaceParameters target.interface), false⟩
      (Command.help.run desk tokens).conclude
      (Command.help.run desk (Options.aimed (t ++ "/") tokens)).conclude := by
  refine Command.transparent_of_after none (run_after h hparse hnone) ?_
  rw [Command.inquiries, ofTokens_aimed h.isAddress hparse hnone]

namespace Invocation

/-- The same run, but with other tokens for its command. -/
def withTokens (invocation : Invocation) (tokens : List Text) : Invocation :=
  let own := (Split.ofCommandLine invocation.arguments).command.length
  { invocation with
    arguments := invocation.arguments.take (invocation.arguments.length - own) ++
      tokens.map Utf8.encode }

variable {invocation : Invocation}

theorem map_decodeLossy_encode (tokens : List Text) :
    (tokens.map Utf8.encode).map Utf8.decodeLossy = tokens := by
  simp [Function.comp_def, Utf8.decodeLossy_encode]

theorem split_withTokens (h : (Split.ofCommandLine invocation.arguments).command ≠ [])
    (others : List Text) :
    Split.ofCommandLine (invocation.withTokens others).arguments =
      { Split.ofCommandLine invocation.arguments with command := others } := by
  rw [withTokens]
  dsimp only
  cases harguments : invocation.arguments with
  | nil => rw [harguments] at h; exact absurd rfl h
  | cons program arguments =>
      rw [harguments] at h
      obtain ⟨front, rest, rfl, hfront⟩ := Split.exists_front h
      have hown : (Split.ofCommandLine (program :: (front ++ rest))).command.length =
          rest.length := by
        rw [Split.ofCommandLine, hfront rest]
        simp [Split.addFlag]
      have htake : (program :: (front ++ rest)).take
          ((program :: (front ++ rest)).length - rest.length) = program :: front := by
        rw [← List.cons_append, List.length_append, Nat.add_sub_cancel, List.take_left]
      rw [hown, htake, List.cons_append, Split.ofCommandLine, hfront, map_decodeLossy_encode]
      rfl

/-- A run with other tokens performs the same command on these, at the same desk. -/
theorem Performs.withTokens {command : Command} (h : invocation.Performs desk command tokens)
    (hne : tokens ≠ []) (others : List Text) :
    (invocation.withTokens others).Performs desk command others := by
  obtain @⟨flags, config, name, command, hflags, hcomplete, hname, hcommand, hconfig, hfilter⟩ := h
  have hsplit := split_withTokens hne others
  have hperforms : (invocation.withTokens others).Performs
      ((invocation.withTokens others).desk flags config) command
      (Split.ofCommandLine (invocation.withTokens others).arguments).command :=
    .intro (by rwa [hsplit]) hcomplete hname hcommand (by rwa [hsplit]) hfilter
  rwa [hsplit] at hperforms

/-- **Resolution is transparent.**  Where the resolver answers with an address, a run that performs
`call` or `help` without an address ends as the run with this address in front of the target, and
asks the resolver once before. -/
theorem run_resolved (h : desk.session.Resolves interface t address service moment) :
    (∀ tokens request parameters, invocation.Performs desk .call tokens →
      CallRequest.parse tokens = .ok (.run request) → request.target.address = none →
      request.target.interface = interface →
      ParameterSource.load request.parameters desk.stdin = .ok parameters →
      desk.session.Transparent interface address (request.call parameters) invocation.run
        (invocation.withTokens (Options.aimed (t ++ "/") tokens)).run) ∧
    (∀ tokens target, invocation.Performs desk .help tokens →
      InterfaceTarget.ofTokens tokens = .ok (.run target) → target.address = none →
      target.interface = interface →
      desk.session.Transparent interface address
        ⟨Method.describe, some (Exchange.interfaceParameters interface), false⟩ invocation.run
        (invocation.withTokens (Options.aimed (t ++ "/") tokens)).run) := by
  constructor
  · rintro tokens request parameters hperforms hparse hnone rfl hload
    have hne : tokens ≠ [] := by
      rintro rfl
      cases hparse
    rw [hperforms.run_eq, (hperforms.withTokens hne _).run_eq]
    exact CallRequest.transparent_run h hparse hnone hload
  · rintro tokens target hperforms hparse hnone rfl
    have hne : tokens ≠ [] := by
      rintro rfl
      cases hparse
    rw [hperforms.run_eq, (hperforms.withTokens hne _).run_eq]
    exact InterfaceTarget.transparent_run h hparse hnone

/-- A command on tokens that waits for replies at most five seconds, where the resolver says that
everything is at `unix:/s` and the service there hangs up after an empty object. -/
def withResolver (command : Command) (tokens : List Text) : Invocation where
  arguments := [Utf8.encode "varlink", Utf8.encode "--timeout", Utf8.encode "5",
    Utf8.encode command.name] ++ tokens.map Utf8.encode
  stdin := []
  terminal := false
  outputs := ⟨.empty none, .empty none⟩
  surroundings := ⟨[], []⟩
  world := ⟨fun address => .ok (.calm fun _ =>
    if address = Config.default.resolver then
      ⟨Connection.wire [Utf8.encode "\x7b\"parameters\":\x7b\"address\":\"unix:/s\"\x7d\x7d"],
        false⟩
    else ⟨Connection.wire [Utf8.encode "\x7b\x7d"], true⟩)⟩
  logs := true

/-- Its desk. -/
def resolverDesk : Desk :=
  (withResolver .call []).desk .none { Config.default with timeout := some 5 }

theorem split_withResolver (command : Command) (tokens : List Text) :
    Split.ofCommandLine (withResolver command tokens).arguments =
      ⟨[Utf8.encode "varlink", Utf8.encode "--timeout", Utf8.encode "5"],
        [Utf8.encode "varlink", Utf8.encode "--timeout", Utf8.encode "5",
          Utf8.encode command.name], tokens⟩ := by
  cases command <;> exact congrArg (Split.mk _ _) (map_decodeLossy_encode tokens)

theorem performs_withResolver (command : Command) (tokens : List Text) :
    (withResolver command tokens).Performs resolverDesk command tokens := by
  have hsplit := split_withResolver command tokens
  have hflags : Flags.read [Utf8.encode "--timeout", Utf8.encode "5", Utf8.encode command.name] =
      .ok { Flags.none with timeout := some 5, command := some command.name } := by
    cases command <;> decide +kernel
  have hname : Command.ofName? command.name = some command := by
    cases command <;> decide
  have hconfig : Config.load ⟨[], []⟩
      [Utf8.encode "varlink", Utf8.encode "--timeout", Utf8.encode "5"] =
        .ok { Config.default with timeout := some 5 } := by
    decide +kernel
  have hperforms : (withResolver command tokens).Performs resolverDesk command
      (Split.ofCommandLine (withResolver command tokens).arguments).command :=
    @Performs.intro _ { Flags.none with timeout := some 5, command := some command.name }
      { Config.default with timeout := some 5 } command.name command (by rwa [hsplit]) rfl rfl
      hname (by rwa [hsplit]) rfl
  rwa [hsplit] at hperforms

theorem withTokens_withResolver (command : Command) (tokens others : List Text) :
    (withResolver command tokens).withTokens others = withResolver command others := by
  rw [withTokens, split_withResolver]
  dsimp only
  rw [withResolver, List.length_append, List.length_map, Nat.add_sub_cancel, List.take_left]
  rfl

/-- A call that finds its service by the resolver and prints the reply, and a request for help
that finds it and fails on what it says. -/
theorem run_resolved_twice :
    let call := withResolver .call ["--more", "a.b.C"]
    let help := withResolver .help ["--", "a.b."]
    (call.run.exit = some 0 ∧ resolverDesk.session.Transparent "a.b" (.unix "/s")
      ⟨"a.b.C", none, true⟩ call.run (withResolver .call ["--more", "unix:/s/a.b.C"]).run) ∧
    (help.run.exit = some FailureKind.callFailed.code ∧ resolverDesk.session.Transparent "a.b" (.unix "/s")
      ⟨Method.describe, some (Exchange.interfaceParameters "a.b"), false⟩ help.run
      (withResolver .help ["--", "unix:/s/a.b."]).run) := by
  intro call help
  let resolver : Service := .calm fun _ =>
    ⟨Connection.wire [Utf8.encode "\x7b\"parameters\":\x7b\"address\":\"unix:/s\"\x7d\x7d"],
      false⟩
  have resolves : resolverDesk.session.Resolves "a.b" "unix:/s" (.unix "/s") resolver
      ⟨false, 0⟩ :=
    { other := by decide
      reachable := rfl
      answers := by decide +kernel
      isAddress := by decide
      turn := rfl
      calm := by decide }
  have hcall := (run_resolved resolves).1 _ ⟨true, ⟨none, "a.b", "C"⟩, none⟩ none
    (performs_withResolver .call ["--more", "a.b.C"]) (by decide) rfl rfl rfl
  have hhelp := (run_resolved resolves).2 _ ⟨none, "a.b"⟩
    (performs_withResolver .help ["--", "a.b."]) (by decide) rfl rfl
  rw [withTokens_withResolver] at hcall hhelp
  exact ⟨⟨by decide +kernel, hcall⟩, ⟨by decide +kernel, hhelp⟩⟩

end Invocation

end VarlinkClient
