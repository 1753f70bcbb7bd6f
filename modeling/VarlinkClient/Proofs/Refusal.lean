/-
What a call does that is refused.

The tokens are read first and the parameters second, and a call that fails at either has not
gone any further: it visits no service, prints nothing, and says in one line what is wrong.
That this is one line needs an argument where the line quotes a reason: the reason of a fault in
the parameters holds no text of the user's (`Json.meets_read`), and all wordings are free of
control characters.

Which bytes stand on the standard input makes no difference, unless the parameters are to be read
from there.
-/
import VarlinkClient.Proofs.Interruption
import VarlinkClient.Proofs.Json.Grammar
import VarlinkClient.Proofs.Json.Layout

namespace VarlinkClient

/-! ### Wordings -/

theorem Json.Cause.isClean_text {cause : Cause} (h : cause.IsSyntactic) : IsClean cause.text := by
  cases cause with
  | mistyped found expected => exact h.elim
  | duplicateField name => exact h.elim
  | _ => decide

theorem Json.Fault.isClean_message {fault : Fault} (h : fault.cause.IsSyntactic) (input : Bytes) :
    IsClean (fault.message input) := by
  have hline : IsClean (" at line " : Text) := by decide
  have hcolumn : IsClean (" column " : Text) := by decide
  have hcause : IsClean fault.cause.text := Cause.isClean_text h
  exact (((hcause.append hline).append (isClean_ofNat _)).append hcolumn).append (isClean_ofNat _)

theorem Json.isClean_of_parse {t reason : Text} (h : parse t = .error reason) :
    IsClean reason := by
  unfold parse at h
  dsimp only at h
  split at h
  · cases h
  · rename_i fault hread
    cases h
    have hfault := meets_read (Utf8.encode t)
    rw [hread] at hfault
    exact Fault.isClean_message hfault _

theorem Command.isClean_reminder (command : Command) (error : ArgumentError) :
    Json.IsClean (command.reminder error) := by
  have hwants : Json.IsClean command.wants := by cases command <;> decide
  unfold reminder
  split
  · decide
  · exact Json.IsClean.append (by decide) hwants
  · exact Json.IsClean.append (by decide) hwants

/-! ### Parameters -/

namespace ParameterSource

/-- The failures of parameters that are refused. -/
inductive Rejects : Failure → Prop
  | unreadable {reason : Text} (h : Json.IsClean reason) : Rejects (.unreadableParameters reason)
  | malformed {reason : Text} (h : Json.IsClean reason) : Rejects (.malformedParameters reason)
  | notObject : Rejects .parametersNotObject

theorem rejects_parse {t : Text} {failure : Failure} (h : parse t = .error failure) :
    Rejects failure := by
  unfold parse at h
  split at h
  · cases h
  split at h
  · cases h
  · cases h
    exact .notObject
  · rename_i reason hparse
    cases h
    exact .malformed (Json.isClean_of_parse hparse)

theorem rejects_load {source : Option ParameterSource} {stdin : Bytes} {failure : Failure}
    (h : load source stdin = .error failure) : Rejects failure := by
  unfold load take at h
  split at h
  · cases h
  · exact rejects_parse h
  · split at h
    · exact rejects_parse h
    · cases h
      exact .unreadable (by decide)

/-- Parameters that are not read from the standard input do not depend on it, and leave it as it
is. -/
theorem take_of_ne_stdin {source : Option ParameterSource} (h : source ≠ some .stdin)
    (stdin other : Bytes) : take source stdin = (load source other, stdin) := by
  cases source with
  | none => rfl
  | some source =>
      cases source with
      | text t => rfl
      | stdin => exact absurd rfl h

theorem Rejects.kind_eq {failure : Failure} (h : Rejects failure) :
    failure.kind = .invalidJson := by
  cases h <;> rfl

theorem Rejects.isClean_message {failure : Failure} (h : Rejects failure) :
    Json.IsClean failure.message := by
  cases h with
  | unreadable h => exact Json.IsClean.append (by decide) h
  | malformed h => exact Json.IsClean.append (by decide) h
  | notObject => decide

/-- The failure is told when the run is concluded. -/
theorem Rejects.conclude_fail {failure : Failure} (h : Rejects failure) (outputs : Outputs)
    (visits : List Visit) : (Run.fail failure outputs visits).conclude =
      ⟨some failure.kind.code, outputs.complain failure.message, visits⟩ := by
  cases h <;> rfl

end ParameterSource

/-! ### Calls -/

namespace CallRequest

/-- The tokens of `call` are refused, or the parameters they ask for; the class of the error, and
the line about it. -/
inductive Refused (tokens : List Text) (stdin : Bytes) : FailureKind → Text → Prop
  | tokens {error : ArgumentError} (h : parse tokens = .error error) :
      Refused tokens stdin error.kind (Command.call.reminder error)
  | parameters {request : CallRequest} {failure : Failure}
      (h : parse tokens = .ok (.run request))
      (hload : ParameterSource.load request.parameters stdin = .error failure) :
      Refused tokens stdin failure.kind failure.message

/-- The tokens ask for parameters from the standard input. -/
def SelectsStdin (tokens : List Text) : Prop :=
  ∃ request, parse tokens = .ok (.run request) ∧ request.parameters = some .stdin

variable {desk : Desk} {tokens : List Text} {stdin : Bytes} {kind : FailureKind} {line : Text}

theorem Refused.code_mem (h : Refused tokens stdin kind line) : kind.code ∈ [5, 6, 7] := by
  cases h with
  | @tokens error h => cases error <;> simp [ArgumentError.kind, FailureKind.code]
  | parameters h hload =>
      rw [(ParameterSource.rejects_load hload).kind_eq]
      simp [FailureKind.code]

theorem Refused.isClean (h : Refused tokens stdin kind line) : Json.IsClean line := by
  cases h with
  | tokens h => exact Command.call.isClean_reminder _
  | parameters h hload => exact (ParameterSource.rejects_load hload).isClean_message

theorem Refused.of_not_selectsStdin (h : Refused tokens stdin kind line)
    (hselects : ¬ SelectsStdin tokens) (other : Bytes) : Refused tokens other kind line := by
  cases h with
  | tokens h => exact .tokens h
  | @parameters request failure h hload =>
      have hne : request.parameters ≠ some .stdin := fun heq => hselects ⟨request, h, heq⟩
      have hsame : ParameterSource.load request.parameters stdin = _ :=
        congrArg Prod.fst (ParameterSource.take_of_ne_stdin hne stdin other)
      exact .parameters h (hsame.symm.trans hload)

/-- Unless parameters are to be read from there, all of the standard input is left. -/
theorem runOn_rest (hselects : ¬ SelectsStdin tokens) (desk : Desk) :
    (runOn desk tokens).2 = desk.stdin := by
  unfold runOn
  split
  · rfl
  · rfl
  · rename_i request hparse
    have hne : request.parameters ≠ some .stdin := fun heq => hselects ⟨request, hparse, heq⟩
    rw [ParameterSource.take_of_ne_stdin hne desk.stdin []]
    cases ParameterSource.load request.parameters [] <;> rfl

theorem consumed_eq_zero (hselects : ¬ SelectsStdin tokens) (desk : Desk) :
    consumed desk tokens = 0 := by
  rw [consumed, runOn_rest hselects, Nat.sub_self]

/-- How a call ends that is refused. -/
theorem Refused.conclude_run (h : Refused tokens desk.stdin kind line) :
    (run desk tokens).conclude = ⟨some kind.code, desk.outputs.complain line, []⟩ := by
  cases h with
  | tokens h =>
      rw [run, runOn, h]
      rfl
  | parameters h hload =>
      rw [run_of_parse h, hload]
      exact (ParameterSource.rejects_load hload).conclude_fail desk.outputs []

/-- **A call that is refused has no effect** but one line of complaint and the exit status. -/
theorem run_refused (h : Refused tokens desk.stdin kind line) :
    let ending := (Command.call.run desk tokens).conclude
    ending.exit = some kind.code ∧ kind.code ∈ [5, 6, 7] ∧ ending.visits = [] ∧
      ending.outputs.stdout = desk.outputs.stdout ∧
      ending.outputs.stderr = desk.outputs.stderr.note line ∧ '\n' ∉ line ∧
      (¬ SelectsStdin tokens → consumed desk tokens = 0 ∧ ∀ other,
        (Command.call.run { desk with stdin := other } tokens).conclude = ending) ∧
      ∀ invocation : Invocation, invocation.Performs desk .call tokens →
        invocation.run = ending := by
  intro ending
  have hending : ending = ⟨some kind.code, desk.outputs.complain line, []⟩ := h.conclude_run
  refine ⟨by rw [hending], h.code_mem, by rw [hending], by rw [hending]; rfl, by rw [hending]; rfl,
    h.isClean.notMem (by decide), ?_, fun invocation hperforms => hperforms.run_eq⟩
  intro hselects
  refine ⟨consumed_eq_zero hselects desk, fun other => ?_⟩
  rw [hending]
  have hother : Refused tokens { desk with stdin := other }.stdin kind line :=
    h.of_not_selectsStdin hselects other
  exact hother.conclude_run

/-- Parameters of which only the brace is JSON. -/
theorem run_refused_malformed :
    let desk : Desk := ⟨⟨⟨fun _ => .ok Invocation.silent⟩, Config.default.resolver, none⟩,
      .ofBool false, [], ⟨.empty none, .empty none⟩⟩
    let tokens : List Text := ["org.example.ping.Ping", "\x7bnope"]
    let line : Text := "Unable to parse input parameters, must be valid JSON: " ++
      "key must be a string at line 1 column 2"
    Refused tokens desk.stdin .invalidJson line ∧
      (Command.call.run desk tokens).conclude.exit = some 7 := by
  intro desk tokens line
  let request : CallRequest := ⟨false, ⟨none, "org.example.ping", "Ping"⟩, some (.text "\x7bnope")⟩
  have hparse : parse tokens = .ok (.run request) := rfl
  have hload : ParameterSource.load request.parameters desk.stdin =
      .error (.malformedParameters "key must be a string at line 1 column 2") := rfl
  have hrefused : Refused tokens desk.stdin .invalidJson line := .parameters hparse hload
  exact ⟨hrefused, (run_refused hrefused).1⟩

end CallRequest

end VarlinkClient
