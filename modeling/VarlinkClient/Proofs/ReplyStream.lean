/-
What one reply does to the stream of a call.

`Takes` lists what can become of a reply.  A stream keeps its state and its outcome side by
side, and `IsCoherent` says that the two agree; that a reply cannot part them is read off the
list, as is all else that holds whatever the outputs take.

As long as the outputs take everything they are known by the texts written to them so far,
and `handle_unlimited` gives the stream after a reply in these terms: what is printed for
it, what is complained about, and whether it is the last that is awaited.  Proofs about
calls use these and not the definition of the stream.
-/
import VarlinkClient.ReplyStream

namespace VarlinkClient

/-- Outputs that take everything, after these texts have been written to them. -/
def Outputs.unlimited (out err : Text) : Outputs :=
  ⟨⟨Utf8.encode out, none⟩, ⟨Utf8.encode err, none⟩⟩

@[simp] theorem Outputs.complain_unlimited (out err line : Text) :
    (Outputs.unlimited out err).complain line = .unlimited out (err ++ line ++ "\n") := by
  simp [unlimited, complain, Sink.note, Sink.writeLine, Sink.writeText, Sink.write]

namespace Reply

/-- The parameters of the reply are absent or an object. -/
def isPrintable (reply : Reply) : Bool :=
  match reply.parameters with
  | none | some (.object _) => true
  | some _ => false

/-- No reply is awaited after this one. -/
def isLast (more : Bool) (reply : Reply) : Bool :=
  reply.isError || !reply.isPrintable || !reply.continues || !more

/-- What is printed for a reply: its parameters and a line feed. -/
def printed (palette : Palette) (reply : Reply) : Text :=
  match Json.layoutParameters palette reply.parameters with
  | .ok t => t ++ "\n"
  | .error _ => []

/-- What is complained about a reply: that it is an error, and that it cannot be printed. -/
def complaint (reply : Reply) : Text :=
  (match reply.error with
    | some name => "Call failed with error: " ++ name ++ "\n"
    | none => []) ++
  (match Json.layoutParameters .plain reply.parameters with
    | .ok _ => []
    | .error reason => "Unable to read message: " ++ reason ++ "\n")

/-- What comes of a call of which this is the last reply. -/
def outcome (reply : Reply) : Outcome :=
  if reply.isPrintable then
    match reply.error with
    | some name => .remoteError name
    | none => .success
  else .localFailure .invalidJson

/-- Nothing is complained about a reply after which another is awaited. -/
theorem complaint_of_not_last {more : Bool} {reply : Reply} (h : reply.isLast more = false) :
    reply.complaint = [] := by
  obtain ⟨error, parameters, continues⟩ := reply
  cases error with
  | some name => simp [isLast, isError] at h
  | none =>
      match parameters with
      | none => rfl
      | some (.object members) => rfl
      | some .null | some (.bool _) | some (.number _) | some (.string _) | some (.array _) =>
          simp [isLast, isPrintable] at h

end Reply

namespace ReplyStream

/-! ### One reply -/

/-- What becomes of a reply: the stream after it, and what is said to it. -/
inductive Takes (stream : ReplyStream) (reply : Reply) : ReplyStream → ReplyState → Prop
  /-- The call was settled before. -/
  | ignored (h : stream.state = .done) : Takes stream reply stream .done
  /-- The reply cannot be printed. -/
  | unprinted {outputs : Outputs} {outcome : Outcome} (h : stream.state = .awaiting)
      (hprint : print stream.palette reply (tellError reply stream.outputs) =
        (outputs, some outcome)) :
      Takes stream reply { stream with outputs, state := .done, outcome := some outcome } .done
  /-- The reply is printed, and is the last. -/
  | last {outputs : Outputs} {outcome : Outcome} (h : stream.state = .awaiting)
      (hprint : print stream.palette reply (tellError reply stream.outputs) = (outputs, none))
      (hsettle : settle stream.more reply = some outcome) :
      Takes stream reply { stream with outputs, state := .done, outcome := some outcome } .done
  /-- The reply is printed, and another is awaited. -/
  | goesOn {outputs : Outputs} (h : stream.state = .awaiting)
      (hprint : print stream.palette reply (tellError reply stream.outputs) = (outputs, none))
      (hsettle : settle stream.more reply = none) :
      Takes stream reply { stream with outputs } .awaiting

theorem takes_handle (stream : ReplyStream) (reply : Reply) :
    Takes stream reply (stream.handle reply).1 (stream.handle reply).2 := by
  unfold handle
  cases hstate : stream.state with
  | done => exact .ignored hstate
  | awaiting =>
      rw [if_neg nofun]
      rcases hprint : print stream.palette reply (tellError reply stream.outputs) with
        ⟨outputs, _ | outcome⟩
      · dsimp only
        cases hsettle : settle stream.more reply with
        | none => exact hstate ▸ .goesOn hstate hprint hsettle
        | some outcome => exact .last hstate hprint hsettle
      · exact .unprinted hstate hprint

section Takes

variable {stream next : ReplyStream} {reply : Reply} {state : ReplyState}

/-- What is said to a reply is how the stream stands after it. -/
theorem Takes.state_eq (h : Takes stream reply next state) : next.state = state := by
  cases h with
  | ignored h => exact h
  | goesOn h _ _ => exact h
  | unprinted | last => rfl

/-- There is an outcome exactly when no other reply is awaited. -/
def IsCoherent (stream : ReplyStream) : Prop :=
  stream.outcome.isSome ↔ stream.state = .done

theorem isCoherent_start (more : Bool) (palette : Palette) (outputs : Outputs) :
    (start more palette outputs).IsCoherent := by
  simp [IsCoherent, start]

/-- **A reply does not part state and outcome.** -/
theorem Takes.isCoherent (h : Takes stream reply next state) (hstream : stream.IsCoherent) :
    next.IsCoherent := by
  cases h with
  | ignored h => exact hstream
  | goesOn h _ _ => exact hstream
  | unprinted | last => simp [IsCoherent]

theorem IsCoherent.handle (h : stream.IsCoherent) (reply : Reply) :
    (stream.handle reply).1.IsCoherent :=
  (takes_handle stream reply).isCoherent h

/-- A settled stream takes no notice of a reply. -/
theorem handle_settled (h : stream.state = .done) (reply : Reply) :
    stream.handle reply = (stream, .done) := by
  rw [handle, if_pos h, h]

end Takes

/-! ### Outputs that take everything -/

/-- The stream of a call that is not settled, after these texts have been written. -/
def unsettled (more : Bool) (palette : Palette) (out err : Text) : ReplyStream :=
  ⟨more, palette, .unlimited out err, .awaiting, none⟩

/-- The stream of a call that has come to this, after these texts have been written. -/
def settled (more : Bool) (palette : Palette) (out err : Text) (outcome : Outcome) :
    ReplyStream :=
  ⟨more, palette, .unlimited out err, .done, some outcome⟩

theorem tellError_unlimited (reply : Reply) (out err : Text) :
    tellError reply (.unlimited out err) = .unlimited out (err ++
      match reply.error with
      | some name => "Call failed with error: " ++ name ++ "\n"
      | none => []) := by
  unfold tellError
  cases reply.error with
  | none => simp
  | some name => simp

theorem print_unlimited (palette : Palette) (reply : Reply) (out err : Text) :
    print palette reply (.unlimited out err) =
      match Json.layoutParameters palette reply.parameters with
      | .ok t => (.unlimited (out ++ (t ++ "\n")) err, none)
      | .error reason => (.unlimited out (err ++ ("Unable to read message: " ++ reason ++ "\n")),
          some (.localFailure .invalidJson)) := by
  unfold print
  cases Json.layoutParameters palette reply.parameters with
  | error reason => simp
  | ok t => simp [Outputs.unlimited, Sink.writeLine, Sink.writeText, Sink.write]

/-- **What one reply does while the outputs take everything.** -/
theorem handle_unlimited (more : Bool) (palette : Palette) (out err : Text) (reply : Reply) :
    (unsettled more palette out err).handle reply =
      if reply.isLast more then
        (settled more palette (out ++ reply.printed palette) (err ++ reply.complaint)
          reply.outcome, .done)
      else
        (unsettled more palette (out ++ reply.printed palette) (err ++ reply.complaint),
          .awaiting) := by
  unfold handle
  simp only [unsettled, settled, tellError_unlimited, print_unlimited]
  obtain ⟨error, parameters, continues⟩ := reply
  match parameters with
  | none | some (.object _) =>
      cases error with
      | some name =>
          simp [Json.layoutParameters, Reply.printed, Reply.complaint, Reply.isLast,
            Reply.isPrintable, Reply.isError, Reply.outcome, settle, finish]
      | none =>
          cases continues <;> cases more <;>
            simp [Json.layoutParameters, Reply.printed, Reply.complaint, Reply.isLast,
              Reply.isPrintable, Reply.isError, Reply.outcome, settle, finish]
  | some .null | some (.bool _) | some (.number _) | some (.string _) | some (.array _) =>
      simp [Json.layoutParameters, Reply.printed, Reply.complaint, Reply.isLast,
        Reply.isPrintable, Reply.isError, Reply.outcome, finish]

/-- While another reply is awaited the stream stays as it is, but for what is printed. -/
theorem handle_not_last {more : Bool} {reply : Reply} (h : reply.isLast more = false)
    (palette : Palette) (out err : Text) :
    (unsettled more palette out err).handle reply =
      (unsettled more palette (out ++ reply.printed palette) err, .awaiting) := by
  rw [handle_unlimited, Reply.complaint_of_not_last h, List.append_nil]
  exact if_neg (by simp [h])

/-- With the last reply the call is settled. -/
theorem handle_last {more : Bool} {reply : Reply} (h : reply.isLast more = true)
    (palette : Palette) (out err : Text) :
    (unsettled more palette out err).handle reply =
      (settled more palette (out ++ reply.printed palette) (err ++ reply.complaint)
        reply.outcome, .done) := by
  rw [handle_unlimited, if_pos h]

end ReplyStream

end VarlinkClient
