/-
A stream whose output fills up.

What a stream does on an output with little room is what it does on one that takes
everything, cut off where the room ends: `within` makes of the second stream the first, and
`handle_within` says that a reply keeps the two in step as long as everything has fitted.
The reply that does not fit settles the short stream, so from there on only the other goes
on; `exists_overflow` finds that reply.
-/
import VarlinkClient.Proofs.ReplyStream.Settling

namespace VarlinkClient

/-- The output as it is when it takes only so many bytes. -/
def Sink.within (room : Nat) (sink : Sink) : Sink :=
  ⟨sink.written.take room, some (room - sink.written.length)⟩

/-- Everything that was written is within the room. -/
def Sink.Fits (room : Nat) (sink : Sink) : Prop :=
  sink.written.length ≤ room

instance (room : Nat) (sink : Sink) : Decidable (sink.Fits room) :=
  inferInstanceAs (Decidable (_ ≤ _))

theorem Sink.write_unlimited {sink : Sink} (h : sink.room = none) (bytes : Bytes) :
    sink.write bytes = (⟨sink.written ++ bytes, none⟩, true) := by
  rw [write, h]

/-- A write that fits is the same with little room; of one that does not fit, as much is written
as there is room for. -/
theorem Sink.write_within {room : Nat} {sink : Sink} (hfits : sink.Fits room) (bytes : Bytes) :
    (sink.within room).write bytes =
      ((⟨sink.written ++ bytes, none⟩ : Sink).within room,
        decide ((⟨sink.written ++ bytes, none⟩ : Sink).Fits room)) := by
  have hwritten : sink.written.take room = sink.written := List.take_of_length_le hfits
  have hlength : sink.written.length ≤ room := hfits
  by_cases hbytes : bytes.length ≤ room - sink.written.length
  · have htake : (sink.written ++ bytes).take room = sink.written ++ bytes :=
      List.take_of_length_le (by rw [List.length_append]; omega)
    have hall : sink.written.length + bytes.length ≤ room := by omega
    simp [within, write, Fits, hwritten, htake, hbytes, hall, Nat.sub_sub]
  · have hover : ¬ sink.written.length + bytes.length ≤ room := by omega
    have hnone : room - (sink.written.length + bytes.length) = 0 := by omega
    simp [within, write, Fits, hwritten, hbytes, hover, hnone, List.take_append]

/-- The outputs as they are when the one for results takes only so many bytes. -/
def Outputs.within (room : Nat) (outputs : Outputs) : Outputs :=
  { outputs with stdout := outputs.stdout.within room }

namespace ReplyStream

/-- The stream takes all that is printed. -/
def Unlimited (stream : ReplyStream) : Prop :=
  stream.outputs.stdout.room = none

/-- Everything that was printed is within the room. -/
def Fits (room : Nat) (stream : ReplyStream) : Prop :=
  stream.outputs.stdout.Fits room

instance (room : Nat) (stream : ReplyStream) : Decidable (stream.Fits room) :=
  inferInstanceAs (Decidable (stream.outputs.stdout.Fits room))

/-- The stream as it is when its output takes only so many bytes: the reply that did not fit has
settled it. -/
def within (room : Nat) (stream : ReplyStream) : ReplyStream :=
  { stream with
    outputs := stream.outputs.within room
    state := if stream.Fits room then stream.state else .done
    outcome := if stream.Fits room then stream.outcome else some (.localFailure .callFailed) }

/-! ### One reply -/

theorem tellError_stdout (reply : Reply) (outputs : Outputs) :
    (tellError reply outputs).stdout = outputs.stdout := by
  unfold tellError
  split <;> rfl

theorem tellError_within (room : Nat) (reply : Reply) (outputs : Outputs) :
    tellError reply (outputs.within room) = (tellError reply outputs).within room := by
  unfold tellError
  split <;> rfl

/-- Where a reply does not fit, that is the failure. -/
theorem print_within {room : Nat} {palette : Palette} {reply : Reply} {outputs after : Outputs}
    {found : Option Outcome} (hroom : outputs.stdout.room = none)
    (hfits : outputs.stdout.Fits room) (hprint : print palette reply outputs = (after, found)) :
    print palette reply (outputs.within room) =
      (after.within room,
        if after.stdout.Fits room then found else some (.localFailure .callFailed)) := by
  unfold print at hprint ⊢
  cases hlayout : Json.layoutParameters palette reply.parameters with
  | error reason =>
      rw [hlayout] at hprint
      cases hprint
      exact congrArg (Prod.mk _) (if_pos hfits).symm
  | ok t =>
      rw [hlayout] at hprint
      dsimp only at hprint ⊢
      have hfree := Sink.write_unlimited hroom (Utf8.encode (t ++ "\n"))
      have hcut := Sink.write_within hfits (Utf8.encode (t ++ "\n"))
      generalize (⟨outputs.stdout.written ++ Utf8.encode (t ++ "\n"), none⟩ : Sink) = stdout
        at hfree hcut
      rw [Sink.writeLine, Sink.writeText, hfree] at hprint
      cases hprint
      rw [Sink.writeLine, Sink.writeText, Outputs.within, hcut]
      by_cases hstill : stdout.Fits room
      · simp [hstill, Outputs.within]
      · simp [hstill, Outputs.within]

theorem exists_print_stdout {outputs : Outputs} (hroom : outputs.stdout.room = none)
    (palette : Palette) (reply : Reply) :
    ∃ bytes, (print palette reply outputs).1.stdout = ⟨outputs.stdout.written ++ bytes, none⟩ := by
  obtain ⟨⟨written, _⟩, stderr⟩ := outputs
  cases hroom
  unfold print
  cases Json.layoutParameters palette reply.parameters with
  | error reason => exact ⟨[], by simp [Outputs.complain]⟩
  | ok t => exact ⟨Utf8.encode (t ++ "\n"), rfl⟩

/-- What was printed stays. -/
theorem Takes.exists_stdout {stream next : ReplyStream} {reply : Reply} {state : ReplyState}
    (h : Takes stream reply next state) (hstream : stream.Unlimited) :
    ∃ bytes, next.outputs.stdout = ⟨stream.outputs.stdout.written ++ bytes, none⟩ := by
  have hroom : (tellError reply stream.outputs).stdout.room = none := by
    rw [tellError_stdout]
    exact hstream
  obtain ⟨bytes, hbytes⟩ := exists_print_stdout hroom stream.palette reply
  rw [tellError_stdout] at hbytes
  cases h with
  | ignored _ =>
      have hroom : stream.outputs.stdout.room = none := hstream
      exact ⟨[], by rw [List.append_nil, ← hroom]⟩
  | unprinted _ hprint | last _ hprint _ | goesOn _ hprint _ =>
      rw [hprint] at hbytes
      exact ⟨bytes, hbytes⟩

theorem exists_handle_stdout {stream : ReplyStream} (h : stream.Unlimited) (reply : Reply) :
    ∃ bytes, (stream.handle reply).1.outputs.stdout =
      ⟨stream.outputs.stdout.written ++ bytes, none⟩ :=
  (takes_handle stream reply).exists_stdout h

theorem Unlimited.handle {stream : ReplyStream} (h : stream.Unlimited) (reply : Reply) :
    (stream.handle reply).1.Unlimited := by
  obtain ⟨bytes, hbytes⟩ := exists_handle_stdout h reply
  rw [Unlimited, hbytes]

/-- **A reply keeps the streams in step** as long as everything has fitted before it. -/
theorem handle_within {room : Nat} {stream : ReplyStream} (h : stream.Unlimited)
    (hfits : stream.Fits room) (reply : Reply) :
    (stream.within room).handle reply =
      ((stream.handle reply).1.within room, ((stream.handle reply).1.within room).state) := by
  have hsame : (stream.within room).state = stream.state := if_pos hfits
  cases hstate : stream.state with
  | done => rw [handle_settled (hsame.trans hstate), handle_settled hstate, hsame, hstate]
  | awaiting =>
      have hroom : (tellError reply stream.outputs).stdout.room = none := by
        rw [tellError_stdout]
        exact h
      have htold : (tellError reply stream.outputs).stdout.Fits room := by
        rw [tellError_stdout]
        exact hfits
      rcases hprint : print stream.palette reply (tellError reply stream.outputs) with
        ⟨outputs, found⟩
      -- The complaint goes to the other output and takes no room from the reply.
      have hcut := print_within hroom htold hprint
      rw [← tellError_within] at hcut
      have hcut : print (stream.within room).palette reply
          (tellError reply (stream.within room).outputs) = _ := hcut
      have hmore : (stream.within room).more = stream.more := rfl
      rw [handle, handle, if_neg (by simp [hsame, hstate]), if_neg (by simp [hstate])]
      rw [hprint, hcut, hmore]
      by_cases hstill : outputs.stdout.Fits room
      · rw [if_pos hstill]
        cases found with
        | some outcome => simp [finish, within, Fits, hstill]
        | none =>
            dsimp only
            have hstream : stream.outputs.stdout.Fits room := hfits
            cases settle stream.more reply <;>
              simp [finish, within, Fits, hstill, hstate, hstream]
      · rw [if_neg hstill]
        cases found with
        | some outcome => simp [finish, within, Fits, hstill]
        | none =>
            dsimp only
            cases settle stream.more reply <;> simp [finish, within, Fits, hstill]

/-! ### Many replies -/

theorem Unlimited.feed {stream : ReplyStream} (h : stream.Unlimited) (replies : List Reply) :
    (stream.feed replies).1.Unlimited := by
  induction replies generalizing stream with
  | nil => exact h
  | cons reply replies ih => exact ih (h.handle reply)

theorem exists_feed_written {stream : ReplyStream} (h : stream.Unlimited) (replies : List Reply) :
    ∃ bytes, (stream.feed replies).1.outputs.stdout.written =
      stream.outputs.stdout.written ++ bytes := by
  induction replies generalizing stream with
  | nil => exact ⟨[], (List.append_nil _).symm⟩
  | cons reply replies ih =>
      obtain ⟨first, hfirst⟩ := exists_handle_stdout h reply
      obtain ⟨others, hothers⟩ := ih (h.handle reply)
      exact ⟨first ++ others, by rw [feed_cons, hothers, hfirst, List.append_assoc]⟩

/-- What fits in the end has fitted all along. -/
theorem fits_of_feed {room : Nat} {stream : ReplyStream} (h : stream.Unlimited)
    {replies : List Reply} (hfits : (stream.feed replies).1.Fits room) : stream.Fits room := by
  obtain ⟨bytes, hbytes⟩ := exists_feed_written h replies
  rw [Fits, Sink.Fits, hbytes, List.length_append] at hfits
  exact Nat.le_of_add_right_le hfits

/-- As long as everything fits, little room makes no difference. -/
theorem feed_within {room : Nat} {stream : ReplyStream} (h : stream.Unlimited)
    {replies : List Reply} (hfits : (stream.feed replies).1.Fits room) :
    (stream.within room).feed replies =
      ((stream.feed replies).1.within room, (stream.feed replies).2) := by
  induction replies generalizing stream with
  | nil => rfl
  | cons reply replies ih =>
      have hnext : (stream.handle reply).1.Fits room := fits_of_feed (h.handle reply) hfits
      have hstate : ((stream.handle reply).1.within room).state = (stream.handle reply).2 :=
        (if_pos hnext).trans (takes_handle stream reply).state_eq
      rw [feed_cons, feed_cons, handle_within h (fits_of_feed h hfits), hstate]
      dsimp only
      rw [ih (h.handle reply) hfits]

/-- Where not everything fits there is a first reply that does not. -/
theorem exists_overflow {room : Nat} {stream : ReplyStream} (hfits : stream.Fits room)
    {replies : List Reply} (hover : ¬ (stream.feed replies).1.Fits room) :
    ∃ before reply later, replies = before ++ reply :: later ∧
      (stream.feed before).1.Fits room ∧ ¬ (stream.feed (before ++ [reply])).1.Fits room := by
  induction replies generalizing stream with
  | nil => exact absurd hfits hover
  | cons reply replies ih =>
      by_cases hnext : (stream.handle reply).1.Fits room
      · obtain ⟨before, cut, later, rfl, hbefore, hcut⟩ := ih hnext hover
        exact ⟨reply :: before, cut, later, rfl, hbefore, hcut⟩
      · exact ⟨[], reply, replies, rfl, hfits, hnext⟩

/-- The reply that does not fit settles the stream, whatever follows. -/
theorem feed_overflow {room : Nat} {stream : ReplyStream} (h : stream.Unlimited)
    {before : List Reply} {reply : Reply} (hbefore : (stream.feed before).1.Fits room)
    (hover : ¬ (stream.feed (before ++ [reply])).1.Fits room) (later : List Reply) :
    (stream.within room).feed (before ++ reply :: later) =
      ((stream.feed (before ++ [reply])).1.within room,
        (stream.feed before).2 ++ List.replicate (later.length + 1) .done) := by
  have hlast : (stream.feed (before ++ [reply])).1 = ((stream.feed before).1.handle reply).1 := by
    rw [feed_append]
    rfl
  rw [hlast] at hover ⊢
  have hdone : (((stream.feed before).1.handle reply).1.within room).state = .done :=
    if_neg hover
  rw [feed_append, feed_within h hbefore]
  dsimp only
  rw [feed_cons, handle_within (h.feed before) hbefore]
  dsimp only
  rw [feed_settled hdone, hdone, List.replicate_succ]

/-- A new stream with little room is a new stream cut off. -/
theorem start_within (more : Bool) (palette : Palette) (stderr : Sink) (room : Nat) :
    start more palette ⟨.empty (some room), stderr⟩ =
      (start more palette ⟨.empty none, stderr⟩).within room := by
  simp [start, within, Fits, Outputs.within, Sink.within, Sink.Fits, Sink.empty]

/-- **A full output cuts off and does not corrupt.**  If all that is printed fits, the limit makes
no difference.  If not, as much is printed as fits; the first reply that does not fit settles the
call as failed, whatever it says, with the complaints up to it; and later ones are ignored. -/
theorem feed_limited (more : Bool) (palette : Palette) (stderr : Sink) (replies : List Reply)
    (room : Nat) :
    let free := ReplyStream.start more palette ⟨.empty none, stderr⟩
    let short := ReplyStream.start more palette ⟨.empty (some room), stderr⟩
    let all := free.feed replies
    let fed := short.feed replies
    let printed := all.1.outputs.stdout.written
    (printed.length ≤ room →
      fed.2 = all.2 ∧ fed.1.outcome = all.1.outcome ∧ fed.1.outputs.stdout.written = printed ∧
        fed.1.outputs.stderr = all.1.outputs.stderr) ∧
    (room < printed.length →
      fed.1.outputs.stdout.written = printed.take room ∧
      ∃ before reply later, replies = before ++ reply :: later ∧
        (free.feed before).1.outputs.stdout.written.length ≤ room ∧
        room < (free.feed (before ++ [reply])).1.outputs.stdout.written.length ∧
        fed.2 = (free.feed before).2 ++ List.replicate (later.length + 1) .done ∧
        fed.1 = (short.feed (before ++ [reply])).1 ∧
        fed.1.outcome = some (.localFailure .callFailed) ∧
        fed.1.outputs.stderr = (free.feed (before ++ [reply])).1.outputs.stderr) := by
  intro free short all fed printed
  have hfree : free.Unlimited := rfl
  have hstart : free.Fits room := Nat.zero_le room
  have hshort : short = free.within room := start_within more palette stderr room
  constructor
  · intro hfits
    have hfed : fed = (all.1.within room, all.2) := by
      rw [← feed_within hfree hfits, ← hshort]
    have hsame : (all.1.within room).outcome = all.1.outcome := if_pos hfits
    rw [hfed]
    exact ⟨rfl, hsame, List.take_of_length_le hfits, rfl⟩
  · intro hover
    obtain ⟨before, reply, later, rfl, hbefore, hcut⟩ :=
      exists_overflow hstart (Nat.not_le_of_lt hover)
    have hfed : fed = ((free.feed (before ++ [reply])).1.within room,
        (free.feed before).2 ++ List.replicate (later.length + 1) .done) := by
      rw [← feed_overflow hfree hbefore hcut later, ← hshort]
    have hshortly : (short.feed (before ++ [reply])).1 =
        (free.feed (before ++ [reply])).1.within room := by
      rw [hshort, feed_overflow hfree hbefore hcut []]
    -- What the later replies print is all beyond the cut.
    obtain ⟨bytes, hbytes⟩ := exists_feed_written (hfree.feed (before ++ [reply])) later
    have hprinted : printed = (free.feed (before ++ [reply])).1.outputs.stdout.written ++ bytes := by
      rw [← hbytes]
      show (free.feed (before ++ reply :: later)).1.outputs.stdout.written = _
      rw [List.append_cons, feed_append]
    have hlength := Nat.lt_of_not_le hcut
    refine ⟨?_, before, reply, later, rfl, hbefore, hlength, ?_, ?_, ?_, ?_⟩
    · rw [hfed, hprinted, List.take_append_of_le_length (Nat.le_of_lt hlength)]
      rfl
    · rw [hfed]
    · rw [hfed, hshortly]
    · rw [hfed]
      exact if_neg hcut
    · rw [hfed]
      rfl

/-- The second reply is an error of which one byte fits.  Its name is told, but what comes of the
call is that it has failed on this side. -/
theorem feed_limited_error :
    let replies : List Reply := [⟨none, none, true⟩, ⟨some "E", none, true⟩, ⟨none, none, true⟩]
    let stream (room : Option Nat) := ReplyStream.start true .plain ⟨.empty room, .empty none⟩
    let all := (stream none).feed replies
    let fed := (stream (some 4)).feed replies
    4 < all.1.outputs.stdout.written.length ∧ all.1.outcome = some (.remoteError "E") ∧
      fed.1.outputs.stdout.written = Utf8.encode "\x7b\x7d\n\x7b" ∧
      fed.1.outcome = some (.localFailure .callFailed) ∧
      fed.1.outputs.stderr.written = Utf8.encode "Call failed with error: E\n" := by
  intro replies stream all fed
  have hover : 4 < all.1.outputs.stdout.written.length := by decide
  obtain ⟨hwritten, -, -, -, -, -, -, -, -, houtcome, -⟩ :=
    (feed_limited true .plain (.empty none) replies 4).2 hover
  have hcut : all.1.outputs.stdout.written.take 4 = Utf8.encode "\x7b\x7d\n\x7b" := by decide
  exact ⟨hover, by decide, hwritten.trans hcut, houtcome, by decide⟩

end ReplyStream

end VarlinkClient
