/-
A stream that is fed replies.

The stream settles on the first reply that is the last to be awaited.  Until then every
reply is printed and another is awaited; from then on nothing changes any more.  So a feed
is followed in two steps, `feed_not_last` as far as that reply and `feed_settled` from there
on.  All along state and outcome agree, as no reply parts them (`IsCoherent.feed`).
-/
import VarlinkClient.Proofs.ReplyStream

namespace VarlinkClient.ReplyStream

/-- Takes replies one after another.  Beside the stream after the last, what was said to each. -/
def feed (stream : ReplyStream) : List Reply → ReplyStream × List ReplyState
  | [] => (stream, [])
  | reply :: replies =>
    let (next, state) := stream.handle reply
    let (last, states) := feed next replies
    (last, state :: states)

@[simp] theorem feed_nil (stream : ReplyStream) : stream.feed [] = (stream, []) := rfl

theorem feed_cons (stream : ReplyStream) (reply : Reply) (replies : List Reply) :
    stream.feed (reply :: replies) =
      (((stream.handle reply).1.feed replies).1,
        (stream.handle reply).2 :: ((stream.handle reply).1.feed replies).2) := rfl

/-- What is fed in two parts is fed one part after the other. -/
theorem feed_append (stream : ReplyStream) (before later : List Reply) :
    stream.feed (before ++ later) =
      (((stream.feed before).1.feed later).1,
        (stream.feed before).2 ++ ((stream.feed before).1.feed later).2) := by
  induction before generalizing stream with
  | nil => rfl
  | cons reply before ih => simp only [List.cons_append, feed_cons, ih]

/-- What was said last is how the stream stands. -/
theorem getLastD_feed (stream : ReplyStream) (replies : List Reply) :
    (stream.feed replies).2.getLastD stream.state = (stream.feed replies).1.state := by
  induction replies generalizing stream with
  | nil => rfl
  | cons reply replies ih =>
      rw [feed_cons, List.getLastD_cons, ← (takes_handle stream reply).state_eq, ih]

/-- **State and outcome agree after any replies.** -/
theorem IsCoherent.feed {stream : ReplyStream} (h : stream.IsCoherent) (replies : List Reply) :
    (stream.feed replies).1.IsCoherent := by
  induction replies generalizing stream with
  | nil => exact h
  | cons reply replies ih => exact ih (h.handle reply)

theorem feed_settled {stream : ReplyStream} (h : stream.state = .done) (replies : List Reply) :
    stream.feed replies = (stream, List.replicate replies.length .done) := by
  induction replies with
  | nil => rfl
  | cons reply replies ih =>
      rw [feed_cons, handle_settled h, ih, List.length_cons, List.replicate_succ]

/-! ### Feeds that are not limited -/

variable {more : Bool}

/-- Replies that are not the last are printed, and more are awaited. -/
theorem feed_not_last (palette : Palette) (err : Text) {replies : List Reply}
    (h : ∀ reply ∈ replies, reply.isLast more = false) (out : Text) :
    (unsettled more palette out err).feed replies =
      (unsettled more palette (out ++ replies.flatMap (·.printed palette)) err,
        List.replicate replies.length .awaiting) := by
  induction replies generalizing out with
  | nil => simp
  | cons reply replies ih =>
      have hhandle := handle_not_last (h reply List.mem_cons_self) palette out err
      rw [feed, hhandle]
      dsimp only
      rw [ih fun r hr => h r (List.mem_cons_of_mem _ hr)]
      simp [List.replicate_succ]

/-- The last reply settles the stream, whatever follows. -/
theorem feed_last (palette : Palette) (out err : Text) {before : List Reply}
    (hbefore : ∀ r ∈ before, r.isLast more = false) {reply : Reply}
    (hlast : reply.isLast more = true) (later : List Reply) :
    (unsettled more palette out err).feed (before ++ reply :: later) =
      (settled more palette (out ++ (before ++ [reply]).flatMap (·.printed palette))
          (err ++ reply.complaint) reply.outcome,
        List.replicate before.length .awaiting ++ List.replicate (later.length + 1) .done) := by
  rw [feed_append, feed_not_last palette err hbefore]
  dsimp only
  rw [feed, handle_last hlast]
  dsimp only
  rw [feed_settled rfl]
  simp [List.replicate_succ]

/-- **A stream settles once, on the first reply that is the last to be awaited.**  Outputs,
outcome and what is said to each reply are those of the replies up to it; what has been settled
stays. -/
theorem feed_start (more : Bool) (palette : Palette) (out err : Text) (replies : List Reply) :
    let start := ReplyStream.start more palette (.unlimited out err)
    let fed := start.feed replies
    (∀ before reply later, replies = before ++ reply :: later →
      (∀ r ∈ before, r.isLast more = false) → reply.isLast more = true →
      fed.2 = List.replicate before.length .awaiting ++ List.replicate (later.length + 1) .done ∧
        fed.1.outcome = some reply.outcome ∧
        fed.1.outputs = .unlimited (out ++ (before ++ [reply]).flatMap (·.printed palette))
          (err ++ reply.complaint)) ∧
    ((∀ r ∈ replies, r.isLast more = false) →
      fed.2 = List.replicate replies.length .awaiting ∧ fed.1.outcome = none ∧
        fed.1.outputs = .unlimited (out ++ replies.flatMap (·.printed palette)) err) ∧
    (∀ seen rest, replies = seen ++ rest →
      (start.feed seen).2.getLastD .awaiting = (start.feed seen).1.state ∧
        ((start.feed seen).1.outcome.isSome ↔ (start.feed seen).1.state = .done) ∧
        ∀ outcome, (start.feed seen).1.outcome = some outcome → fed.1.outcome = some outcome) := by
  intro start fed
  have hstart : start = unsettled more palette out err := rfl
  refine ⟨?_, ?_, ?_⟩
  · rintro before reply later rfl hbefore hlast
    have hfed : fed = _ := feed_last palette out err hbefore hlast later
    simp [hfed, settled]
  · intro hreplies
    have hfed : fed = _ := feed_not_last palette err hreplies out
    simp [hfed, unsettled]
  · rintro seen rest rfl
    have hcoherent : (start.feed seen).1.IsCoherent :=
      (isCoherent_start more palette (.unlimited out err)).feed seen
    refine ⟨getLastD_feed start seen, hcoherent, fun outcome houtcome => ?_⟩
    have hdone := hcoherent.mp (Option.isSome_of_eq_some houtcome)
    have hfed : fed = _ := feed_append start seen rest
    rw [hfed, feed_settled hdone]
    exact houtcome

/-- More replies are asked for: the first continues, the second is an error that cannot be printed
and says that it continues, and the third is not looked at. -/
theorem feed_start_unprintable :
    let replies : List Reply := [⟨none, none, true⟩, ⟨some "E", some .null, true⟩,
      ⟨none, none, true⟩]
    let fed := (ReplyStream.start true .plain (.unlimited [] [])).feed replies
    fed.2 = [.awaiting, .done, .done] ∧ fed.1.outcome = some (.localFailure .invalidJson) ∧
      fed.1.outputs = .unlimited "\x7b\x7d\n" ("Call failed with error: E\n" ++
        "Unable to read message: reply parameters must be an object, found null\n") := by
  intro replies fed
  obtain ⟨hsaid, houtcome, houtputs⟩ := (feed_start true .plain [] [] replies).1
    [⟨none, none, true⟩] ⟨some "E", some .null, true⟩ [⟨none, none, true⟩] rfl (by decide)
    (by decide)
  exact ⟨hsaid, houtcome, houtputs.trans (by decide)⟩

end VarlinkClient.ReplyStream
