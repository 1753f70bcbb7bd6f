/-
Nothing is lost between what a peer writes and what a connection tells.

The peer may write pieces of any size at any time, read what it is sent, and hang up once
it has read all of it; in between this side sends calls and polls.  Such a history is a
list of moves.  `Faithful` says what its polls have told and what the next ones will tell,
in terms of nothing but the bytes written so far: their frames in order and once each, and
behind the last frame whether the peer is still there.

The invariant is `Follows`.  It cuts the bytes written into the frames that were told, what
is held and what has arrived, in this order; every move keeps it, and only a poll that
finds a frame moves the first cut.
-/
import VarlinkClient.Peer
import VarlinkClient.Proofs.Connection.Frames

namespace VarlinkClient.Peer

open Connection (wire frames unfinished answer)

/-! ### Histories -/

/-- Something that happens on a connection that this side does not give up. -/
inductive Move
  /-- The peer writes. -/
  | write (bytes : Bytes)
  /-- The peer reads a frame. -/
  | read
  /-- The peer hangs up. -/
  | hangUp
  /-- This side sends a call. -/
  | send (call : Call)
  /-- This side looks for a reply. -/
  | poll

/-- The peer after one move. -/
def move (peer : Peer) : Move → Peer
  | .write bytes => (peer.write bytes).1
  | .read => peer.readFrame.1
  | .hangUp => peer.close
  | .send call => { peer with connection := (peer.connection.send call).2 }
  | .poll => { peer with connection := peer.connection.poll.2 }

/-- The peer after some moves. -/
def after (peer : Peer) (moves : List Move) : Peer :=
  moves.foldl move peer

/-- What the polls among some moves tell, in order. -/
def told (peer : Peer) : List Move → List (Except Failure Poll)
  | [] => []
  | .poll :: moves => peer.connection.poll.1 :: told (peer.move .poll) moves
  | m :: moves => told (peer.move m) moves

/-- The bytes that the peer writes before it hangs up. -/
def written : List Move → Bytes
  | [] => []
  | .write bytes :: moves => bytes ++ written moves
  | .hangUp :: _ => []
  | _ :: moves => written moves

/-- The result of a poll is more than that nothing is there. -/
def tells : Except Failure Poll → Bool
  | .ok .pending | .ok .closed => false
  | _ => true

/-- What the polls of a history told, leaving out those that found nothing. -/
def heard (moves : List Move) : List (Except Failure Poll) :=
  (fresh.told moves).filter tells

/-- What a poll tells when the other side broke off inside a frame. -/
def brokenOff : Except Failure Poll :=
  .error (.invalidMessage "connection closed inside a message")

/-- Whenever the peer hangs up, it has read all that was sent to it. -/
def ReadsToTheEnd (moves : List Move) : Prop :=
  ∀ earlier later, moves = earlier ++ .hangUp :: later → (fresh.after earlier).unread = []

/-- What was heard in a history, and what will be, is what the peer wrote. -/
structure Faithful (moves : List Move) : Prop where
  /-- The frames were heard in order and once each; behind the last of them nothing was heard
  but that the peer broke off. -/
  inOrder : heard moves =
    ((frames (written moves)).map answer ++
      List.replicate (heard moves).length brokenOff).take (heard moves).length
  /-- It was heard to break off only if it did. -/
  brokeOff : (frames (written moves)).length < (heard moves).length →
    .hangUp ∈ moves ∧ unfinished (written moves) ≠ []
  /-- The next poll tells the first frame that was not heard. -/
  nextFrame : ∀ frame, (frames (written moves))[(heard moves).length]? = some frame →
    (fresh.after moves).connection.poll.1 = answer frame
  /-- If there is none and the peer is there, the next poll finds nothing. -/
  stillOpen : (frames (written moves)).length ≤ (heard moves).length → .hangUp ∉ moves →
    (fresh.after moves).connection.poll.1 = .ok .pending
  /-- If there is none, the peer has hung up and left nothing unfinished, all further polls say
  that the connection is closed. -/
  closedForEver : (frames (written moves)).length ≤ (heard moves).length → .hangUp ∈ moves →
    unfinished (written moves) = [] →
    ∀ more, ∀ result ∈ (fresh.after moves).told more, result = .ok .closed
  /-- If it has left something unfinished, all further polls say so, the first one perhaps
  excepted, which may find nothing. -/
  brokenForEver : (frames (written moves)).length ≤ (heard moves).length → .hangUp ∈ moves →
    unfinished (written moves) ≠ [] →
    ∀ more, (∀ result ∈ ((fresh.after moves).told more).head?,
        result = .ok .pending ∨ result = brokenOff) ∧
      ∀ result ∈ ((fresh.after moves).told more).tail, result = brokenOff

/-! ### Histories that go on -/

theorem after_append (peer : Peer) (moves more : List Move) :
    peer.after (moves ++ more) = (peer.after moves).after more := by
  simp [after]

theorem told_cons (peer : Peer) (m : Move) (moves : List Move) :
    peer.told (m :: moves) = peer.told [m] ++ (peer.move m).told moves := by
  cases m <;> rfl

theorem told_append (peer : Peer) (moves more : List Move) :
    peer.told (moves ++ more) = peer.told moves ++ (peer.after moves).told more := by
  induction moves generalizing peer with
  | nil => rfl
  | cons m moves ih =>
      rw [List.cons_append, told_cons, ih, told_cons peer m moves, List.append_assoc]
      rfl

theorem heard_append (moves : List Move) (m : Move) :
    heard (moves ++ [m]) = heard moves ++ ((fresh.after moves).told [m]).filter tells := by
  simp [heard, told_append]

/-- What one more move adds to the bytes written. -/
def writtenBy : Move → Bytes
  | .write bytes => bytes
  | _ => []

theorem written_append_of_mem {moves : List Move} (h : .hangUp ∈ moves) (m : Move) :
    written (moves ++ [m]) = written moves := by
  induction moves with
  | nil => simp at h
  | cons m' moves ih =>
      cases m' with
      | hangUp => rfl
      | _ => simp [written, ih (by simpa using h)]

theorem written_append_of_not_mem {moves : List Move} (h : .hangUp ∉ moves) (m : Move) :
    written (moves ++ [m]) = written moves ++ writtenBy m := by
  induction moves with
  | nil => cases m <;> simp [written, writtenBy]
  | cons m' moves ih =>
      cases m' with
      | hangUp => simp at h
      | _ => simp [written, ih (by simpa using h)]

theorem ReadsToTheEnd.init {moves more : List Move} (h : ReadsToTheEnd (moves ++ more)) :
    ReadsToTheEnd moves := by
  intro earlier later hmoves
  exact h earlier (later ++ more) (by simp [hmoves])

/-- A peer that hangs up once has read to the end if nothing is unread when it does. -/
theorem readsToTheEnd_of_once {earlier later : List Move} (hearlier : .hangUp ∉ earlier)
    (hlater : .hangUp ∉ later) (hunread : (fresh.after earlier).unread = []) :
    ReadsToTheEnd (earlier ++ .hangUp :: later) := by
  intro start rest heq
  rcases List.append_eq_append_iff.mp heq with ⟨middle, hstart, hrest⟩ | ⟨middle, hearlier', hrest⟩
  · cases middle with
    | nil => rwa [hstart, List.append_nil]
    | cons m middle =>
        obtain ⟨rfl, rfl⟩ := List.cons.inj hrest
        exact absurd (by simp) hlater
  · cases middle with
    | nil => rwa [← List.append_nil start, ← hearlier']
    | cons m middle =>
        obtain ⟨rfl, -⟩ := List.cons.inj hrest
        exact absurd (by simp [hearlier']) hearlier

/-! ### The invariant -/

/-- How a connection stands when the frames `fs` of the bytes that were written have been told,
and `broken` times that the peer broke off. -/
structure Follows (bytes : Bytes) (hungUp : Prop) (fs : List Bytes) (broken : Nat)
    (c : Connection) : Prop where
  notClosed : c.closed = false
  isOpen : ¬ hungUp → c.far = .open
  isFinished : hungUp → c.far = .finished
  /-- Nothing complete is held. -/
  heldFree : 0 ∉ c.held
  /-- Nor is it in a frame that was told. -/
  framesFree : ∀ frame ∈ fs, 0 ∉ frame
  /-- What was told, what is held and what has arrived is what was written. -/
  bytesEq : bytes = wire fs ++ (c.held ++ c.arrived)
  /-- Breaking off is told only when nothing else is left to tell. -/
  onlyHeld : broken ≠ 0 → hungUp ∧ c.arrived = [] ∧ c.held ≠ []

namespace Follows

variable {bytes : Bytes} {hungUp : Prop} {fs : List Bytes} {broken : Nat} {c : Connection}

theorem frames_eq (h : Follows bytes hungUp fs broken c) :
    frames bytes = fs ++ frames (c.held ++ c.arrived) := by
  rw [h.bytesEq, Connection.frames_wire h.framesFree]

theorem unfinished_eq (h : Follows bytes hungUp fs broken c) :
    unfinished bytes = unfinished (c.held ++ c.arrived) := by
  rw [h.bytesEq, Connection.unfinished_wire]

/-- Once it was told that the peer broke off, no frame is left. -/
theorem frames_eq_of_broken (h : Follows bytes hungUp fs broken c) (hbroken : broken ≠ 0) :
    frames bytes = fs := by
  obtain ⟨-, harrived, -⟩ := h.onlyHeld hbroken
  rw [h.frames_eq, harrived, List.append_nil, Connection.frames_eq_nil h.heldFree,
    List.append_nil]

/-- What is not yet told has no complete frame in it once all frames were told. -/
theorem free_of_length_le (h : Follows bytes hungUp fs broken c)
    (hall : (frames bytes).length ≤ fs.length + broken) : 0 ∉ c.held ++ c.arrived := by
  intro hmem
  have hbroken : broken = 0 := by
    by_contra hc
    obtain ⟨-, harrived, -⟩ := h.onlyHeld hc
    exact h.heldFree (by simpa [harrived] using hmem)
  obtain ⟨frame, rest, heq, hframe⟩ := List.eq_append_cons_of_mem hmem
  rw [h.frames_eq, heq, Connection.frames_frame hframe] at hall
  simp only [List.length_append, List.length_cons] at hall
  omega

/-- A poll tells the first frame that is not yet told and has arrived. -/
theorem poll_frame (h : Follows bytes hungUp fs broken c) {frame rest : Bytes}
    (hframe : 0 ∉ frame) (heq : c.held ++ c.arrived = frame ++ 0 :: rest) :
    c.poll.1 = answer frame ∧ broken = 0 ∧
      Follows bytes hungUp (fs ++ [frame]) 0 c.poll.2 := by
  have hbroken : broken = 0 := by
    by_contra hc
    obtain ⟨-, harrived, -⟩ := h.onlyHeld hc
    exact h.heldFree (by
      rw [harrived, List.append_nil] at heq
      rw [heq]
      simp)
  rw [Connection.poll_frame h.notClosed h.heldFree hframe heq]
  refine ⟨rfl, hbroken, h.notClosed, h.isOpen, h.isFinished, by simp, ?_, ?_, by simp⟩
  · intro f hf
    rcases List.mem_append.mp hf with hf | hf
    · exact h.framesFree f hf
    · rw [List.mem_singleton.mp hf]
      exact hframe
  · rw [h.bytesEq, heq, Connection.wire_append]
    simp

/-- While the peer is there, what is looked at without a complete frame is held. -/
theorem poll_open (h : Follows bytes hungUp fs broken c) (hhung : ¬ hungUp)
    (hfree : 0 ∉ c.held ++ c.arrived) :
    c.poll = (.ok .pending, c.holdAll) ∧ Follows bytes hungUp fs broken c.holdAll := by
  refine ⟨?_, h.notClosed, h.isOpen, h.isFinished, hfree, h.framesFree, ?_, ?_⟩
  · rw [Connection.poll_unfinished h.notClosed (fun hc => hfree (by simp [hc])), h.isOpen hhung]
  · rw [h.bytesEq]
    simp [Connection.holdAll]
  · intro hbroken
    exact absurd (h.onlyHeld hbroken).1 hhung

/-- After the peer has hung up, too, as long as something has arrived. -/
theorem poll_arrived (h : Follows bytes hungUp fs broken c) (hhung : hungUp)
    (hfree : 0 ∉ c.held ++ c.arrived) (harrived : c.arrived ≠ []) :
    c.poll = (.ok .pending, c.holdAll) ∧ Follows bytes hungUp fs broken c.holdAll := by
  refine ⟨?_, h.notClosed, h.isOpen, h.isFinished, hfree, h.framesFree, ?_, ?_⟩
  · rw [Connection.poll_unfinished h.notClosed (fun hc => hfree (by simp [hc])),
      h.isFinished hhung]
    simp [harrived]
  · rw [h.bytesEq]
    simp [Connection.holdAll]
  · intro hbroken
    exact absurd (h.onlyHeld hbroken).2.1 harrived

/-- After the peer has hung up and all that arrived was looked at, a poll changes nothing. -/
theorem poll_settled (h : Follows bytes hungUp fs broken c) (hhung : hungUp)
    (harrived : c.arrived = []) :
    c.poll = (if c.held = [] then .ok .closed else brokenOff, c) := by
  rw [Connection.poll_unfinished h.notClosed (by simp [harrived]), h.isFinished hhung]
  by_cases hheld : c.held = []
  · simp [harrived, hheld]
  · simp [harrived, hheld, brokenOff]

end Follows

/-! ### Every move keeps the invariant -/

/-- The invariant, together with what was heard. -/
def Tracks (moves : List Move) (c : Connection) : Prop :=
  ∃ fs broken, Follows (written moves) (.hangUp ∈ moves) fs broken c ∧
    heard moves = fs.map answer ++ List.replicate broken brokenOff

theorem Tracks.start : Tracks [] fresh.connection :=
  ⟨[], 0, ⟨rfl, fun _ => rfl, by simp, by simp [fresh, Connection.fresh], by simp,
    by simp [written, fresh, Connection.fresh], by simp⟩, rfl⟩

theorem answer_tells (frame : Bytes) : tells (answer frame) = true := by
  unfold answer
  cases Reply.decode frame <;> rfl

theorem brokenOff_tells : tells brokenOff = true := rfl

/-- A poll adds to what was heard exactly what it tells. -/
theorem Follows.poll {bytes : Bytes} {hungUp : Prop} {fs : List Bytes} {broken : Nat}
    {c : Connection} (h : Follows bytes hungUp fs broken c) :
    ∃ fs' broken', Follows bytes hungUp fs' broken' c.poll.2 ∧
      fs'.map answer ++ List.replicate broken' brokenOff =
        fs.map answer ++ List.replicate broken brokenOff ++ [c.poll.1].filter tells := by
  by_cases hmem : 0 ∈ c.held ++ c.arrived
  · obtain ⟨frame, rest, heq, hframe⟩ := List.eq_append_cons_of_mem hmem
    obtain ⟨htold, rfl, hnext⟩ := h.poll_frame hframe heq
    exact ⟨fs ++ [frame], 0, hnext, by simp [htold, answer_tells]⟩
  by_cases hhung : hungUp
  · by_cases harrived : c.arrived = []
    · rw [h.poll_settled hhung harrived]
      by_cases hheld : c.held = []
      · exact ⟨fs, broken, h, by simp [hheld, tells]⟩
      · refine ⟨fs, broken + 1, { h with onlyHeld := fun _ => ⟨hhung, harrived, hheld⟩ }, ?_⟩
        rw [if_neg hheld, List.replicate_succ', ← List.append_assoc,
          List.filter_cons_of_pos brokenOff_tells, List.filter_nil]
    · obtain ⟨hpoll, hnext⟩ := h.poll_arrived hhung hmem harrived
      rw [hpoll]
      exact ⟨fs, broken, hnext, by simp [tells]⟩
  · obtain ⟨hpoll, hnext⟩ := h.poll_open hhung hmem
    rw [hpoll]
    exact ⟨fs, broken, hnext, by simp [tells]⟩

theorem Follows.write {bytes : Bytes} {hungUp : Prop} {fs : List Bytes} {broken : Nat}
    {c : Connection} (h : Follows bytes hungUp fs broken c) (hhung : ¬ hungUp) (more : Bytes) :
    Follows (bytes ++ more) hungUp fs broken { c with arrived := c.arrived ++ more } := by
  refine { h with bytesEq := ?_, onlyHeld := ?_ }
  · rw [h.bytesEq]
    simp
  · intro hbroken
    exact absurd (h.onlyHeld hbroken).1 hhung

/-- Sending leaves alone what has been received. -/
theorem Follows.send {bytes : Bytes} {hungUp : Prop} {fs : List Bytes} {broken : Nat}
    {c : Connection} (h : Follows bytes hungUp fs broken c) (call : Call) :
    Follows bytes hungUp fs broken (c.send call).2 := by
  unfold Connection.send
  split
  · exact h
  · split
    · exact h
    · exact { h with }

/-- After the peer has hung up, only polls change the connection. -/
theorem move_of_finished {peer : Peer} (hfar : peer.connection.far = .finished) {m : Move}
    (hm : m ≠ .poll) : (peer.move m).connection = peer.connection := by
  cases m with
  | poll => exact absurd rfl hm
  | write bytes => simp [move, write, hfar]
  | read => simp [move, readFrame, hfar]
  | hangUp => simp [move, close, hfar]
  | send call =>
      simp only [move, Connection.send, hfar]
      split <;> rfl

theorem told_of_ne_poll (peer : Peer) {m : Move} (hm : m ≠ .poll) (moves : List Move) :
    peer.told (m :: moves) = (peer.move m).told moves := by
  cases m with
  | poll => exact absurd rfl hm
  | _ => rfl

/-- A step of a history after the peer has hung up. -/
theorem tracks_step_finished {moves : List Move} (hhung : .hangUp ∈ moves) (m : Move)
    (h : Tracks moves (fresh.after moves).connection) :
    Tracks (moves ++ [m]) ((fresh.after moves).move m).connection := by
  obtain ⟨fs, broken, hfollows, hheard⟩ := h
  have hmem : (.hangUp ∈ moves ++ [m]) = (.hangUp ∈ moves) := by simp [hhung]
  unfold Tracks
  rw [written_append_of_mem hhung, hmem, heard_append, hheard]
  by_cases hm : m = .poll
  · subst hm
    obtain ⟨fs', broken', hnext, heq⟩ := hfollows.poll
    exact ⟨fs', broken', hnext, heq.symm⟩
  · rw [move_of_finished (hfollows.isFinished hhung) hm, told_of_ne_poll _ hm]
    exact ⟨fs, broken, hfollows, by simp [told]⟩

/-- A step of a history while the peer is there. -/
theorem tracks_step_open {moves : List Move} (hhung : .hangUp ∉ moves) {m : Move}
    (hread : ReadsToTheEnd (moves ++ [m]))
    (h : Tracks moves (fresh.after moves).connection) :
    Tracks (moves ++ [m]) ((fresh.after moves).move m).connection := by
  obtain ⟨fs, broken, hfollows, hheard⟩ := h
  have hfar := hfollows.isOpen hhung
  unfold Tracks
  rw [written_append_of_not_mem hhung, heard_append, hheard]
  by_cases hm : m = .hangUp
  · subst hm
    have hunread : (fresh.after moves).unread = [] := hread moves [] rfl
    have hbroken : broken = 0 := by
      by_contra hc
      exact hhung (hfollows.onlyHeld hc).1
    refine ⟨fs, broken, ?_, by simp [told]⟩
    rw [show ((fresh.after moves).move .hangUp).connection
        = { (fresh.after moves).connection with far := .finished } by
      simp [move, close, hfar, hunread]]
    exact { hfollows with
      isOpen := fun hc => absurd (by simp) hc
      isFinished := fun _ => rfl
      bytesEq := by simpa [writtenBy] using hfollows.bytesEq
      onlyHeld := fun hc => absurd hbroken hc }
  · have hmem : (.hangUp ∈ moves ++ [m]) = (.hangUp ∈ moves) := by simp [Ne.symm hm]
    rw [hmem]
    cases m with
    | hangUp => exact absurd rfl hm
    | poll =>
        obtain ⟨fs', broken', hnext, heq⟩ := hfollows.poll
        exact ⟨fs', broken', by simpa [writtenBy, move] using hnext, heq.symm⟩
    | send call =>
        exact ⟨fs, broken, by simpa [writtenBy, move] using hfollows.send call, by simp [told]⟩
    | read =>
        refine ⟨fs, broken, ?_, by simp [told]⟩
        simpa [writtenBy, move, readFrame, hfar] using hfollows
    | write bytes =>
        refine ⟨fs, broken, ?_, by simp [told]⟩
        simpa [writtenBy, move, write, hfollows.notClosed, hfar, Connection.receive]
          using hfollows.write hhung bytes

theorem tracks_after (moves : List Move) (hread : ReadsToTheEnd moves) :
    Tracks moves (fresh.after moves).connection := by
  induction moves using List.reverseRecOn with
  | nil => exact .start
  | append_singleton moves m ih =>
      have h := ih hread.init
      rw [after_append]
      by_cases hhung : .hangUp ∈ moves
      · exact tracks_step_finished hhung m h
      · exact tracks_step_open hhung hread h

/-! ### What is told once nothing is left -/

/-- When all that arrived was looked at, every poll tells the same. -/
theorem told_of_settled {bytes : Bytes} {hungUp : Prop} {fs : List Bytes} {broken : Nat}
    (hhung : hungUp) (moves : List Move) :
    ∀ peer : Peer, Follows bytes hungUp fs broken peer.connection →
      peer.connection.arrived = [] →
      ∀ result ∈ peer.told moves,
        result = if peer.connection.held = [] then .ok .closed else brokenOff := by
  induction moves with
  | nil => intro peer _ _ result hresult; simp [told] at hresult
  | cons m moves ih =>
      intro peer h harrived result hresult
      by_cases hm : m = .poll
      · subst hm
        have hpoll := h.poll_settled hhung harrived
        have hsame : (peer.move .poll).connection = peer.connection := by simp [move, hpoll]
        rcases List.mem_cons.mp hresult with rfl | hlater
        · rw [hpoll]
        · have := ih (peer.move .poll) (by rw [hsame]; exact h) (by rw [hsame]; exact harrived)
            result hlater
          rwa [hsame] at this
      · have hsame := move_of_finished (h.isFinished hhung) hm
        rw [told_of_ne_poll peer hm] at hresult
        have := ih (peer.move m) (by rw [hsame]; exact h) (by rw [hsame]; exact harrived)
          result hresult
        rwa [hsame] at this

/-- When an unfinished frame has arrived, one poll finds nothing and all later ones tell that the
peer broke off. -/
theorem told_of_arrived {bytes : Bytes} {hungUp : Prop} {fs : List Bytes} {broken : Nat}
    (hhung : hungUp) (moves : List Move) :
    ∀ peer : Peer, Follows bytes hungUp fs broken peer.connection →
      peer.connection.arrived ≠ [] → 0 ∉ peer.connection.held ++ peer.connection.arrived →
      (∀ result ∈ (peer.told moves).head?, result = .ok .pending) ∧
        ∀ result ∈ (peer.told moves).tail, result = brokenOff := by
  induction moves with
  | nil => intro peer _ _ _; simp [told]
  | cons m moves ih =>
      intro peer h harrived hfree
      by_cases hm : m = .poll
      · subst hm
        obtain ⟨hpoll, hnext⟩ := h.poll_arrived hhung hfree harrived
        have hmoved : (peer.move .poll).connection = peer.connection.holdAll := by
          simp [move, hpoll]
        refine ⟨by simp [told, hpoll], fun result hresult => ?_⟩
        have := told_of_settled hhung moves (peer.move .poll) (by rw [hmoved]; exact hnext)
          (by rw [hmoved]; rfl) result hresult
        rw [hmoved, if_neg (by simp [Connection.holdAll, harrived])] at this
        exact this
      · have hsame := move_of_finished (h.isFinished hhung) hm
        rw [told_of_ne_poll peer hm]
        exact ih (peer.move m) (by rw [hsame]; exact h) (by rw [hsame]; exact harrived)
          (by rw [hsame]; exact hfree)

/-! ### What was told, and what is left -/

namespace Follows

variable {bytes : Bytes} {hungUp : Prop} {fs : List Bytes} {broken : Nat} {c : Connection}

/-- What was told is the frames in order, and then that the peer broke off. -/
theorem told_eq (h : Follows bytes hungUp fs broken c) :
    fs.map answer ++ List.replicate broken brokenOff =
      ((frames bytes).map answer ++ List.replicate (fs.length + broken) brokenOff).take
        (fs.length + broken) := by
  by_cases hbroken : broken = 0
  · subst hbroken
    rw [h.frames_eq]
    simp
  · rw [h.frames_eq_of_broken hbroken]
    simp [List.take_append, List.take_of_length_le]

/-- More than the frames is told only when the peer broke off. -/
theorem brokeOff (h : Follows bytes hungUp fs broken c)
    (hmore : (frames bytes).length < fs.length + broken) : hungUp ∧ unfinished bytes ≠ [] := by
  have hbroken : broken ≠ 0 := by
    intro hc
    rw [h.frames_eq, List.length_append] at hmore
    omega
  obtain ⟨hhung, harrived, hheld⟩ := h.onlyHeld hbroken
  refine ⟨hhung, ?_⟩
  rw [h.unfinished_eq, harrived, List.append_nil, Connection.unfinished_eq_self h.heldFree]
  exact hheld

/-- The first frame that was not told is told next. -/
theorem nextFrame (h : Follows bytes hungUp fs broken c) {frame : Bytes}
    (hframe : (frames bytes)[fs.length + broken]? = some frame) : c.poll.1 = answer frame := by
  have hbroken : broken = 0 := by
    by_contra hc
    rw [h.frames_eq_of_broken hc, List.getElem?_eq_none (by omega)] at hframe
    simp at hframe
  rw [h.frames_eq, hbroken, Nat.add_zero, List.getElem?_append_right (Nat.le_refl _),
    Nat.sub_self] at hframe
  by_cases hmem : 0 ∈ c.held ++ c.arrived
  · obtain ⟨first, rest, heq, hfirst⟩ := List.eq_append_cons_of_mem hmem
    rw [heq, Connection.frames_frame hfirst] at hframe
    obtain rfl : first = frame := by simpa using hframe
    exact (h.poll_frame hfirst heq).1
  · rw [Connection.frames_eq_nil hmem] at hframe
    simp at hframe

/-- When all frames were told, what is left is what is unfinished. -/
theorem rest_eq (h : Follows bytes hungUp fs broken c)
    (hall : (frames bytes).length ≤ fs.length + broken) :
    unfinished bytes = c.held ++ c.arrived := by
  rw [h.unfinished_eq, Connection.unfinished_eq_self (h.free_of_length_le hall)]

end Follows

/-- **A connection tells exactly what the peer writes, in whatever pieces it writes it.** -/
theorem faithful_of_readsToTheEnd (moves : List Move) (hread : ReadsToTheEnd moves) :
    Faithful moves := by
  obtain ⟨fs, broken, h, hheard⟩ := tracks_after moves hread
  have hlength : (heard moves).length = fs.length + broken := by simp [hheard]
  refine ⟨?_, ?_, ?_, ?_, ?_, ?_⟩
  · rw [hlength, hheard]
    exact h.told_eq
  · rw [hlength]
    exact h.brokeOff
  · rw [hlength]
    exact fun frame => h.nextFrame
  · rw [hlength]
    intro hall hhung
    rw [(h.poll_open hhung (h.free_of_length_le hall)).1]
  · rw [hlength]
    intro hall hhung hrest more result hresult
    rw [h.rest_eq hall] at hrest
    obtain ⟨hheld, harrived⟩ := List.append_eq_nil_iff.mp hrest
    have := told_of_settled hhung more _ h harrived result hresult
    rwa [if_pos hheld] at this
  · rw [hlength]
    intro hall hhung hrest more
    rw [h.rest_eq hall] at hrest
    by_cases harrived : (fresh.after moves).connection.arrived = []
    · have hheld : (fresh.after moves).connection.held ≠ [] := by simpa [harrived] using hrest
      have hsettled := told_of_settled hhung more _ h harrived
      simp only [if_neg hheld] at hsettled
      exact ⟨fun result hresult => Or.inr (hsettled result (List.mem_of_mem_head? hresult)),
        fun result hresult => hsettled result (List.mem_of_mem_tail hresult)⟩
    · obtain ⟨hfirst, hlater⟩ :=
        told_of_arrived hhung more _ h harrived (h.free_of_length_le hall)
      exact ⟨fun result hresult => Or.inl (hfirst result hresult), hlater⟩

/-- A call is sent and read, a reply comes in two pieces, the second of which begins another one
that cannot be read, and the peer hangs up inside a third. -/
theorem faithful_in_pieces :
    let earlier : List Move :=
      [.send ⟨"a.B", none, false⟩, .read, .write (Utf8.encode "\x7b"), .poll,
        .write (Utf8.encode "\x7d\x00["), .poll, .write (Utf8.encode "\x00\x7b")]
    ReadsToTheEnd (earlier ++ .hangUp :: [.poll, .poll, .poll]) ∧
      Faithful (earlier ++ .hangUp :: [.poll, .poll, .poll]) := by
  intro earlier
  have hread : ReadsToTheEnd (earlier ++ .hangUp :: [.poll, .poll, .poll]) :=
    readsToTheEnd_of_once (by simp [earlier]) (by simp) (by decide)
  exact ⟨hread, faithful_of_readsToTheEnd _ hread⟩

end VarlinkClient.Peer
