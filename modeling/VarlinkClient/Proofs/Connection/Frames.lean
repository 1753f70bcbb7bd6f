/-
The frames in a row of bytes, and what a poll makes of them.

`frames` gives the complete frames of a row of bytes, `unfinished` what stands behind the
last of them, and `wire` is the way back.  A poll looks at the bytes that are held and
those that have arrived as one row: `poll_frame` says what it does when there is a
complete frame in it, `poll_unfinished` what it does when there is none.  Everything that
is proved about connections rests on these two.
-/
import Mathlib.Data.List.Induction
import Mathlib.Data.List.TakeWhile
import VarlinkClient.Connection

namespace VarlinkClient.Connection

/-- Frames as they are sent: each with the NUL that ends it. -/
def wire (frames : List Bytes) : Bytes :=
  frames.flatMap (· ++ [0])

/-- What stands behind the last NUL. -/
def unfinished : Bytes → Bytes
  | [] => []
  | b :: rest => if 0 ∈ b :: rest then unfinished rest else b :: rest

/-- What a poll tells that finds this frame. -/
def answer (frame : Bytes) : Except Failure Poll :=
  match Reply.decode frame with
  | .ok reply => .ok (.reply reply)
  | .error failure => .error failure

/-- A frame that is no reply is an invalid message. -/
theorem decode_error {frame : Bytes} {failure : Failure}
    (h : Reply.decode frame = .error failure) : ∃ reason, failure = .invalidMessage reason := by
  unfold Reply.decode at h
  split at h
  · cases h
  · exact ⟨_, (Except.error.inj h).symm⟩

/-! ### Frames -/

@[simp] theorem wire_nil : wire [] = [] := rfl

@[simp] theorem wire_cons (frame : Bytes) (others : List Bytes) :
    wire (frame :: others) = frame ++ 0 :: wire others := by
  simp [wire]

theorem wire_append (fs others : List Bytes) :
    wire (fs ++ others) = wire fs ++ wire others := by
  simp [wire]

theorem frames_frame {frame : Bytes} (h : 0 ∉ frame) (rest : Bytes) :
    frames (frame ++ 0 :: rest) = frame :: frames rest := by
  induction frame with
  | nil => simp [frames]
  | cons b frame ih =>
      obtain ⟨hb, hframe⟩ := not_or.mp (fun hc => h (List.mem_cons.mpr hc))
      rw [List.cons_append, frames, if_neg (fun hc => hb hc.symm), ih hframe]

theorem frames_eq_nil {bytes : Bytes} (h : 0 ∉ bytes) : frames bytes = [] := by
  induction bytes with
  | nil => rfl
  | cons b rest ih =>
      obtain ⟨hb, hrest⟩ := not_or.mp (fun hc => h (List.mem_cons.mpr hc))
      rw [frames, if_neg (fun hc => hb hc.symm), ih hrest]

theorem unfinished_frame (frame rest : Bytes) :
    unfinished (frame ++ 0 :: rest) = unfinished rest := by
  induction frame with
  | nil => simp [unfinished]
  | cons b frame ih => rw [List.cons_append, unfinished, if_pos (by simp), ih]

theorem unfinished_eq_self {bytes : Bytes} (h : 0 ∉ bytes) : unfinished bytes = bytes := by
  cases bytes with
  | nil => rfl
  | cons b rest => rw [unfinished, if_neg h]

theorem frames_wire {fs : List Bytes} (h : ∀ frame ∈ fs, 0 ∉ frame) (rest : Bytes) :
    frames (wire fs ++ rest) = fs ++ frames rest := by
  induction fs with
  | nil => rfl
  | cons frame others ih =>
      rw [wire_cons, List.append_assoc, List.cons_append, frames_frame (h frame (by simp)),
        ih fun f hf => h f (by simp [hf]), List.cons_append]

theorem unfinished_wire (fs : List Bytes) (rest : Bytes) :
    unfinished (wire fs ++ rest) = unfinished rest := by
  induction fs with
  | nil => rfl
  | cons frame others ih =>
      rw [wire_cons, List.append_assoc, List.cons_append, unfinished_frame, ih]

/-- A row of bytes is its frames, none with a NUL in it, and what is unfinished. -/
theorem exists_wire (bytes : Bytes) : ∃ fs rest, bytes = wire fs ++ rest ∧
    (∀ frame ∈ fs, 0 ∉ frame) ∧ (0 : UInt8) ∉ rest := by
  induction bytes using List.reverseRecOn with
  | nil => exact ⟨[], [], rfl, by simp, by simp⟩
  | append_singleton bytes b ih =>
      obtain ⟨fs, rest, rfl, hfs, hrest⟩ := ih
      by_cases hb : b = 0
      · refine ⟨fs ++ [rest], [], by simp [wire_append, hb], ?_, by simp⟩
        intro frame hframe
        rcases List.mem_append.mp hframe with h | h
        · exact hfs frame h
        · rw [List.mem_singleton.mp h]
          exact hrest
      · exact ⟨fs, rest ++ [b], by simp, hfs, by simp [hrest, Ne.symm hb]⟩

/-- Cutting a row of bytes into frames loses nothing. -/
theorem wire_frames (bytes : Bytes) : wire (frames bytes) ++ unfinished bytes = bytes := by
  obtain ⟨fs, rest, rfl, hfs, hrest⟩ := exists_wire bytes
  rw [frames_wire hfs, unfinished_wire, frames_eq_nil hrest, unfinished_eq_self hrest,
    List.append_nil]

/-! ### Polls -/

variable {c : Connection}

/-- A poll takes the first complete frame and nothing more. -/
theorem poll_frame (hopen : c.closed = false) (hheld : 0 ∉ c.held) {frame rest : Bytes}
    (hframe : 0 ∉ frame) (hbytes : c.held ++ c.arrived = frame ++ 0 :: rest) :
    c.poll = (answer frame, { c with arrived := rest, held := [] }) := by
  obtain ⟨start, rfl, harrived⟩ : ∃ start, frame = c.held ++ start ∧
      c.arrived = start ++ 0 :: rest := by
    rcases List.append_eq_append_iff.mp hbytes with ⟨start, hf, ha⟩ | ⟨start, hh, ha⟩
    · exact ⟨start, hf, ha⟩
    · cases start with
      | nil => exact ⟨[], by simpa using hh.symm, by simpa using ha.symm⟩
      | cons b start =>
          obtain ⟨rfl, -⟩ := List.cons.inj ha
          exact absurd (by rw [hh]; simp) hheld
  have hstart : ∀ b ∈ start, decide (b ≠ 0) = true := by
    intro b hb
    have : b ≠ 0 := fun hc => hframe (by rw [← hc]; simp [hb])
    simpa using this
  have hdrop : c.arrived.dropWhile (· ≠ 0) = 0 :: rest := by
    rw [harrived, List.dropWhile_append_of_pos hstart]
    rfl
  have htake : c.arrived.takeWhile (· ≠ 0) = start := by
    rw [harrived, List.takeWhile_append_of_pos hstart]
    simp
  simp only [poll, hopen, hdrop, htake, answer, Bool.false_eq_true, if_false]
  cases Reply.decode (c.held ++ start) <;> rfl

/-- Without a complete frame it depends on the other side what a poll tells. -/
theorem poll_unfinished (hopen : c.closed = false) (harrived : 0 ∉ c.arrived) :
    c.poll = match c.far with
      | .open => (.ok .pending, c.holdAll)
      | .broken reason => (.error (.readFailed reason), { c.holdAll with far := .finished })
      | .finished =>
        if c.arrived ≠ [] then (.ok .pending, c.holdAll)
        else if c.held = [] then (.ok .closed, c)
        else (.error (.invalidMessage "connection closed inside a message"), c) := by
  have hdrop : c.arrived.dropWhile (· ≠ 0) = [] := by
    rw [List.dropWhile_eq_nil_iff]
    intro b hb
    have : b ≠ 0 := fun hc => harrived (by rw [← hc]; exact hb)
    simpa using this
  rw [poll, hdrop, hopen]
  rfl

/-- The ways in which a poll fails. -/
theorem poll_error {failure : Failure} (h : c.poll.1 = .error failure) :
    (∃ reason, failure = .invalidMessage reason) ∨ ∃ reason, failure = .readFailed reason := by
  unfold poll at h
  split at h
  · cases h
  · split at h
    · dsimp only at h
      split at h
      · cases h
      · rename_i f hdecode
        obtain rfl := Except.error.inj h
        exact Or.inl (decode_error hdecode)
    · split at h
      · cases h
      · exact Or.inr ⟨_, (Except.error.inj h).symm⟩
      · split at h
        · cases h
        · split at h
          · cases h
          · exact Or.inl ⟨_, (Except.error.inj h).symm⟩

/-- Polling has to do with what comes from the other side, and with nothing else. -/
theorem poll_touches (c : Connection) :
    ∃ arrived held far, c.poll.2 = { c with arrived := arrived, held := held, far := far } := by
  unfold poll
  split
  · exact ⟨_, _, _, rfl⟩
  · split
    · dsimp only
      split <;> exact ⟨_, _, _, rfl⟩
    · split
      · exact ⟨_, _, _, rfl⟩
      · exact ⟨_, _, _, rfl⟩
      · split
        · exact ⟨_, _, _, rfl⟩
        · split <;> exact ⟨_, _, _, rfl⟩

/-- Polling closes nothing. -/
@[simp] theorem poll_closed (c : Connection) : c.poll.2.closed = c.closed := by
  obtain ⟨arrived, held, far, heq⟩ := c.poll_touches
  rw [heq]

/-- Polling sends nothing. -/
@[simp] theorem poll_sent (c : Connection) : c.poll.2.sent = c.sent := by
  obtain ⟨arrived, held, far, heq⟩ := c.poll_touches
  rw [heq]

end VarlinkClient.Connection
