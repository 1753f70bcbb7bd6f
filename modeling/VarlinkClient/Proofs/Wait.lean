/-
What a wait does, whatever the channel and the handler are.

To say what is done during a wait, the channel and the handler are given a record each:
`recorded` notes the polls and the closing, `recordedHandler` the replies that are handed on
and what the handler said to them.  Neither changes the wait, which is part of what is
proved.  `Orderly` is what the records of every wait have in common.

The proof goes through `Course`, the records a wait can leave, one constructor for each way
a turn can go.  `run_course` finds the course of a wait; everything else is an induction
over courses, and no other proof looks at `run`.
-/
import Mathlib.Data.List.Basic
import VarlinkClient.Proofs.Connection.Frames

namespace VarlinkClient.Wait

variable {σ η : Type}

/-! ### Records -/

/-- Something that is done with a channel during a wait. -/
inductive Step
  /-- It was polled, and this was found. -/
  | polled (found : Except Failure Poll)
  /-- It was given up. -/
  | closed

/-- What the polls found, in order. -/
def polls (steps : List Step) : List (Except Failure Poll) :=
  steps.filterMap fun
    | .polled found => some found
    | .closed => none

/-- The replies that were found, in order. -/
def replies (steps : List Step) : List Reply :=
  (polls steps).filterMap fun
    | .ok (.reply reply) => some reply
    | _ => none

/-- How often the channel was given up. -/
def closes (steps : List Step) : Nat :=
  steps.countP fun
    | .polled _ => false
    | .closed => true

/-- The channel with a record of what is done with it. -/
def recorded (channel : Channel σ) : Channel (σ × List Step) where
  send s call := ((channel.send s.1 call).1, ((channel.send s.1 call).2, s.2))
  poll s := ((channel.poll s.1).1, ((channel.poll s.1).2, s.2 ++ [.polled (channel.poll s.1).1]))
  close s := (channel.close s.1, s.2 ++ [.closed])
  isClosed s := channel.isClosed s.1

/-- The handler with a record of what it is handed and what it says to it. -/
def recordedHandler (handle : η → Reply → η × ReplyState) (h : η × List (Reply × ReplyState))
    (reply : Reply) : (η × List (Reply × ReplyState)) × ReplyState :=
  (((handle h.1 reply).1, h.2 ++ [(reply, (handle h.1 reply).2)]), (handle h.1 reply).2)

/-- The channel stays open until it is given up, and its failures are its own. -/
structure Steady (channel : Channel σ) : Prop where
  poll_open : ∀ s, channel.isClosed s = false → channel.isClosed (channel.poll s).2 = false
  close_closed : ∀ s, channel.isClosed (channel.close s) = true
  failure_own : ∀ s failure, (channel.poll s).1 = .error failure →
    failure ≠ .canceled ∧ failure ≠ .timedOut

/-- The channel stays open until it is given up. -/
structure StaysOpen (channel : Channel σ) : Prop where
  poll_open : ∀ s, channel.isClosed s = false → channel.isClosed (channel.poll s).2 = false
  close_closed : ∀ s, channel.isClosed (channel.close s) = true

theorem Steady.staysOpen {channel : Channel σ} (steady : Steady channel) : StaysOpen channel :=
  ⟨steady.poll_open, steady.close_closed⟩

/-- The last poll found a reply, and the handler was done with it. -/
def Answered (steps : List Step) (handed : List (Reply × ReplyState)) : Prop :=
  ∃ reply, (polls steps).getLast? = some (.ok (.reply reply)) ∧
    handed.getLast? = some (reply, .done)

/-- The last poll ended the wait: it failed, the other side had hung up, or the handler was done
with the reply. -/
def Over (steps : List Step) (handed : List (Reply × ReplyState)) : Prop :=
  (∃ failure, (polls steps).getLast? = some (.error failure)) ∨
    (polls steps).getLast? = some (.ok .closed) ∨ Answered steps handed

/-- What holds of the result and the records of every wait.  The poll at index `i` belongs to the
moment at index `i`, so `moments[(polls steps).length]?` is the moment after the last poll. -/
structure Orderly (limit : Option Nat) (moments : List Moment) (result : Except Stop Unit)
    (steps : List Step) (handed : List (Reply × ReplyState)) : Prop where
  /-- Every reply that was polled was handed on, once and in order. -/
  handed_eq : handed.map Prod.fst = replies steps
  /-- Nothing was handed on after the handler was done. -/
  done_last : ∀ entry ∈ handed.dropLast, entry.2 = .awaiting
  /-- Nothing was done with the channel after it was given up. -/
  closed_last : steps = (polls steps).map .polled ++ List.replicate (closes steps) .closed
  /-- It was given up at most once. -/
  closes_le : closes steps ≤ 1
  /-- It was given up exactly when the handler was done, the wait interrupted or the time up. -/
  closes_iff : closes steps = 1 ↔ result = .ok () ∨ result = .error (.failed .canceled) ∨
    result = .error (.failed .timedOut)
  /-- It was polled only when neither an interruption nor the end of the time had been seen. -/
  polls_calm : ∀ i < (polls steps).length, ∃ moment, moments[i]? = some moment ∧
    moment.canceled = false ∧ expired limit moment = false
  /-- No poll but the last ended the wait. -/
  goes_on : ∀ found ∈ (polls steps).dropLast,
    found = .ok .pending ∨ ∃ reply, found = .ok (.reply reply)
  /-- The wait ended well exactly when the handler was done with the last reply polled. -/
  ok_iff : result = .ok () ↔ Answered steps handed
  /-- The failure of a poll is passed on. -/
  poll_failed : ∀ failure, (polls steps).getLast? = some (.error failure) →
    result = .error (.failed failure)
  /-- When a poll finds that the other side has hung up, that is the failure. -/
  hung_up : (polls steps).getLast? = some (.ok .closed) →
    result = .error (.failed .connectionClosed)
  /-- There is no other way to that failure than that a poll itself fails with it. -/
  of_connectionClosed : result = .error (.failed .connectionClosed) →
    (polls steps).getLast? = some (.ok .closed) ∨
      (polls steps).getLast? = some (.error .connectionClosed)
  /-- An interruption ends every wait that is not over when it is seen, whether or not the time is
  up and whatever could still be polled. -/
  canceled_iff : result = .error (.failed .canceled) ↔ ¬ Over steps handed ∧
    ∃ moment, moments[(polls steps).length]? = some moment ∧ moment.canceled = true
  /-- So does the end of the time when there is no interruption. -/
  timedOut_iff : result = .error (.failed .timedOut) ↔ ¬ Over steps handed ∧
    ∃ moment, moments[(polls steps).length]? = some moment ∧ moment.canceled = false ∧
      expired limit moment = true
  /-- A wait that has not ended has polled at every moment. -/
  waiting_iff : result = .error .waiting ↔ ¬ Over steps handed ∧
    (polls steps).length = moments.length

/-! ### Courses -/

/-- Neither an interruption nor the end of the time is seen. -/
def Calm (limit : Option Nat) (moment : Moment) : Prop :=
  moment.canceled = false ∧ expired limit moment = false

instance (limit : Option Nat) (moment : Moment) : Decidable (Calm limit moment) :=
  inferInstanceAs (Decidable (_ ∧ _))

/-- The records that a wait can leave, and its result. -/
inductive Course (limit : Option Nat) :
    List Moment → Except Stop Unit → List Step → List (Reply × ReplyState) → Prop
  | waiting : Course limit [] (.error .waiting) [] []
  | canceled {moment : Moment} {moments : List Moment} (h : moment.canceled = true) :
      Course limit (moment :: moments) (.error (.failed .canceled)) [.closed] []
  | timedOut {moment : Moment} {moments : List Moment} (h : moment.canceled = false)
      (hexpired : expired limit moment = true) :
      Course limit (moment :: moments) (.error (.failed .timedOut)) [.closed] []
  | failed {moment : Moment} {moments : List Moment} (calm : Calm limit moment)
      {failure : Failure} (own : failure ≠ .canceled ∧ failure ≠ .timedOut) :
      Course limit (moment :: moments) (.error (.failed failure)) [.polled (.error failure)] []
  | hungUp {moment : Moment} {moments : List Moment} (calm : Calm limit moment) :
      Course limit (moment :: moments) (.error (.failed .connectionClosed))
        [.polled (.ok .closed)] []
  | done {moment : Moment} {moments : List Moment} (calm : Calm limit moment) (reply : Reply) :
      Course limit (moment :: moments) (.ok ()) [.polled (.ok (.reply reply)), .closed]
        [(reply, .done)]
  | pending {moment : Moment} {moments : List Moment} (calm : Calm limit moment)
      {result : Except Stop Unit} {steps : List Step} {handed : List (Reply × ReplyState)}
      (rest : Course limit moments result steps handed) :
      Course limit (moment :: moments) result (.polled (.ok .pending) :: steps) handed
  | awaiting {moment : Moment} {moments : List Moment} (calm : Calm limit moment) (reply : Reply)
      {result : Except Stop Unit} {steps : List Step} {handed : List (Reply × ReplyState)}
      (rest : Course limit moments result steps handed) :
      Course limit (moment :: moments) result (.polled (.ok (.reply reply)) :: steps)
        ((reply, .awaiting) :: handed)

/-! ### One turn

What a wait does in a turn depends on the moment, then on what the poll finds, then on what
the handler says.  There is one equation for each way this can go, for any channel.
-/

section Turn

variable {channel : Channel σ} {handle : η → Reply → η × ReplyState} {limit : Option Nat}
  {moment : Moment} {s s' : σ} {h h' : η}

/-- A channel that was given up is not touched. -/
theorem run_of_closed (moments : List Moment) (hclosed : channel.isClosed s = true) (h : η) :
    run channel handle limit moments s h = (.ok (), s, h) := by
  cases moments <;> simp [run, hclosed]

theorem run_canceled (hopen : channel.isClosed s = false) (hcanceled : moment.canceled = true)
    (moments : List Moment) (h : η) :
    run channel handle limit (moment :: moments) s h =
      (.error (.failed .canceled), channel.close s, h) := by
  simp [run, hopen, hcanceled]

theorem run_timedOut (hopen : channel.isClosed s = false) (hcanceled : moment.canceled = false)
    (hexpired : expired limit moment = true) (moments : List Moment) (h : η) :
    run channel handle limit (moment :: moments) s h =
      (.error (.failed .timedOut), channel.close s, h) := by
  simp [run, hopen, hcanceled, hexpired]

theorem run_failed (hopen : channel.isClosed s = false) (calm : Calm limit moment)
    {failure : Failure} (hpoll : channel.poll s = (.error failure, s')) (moments : List Moment)
    (h : η) : run channel handle limit (moment :: moments) s h =
      (.error (.failed failure), s', h) := by
  simp [run, hopen, calm.1, calm.2, hpoll]

theorem run_hungUp (hopen : channel.isClosed s = false) (calm : Calm limit moment)
    (hpoll : channel.poll s = (.ok .closed, s')) (moments : List Moment) (h : η) :
    run channel handle limit (moment :: moments) s h =
      (.error (.failed .connectionClosed), s', h) := by
  simp [run, hopen, calm.1, calm.2, hpoll]

theorem run_pending (hopen : channel.isClosed s = false) (calm : Calm limit moment)
    (hpoll : channel.poll s = (.ok .pending, s')) (moments : List Moment) (h : η) :
    run channel handle limit (moment :: moments) s h =
      run channel handle limit moments s' h := by
  simp [run, hopen, calm.1, calm.2, hpoll]

theorem run_awaiting (hopen : channel.isClosed s = false) (calm : Calm limit moment)
    {reply : Reply} (hpoll : channel.poll s = (.ok (.reply reply), s'))
    (hhandle : handle h reply = (h', .awaiting)) (moments : List Moment) :
    run channel handle limit (moment :: moments) s h =
      run channel handle limit moments s' h' := by
  simp [run, hopen, calm.1, calm.2, hpoll, hhandle]

/-- When the handler is done the channel is given up, and the wait has ended. -/
theorem run_done (hopen : channel.isClosed s = false) (calm : Calm limit moment)
    {reply : Reply} (hpoll : channel.poll s = (.ok (.reply reply), s'))
    (hhandle : handle h reply = (h', .done)) (hclose : channel.isClosed (channel.close s') = true)
    (moments : List Moment) :
    run channel handle limit (moment :: moments) s h = (.ok (), channel.close s', h') := by
  simp [run, hopen, calm.1, calm.2, hpoll, hhandle, run_of_closed moments hclose]

/-- What a turn of a wait on an open channel meets with. -/
inductive Turn (channel : Channel σ) (limit : Option Nat) (moment : Moment) (s : σ) : Prop
  | canceled (hcanceled : moment.canceled = true)
  | timedOut (hcanceled : moment.canceled = false) (hexpired : expired limit moment = true)
  | failed (calm : Calm limit moment) {failure : Failure} {s' : σ}
      (hpoll : channel.poll s = (.error failure, s'))
  | hungUp (calm : Calm limit moment) {s' : σ} (hpoll : channel.poll s = (.ok .closed, s'))
  | pending (calm : Calm limit moment) {s' : σ} (hpoll : channel.poll s = (.ok .pending, s'))
      (hopen : channel.isClosed s' = false)
  | replied (calm : Calm limit moment) {reply : Reply} {s' : σ}
      (hpoll : channel.poll s = (.ok (.reply reply), s')) (hopen : channel.isClosed s' = false)

/-- Proofs about whole waits go through these cases, one equation for each. -/
theorem StaysOpen.turn (stays : StaysOpen channel) (limit : Option Nat) (moment : Moment)
    (hopen : channel.isClosed s = false) : Turn channel limit moment s := by
  by_cases hcanceled : moment.canceled = true
  · exact .canceled hcanceled
  have hcanceled : moment.canceled = false := by simpa using hcanceled
  by_cases hexpired : expired limit moment = true
  · exact .timedOut hcanceled hexpired
  have calm : Calm limit moment := ⟨hcanceled, by simpa using hexpired⟩
  have hstays := stays.poll_open s hopen
  rcases hpoll : channel.poll s with ⟨failure | found, s'⟩
  · exact .failed calm hpoll
  rw [hpoll] at hstays
  cases found with
  | reply reply => exact .replied calm hpoll hstays
  | pending => exact .pending calm hpoll hstays
  | closed => exact .hungUp calm hpoll

end Turn

theorem recorded_poll {channel : Channel σ} {s s' : σ} {found : Except Failure Poll}
    (hpoll : channel.poll s = (found, s')) (log : List Step) :
    (recorded channel).poll (s, log) = (found, (s', log ++ [.polled found])) := by
  simp [recorded, hpoll]

/-- Every wait takes a course, and the records that are kept are those of the course. -/
theorem run_course {channel : Channel σ} (steady : Steady channel)
    (handle : η → Reply → η × ReplyState) (limit : Option Nat) (moments : List Moment) :
    ∀ (s : σ) (h : η) (log : List Step) (hlog : List (Reply × ReplyState)),
      channel.isClosed s = false →
      ∃ steps handed,
        Course limit moments (run channel handle limit moments s h).1 steps handed ∧
        run (recorded channel) (recordedHandler handle) limit moments (s, log) (h, hlog) =
          ((run channel handle limit moments s h).1,
            ((run channel handle limit moments s h).2.1, log ++ steps),
            ((run channel handle limit moments s h).2.2, hlog ++ handed)) := by
  induction moments with
  | nil =>
      intro s h log hlog hopen
      exact ⟨[], [], by simpa [run, hopen] using Course.waiting, by simp [run, recorded, hopen]⟩
  | cons moment moments ih =>
      intro s h log hlog hopen
      have hopen' : (recorded channel).isClosed (s, log) = false := hopen
      cases steady.staysOpen.turn limit moment hopen with
      | canceled hcanceled =>
          rw [run_canceled hopen hcanceled, run_canceled hopen' hcanceled]
          exact ⟨[.closed], [], .canceled hcanceled, by simp [recorded]⟩
      | timedOut hcanceled hexpired =>
          rw [run_timedOut hopen hcanceled hexpired, run_timedOut hopen' hcanceled hexpired]
          exact ⟨[.closed], [], .timedOut hcanceled hexpired, by simp [recorded]⟩
      | @failed calm failure s' hpoll =>
          rw [run_failed hopen calm hpoll, run_failed hopen' calm (recorded_poll hpoll log)]
          exact ⟨_, [], .failed calm (steady.failure_own s failure (by rw [hpoll])), by simp⟩
      | hungUp calm hpoll =>
          rw [run_hungUp hopen calm hpoll, run_hungUp hopen' calm (recorded_poll hpoll log)]
          exact ⟨_, [], .hungUp calm, by simp⟩
      | @pending calm s' hpoll hstays =>
          rw [run_pending hopen calm hpoll, run_pending hopen' calm (recorded_poll hpoll log)]
          obtain ⟨steps, handed, course, heq⟩ := ih s' h (log ++ [.polled (.ok .pending)]) hlog hstays
          exact ⟨_, handed, .pending calm course, by simp [heq]⟩
      | @replied calm reply s' hpoll hstays =>
          have hpoll' := recorded_poll hpoll log
          obtain ⟨h', state, hhandle⟩ : ∃ h' state, handle h reply = (h', state) := ⟨_, _, rfl⟩
          have hhandle' : recordedHandler handle (h, hlog) reply =
              ((h', hlog ++ [(reply, state)]), state) := by
            simp [recordedHandler, hhandle]
          cases state with
          | done =>
              have hclosed := steady.close_closed s'
              rw [run_done hopen calm hpoll hhandle hclosed,
                run_done hopen' calm hpoll' hhandle' (by simpa [recorded] using hclosed)]
              exact ⟨_, _, .done calm reply, by simp [recorded]⟩
          | awaiting =>
              rw [run_awaiting hopen calm hpoll hhandle, run_awaiting hopen' calm hpoll' hhandle']
              obtain ⟨steps, handed, course, heq⟩ := ih s' h'
                (log ++ [.polled (.ok (.reply reply))]) (hlog ++ [(reply, .awaiting)]) hstays
              exact ⟨_, _, .awaiting calm reply course, by simp [heq]⟩

/-! ### What all courses have in common -/

@[simp] theorem polls_nil : polls [] = [] := rfl

@[simp] theorem polls_polled (found : Except Failure Poll) (steps : List Step) :
    polls (.polled found :: steps) = found :: polls steps := rfl

@[simp] theorem polls_closed (steps : List Step) : polls (.closed :: steps) = polls steps := rfl

@[simp] theorem closes_nil : closes [] = 0 := rfl

@[simp] theorem closes_polled (found : Except Failure Poll) (steps : List Step) :
    closes (.polled found :: steps) = closes steps := rfl

@[simp] theorem closes_closed (steps : List Step) : closes (.closed :: steps) = closes steps + 1 := by
  simp [closes]

private theorem mem_dropLast_cons {α : Type} {a b : α} {l : List α}
    (h : a ∈ (b :: l).dropLast) : a = b ∨ a ∈ l.dropLast := by
  cases l with
  | nil => simp at h
  | cons c l => simpa using h

private theorem getLast?_cons_ne {α : Type} {a b : α} (h : a ≠ b) (l : List α) :
    (a :: l).getLast? = some b ↔ l.getLast? = some b := by
  cases l with
  | nil => simp [h]
  | cons c l => rw [List.getLast?_cons_cons]

/-- A poll that finds nothing has no part in how the wait ends. -/
theorem answered_pending (steps : List Step) (handed : List (Reply × ReplyState)) :
    Answered (.polled (.ok .pending) :: steps) handed ↔ Answered steps handed := by
  simp [Answered, getLast?_cons_ne]

/-- Nor has a reply after which the handler awaits another. -/
theorem answered_awaiting {steps : List Step} {handed : List (Reply × ReplyState)} (reply : Reply)
    (hhanded : handed.map Prod.fst = replies steps) :
    Answered (.polled (.ok (.reply reply)) :: steps) ((reply, .awaiting) :: handed) ↔
      Answered steps handed := by
  refine exists_congr fun r => ?_
  rw [getLast?_cons_ne (by simp)]
  refine and_congr_left fun hlast => ?_
  -- The handler was done with a later reply, so this one is not the last.
  cases hpolls : polls steps with
  | nil =>
      have : handed = [] := by simpa [replies, hpolls] using hhanded
      simp [this] at hlast
  | cons found others => simp [hpolls]

theorem over_pending (steps : List Step) (handed : List (Reply × ReplyState)) :
    Over (.polled (.ok .pending) :: steps) handed ↔ Over steps handed := by
  simp [Over, getLast?_cons_ne, answered_pending]

theorem over_awaiting {steps : List Step} {handed : List (Reply × ReplyState)} (reply : Reply)
    (hhanded : handed.map Prod.fst = replies steps) :
    Over (.polled (.ok (.reply reply)) :: steps) ((reply, .awaiting) :: handed) ↔
      Over steps handed := by
  simp [Over, getLast?_cons_ne, answered_awaiting reply hhanded]

namespace Course

variable {limit : Option Nat} {moments : List Moment} {result : Except Stop Unit}
  {steps : List Step} {handed : List (Reply × ReplyState)}

theorem handed_eq (course : Course limit moments result steps handed) :
    handed.map Prod.fst = replies steps := by
  induction course with
  | pending calm rest ih => exact ih
  | awaiting calm reply rest ih => simp [ih, replies]
  | _ => rfl

theorem done_last (course : Course limit moments result steps handed) :
    ∀ entry ∈ handed.dropLast, entry.2 = .awaiting := by
  induction course with
  | pending calm rest ih => exact ih
  | awaiting calm reply rest ih =>
      intro entry hentry
      rcases mem_dropLast_cons hentry with rfl | hlater
      · rfl
      · exact ih entry hlater
  | _ => simp

theorem closed_last (course : Course limit moments result steps handed) :
    steps = (polls steps).map .polled ++ List.replicate (closes steps) .closed := by
  induction course with
  | pending calm rest ih => simpa using ih
  | awaiting calm reply rest ih => simpa using ih
  | _ => simp

theorem closes_le (course : Course limit moments result steps handed) : closes steps ≤ 1 := by
  induction course with
  | pending calm rest ih => exact ih
  | awaiting calm reply rest ih => exact ih
  | _ => simp

theorem closes_iff (course : Course limit moments result steps handed) :
    closes steps = 1 ↔ result = .ok () ∨ result = .error (.failed .canceled) ∨
      result = .error (.failed .timedOut) := by
  induction course with
  | pending calm rest ih => exact ih
  | awaiting calm reply rest ih => exact ih
  | failed calm own => simp [own]
  | _ => simp

theorem polls_calm (course : Course limit moments result steps handed) :
    ∀ i < (polls steps).length, ∃ moment, moments[i]? = some moment ∧ Calm limit moment := by
  have hcons : ∀ {moment : Moment} {moments : List Moment} {n : Nat}, Calm limit moment →
      (∀ i < n, ∃ m, moments[i]? = some m ∧ Calm limit m) →
      ∀ i < n + 1, ∃ m, (moment :: moments)[i]? = some m ∧ Calm limit m := by
    intro moment moments n calm hrest i hi
    cases i with
    | zero => exact ⟨moment, rfl, calm⟩
    | succ i => exact hrest i (by omega)
  induction course with
  | pending calm rest ih => exact hcons calm ih
  | awaiting calm reply rest ih => exact hcons calm ih
  | failed calm own => exact hcons calm (by simp)
  | hungUp calm => exact hcons calm (by simp)
  | done calm reply => exact hcons calm (by simp)
  | _ => simp

theorem goes_on (course : Course limit moments result steps handed) :
    ∀ found ∈ (polls steps).dropLast,
      found = .ok .pending ∨ ∃ reply, found = .ok (.reply reply) := by
  induction course with
  | pending calm rest ih =>
      intro found hfound
      rcases mem_dropLast_cons hfound with rfl | hlater
      · exact Or.inl rfl
      · exact ih found hlater
  | awaiting calm reply rest ih =>
      intro found hfound
      rcases mem_dropLast_cons hfound with rfl | hlater
      · exact Or.inr ⟨reply, rfl⟩
      · exact ih found hlater
  | _ => simp

theorem poll_failed (course : Course limit moments result steps handed) {failure : Failure}
    (h : (polls steps).getLast? = some (.error failure)) : result = .error (.failed failure) := by
  induction course with
  | pending calm rest ih => exact ih ((getLast?_cons_ne (by simp) _).mp h)
  | awaiting calm reply rest ih => exact ih ((getLast?_cons_ne (by simp) _).mp h)
  | _ => simp_all

theorem hung_up (course : Course limit moments result steps handed)
    (h : (polls steps).getLast? = some (.ok .closed)) :
    result = .error (.failed .connectionClosed) := by
  induction course with
  | pending calm rest ih => exact ih ((getLast?_cons_ne (by simp) _).mp h)
  | awaiting calm reply rest ih => exact ih ((getLast?_cons_ne (by simp) _).mp h)
  | _ => simp_all

theorem of_connectionClosed (course : Course limit moments result steps handed)
    (h : result = .error (.failed .connectionClosed)) :
    (polls steps).getLast? = some (.ok .closed) ∨
      (polls steps).getLast? = some (.error .connectionClosed) := by
  induction course with
  | pending calm rest ih => simpa [getLast?_cons_ne] using ih h
  | awaiting calm reply rest ih => simpa [getLast?_cons_ne] using ih h
  | _ => simp_all

theorem ok_iff (course : Course limit moments result steps handed) :
    result = .ok () ↔ Answered steps handed := by
  induction course with
  | pending calm rest ih => rw [ih, answered_pending]
  | awaiting calm reply rest ih => rw [ih, answered_awaiting reply rest.handed_eq]
  | _ => simp [Answered]

theorem canceled_iff (course : Course limit moments result steps handed) :
    result = .error (.failed .canceled) ↔ ¬ Over steps handed ∧
      ∃ moment, moments[(polls steps).length]? = some moment ∧ moment.canceled = true := by
  induction course with
  | pending calm rest ih => simpa [over_pending] using ih
  | awaiting calm reply rest ih => simpa [over_awaiting reply rest.handed_eq] using ih
  | failed calm own => simp [Over, own]
  | canceled h => simp [Over, Answered, h]
  | timedOut h hexpired => simp [h]
  | _ => simp [Over, Answered]

theorem timedOut_iff (course : Course limit moments result steps handed) :
    result = .error (.failed .timedOut) ↔ ¬ Over steps handed ∧
      ∃ moment, moments[(polls steps).length]? = some moment ∧ moment.canceled = false ∧
        expired limit moment = true := by
  induction course with
  | pending calm rest ih => simpa [over_pending] using ih
  | awaiting calm reply rest ih => simpa [over_awaiting reply rest.handed_eq] using ih
  | failed calm own => simp [Over, own]
  | canceled h => simp [h]
  | timedOut h hexpired => simp [Over, Answered, h, hexpired]
  | _ => simp [Over, Answered]

theorem waiting_iff (course : Course limit moments result steps handed) :
    result = .error .waiting ↔ ¬ Over steps handed ∧ (polls steps).length = moments.length := by
  induction course with
  | pending calm rest ih => simpa [over_pending] using ih
  | awaiting calm reply rest ih => simpa [over_awaiting reply rest.handed_eq] using ih
  | _ => simp [Over, Answered]

/-- The records of a course are in order. -/
theorem orderly (course : Course limit moments result steps handed) :
    Orderly limit moments result steps handed where
  handed_eq := course.handed_eq
  done_last := course.done_last
  closed_last := course.closed_last
  closes_le := course.closes_le
  closes_iff := course.closes_iff
  polls_calm := course.polls_calm
  goes_on := course.goes_on
  ok_iff := course.ok_iff
  poll_failed _ := course.poll_failed
  hung_up := course.hung_up
  of_connectionClosed := course.of_connectionClosed
  canceled_iff := course.canceled_iff
  timedOut_iff := course.timedOut_iff
  waiting_iff := course.waiting_iff

end Course

/-- **Every wait is orderly.**  The records are those of the wait itself: with them it comes to
the same result and leaves channel and handler in the same state as without. -/
theorem run_orderly {channel : Channel σ} (steady : Steady channel)
    (handle : η → Reply → η × ReplyState) (limit : Option Nat) (moments : List Moment) (s : σ)
    (h : η) (hopen : channel.isClosed s = false) :
    ∃ steps handed,
      run (recorded channel) (recordedHandler handle) limit moments (s, []) (h, []) =
        ((run channel handle limit moments s h).1,
          ((run channel handle limit moments s h).2.1, steps),
          ((run channel handle limit moments s h).2.2, handed)) ∧
      Orderly limit moments (run channel handle limit moments s h).1 steps handed := by
  obtain ⟨steps, handed, course, heq⟩ := run_course steady handle limit moments s h [] [] hopen
  exact ⟨steps, handed, by simpa using heq, course.orderly⟩

/-- What polling and closing keep is kept by a wait. -/
theorem run_keeps {channel : Channel σ} {P : σ → Prop} (hpoll : ∀ s, P s → P (channel.poll s).2)
    (hclose : ∀ s, P s → P (channel.close s)) (handle : η → Reply → η × ReplyState)
    (limit : Option Nat) (moments : List Moment) :
    ∀ s h, P s → P (run channel handle limit moments s h).2.1 := by
  induction moments with
  | nil => intro s h hs; exact hs
  | cons moment moments ih =>
      intro s h hs
      have hnext := hpoll s hs
      unfold run
      split
      · exact hs
      split
      · exact hclose s hs
      split
      · exact hclose s hs
      split
      · rename_i heq
        rwa [heq] at hnext
      · rename_i heq
        rw [heq] at hnext
        exact ih _ _ hnext
      · rename_i heq
        rwa [heq] at hnext
      · rename_i heq
        rw [heq] at hnext
        split
        · exact ih _ _ (hclose _ hnext)
        · exact ih _ _ hnext

/-- How a wait can end.  `P` holds of a handler that awaits a reply, `D` of one that is done, and
`Q` of the failures that end a wait. -/
theorem run_ends {channel : Channel σ} (stays : StaysOpen channel)
    {handle : η → Reply → η × ReplyState} {P D : η → Prop} {Q : Failure → Prop}
    (hawaiting : ∀ h reply, P h → (handle h reply).2 = .awaiting → P (handle h reply).1)
    (hdone : ∀ h reply, P h → (handle h reply).2 = .done → D (handle h reply).1)
    (hpoll : ∀ s failure, (channel.poll s).1 = .error failure → Q failure)
    (hown : Q .canceled ∧ Q .timedOut ∧ Q .connectionClosed)
    (limit : Option Nat) (moments : List Moment) :
    ∀ s h, channel.isClosed s = false → P h →
      ((run channel handle limit moments s h).1 = .ok () ∧
        D (run channel handle limit moments s h).2.2) ∨
      (P (run channel handle limit moments s h).2.2 ∧
        ((run channel handle limit moments s h).1 = .error .waiting ∨
          ∃ failure, (run channel handle limit moments s h).1 = .error (.failed failure) ∧
            Q failure)) := by
  induction moments with
  | nil =>
      intro s h hopen hP
      rw [run, if_neg (by simp [hopen])]
      exact Or.inr ⟨hP, Or.inl rfl⟩
  | cons moment moments ih =>
      intro s h hopen hP
      cases stays.turn limit moment hopen with
      | canceled hcanceled =>
          rw [run_canceled hopen hcanceled]
          exact Or.inr ⟨hP, Or.inr ⟨_, rfl, hown.1⟩⟩
      | timedOut hcanceled hexpired =>
          rw [run_timedOut hopen hcanceled hexpired]
          exact Or.inr ⟨hP, Or.inr ⟨_, rfl, hown.2.1⟩⟩
      | @failed calm failure s' hfound =>
          rw [run_failed hopen calm hfound]
          exact Or.inr ⟨hP, Or.inr ⟨_, rfl, hpoll s failure (by rw [hfound])⟩⟩
      | hungUp calm hfound =>
          rw [run_hungUp hopen calm hfound]
          exact Or.inr ⟨hP, Or.inr ⟨_, rfl, hown.2.2⟩⟩
      | @pending calm s' hfound hstays =>
          rw [run_pending hopen calm hfound]
          exact ih s' h hstays hP
      | @replied calm reply s' hfound hstays =>
          obtain ⟨h', state, hhandle⟩ : ∃ h' state, handle h reply = (h', state) := ⟨_, _, rfl⟩
          cases state with
          | done =>
              have hD := hdone h reply hP (by rw [hhandle])
              rw [hhandle] at hD
              rw [run_done hopen calm hfound hhandle (stays.close_closed s')]
              exact Or.inl ⟨rfl, hD⟩
          | awaiting =>
              have hnext := hawaiting h reply hP (by rw [hhandle])
              rw [hhandle] at hnext
              rw [run_awaiting hopen calm hfound hhandle]
              exact ih s' h' hstays hnext

/-- A wait that ends well ends with a handler that is done. -/
theorem run_done_of_ok {channel : Channel σ} (stays : StaysOpen channel)
    {handle : η → Reply → η × ReplyState} {D : η → Prop}
    (hdone : ∀ h reply, (handle h reply).2 = .done → D (handle h reply).1) {limit : Option Nat}
    {moments : List Moment} {s : σ} {h : η} (hopen : channel.isClosed s = false)
    (hok : (run channel handle limit moments s h).1 = .ok ()) :
    D (run channel handle limit moments s h).2.2 := by
  have hends := run_ends (P := fun _ => True) (Q := fun _ => True) stays (fun _ _ _ _ => trivial)
    (fun h reply _ => hdone h reply) (fun _ _ _ => trivial) ⟨trivial, trivial, trivial⟩ limit moments
    s h hopen trivial
  rcases hends with ⟨-, hD⟩ | ⟨-, hwaiting | ⟨failure, hfailed, -⟩⟩
  · exact hD
  · rw [hok] at hwaiting
    cases hwaiting
  · rw [hok] at hfailed
    cases hfailed

/-! ### Connections -/

/-- A connection is closed only by this side, and polling it fails in ways of its own. -/
theorem steady_connection : Steady Connection.channel where
  poll_open c hopen := by
    have hopen : c.closed = false := hopen
    show c.poll.2.closed = false
    rw [Connection.poll_closed, hopen]
  close_closed c := rfl
  failure_own c failure h := by
    rcases Connection.poll_error h with ⟨reason, rfl⟩ | ⟨reason, rfl⟩ <;> simp

/-- A reply is taken, then nothing is there, and then the wait is interrupted after its time was
up: the interruption counts. -/
theorem run_orderly_interrupted :
    let c := Connection.fresh.receive (Utf8.encode "\x7b\x7d\x00")
    let handle := fun (n : Nat) (_ : Reply) => (n + 1, ReplyState.awaiting)
    let moments : List Moment := [⟨false, 0⟩, ⟨false, 1⟩, ⟨true, 9⟩]
    (run Connection.channel handle (some 5) moments c 0).1 = .error (.failed .canceled) ∧
    ∃ steps handed,
      run (recorded Connection.channel) (recordedHandler handle) (some 5) moments (c, []) (0, []) =
        ((run Connection.channel handle (some 5) moments c 0).1,
          ((run Connection.channel handle (some 5) moments c 0).2.1, steps),
          ((run Connection.channel handle (some 5) moments c 0).2.2, handed)) ∧
      Orderly (some 5) moments (run Connection.channel handle (some 5) moments c 0).1 steps
        handed :=
  ⟨rfl, run_orderly steady_connection _ _ _ _ _ rfl⟩

end VarlinkClient.Wait
