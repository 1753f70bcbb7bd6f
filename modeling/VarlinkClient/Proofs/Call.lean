/-
Calls on the wire.

The frame of a call is the text of a JSON object and a NUL.  That text has no control
characters, so the NUL that ends a frame is the only one in it: calls that are sent one after
another are told apart again, and nothing else stands between them.  What a frame says is the
call: its method, its parameters if it has any, and whether more replies are welcome.
-/
import VarlinkClient.Proofs.Connection.Frames
import VarlinkClient.Proofs.Json.Compact

namespace VarlinkClient

/-- The connection after these calls were sent over it. -/
def Connection.sendAll (c : Connection) (calls : List Call) : Connection :=
  calls.foldl (fun c call => (c.send call).2) c

namespace Call

/-! ### One call -/

/-- A frame ends in its only NUL. -/
theorem exists_frame (call : Call) :
    call.encode = Utf8.encode call.toJson.text ++ [0] ∧
      (0 : UInt8) ∉ Utf8.encode call.toJson.text := by
  refine ⟨rfl, fun hmem => ?_⟩
  have hnul : '\x00' ∈ call.toJson.text := Utf8.mem_of_mem_encode (c := '\x00') (by decide) hmem
  exact call.toJson.isClean_text.notMem (by decide) hnul

/-- The object of a call is nested one deeper than its parameters. -/
theorem isSound_toJson {call : Call} {depth : Nat}
    (h : ∀ ps ∈ call.parameters, (Json.Value.object ps).isSound depth = true) :
    call.toJson.isSound (depth + 1) = true := by
  obtain ⟨method, parameters, more⟩ := call
  cases parameters with
  | none => cases more <;> simp [toJson, members, Json.Value.isSound]
  | some ps =>
      have hps : (Json.Value.object ps).isSound depth = true := h ps rfl
      cases more <;> simp [toJson, members, Json.Value.isSound, hps]

/-! ### Calls one after another -/

/-- Calls are sent one behind the other, as long as neither side has hung up. -/
theorem sent_sendAll (calls : List Call) : ∀ c : Connection, c.closed = false → c.far = .open →
    (c.sendAll calls).sent = c.sent ++ calls.flatMap encode := by
  induction calls with
  | nil =>
      intro c _ _
      simp [Connection.sendAll]
  | cons call calls ih =>
      intro c hclosed hfar
      have hsend : (c.send call).2 = { c with sent := c.sent ++ call.encode } := by
        simp [Connection.send, hclosed, hfar]
      have hstep : c.sendAll (call :: calls) = (c.send call).2.sendAll calls := rfl
      rw [hstep, hsend, ih { c with sent := c.sent ++ call.encode } hclosed hfar,
        List.flatMap_cons, List.append_assoc]

theorem flatMap_encode (calls : List Call) :
    calls.flatMap encode =
      Connection.wire (calls.map fun call => Utf8.encode call.toJson.text) := by
  rw [Connection.wire, List.flatMap_map]
  rfl

/-- **Calls are told apart, and each is what its frame says.**  What is sent over a connection
are the frames of the calls.  Cut after every NUL it gives these frames, in order, and nothing is
left over.  In a frame the NUL stands at the end and nowhere else, and what stands before it reads,
when the numbers of the parameters are whole and containers are nested at most 126 deep in them,
as an object with the method, the parameters when there are any and `more` when it is asked for, in
this order and with nothing else. -/
theorem frames_sendAll (calls : List Call) :
    let sent := (Connection.fresh.sendAll calls).sent
    sent = calls.flatMap encode ∧
      (Connection.frames sent).map (· ++ [0]) = calls.map encode ∧
      Connection.unfinished sent = [] ∧
      ∀ call ∈ calls, ∃ frame, call.encode = frame ++ [0] ∧ 0 ∉ frame ∧
        ((∀ ps ∈ call.parameters, (Json.Value.object ps).isSound 126 = true) →
          Json.read frame = .ok (.object (
            ("method", .string call.method) ::
              ((call.parameters.map fun ps => ("parameters".toList, .object ps)).toList ++
                if call.more then [("more".toList, .bool true)] else [])))) := by
  intro sent
  have hsent : sent = calls.flatMap encode := sent_sendAll calls .fresh rfl rfl
  have hfree : ∀ frame ∈ calls.map fun call => Utf8.encode call.toJson.text, 0 ∉ frame := by
    intro frame hframe
    obtain ⟨call, -, rfl⟩ := List.mem_map.mp hframe
    exact call.exists_frame.2
  refine ⟨hsent, ?_, ?_, ?_⟩
  · have hframes := Connection.frames_wire hfree []
    rw [List.append_nil, show Connection.frames [] = [] from rfl, List.append_nil] at hframes
    rw [hsent, flatMap_encode, hframes, List.map_map]
    rfl
  · have hrest := Connection.unfinished_wire
      (calls.map fun call => Utf8.encode call.toJson.text) []
    rw [List.append_nil] at hrest
    rw [hsent, flatMap_encode, hrest]
    rfl
  · intro call _
    refine ⟨_, call.exists_frame.1, call.exists_frame.2, fun hps => ?_⟩
    rw [Json.read_text (isSound_toJson hps)]
    obtain ⟨method, parameters, more⟩ := call
    cases parameters <;> cases more <;> rfl

/-- Three calls.  The first has NULs and quotes in its method, in a key and in a string, containers
in containers and the least whole number; the second has neither a method nor parameters; the
number in the third is not whole. -/
theorem frames_sendAll_nul :
    let ps : Json.Members :=
      [("\x00", .array [.object [("k\n\"", .string "\x00\x1f\\")],
        .number (.negative ⟨9223372036854775807, by decide⟩)]), ("", .object [])]
    let first : Call := ⟨"a.B\x00\"", some ps, true⟩
    let second : Call := ⟨[], none, false⟩
    let third : Call := ⟨"c.D", some [("least", .number (.real ⟨true, ⟨1, by decide⟩⟩))], false⟩
    let sent := (Connection.fresh.sendAll [first, second, third]).sent
    first ∈ [first, second, third] ∧
      (∀ members ∈ some ps, (Json.Value.object members).isSound 126 = true) ∧
      (Connection.frames sent).map (· ++ [0]) = [first.encode, second.encode, third.encode] ∧
      Connection.unfinished sent = [] ∧
      ∃ frame, first.encode = frame ++ [0] ∧ 0 ∉ frame ∧
        Json.read frame = .ok (.object [("method", .string "a.B\x00\""), ("parameters", .object ps),
          ("more", .bool true)]) := by
  intro ps first second third sent
  have hfirst : first ∈ [first, second, third] := by simp
  have hsound : ∀ members ∈ some ps, (Json.Value.object members).isSound 126 = true := by
    rintro members ⟨⟩
    decide
  obtain ⟨-, hframes, hrest, hcalls⟩ := frames_sendAll [first, second, third]
  obtain ⟨frame, hencode, hfree, hread⟩ := hcalls first hfirst
  exact ⟨hfirst, hsound, hframes, hrest, frame, hencode, hfree, hread hsound⟩

end Call

end VarlinkClient
