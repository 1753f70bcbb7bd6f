/-
What arguments are to the splitter.

The splitter goes by the text of an argument, broken characters and all, the reader of
flags by its bytes.  What the reader takes for a flag, with its value attached or without,
is that flag to the splitter too; and what does not look like a flag is the command to it.
-/
import VarlinkClient.CommandLine.Split
import VarlinkClient.Proofs.CommandLine.Reader
import VarlinkClient.Proofs.Text.Cuts

namespace VarlinkClient

namespace Flag

theorem spelling_injective {flag other : Flag} (h : flag.spelling = other.spelling) :
    flag = other := by
  have hname : flag.name = other.name := List.append_cancel_left h
  revert hname
  cases flag <;> cases other <;> decide

theorem notMem_spelling (flag : Flag) : '=' ∉ flag.spelling := by
  cases flag <;> decide

theorem find?_spelling (flag : Flag) :
    all.find? (fun known => known.spelling = flag.spelling) = some flag := by
  cases flag <;> decide

theorem allowsHyphen_of_isSetting (flag : Flag) (h : flag.isSetting = true) :
    flag.allowsHyphen = false := by
  cases flag <;> first | rfl | cases h

end Flag

namespace ArgumentRole

theorem of_attached (flag : Flag) (value : Bytes) :
    of (Utf8.encode flag.spelling ++ 0x3D :: value) = .flag flag.isSetting false := by
  have hvalue : Utf8.decodeLossy (0x3D :: value) = '=' :: Utf8.decodeLossy value :=
    Utf8.decodeLossy_encodeChar_append '=' value
  have htext : Utf8.decodeLossy (Utf8.encode flag.spelling ++ 0x3D :: value) =
      flag.spelling ++ '=' :: Utf8.decodeLossy value := by
    rw [Utf8.decodeLossy_encode_append, hvalue]
  have hcommand : ¬ ((flag.spelling ++ '=' :: Utf8.decodeLossy value).head? ≠ some '-' ∨
      flag.spelling ++ '=' :: Utf8.decodeLossy value = ['-']) := by
    rintro (hhead | hlone)
    · exact hhead rfl
    · cases hlone
  unfold of
  dsimp only
  rw [htext, if_neg hcommand, Text.upTo_append_mark flag.notMem_spelling, Flag.find?_spelling]
  simp

theorem of_spelling (flag : Flag) :
    of (Utf8.encode flag.spelling) = .flag flag.isSetting flag.takesValue := by
  have hcommand : ¬ (flag.spelling.head? ≠ some '-' ∨ flag.spelling = ['-']) := by
    rintro (hhead | hlone)
    · exact hhead rfl
    · cases hlone
  unfold of
  dsimp only
  rw [Utf8.decodeLossy_encode, if_neg hcommand, Text.upTo_eq_self flag.notMem_spelling,
    Flag.find?_spelling]
  simp [flag.notMem_spelling]

/-- What looks like no flag is the command. -/
theorem of_command {argument : Bytes} (h : FlagReader.looksLikeFlag argument = false) :
    of argument = .command := by
  have hcommand : (Utf8.decodeLossy argument).head? ≠ some '-' ∨
      Utf8.decodeLossy argument = ['-'] := by
    by_cases hhead : (Utf8.decodeLossy argument).head? = some '-'
    · -- A text begins with `-` only if its bytes do: no broken character reads as `-`.
      obtain ⟨t, ht⟩ := List.head?_eq_some_iff.mp hhead
      obtain ⟨rest, rfl, hrest⟩ := Utf8.exists_of_decodeLossy ht (by decide)
      cases rest with
      | nil => exact Or.inr rfl
      | cons b rest => cases h
    · exact Or.inl hhead
  unfold of
  dsimp only
  rw [if_pos hcommand]

end ArgumentRole

/-! ### One argument after another -/

namespace Split

variable {argument : Bytes} {isSetting : Bool}

theorem ofArguments_command (h : ArgumentRole.of argument = .command) (rest : List Bytes) :
    ofArguments (argument :: rest) = ⟨[], [argument], rest.map Utf8.decodeLossy⟩ := by
  rw [ofArguments.eq_def]
  dsimp only
  rw [h]

theorem ofArguments_valued (h : ArgumentRole.of argument = .flag isSetting true) (value : Bytes)
    (rest : List Bytes) :
    ofArguments (argument :: value :: rest) =
      (ofArguments rest).addFlag isSetting [argument, value] := by
  rw [ofArguments.eq_def]
  dsimp only
  rw [h]

theorem ofArguments_bare (h : ArgumentRole.of argument = .flag isSetting false)
    (rest : List Bytes) :
    ofArguments (argument :: rest) = (ofArguments rest).addFlag isSetting [argument] := by
  rw [ofArguments.eq_def]
  dsimp only
  rw [h]

end Split

end VarlinkClient
