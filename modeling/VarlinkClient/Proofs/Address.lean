/-
Which addresses are read back from their textual form.

`text` writes a path as it is, `parse` reads it up to a `;`, takes a leading `@` for
another kind of socket and resolves percent escapes.  So a path is read back when none of
the three strikes, and not otherwise: what is cut off is shorter, and what is resolved
stands for fewer bytes.  Names and hosts that were read are free of what could strike.

The reader is opened once, by `parse_eq_ok`, `parseUnix_eq_ok_iff` and `parseTcp_eq_ok_iff`.
-/
import VarlinkClient.Address.Encoding
import VarlinkClient.Proofs.Json.Strings
import VarlinkClient.Proofs.Text.Cuts
import VarlinkClient.Proofs.Text.Percent

namespace VarlinkClient.Address

/-! ### What the reader accepts -/

theorem parse_unix (rest : Text) : parse ("unix:" ++ rest) = parseUnix ("unix:" ++ rest) rest := by
  rw [parse, Text.stripStart_append]

theorem parse_tcp (rest : Text) : parse ("tcp:" ++ rest) = parseTcp ("tcp:" ++ rest) rest := by
  have hunix : Text.stripStart "unix:" ("tcp:" ++ rest) = none := rfl
  rw [parse, hunix]
  dsimp only
  rw [Text.stripStart_append]

/-- Only texts with one of two schemes are addresses. -/
theorem parse_eq_ok {t : Text} {a : Address} (h : parse t = .ok a) :
    (∃ rest, t = "unix:" ++ rest ∧ parseUnix t rest = .ok a) ∨
      ∃ rest, t = "tcp:" ++ rest ∧ parseTcp t rest = .ok a := by
  unfold parse at h
  split at h
  · rename_i rest hrest
    exact Or.inl ⟨rest, Text.eq_of_stripStart hrest, h⟩
  split at h
  · rename_i rest hrest
    exact Or.inr ⟨rest, Text.eq_of_stripStart hrest, h⟩
  split at h <;> cases h

/-- What stands up to a `;` is a name after `@`, or a path with escapes. -/
theorem parseUnix_eq_ok_iff {input rest : Text} {a : Address} :
    parseUnix input rest = .ok a ↔
      (∃ name, name ≠ [] ∧ Text.upTo ';' rest = '@' :: name ∧ a = .abstract name) ∨
      ∃ path, (Text.upTo ';' rest ≠ [] ∧ (Text.upTo ';' rest).head? ≠ some '@') ∧
        Percent.decode? (Text.upTo ';' rest) = some path ∧ a = .unix path := by
  unfold parseUnix
  generalize Text.upTo ';' rest = location
  split
  · simp
  · simp
  · rename_i name hname
    simp [show name ≠ [] from fun hnil => hname (by rw [hnil]), eq_comm]
  · rename_i hnil _ hname
    have hhead : location.head? ≠ some '@' := by
      intro hhead
      obtain ⟨name, hlocation⟩ := List.head?_eq_some_iff.mp hhead
      exact hname name hlocation
    have hno : ∀ name, location ≠ '@' :: name := hname
    cases Percent.decode? location with
    | none => simp [hno]
    | some path => simp [hno, hhead, show location ≠ [] from hnil, eq_comm]

/-- A host without the brackets that stand around it. -/
def stripBrackets (host : Text) : Text :=
  Text.trimEnd (· = ']') (host.dropWhile (· = '['))

theorem parseTcp_eq_ok_iff {input rest : Text} {a : Address} :
    parseTcp input rest = .ok a ↔
      '/' ∉ rest ∧ ∃ before digits port, Text.splitLast ':' rest = some (before, digits) ∧
        stripBrackets before ≠ [] ∧ port? digits = some port ∧
        a = .tcp (stripBrackets before) port := by
  unfold parseTcp stripBrackets
  constructor
  · intro h
    split at h
    · cases h
    rename_i hslash
    split at h
    · cases h
    rename_i before digits hsplit
    dsimp only at h
    split at h
    · cases h
    rename_i hhost
    split at h
    · rename_i port hport
      cases h
      exact ⟨hslash, before, digits, port, hsplit, hhost, hport, rfl⟩
    · cases h
  · rintro ⟨hslash, before, digits, port, hsplit, hhost, hport, rfl⟩
    rw [if_neg hslash, hsplit]
    dsimp only
    rw [if_neg hhost, hport]

/-! ### What comes out of it -/

/-- A host that has nothing the reader would take away or stumble over. -/
def IsPlainHost (host : Text) : Prop :=
  host ≠ [] ∧ '/' ∉ host ∧ host.head? ≠ some '[' ∧ host.getLast? ≠ some ']'

/-- Nothing but brackets at the ends is taken away. -/
theorem exists_brackets (host : Text) : ∃ opening closing,
    host = opening ++ stripBrackets host ++ closing ∧
      (∀ c ∈ opening, c = '[') ∧ ∀ c ∈ closing, c = ']' := by
  obtain ⟨closing, hclosing, hdrop⟩ :=
    Text.exists_trimEnd_append (· = ']') (host.dropWhile fun c => decide (c = '['))
  refine ⟨host.takeWhile fun c => decide (c = '['), closing, ?_, ?_, ?_⟩
  · rw [List.append_assoc, stripBrackets, ← hclosing, List.takeWhile_append_dropWhile]
  · intro c hc
    simpa using List.mem_takeWhile_imp hc
  · intro c hc
    simpa using hdrop c hc

theorem mem_of_mem_stripBrackets {c : Char} {host : Text} (h : c ∈ stripBrackets host) :
    c ∈ host := by
  obtain ⟨opening, closing, hhost, -, -⟩ := exists_brackets host
  rw [hhost]
  exact List.mem_append_left _ (List.mem_append_right _ h)

theorem head?_stripBrackets (host : Text) : (stripBrackets host).head? ≠ some '[' := by
  intro hhead
  have hne : stripBrackets host ≠ [] := List.ne_nil_of_mem (List.mem_of_head? hhead)
  have hnot := List.head?_dropWhile_not (fun c => decide (c = '[')) host
  rw [stripBrackets, Text.head?_trimEnd hne] at hhead
  rw [hhead] at hnot
  simp at hnot

theorem getLast?_stripBrackets (host : Text) : (stripBrackets host).getLast? ≠ some ']' := by
  intro hlast
  have hnot := Text.getLast?_trimEnd hlast
  simp at hnot

/-- What is left of a host has no bracket at either end. -/
theorem isPlainHost_stripBrackets {host : Text} (hne : stripBrackets host ≠ [])
    (hslash : '/' ∉ host) : IsPlainHost (stripBrackets host) :=
  ⟨hne, fun hmem => hslash (mem_of_mem_stripBrackets hmem), head?_stripBrackets host,
    getLast?_stripBrackets host⟩

/-- What was read as a path had its escapes resolved. -/
theorem exists_of_parse_unix {t path : Text} (h : parse t = .ok (.unix path)) :
    ∃ rest, t = "unix:" ++ rest ∧
      (Text.upTo ';' rest ≠ [] ∧ (Text.upTo ';' rest).head? ≠ some '@') ∧
      Percent.decode? (Text.upTo ';' rest) = some path := by
  rcases parse_eq_ok h with ⟨rest, hrest, hunix⟩ | ⟨rest, -, htcp⟩
  · rcases parseUnix_eq_ok_iff.mp hunix with ⟨name, -, -, heq⟩ | ⟨_, hlocation, hdecode, heq⟩
    · cases heq
    · cases heq
      exact ⟨rest, hrest, hlocation, hdecode⟩
  · obtain ⟨-, before, digits, port, -, -, -, heq⟩ := parseTcp_eq_ok_iff.mp htcp
    cases heq

theorem ne_nil_of_parse_unix {t path : Text} (h : parse t = .ok (.unix path)) : path ≠ [] := by
  obtain ⟨rest, -, ⟨hne, -⟩, hdecode⟩ := exists_of_parse_unix h
  intro hnil
  rw [Percent.decode?_eq_some_iff, hnil] at hdecode
  exact Percent.decodeBytes_ne_nil hne hdecode

theorem plain_of_parse_abstract {t name : Text} (h : parse t = .ok (.abstract name)) :
    name ≠ [] ∧ ';' ∉ name := by
  rcases parse_eq_ok h with ⟨rest, -, hunix⟩ | ⟨rest, -, htcp⟩
  · rcases parseUnix_eq_ok_iff.mp hunix with ⟨name', hne, hname, heq⟩ | ⟨path, -, -, heq⟩
    · cases heq
      refine ⟨hne, fun hmem => Text.notMem_upTo ';' rest ?_⟩
      rw [hname]
      exact List.mem_cons_of_mem _ hmem
    · cases heq
  · obtain ⟨-, before, digits, port, -, -, -, heq⟩ := parseTcp_eq_ok_iff.mp htcp
    cases heq

theorem isPlainHost_of_parse_tcp {t host : Text} {port : UInt16}
    (h : parse t = .ok (.tcp host port)) : IsPlainHost host := by
  rcases parse_eq_ok h with ⟨rest, -, hunix⟩ | ⟨rest, -, htcp⟩
  · rcases parseUnix_eq_ok_iff.mp hunix with ⟨name, -, -, heq⟩ | ⟨path, -, -, heq⟩ <;> cases heq
  · obtain ⟨hslash, before, digits, port', hsplit, hhost, -, heq⟩ := parseTcp_eq_ok_iff.mp htcp
    cases heq
    refine isPlainHost_stripBrackets hhost fun hmem => hslash ?_
    rw [Text.eq_of_splitLast hsplit]
    exact List.mem_append_left _ hmem

/-! ### Reading what was written -/

/-- Nothing strikes at the path: it is no name of the other kind, it is not cut, and none
of it is resolved. -/
def IsPlainPath (path : Text) : Prop :=
  path.head? ≠ some '@' ∧ ';' ∉ path ∧ ¬ Percent.HasEscape path

/-- What is left up to a mark stands for the whole only when the mark is missing. -/
private theorem notMem_of_decode?_upTo {path : Text}
    (h : Percent.decode? (Text.upTo ';' path) = some path) : ';' ∉ path := by
  -- The mark that is cut off takes bytes, and resolving what is left adds none.
  intro hmem
  obtain ⟨rest, hrest⟩ := Text.exists_upTo_append hmem
  have hle := Percent.length_decodeBytes_le (Text.upTo ';' path)
  have hpos := Utf8.length_encodeChar_pos ';'
  rw [Percent.decode?_eq_some_iff.mp h] at hle
  have hlength := congrArg (fun t => (Utf8.encode t).length) hrest
  simp only [Utf8.encode_append, Utf8.encode_cons, List.length_append] at hlength
  omega

theorem parse_text_unix_iff {path : Text} :
    parse (unix path).text = .ok (unix path) ↔ path ≠ [] ∧ IsPlainPath path := by
  have htext : (unix path).text = "unix:" ++ path := rfl
  rw [htext, parse_unix, parseUnix_eq_ok_iff]
  constructor
  · rintro (⟨name, -, -, heq⟩ | ⟨path', ⟨hne, hhead⟩, hdecode, heq⟩)
    · cases heq
    · cases heq
      have hcut := notMem_of_decode?_upTo hdecode
      rw [Text.upTo_eq_self hcut] at hne hhead hdecode
      exact ⟨hne, hhead, hcut, Percent.decode?_eq_self_iff.mp hdecode⟩
  · rintro ⟨hne, hhead, hcut, hescape⟩
    rw [Text.upTo_eq_self hcut]
    exact Or.inr ⟨path, ⟨hne, hhead⟩, Percent.decode?_eq_self_iff.mpr hescape, rfl⟩

theorem parse_text_abstract_iff {name : Text} :
    parse (abstract name).text = .ok (abstract name) ↔ name ≠ [] ∧ ';' ∉ name := by
  refine ⟨plain_of_parse_abstract, fun ⟨hne, hmem⟩ => ?_⟩
  have htext : (abstract name).text = "unix:" ++ '@' :: name := rfl
  have hat : ';' ≠ '@' := by decide
  rw [htext, parse_unix, parseUnix_eq_ok_iff]
  exact Or.inl ⟨name, hne, Text.upTo_eq_self (by simp [hat, hmem]), rfl⟩

theorem stripBrackets_eq_self {host : Text} (hhead : host.head? ≠ some '[')
    (hlast : host.getLast? ≠ some ']') : stripBrackets host = host := by
  have hfront : host.dropWhile (fun c => decide (c = '[')) = host := by
    cases host with
    | nil => rfl
    | cons c rest =>
        have hc : c ≠ '[' := fun heq => hhead (by rw [heq]; rfl)
        exact List.dropWhile_cons_of_neg (by simpa using hc)
  rw [stripBrackets, hfront]
  refine Text.trimEnd_eq_self fun c hc => ?_
  have hne : c ≠ ']' := fun heq => hlast (by rw [hc, heq])
  simpa using hne

theorem stripBrackets_cons (host : Text) : stripBrackets ('[' :: host) = stripBrackets host := by
  rw [stripBrackets, List.dropWhile_cons_of_pos (by simp), stripBrackets]

theorem stripBrackets_concat (host : Text) :
    stripBrackets (host ++ [']']) = stripBrackets host := by
  rw [stripBrackets, stripBrackets, List.dropWhile_append]
  split
  · rename_i hnil
    rw [List.isEmpty_iff.mp hnil]
    rfl
  · exact Text.trimEnd_append_singleton (by simp) _

theorem stripBrackets_brackets {host : Text} (h : IsPlainHost host) :
    stripBrackets ('[' :: (host ++ [']'])) = host := by
  rw [stripBrackets_cons, stripBrackets_concat, stripBrackets_eq_self h.2.2.1 h.2.2.2]

theorem port?_ofNat (port : UInt16) : port? (Text.ofNat port.toNat) = some port := by
  have hlt : port.toNat < 65536 := port.toNat_lt
  rw [port?, Text.natural?_ofNat]
  dsimp only
  rw [if_pos hlt, UInt16.ofNat_toNat]

/-- A host and a port are found on both sides of the last `:`. -/
theorem parse_tcp_port {before host digits : Text} {port : UInt16} (hslash : '/' ∉ before)
    (hstrip : stripBrackets before = host) (hne : host ≠ [])
    (hdigits : '/' ∉ digits ∧ ':' ∉ digits) (hport : port? digits = some port) :
    parse ("tcp:" ++ (before ++ ':' :: digits)) = .ok (tcp host port) := by
  rw [parse_tcp, parseTcp_eq_ok_iff]
  refine ⟨by simp [hslash, hdigits.1], before, digits, port,
    Text.splitLast_append hdigits.2 before, ?_, hport, ?_⟩
  · rw [hstrip]
    exact hne
  · rw [hstrip]

theorem parse_text_tcp_iff {host : Text} {port : UInt16} :
    parse (tcp host port).text = .ok (tcp host port) ↔ IsPlainHost host := by
  refine ⟨isPlainHost_of_parse_tcp, fun h => ?_⟩
  have hplain := h
  obtain ⟨hne, hslash, hhead, hlast⟩ := h
  have hdigits : '/' ∉ Text.ofNat port.toNat ∧ ':' ∉ Text.ofNat port.toNat :=
    ⟨Text.notMem_ofNat (by decide) _, Text.notMem_ofNat (by decide) _⟩
  -- Only a host with a `:` is written in brackets.
  by_cases hcolon : ':' ∈ host
  · have htext : (tcp host port).text =
        "tcp:" ++ ('[' :: (host ++ [']']) ++ ':' :: Text.ofNat port.toNat) := by
      unfold text
      simp [hcolon]
    rw [htext]
    exact parse_tcp_port (by simp [hslash]) (stripBrackets_brackets hplain) hne hdigits
      (port?_ofNat port)
  · have htext : (tcp host port).text = "tcp:" ++ (host ++ ':' :: Text.ofNat port.toNat) := by
      unfold text
      simp [hcolon]
    rw [htext]
    exact parse_tcp_port hslash (stripBrackets_eq_self hhead hlast) hne hdigits (port?_ofNat port)

/-! ### Round trips -/

/-- The JSON form of an address says what its textual form says. -/
theorem decode_encode (a : Address) :
    decode a.encode = (parse a.text).mapError AddressError.message := by
  have hread : Json.readText (Utf8.encode a.encode) = .ok (a.text, []) := by
    have h := Json.readText_quote a.text []
    rwa [List.append_nil] at h
  rw [decode, hread]
  dsimp only
  cases parse a.text with
  | error error => rfl
  | ok b => rfl

/-- An address that is read back once it was read: what does not name a path always is. -/
def IsPlain : Address → Prop
  | unix path => IsPlainPath path
  | abstract _ | tcp _ _ => True

theorem parse_text_iff_of_parse {t : Text} {a : Address} (h : parse t = .ok a) :
    parse a.text = .ok a ↔ a.IsPlain := by
  cases a with
  | unix path => exact parse_text_unix_iff.trans (and_iff_right (ne_nil_of_parse_unix h))
  | abstract name =>
      exact iff_of_true (parse_text_abstract_iff.mpr (plain_of_parse_abstract h)) trivial
  | tcp host port =>
      exact iff_of_true (parse_text_tcp_iff.mpr (isPlainHost_of_parse_tcp h)) trivial

theorem mapError_eq_ok_iff {ε ε' α : Type} {f : ε → ε'} {x : Except ε α} {a : α} :
    x.mapError f = .ok a ↔ x = .ok a := by
  cases x with
  | error e => simp [Except.mapError]
  | ok b => simp [Except.mapError]

/-- **An address that was read is read back**, from its textual form and from JSON alike,
exactly when no path in it begins with `@` or has a `;` or an escape. -/
theorem round_trips_iff {t : Text} {a : Address} (h : parse t = .ok a) :
    (parse a.text = .ok a ∧ decode a.encode = .ok a) ↔ a.IsPlain := by
  rw [decode_encode, mapError_eq_ok_iff, and_self]
  exact parse_text_iff_of_parse h

/-- The escape of a `%` leaves an escape in the path. -/
theorem round_trips_iff_twice_escaped :
    parse "unix:/a%2525" = .ok (.unix "/a%25") ∧
      ¬ (parse (text (.unix "/a%25")) = .ok (.unix "/a%25") ∧
        decode (encode (.unix "/a%25")) = .ok (.unix "/a%25")) := by
  have hread : parse "unix:/a%2525" = .ok (.unix "/a%25") := by decide
  refine ⟨hread, fun h => ?_⟩
  obtain ⟨-, -, hescape⟩ := (round_trips_iff hread).mp h
  exact hescape ⟨"/a", '2', '5', [], rfl, by decide⟩

/-- Not every address is read back: another path comes out of this one. -/
theorem exists_not_round_trips :
    ¬ ∀ (t : Text) (a : Address), parse t = .ok a →
      parse a.text = .ok a ∧ decode a.encode = .ok a := by
  intro h
  have htext := (h "unix:/a%2525" (.unix "/a%25") (by decide)).1
  have hother : parse (text (.unix "/a%25")) = .ok (.unix "/a%") := by decide
  rw [hother] at htext
  cases htext

/-- What is written without `%` is always read back. -/
theorem isPlain_of_notMem {t : Text} {a : Address} (h : parse t = .ok a) (ht : '%' ∉ t) :
    a.IsPlain := by
  cases a with
  | abstract name => trivial
  | tcp host port => trivial
  | unix path =>
      obtain ⟨rest, rfl, hlocation, hdecode⟩ := exists_of_parse_unix h
      have hnone : '%' ∉ Text.upTo ';' rest := by
        intro hmem
        exact ht (List.mem_append_right _ (List.takeWhile_subset _ hmem))
      have hescape : ¬ Percent.HasEscape (Text.upTo ';' rest) := by
        intro hescape
        exact hnone (Percent.hasEscape_of_mem hescape)
      rw [Percent.decode?_eq_self_iff.mpr hescape] at hdecode
      cases hdecode
      exact ⟨hlocation.2, Text.notMem_upTo ';' rest, hescape⟩

end VarlinkClient.Address
