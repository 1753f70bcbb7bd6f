/-
The language of addresses.

`Denotes` says by three rules, one for each kind of address, which texts stand for which
addresses; `parse` reads exactly these.  The rules know nothing of the order in which the
reader cuts, strips and decodes, and each of them is met by its own part of the reader.

Which paths have a text is a question to the rules alone.  A path is written character by
character, each as itself or as escapes, and every path is read back from such a text when no
character stands as itself that the reader would take for something else.
-/
import VarlinkClient.Proofs.Address

namespace VarlinkClient.Address

/-! ### The rules -/

/-- What may follow the location of a Unix socket: nothing, or `;` and anything. -/
def IsListenerPart (t : Text) : Prop :=
  t = [] ∨ ∃ more, t = ';' :: more

/-- The host is what is left when the opening brackets before it and the closing ones behind it
are taken away, any number of either. -/
def IsHostOf (host written : Text) : Prop :=
  host ≠ [] ∧ host.head? ≠ some '[' ∧ host.getLast? ≠ some ']' ∧
    ∃ opening closing, written = opening ++ host ++ closing ∧
      (∀ c ∈ opening, c = '[') ∧ ∀ c ∈ closing, c = ']'

/-- The port in decimal: an optional `+` and one or more digits, leading zeros allowed, that are
worth the port. -/
def IsPortOf (port : UInt16) (t : Text) : Prop :=
  ∃ sign digits, t = sign ++ digits ∧ (sign = [] ∨ sign = ['+']) ∧ digits ≠ [] ∧
    (∀ c ∈ digits, c.isDigit = true) ∧
    Nat.ofDigits 10 (digits.reverse.map Text.digitValue) = port.toNat

/-- The text stands for the address. -/
inductive Denotes : Text → Address → Prop
  | abstract {name rest : Text} (hname : name ≠ [] ∧ ';' ∉ name) (hrest : IsListenerPart rest) :
      Denotes ("unix:@" ++ name ++ rest) (.abstract name)
  | unix {location path rest : Text}
      (hlocation : location ≠ [] ∧ ';' ∉ location ∧ location.head? ≠ some '@')
      (hpath : Percent.StandsFor location (Utf8.encode path)) (hrest : IsListenerPart rest) :
      Denotes ("unix:" ++ location ++ rest) (.unix path)
  | tcp {written host digits : Text} {port : UInt16} (hslash : '/' ∉ written)
      (hhost : IsHostOf host written) (hport : IsPortOf port digits) :
      Denotes ("tcp:" ++ written ++ ":" ++ digits) (.tcp host port)

/-! ### Locations -/

theorem upTo_location {location rest : Text} (hfree : ';' ∉ location)
    (hrest : IsListenerPart rest) : Text.upTo ';' (location ++ rest) = location := by
  rcases hrest with rfl | ⟨more, rfl⟩
  · rw [List.append_nil, Text.upTo_eq_self hfree]
  · exact Text.upTo_append_mark hfree more

theorem exists_isListenerPart (t : Text) :
    ∃ rest, IsListenerPart rest ∧ t = Text.upTo ';' t ++ rest := by
  by_cases hmem : ';' ∈ t
  · obtain ⟨more, hmore⟩ := Text.exists_upTo_append hmem
    exact ⟨';' :: more, Or.inr ⟨more, rfl⟩, hmore⟩
  · exact ⟨[], Or.inl rfl, by rw [Text.upTo_eq_self hmem, List.append_nil]⟩

/-- A name or a path is what the reader of a Unix address finds in front of the first `;`. -/
theorem denotes_of_parseUnix {input rest : Text} {a : Address}
    (h : parseUnix input rest = .ok a) : Denotes ("unix:" ++ rest) a := by
  obtain ⟨params, hparams, hrest⟩ := exists_isListenerPart rest
  have hfree := Text.notMem_upTo ';' rest
  -- The location is what stands in front of the first `;`, and the rules ask for no more of it
  -- than the reader has looked at.
  rcases parseUnix_eq_ok_iff.mp h with ⟨name, hne, hname, rfl⟩ | ⟨path, ⟨hne, hat⟩, hpath, rfl⟩
  · rw [hname] at hfree hrest
    rw [hrest]
    exact .abstract ⟨hne, fun hmem => hfree (List.mem_cons_of_mem _ hmem)⟩ hparams
  · rw [hrest, ← List.append_assoc]
    exact .unix ⟨hne, hfree, hat⟩ (Percent.decode?_eq_some_iff_standsFor.mp hpath) hparams

theorem parse_unix_abstract {name rest : Text} (hname : name ≠ [] ∧ ';' ∉ name)
    (hrest : IsListenerPart rest) : parse ("unix:@" ++ name ++ rest) = .ok (.abstract name) := by
  have hat : ';' ≠ '@' := by decide
  have hlocation : Text.upTo ';' ('@' :: (name ++ rest)) = '@' :: name := by
    rw [← List.cons_append]
    exact upTo_location (by simp [hat, hname.2]) hrest
  have htext : "unix:@" ++ name ++ rest = "unix:" ++ '@' :: (name ++ rest) := by simp
  rw [htext, parse_unix, parseUnix_eq_ok_iff]
  exact Or.inl ⟨name, hname.1, hlocation, rfl⟩

theorem parse_unix_path {location path rest : Text}
    (hlocation : location ≠ [] ∧ ';' ∉ location ∧ location.head? ≠ some '@')
    (hpath : Percent.StandsFor location (Utf8.encode path)) (hrest : IsListenerPart rest) :
    parse ("unix:" ++ location ++ rest) = .ok (.unix path) := by
  obtain ⟨hne, hfree, hat⟩ := hlocation
  rw [List.append_assoc, parse_unix, parseUnix_eq_ok_iff, upTo_location hfree hrest]
  exact Or.inr ⟨path, ⟨hne, hat⟩, Percent.decode?_eq_some_iff_standsFor.mpr hpath, rfl⟩

/-! ### Hosts and ports -/

theorem isHostOf_stripBrackets {written : Text} (h : stripBrackets written ≠ []) :
    IsHostOf (stripBrackets written) written :=
  ⟨h, head?_stripBrackets written, getLast?_stripBrackets written, exists_brackets written⟩

theorem stripBrackets_opening {opening : Text} (h : ∀ c ∈ opening, c = '[') (host : Text) :
    stripBrackets (opening ++ host) = stripBrackets host := by
  induction opening with
  | nil => rfl
  | cons c opening ih =>
      rw [h c List.mem_cons_self, List.cons_append, stripBrackets_cons]
      exact ih fun d hd => h d (List.mem_cons_of_mem c hd)

theorem stripBrackets_closing {closing : Text} (h : ∀ c ∈ closing, c = ']') (host : Text) :
    stripBrackets (host ++ closing) = stripBrackets host := by
  induction closing generalizing host with
  | nil => rw [List.append_nil]
  | cons c closing ih =>
      have hrest := ih (fun d hd => h d (List.mem_cons_of_mem c hd)) (host ++ [c])
      rw [List.append_cons, hrest, h c List.mem_cons_self, stripBrackets_concat]

theorem IsHostOf.stripBrackets_eq {host written : Text} (h : IsHostOf host written) :
    stripBrackets written = host := by
  obtain ⟨-, hhead, hlast, opening, closing, rfl, hopening, hclosing⟩ := h
  rw [stripBrackets_closing hclosing, stripBrackets_opening hopening,
    stripBrackets_eq_self hhead hlast]

/-- A port is a number that fits. -/
theorem port?_eq_some_iff_natural {t : Text} {port : UInt16} :
    port? t = some port ↔ Text.natural? t = some port.toNat := by
  have hlt : port.toNat < 65536 := port.toNat_lt
  unfold port?
  cases Text.natural? t with
  | none => simp
  | some n =>
      dsimp only
      rw [Option.some.injEq]
      constructor
      · intro h
        split at h
        · rename_i hn
          cases h
          exact (UInt16.toNat_ofNat_of_lt' hn).symm
        · cases h
      · rintro rfl
        rw [if_pos hlt, UInt16.ofNat_toNat]

theorem port?_eq_some_iff {t : Text} {port : UInt16} : port? t = some port ↔ IsPortOf port t := by
  rw [port?_eq_some_iff_natural, Text.natural?_eq_some_iff]
  simp only [Text.digits?_eq_some_iff, Text.natOfDigits_eq_ofDigits]
  rfl

theorem denotes_of_parseTcp {input rest : Text} {a : Address} (h : parseTcp input rest = .ok a) :
    Denotes ("tcp:" ++ rest) a := by
  obtain ⟨hslash, written, digits, port, hsplit, hhost, hport, rfl⟩ := parseTcp_eq_ok_iff.mp h
  have hrest := Text.eq_of_splitLast hsplit
  have hfree : '/' ∉ written := by
    intro hmem
    apply hslash
    rw [hrest]
    exact List.mem_append_left _ hmem
  have htext : "tcp:" ++ rest = "tcp:" ++ written ++ ":" ++ digits := by simp [hrest]
  rw [htext]
  exact .tcp hfree (isHostOf_stripBrackets hhost) (port?_eq_some_iff.mp hport)

/-- A port is made of digits, and of a sign perhaps. -/
theorem IsPortOf.notMem {port : UInt16} {t : Text} (h : IsPortOf port t) {mark : Char}
    (hdigit : mark.isDigit = false) (hplus : mark ≠ '+') : mark ∉ t := by
  obtain ⟨sign, digits, rfl, hsign, -, hall, -⟩ := h
  intro hmem
  rcases List.mem_append.mp hmem with hmem | hmem
  · rcases hsign with rfl | rfl
    · cases hmem
    · exact hplus (List.mem_singleton.mp hmem)
  · rw [hall mark hmem] at hdigit
    cases hdigit

theorem parse_tcp_host {written host digits : Text} {port : UInt16} (hslash : '/' ∉ written)
    (hhost : IsHostOf host written) (hport : IsPortOf port digits) :
    parse ("tcp:" ++ written ++ ":" ++ digits) = .ok (.tcp host port) := by
  have hdigits : '/' ∉ digits ∧ ':' ∉ digits :=
    ⟨hport.notMem (by decide) (by decide), hport.notMem (by decide) (by decide)⟩
  have htext : "tcp:" ++ written ++ ":" ++ digits = "tcp:" ++ (written ++ ':' :: digits) := by simp
  rw [htext]
  exact parse_tcp_port hslash hhost.stripBrackets_eq hhost.1 hdigits (port?_eq_some_iff.mpr hport)

/-! ### The language -/

theorem Denotes.parse_eq {t : Text} {a : Address} (h : Denotes t a) : parse t = .ok a := by
  cases h with
  | abstract hname hrest => exact parse_unix_abstract hname hrest
  | unix hlocation hpath hrest => exact parse_unix_path hlocation hpath hrest
  | tcp hslash hhost hport => exact parse_tcp_host hslash hhost hport

/-- **A text is read as an address exactly when it stands for that address.** -/
theorem parse_eq_ok_iff_denotes {t : Text} {a : Address} : parse t = .ok a ↔ Denotes t a := by
  refine ⟨fun h => ?_, Denotes.parse_eq⟩
  rcases parse_eq_ok h with ⟨rest, rfl, hunix⟩ | ⟨rest, rfl, htcp⟩
  · exact denotes_of_parseUnix hunix
  · exact denotes_of_parseTcp htcp

example : parse "tcp:[[::1]:+0080" = .ok (.tcp "::1" 80) := by decide

example : parse "unix:/run/%zz;mode=0666" = .ok (.unix "/run/%zz") := by decide

/-! ### Every path can be written -/

/-- A path as it is written, character by character: as itself, or as the escapes of its bytes
where it would be taken for something else. -/
structure IsSpelling (path : Text) (parts : List Text) : Prop where
  writes : List.Forall₂ Percent.Writes path parts
  /-- A `%` would begin an escape. -/
  percent : ['%'] ∉ parts
  /-- A `;` would end the path. -/
  semicolon : [';'] ∉ parts
  /-- An `@` in front would make a name of the path. -/
  front : parts.head? ≠ some ['@']

/-- Every path has a spelling: all of it may be written as escapes. -/
theorem exists_isSpelling (path : Text) : ∃ parts, IsSpelling path parts := by
  choose escapes hescapes using fun c => Percent.exists_areEscapesOf (Utf8.encodeChar c)
  have hnot : ∀ d, [d] ∉ path.map escapes := by
    intro d hmem
    obtain ⟨c, -, hc⟩ := List.mem_map.mp hmem
    obtain ⟨high, low, more, hcons⟩ := (hescapes c).exists_cons
    rw [hcons] at hc
    cases hc
  refine ⟨path.map escapes, ?_, hnot '%', hnot ';', fun hfront => ?_⟩
  · rw [List.forall₂_map_right_iff, List.forall₂_same]
    exact fun c _ => Or.inr (hescapes c)
  · exact hnot '@' (List.mem_of_head? hfront)

/-- A spelling begins with what its first character is written as. -/
theorem IsSpelling.front_flatten {path : Text} {parts : List Text} (h : IsSpelling path parts)
    (hpath : path ≠ []) : parts.flatten ≠ [] ∧ parts.flatten.head? ≠ some '@' := by
  obtain ⟨hwrites, -, -, hfront⟩ := h
  cases hwrites with
  | nil => exact absurd rfl hpath
  | cons hpart _ =>
      rcases hpart with rfl | hescapes
      · refine ⟨by simp, fun hat => hfront ?_⟩
        cases hat
        rfl
      · obtain ⟨high, low, more, rfl⟩ := hescapes.exists_cons
        exact ⟨by simp, by simp⟩

/-- **Every path can be written.**  A path that is not empty has a spelling, and from each of its
spellings it is read back, whatever follows behind a `;`. -/
theorem parse_spelling {path : Text} (hpath : path ≠ []) :
    (∃ parts, IsSpelling path parts) ∧
      ∀ parts rest, IsSpelling path parts → IsListenerPart rest →
        parse ("unix:" ++ parts.flatten ++ rest) = .ok (.unix path) := by
  refine ⟨exists_isSpelling path, fun parts rest h hrest => ?_⟩
  obtain ⟨hne, hat⟩ := h.front_flatten hpath
  have hfree : ';' ∉ parts.flatten :=
    Percent.notMem_flatten_of_writes (by decide) (by decide) h.writes h.semicolon
  exact parse_unix_path ⟨hne, hfree, hat⟩
    (Percent.standsFor_flatten_of_writes h.writes h.percent) hrest

/-- This path has all three marks, something that looks like an escape, and a character of two
bytes, whose escapes are written in either case. -/
theorem parse_spelling_mixed :
    IsSpelling "@%41é;" ["%40", "%25", "4", "1", "%c3%A9", "%3B"] ∧
      parse "unix:%40%2541%c3%A9%3B;mode=0666" = .ok (.unix "@%41é;") := by
  have hplain : ∀ c, Percent.Writes c [c] := fun c => Or.inl rfl
  have hat : Percent.Writes '@' "%40" :=
    Or.inr ⟨["%40"], .cons ⟨'4', '0', by decide, by decide, rfl⟩ .nil, rfl⟩
  have hpercent : Percent.Writes '%' "%25" :=
    Or.inr ⟨["%25"], .cons ⟨'2', '5', by decide, by decide, rfl⟩ .nil, rfl⟩
  have haccent : Percent.Writes 'é' "%c3%A9" :=
    Or.inr ⟨["%c3", "%A9"], .cons ⟨'c', '3', by decide, by decide, rfl⟩
      (.cons ⟨'A', '9', by decide, by decide, rfl⟩ .nil), rfl⟩
  have hsemicolon : Percent.Writes ';' "%3B" :=
    Or.inr ⟨["%3B"], .cons ⟨'3', 'B', by decide, by decide, rfl⟩ .nil, rfl⟩
  have hspelling : IsSpelling "@%41é;" ["%40", "%25", "4", "1", "%c3%A9", "%3B"] :=
    ⟨.cons hat (.cons hpercent (.cons (hplain '4') (.cons (hplain '1') (.cons haccent
      (.cons hsemicolon .nil))))), by decide, by decide, by decide⟩
  have hpath : ("@%41é;" : Text) ≠ [] := by decide
  exact ⟨hspelling,
    (parse_spelling hpath).2 _ ";mode=0666" hspelling (Or.inr ⟨"mode=0666", rfl⟩)⟩

end VarlinkClient.Address
