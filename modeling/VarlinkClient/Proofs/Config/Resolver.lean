/-
The resolver that a flag names.

The text of the flag is read as an address, written again for the layer of the flags, and
read once more when the layers are put together.  So the address that is used is the one
that the operator wrote where addresses are read back, and not otherwise.
-/
import VarlinkClient.Config.Load
import VarlinkClient.Proofs.Address
import VarlinkClient.Proofs.CommandLine.Reader

namespace VarlinkClient

namespace Config

/-! ### Flags without files and environment -/

theorem strongest_alone (layer : Layer) : strongest [layer, Layer.ofPairs []] = layer := by
  funext key
  unfold strongest
  cases h : layer key <;> simp [h, Layer.ofPairs]

/-- Where there are no files and no variables, the flags alone count. -/
theorem load_of_flags {arguments : List Bytes} {flags : Flags} {layer : Layer}
    (hread : readFlags arguments = .ok flags) (hpath : flags.configPath = none)
    (hlayer : flagLayer flags = .ok layer) : load ⟨[], []⟩ arguments = ofLayer layer := by
  have hfile : readFile ⟨[], []⟩ none = .ok [] := rfl
  rw [load, hread]
  dsimp only
  rw [hlayer, hpath, hfile]
  exact congrArg ofLayer (strongest_alone layer)

/-! ### The resolver -/

theorem readFlags_resolver (program : Bytes) {t : Text}
    (ht : FlagReader.looksLikeFlag (Utf8.encode t) = false) :
    readFlags [program, Utf8.encode "--resolver", Utf8.encode t] =
      .ok { Flags.none with resolver := some t } := by
  have hput : Flags.none.put .resolver (Utf8.encode t) =
      .ok { Flags.none with resolver := some t } := by
    rw [Flags.put, Flags.readText, Utf8.decode?_encode]
    rfl
  have hread : Flags.read [program, Utf8.encode "--resolver", Utf8.encode t].tail =
      .ok { Flags.none with resolver := some t } := Flags.read_spaced rfl ht hput
  rw [readFlags, hread]
  rfl

theorem looksLikeFlag_of_parse {t : Text} {a : Address} (h : Address.parse t = .ok a) :
    FlagReader.looksLikeFlag (Utf8.encode t) = false := by
  rcases Address.parse_eq_ok h with ⟨rest, rfl, -⟩ | ⟨rest, rfl, -⟩ <;> rfl

/-- An address on the command line is written and read again. -/
theorem load_resolver (program : Bytes) {t : Text} {a : Address} (h : Address.parse t = .ok a) :
    load ⟨[], []⟩ [program, Utf8.encode "--resolver", Utf8.encode t] =
      ((Address.parse a.text).mapError AddressError.message).map fun resolver =>
        { Config.default with resolver } := by
  -- The layer of the flags holds the address as it is written, not as it was given.
  have hvalue : addressValue t = .ok (.text a.text) := by rw [addressValue, h]
  have hlayer : flagLayer { Flags.none with resolver := some t } =
      .ok (Layer.ofPairs [("resolver", .text a.text)]) := by
    rw [flagLayer, setting]
    dsimp only
    rw [hvalue]
    rfl
  rw [load_of_flags (readFlags_resolver program (looksLikeFlag_of_parse h)) rfl hlayer]
  have hresolver : resolverIn (Layer.ofPairs [("resolver", .text a.text)]) =
      (Address.parse a.text).mapError AddressError.message := rfl
  rw [ofLayer, hresolver]
  cases Address.parse a.text with
  | error error => rfl
  | ok resolver => rfl

/-- **The configured resolver is the address that was written** exactly when that address is
read back. -/
theorem load_resolver_iff (program : Bytes) {t : Text} {a : Address} (h : Address.parse t = .ok a) :
    (∃ config, load ⟨[], []⟩ [program, Utf8.encode "--resolver", Utf8.encode t] = .ok config ∧
      config.resolver = a) ↔ a.IsPlain := by
  rw [load_resolver program h, ← Address.parse_text_iff_of_parse h]
  cases Address.parse a.text with
  | error error => simp [Except.mapError, Except.map]
  | ok resolver => simp [Except.mapError, Except.map]

/-- The operator writes one path, the client goes to another. -/
theorem load_resolver_iff_twice_escaped :
    Address.parse "unix:/a%2525" = .ok (.unix "/a%25") ∧
      ¬ ∃ config, load ⟨[], []⟩ [[], Utf8.encode "--resolver", Utf8.encode "unix:/a%2525"] =
        .ok config ∧ config.resolver = .unix "/a%25" := by
  have hread : Address.parse "unix:/a%2525" = .ok (.unix "/a%25") := by decide
  refine ⟨hread, fun h => ?_⟩
  obtain ⟨-, -, hescape⟩ := (load_resolver_iff [] hread).mp h
  exact hescape ⟨"/a", '2', '5', [], rfl, by decide⟩

/-- Not every address that is written is the one that is used. -/
theorem exists_other_resolver :
    ¬ ∀ (program : Bytes) (t : Text) (a : Address), Address.parse t = .ok a →
      ∃ config, load ⟨[], []⟩ [program, Utf8.encode "--resolver", Utf8.encode t] = .ok config ∧
        config.resolver = a := by
  intro h
  have hread : Address.parse "unix:/a%2525" = .ok (.unix "/a%25") := by decide
  obtain ⟨config, hload, hresolver⟩ := h [] "unix:/a%2525" (.unix "/a%25") hread
  have hother : Address.parse (Address.text (.unix "/a%25")) = .ok (.unix "/a%") := by decide
  rw [load_resolver [] hread, hother] at hload
  cases hload
  cases hresolver

end Config

end VarlinkClient
