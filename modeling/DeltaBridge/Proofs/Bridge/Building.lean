import DeltaBridge.Bridge.Service
import DeltaBridge.Proofs.Broker.Authority

/-!
# Building a bridge

With the definitions loaded, a bridge fails to be built exactly if its settings ask for a broker and
name no address of one. The failure is reported as a bad configuration, but not where the authority of
the address is not legible.

* `transportOf_eq_error_iff`, `build_eq_error_iff`: the failures are those of the address;
* `Address.Fails`: how a text fails as the address of a broker, **`Address.fails`**;
  `Address.bracket_escapes`: a bracket that is not closed.
-/

namespace DeltaBridge

namespace Bridge

variable {settings : Settings} {file : DefinitionFile} {ts : List Value}

theorem transportOf_eq_error_iff (time : Text) {e : AddressError} :
    transportOf settings time = .error e ↔
      settings.brokerEnabled = true ∧ Address.parse settings.server = .error e := by
  unfold transportOf Session.Config.make
  split
  · next h => cases Address.parse settings.server <;> simp [Except.map, h]
  · next h => simp [h]

/-- With the definitions loaded only the address can fail. -/
theorem build_eq_error_iff (time : Text)
    (h : (loadDefinitions settings.definitionsPath file).value = .ok ts) {e : SetupError} :
    (build settings file time).value = .error e ↔
      ∃ a, e = .address a ∧ settings.brokerEnabled = true ∧
        Address.parse settings.server = .error a := by
  simp only [← transportOf_eq_error_iff time]
  rw [build, Logged.value_bind, h]
  dsimp only
  rw [Logged.value_bind]
  cases transportOf settings time with
  | error a => simp [eq_comm]
  | ok transport => simp

end Bridge

/-- How a text fails as the address of a broker. -/
structure Address.Fails (server : Text) : Prop where
  /-- The failures that are not reported as those of the connection parameters. -/
  escapes : (∃ e, parse server = .error e ∧ e.isContained = false) ↔
    server.strip ≠ [] ∧ ¬Legible (authority server)
  /-- All others are, so without brackets and disguised separators each is. -/
  plain : (∀ c ∈ server, c ≠ Ascii.openBracket ∧ c ≠ Ascii.closeBracket ∧ c ∉ disguised) →
    (∃ a, parse server = .ok a) ∨ ∃ e, parse server = .error e ∧ e.isContained = true
  /-- With the definitions loaded, no other failure to build a bridge escapes. -/
  building (settings : Settings) (file : DefinitionFile) (time : Text) (ts : List Value) :
    settings.server = server → (loadDefinitions settings.definitionsPath file).value = .ok ts →
    ((∃ e, (Bridge.build settings file time).value = .error e ∧ e.isContained = false) ↔
      settings.brokerEnabled = true ∧ server.strip ≠ [] ∧ ¬Legible (authority server))

/-- **A text fails as the address of a broker in a way that is reported, unless its authority is not
legible.** -/
theorem Address.fails (server : Text) : Fails server := by
  refine ⟨parse_escapes_iff, parse_plain, ?_⟩
  rintro settings file time ts rfl h
  rw [← parse_escapes_iff]
  simp only [Bridge.build_eq_error_iff time h]
  constructor
  · rintro ⟨e, ⟨a, rfl, hb, ha⟩, he⟩
    exact ⟨hb, a, ha, he⟩
  · rintro ⟨hb, a, ha, he⟩
    exact ⟨_, ⟨a, rfl, hb, ha⟩, he⟩

/-- A bracket that is not closed: the failure is not reported as one of the connection parameters. -/
theorem Address.bracket_escapes : ¬∀ server, (∃ a, parse server = .ok a) ∨
    ∃ e, parse server = .error e ∧ e.isContained = true := by
  intro h
  rcases h "mqtt://[host" with ⟨a, ha⟩ | ⟨e, he, hc⟩
  · cases ha
  · cases he
    cases hc

end DeltaBridge
