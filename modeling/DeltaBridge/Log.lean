import DeltaBridge.Text.Basic

/-!
# Reports

What the parts of the bridge report, as values. A computation that reports is a `Logged` value: its
result with the reports made on the way, so that the result can be studied on its own.

* `Level`, `Reporter`, `Report`; `Logged`, `Logged.emit`;
* `value_pure`, `value_bind`: the result of a computation does not depend on its reports.
-/

namespace DeltaBridge

/-- How grave a report is. -/
inductive Level where
  | debug
  | info
  | warning
  | error
  deriving DecidableEq, Repr

/-- The number of a level; graver ones have greater numbers. -/
def Level.number : Level → Nat
  | debug => 10
  | info => 20
  | warning => 30
  | error => 40

/-- The name of a level. -/
def Level.name : Level → String
  | debug => "DEBUG"
  | info => "INFO"
  | warning => "WARNING"
  | error => "ERROR"

/-- The parts of the bridge that report, each under a name of its own. -/
inductive Reporter where
  | extraction
  | kinds
  | converter
  | registry
  | interpreter
  | definitions
  | units
  | valueLog
  | statusLog
  | broker
  | bridge
  deriving DecidableEq, Repr

/-- The name under which a part reports. -/
def Reporter.name : Reporter → String
  | extraction => "mqtt_sensors.mapping.selector"
  | kinds => "mqtt_sensors.models.sensor_models"
  | converter => "UnitConverter"
  | registry => "TopicRegistry"
  | interpreter => "MessageTranslator"
  | definitions => "mqtt_sensors.services.definitions"
  | units => "mqtt_sensors.services.metadata_publisher"
  | valueLog => "LoggingDeltaSink"
  | statusLog => "LoggingStatusSink"
  | broker => "MQTTClient"
  | bridge => "SensorBridgeService"

/-- One report. -/
structure Report where
  level : Level
  reporter : Reporter
  message : Text
  deriving DecidableEq, Repr

/-- A result with the reports made on the way to it. -/
structure Logged (α : Type) where
  value : α
  reports : List Report
  deriving Repr

namespace Logged

variable {α β : Type}

instance : Monad Logged where
  pure a := ⟨a, []⟩
  bind x f := ⟨(f x.value).value, x.reports ++ (f x.value).reports⟩

@[simp] theorem value_pure (a : α) : (pure a : Logged α).value = a := rfl

@[simp] theorem value_bind (x : Logged α) (f : α → Logged β) : (x >>= f).value = (f x.value).value := rfl

@[simp] theorem reports_pure (a : α) : (pure a : Logged α).reports = [] := rfl

@[simp] theorem reports_bind (x : Logged α) (f : α → Logged β) :
    (x >>= f).reports = x.reports ++ (f x.value).reports := rfl

@[simp] theorem value_map (f : α → β) (x : Logged α) : (f <$> x).value = f x.value := rfl

instance : LawfulMonad Logged :=
  LawfulMonad.mk' Logged (fun _ => by simp [Functor.map]) (fun _ _ => by simp [pure, bind])
    (fun _ _ _ => by simp [bind])

/-- A report alone. -/
def emit (level : Level) (reporter : Reporter) (message : Text) : Logged Unit :=
  ⟨(), [⟨level, reporter, message⟩]⟩

@[simp] theorem reports_emit (l : Level) (r : Reporter) (m : Text) : (emit l r m).reports = [⟨l, r, m⟩] := rfl

end Logged

end DeltaBridge
