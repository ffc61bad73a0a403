import DeltaBridge.Delta.Document
import DeltaBridge.Extraction

/-!
# Interpretation of messages

A message becomes one record for each binding of its topic whose value can be extracted and
converted. Bindings do not affect each other.

* `Interpreter`, `Interpreter.recordOf`: the record of one binding;
* `Interpreter.interpret`: the records of a message.
-/

namespace DeltaBridge

/-- The bindings to look up, and the converter for their readings. -/
structure Interpreter where
  registry : Registry
  converter : Converter

namespace Interpreter

/-- The interpreter that converts as its registry says. -/
def ofRegistry (r : Registry) : Interpreter := ⟨r, r.converter⟩

/-- A report of the interpreter. -/
def note (level : Level) (message : Text) : Logged Unit := .emit level .interpreter message

/-- The record of one binding, if its value can be extracted and converted. -/
def recordOf (c : Converter) (payload : Value) (b : Binding) : Logged (Option Record) := do
  match ← extract payload b.selector with
  | .error e =>
    if e.isContained then note .debug ("Skipping " ++ b.destination ++ ": " ++ e.message)
    else note .error ("Error finding value for " ++ b.destination ++ ": " ++ e.message)
    return none
  | .ok raw =>
    match ← c.convert b.kind b.unit raw with
    | .error e =>
      if e.isContained then note .debug ("Skipping " ++ b.destination ++ ": " ++ e.message)
      else note .error ("Conversion failed for " ++ b.destination ++ ": " ++ e.message)
      return none
    | .ok v =>
      note .debug ("Preparing delta for " ++ b.kind.tag ++ " with unit " ++ b.unit ++ " to path " ++ b.destination)
      return some ⟨b.destination, v⟩

/-- The records of some bindings, in their order. -/
def recordsOf (c : Converter) (payload : Value) : List Binding → Logged (List Record)
  | [] => return []
  | b :: bs => do
    let r ← recordOf c payload b
    return r.toList ++ (← recordsOf c payload bs)

/-- The records of a message, or why one of them cannot be shown in the report on them. -/
def interpret (t : Interpreter) (topic : Text) (payload : Value) :
    Logged (Except ShowError (List Record)) :=
  match t.registry.bindingsFor topic with
  | [] => do
    note .debug ("Couldn't find a registration for MQTT topic " ++ topic)
    return .ok []
  | bs => do
    note .debug ("Processing topic " ++ topic)
    let rs ← recordsOf t.converter payload bs
    match rs.findSome? Record.showError? with
    | some e => return .error e
    | none =>
      note .debug ("Found deltas: " ++ shownList (rs.map Record.shown))
      return .ok rs

end Interpreter

end DeltaBridge
