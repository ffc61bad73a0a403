import DeltaBridge.Json.Reader
import DeltaBridge.Log
import DeltaBridge.Path.Matcher
import DeltaBridge.Text.Blank
import DeltaBridge.Text.Utf8

/-!
# Extraction

One value out of a payload. Without a selector the payload itself is the value; with one, the
payload is a JSON text and the value is the first node that the selector describes.

* `ExtractionError`, with `ExtractionError.isContained` for the failures that concern one sensor only;
* `Matcher.selected`: the first node of a document that is no character of a text;
* `Matcher.extract`: the extraction with a matcher; `extract`: with the standard one.
-/

namespace DeltaBridge

/-- Why a payload gives no value. -/
inductive ExtractionError where
  /-- The bytes of the payload are not UTF-8. -/
  | badEncoding (e : Utf8.Error)
  /-- The payload is not strict JSON. -/
  | badDocument (t : Text) (e : Json.Error)
  /-- The payload is no text, with the name of its kind. -/
  | notText (kind : Text)
  /-- The selector is no path. -/
  | badSelector (selector : Text) (r : Path.Refusal)
  /-- The selector describes no node. -/
  | noMatch (selector : Text)
  /-- The payload is nested too deeply to be read. -/
  | tooDeep (c : Json.Container)
  /-- The search could not be carried out. -/
  | searchFailed (e : SearchError)
  deriving DecidableEq, Repr

namespace ExtractionError

/-- The failure is one of a payload or a selector, and is reported as such. -/
def isContained : ExtractionError → Bool
  | tooDeep _ | searchFailed _ => false
  | _ => true

/-- The failure in words, without the reason why a selector is refused. -/
def summary : ExtractionError → Text
  | badEncoding e => "Payload is not valid UTF-8: " ++ e.message
  | badDocument t e => "Payload is not valid JSON: " ++ e.message t
  | notText kind => "Payload is not valid JSON: the JSON object must be str, bytes or bytearray, not " ++ kind
  | badSelector s _ => "Invalid JSON path " ++ s.quoted
  | noMatch s => "JSON path " ++ s ++ " did not return any results"
  | tooDeep c => (Json.Error.tooDeep c).message []
  | searchFailed e => e.message

/-- The failure in words. -/
def message (e : ExtractionError) : Text :=
  match e with
  | badSelector _ r => e.summary ++ ": " ++ r.message
  | _ => e.summary

end ExtractionError

/-- The name of the kind of a value that is no text. -/
def Value.kindName : Value → Text
  | .null => "NoneType"
  | .bool _ => "bool"
  | .int _ => "int"
  | .float _ => "float"
  | .text _ => "str"
  | .bytes _ => "bytes"
  | .list _ => "list"
  | .object _ => "dict"

/-- The payload with its bytes, if it is made of bytes, read as a text. -/
def decodePayload : Value → Except ExtractionError Value
  | .bytes b =>
    match Utf8.decode b with
    | .ok t => .ok (.text t)
    | .error e => .error (.badEncoding e)
  | v => .ok v

/-- The document in a payload. -/
def readDocument : Value → Except ExtractionError Value
  | .text t =>
    match Json.read .strict t with
    | .ok v => .ok v
    | .error (.tooDeep c) => .error (.tooDeep c)
    | .error e => .error (.badDocument t e)
  | v => .error (.notText v.kindName)

namespace Matcher

variable (M : Matcher)

/-- The value of the first node of the document that the expression describes and that is no part of
a text. -/
def selected (x : M.Expression) (document : Value) : Except SearchError (Option Value) :=
  match M.find x (.fresh document) with
  | .error e => .error e
  | .ok ns => .ok ((ns.find? fun n => !n.isInText).map Node.value)

/-- The value that a selector picks from a payload that is decoded. -/
def extractWith (payload : Value) (selector : Text) : Except ExtractionError Value :=
  match M.compile selector.strip with
  | .error r => .error (.badSelector selector.strip r)
  | .ok x =>
    match readDocument payload with
    | .error e => .error e
    | .ok document =>
      match M.selected x document with
      | .error e => .error (.searchFailed e)
      | .ok none => .error (.noMatch selector)
      | .ok (some v) => .ok v

/-- The value that a selector picks from a payload; the whole payload without a selector. -/
def extract (payload : Value) (selector : Option Text) : Logged (Except ExtractionError Value) :=
  match decodePayload payload, selector with
  | .error e, _ => pure (.error e)
  | .ok v, none => pure (.ok v)
  | .ok v, some s =>
    if s.strip.isEmpty then pure (.ok v)
    else
      match M.extractWith v s with
      | .error e => pure (.error e)
      | .ok x => do
        .emit .debug .extraction ("Parsed " ++ s ++ " to find value " ++ x.quoted)
        return .ok x

end Matcher

/-- The extraction with the standard matcher. -/
def extract (payload : Value) (selector : Option Text) : Logged (Except ExtractionError Value) :=
  Matcher.standard.extract payload selector

end DeltaBridge
