import DeltaBridge.Json.Reader
import DeltaBridge.Log
import DeltaBridge.Text.Utf8

/-!
# The definition file

The sensors are declared in a file: a JSON list of topics, or an object with that list under `from`.

* `DefinitionFile`: what there is in the place of the file;
* `DefinitionError`, with `DefinitionError.isContained` for the failures that are reported as a bad
  configuration;
* `joinLineEnds`: each line end counts as one line feed;
* `loadDefinitions`: the topics, not yet checked one by one.
-/

namespace DeltaBridge

open Ascii

/-- What there is in the place of the file. -/
inductive DefinitionFile where
  | missing
  | directory
  | content (b : Bytes)
  deriving DecidableEq, Repr

/-- Why there are no definitions. -/
inductive DefinitionError where
  | missing (path : Text)
  | directory (path : Text)
  /-- The content is no UTF-8. -/
  | badEncoding (e : Utf8.Error)
  /-- The content, with joined line ends, is no JSON. -/
  | badDocument (path content : Text) (e : Json.Error)
  /-- An integer of the document has more digits than are read. -/
  | longInteger (digits : Nat)
  | tooDeep (c : Json.Container)
  deriving DecidableEq, Repr

namespace DefinitionError

/-- The failure is reported as a bad configuration. -/
def isContained : DefinitionError → Bool
  | badEncoding _ | longInteger _ | tooDeep _ => false
  | _ => true

/-- The failure in words. -/
def message : DefinitionError → Text
  | missing path => "Sensor definition file not found: " ++ path
  | directory path =>
    "Cannot read sensor definition file " ++ path ++ ": [Errno 21] Is a directory: " ++ path.quoted
  | badEncoding e => e.message
  | badDocument path content e =>
    "Sensor definition file " ++ path ++ " is not valid JSON: " ++ e.message content
  | longInteger n => (Json.Error.longInteger n).message []
  | tooDeep c => (Json.Error.tooDeep c).message []

end DefinitionError

/-- The text with a line feed for each line end, which may be written as a carriage return with or
without a line feed after it. -/
def joinLineEnds : Text → Text
  | [] => []
  | carriageReturn :: lineFeed :: t => lineFeed :: joinLineEnds t
  | c :: t => (if c = carriageReturn then lineFeed else c) :: joinLineEnds t

/-- The document in a file. -/
def readDefinitionFile (path : Text) : DefinitionFile → Except DefinitionError Value
  | .missing => .error (.missing path)
  | .directory => .error (.directory path)
  | .content b =>
    match Utf8.decode b with
    | .error e => .error (.badEncoding e)
    | .ok t =>
      match Json.read .lenient (joinLineEnds t) with
      | .ok v => .ok v
      | .error (.longInteger n) => .error (.longInteger n)
      | .error (.tooDeep c) => .error (.tooDeep c)
      | .error e => .error (.badDocument path (joinLineEnds t) e)

/-- The list of topics in a document: the document itself, or what an object has under `from`. -/
def topicList? : Value → Option (List Value)
  | .list xs => some xs
  | .object ms =>
    match Members.get? "from" ms with
    | some (.list xs) => some xs
    | _ => none
  | _ => none

/-- The topics that the file at a path declares; none, with a warning, if it is JSON of another shape. -/
def loadDefinitions (path : Text) (file : DefinitionFile) : Logged (Except DefinitionError (List Value)) :=
  match readDefinitionFile path file with
  | .error e => return .error e
  | .ok document =>
    match topicList? document with
    | none => do
      .emit .warning .definitions ("No topic list found in " ++ path)
      return .ok []
    | some xs => do
      .emit .info .definitions ("Loaded " ++ natText xs.length ++ " topic definitions from " ++ path)
      return .ok xs

end DeltaBridge
