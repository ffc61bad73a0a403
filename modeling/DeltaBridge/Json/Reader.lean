import DeltaBridge.Json.Lexeme

/-!
# Reading JSON

A reader over the pieces of a text. It keeps the containers that are open, innermost first, and
what may come next, and takes one piece at a time, so the first fault from the left is the one
reported.

* `Json.Frame`, `Json.Due`: an open container; what is due;
* `Json.step`: one piece; `Json.run`: all of them;
* `Json.readTo`: the value of a text, up to a depth; `Json.read`: up to the usual one.
-/

namespace DeltaBridge.Json

/-- An open container with the values read so far, last first. -/
inductive Frame where
  | array (items : List Value)
  /-- An object with a member under way: its key is read. -/
  | object (members : List (Text × Value)) (key : Text)

/-- What the reader waits for. -/
inductive Due where
  | value
  /-- The first value of an array, or its end. -/
  | firstItem
  /-- The first key of an object, or its end. -/
  | firstName
  /-- A key after a comma. -/
  | name (members : List (Text × Value))
  | colon (members : List (Text × Value)) (key : Text)
  /-- What may follow a value. -/
  | after (v : Value)

/-- Whether the numbers without a notation in JSON are taken for values. -/
inductive Dialect where
  | strict
  | lenient
  deriving DecidableEq, Repr

/-- A syntax error at a place. -/
def fail {α : Type} (f : Fault) (position : Nat) : Except Error α := .error (.malformed ⟨f, position⟩)

/-- One more container inside the open ones, unless there are too many. -/
def deepen (limit : Nat) (c : Container) (frames : List Frame) (next : Due × List Frame) :
    Except Error (Due × List Frame) :=
  if frames.length < limit then .ok next else .error (.tooDeep c)

/-- A piece where a value is due. Arrays and objects are opened by what becomes due. -/
def stepValue (limit : Nat) (dialect : Dialect) (frames : List Frame) (x : Lexeme) :
    Except Error (Due × List Frame) :=
  match x.token with
  | .string t => .ok (.after (.text t), frames)
  | .scalar v => .ok (.after v, frames)
  | .constant c =>
    match dialect with
    | .strict => .error (.constant c)
    | .lenient => .ok (.after (.float c.toFloat), frames)
  | .openArray => deepen limit .array frames (.firstItem, .array [] :: frames)
  | .openObject => deepen limit .object frames (.firstName, frames)
  | .broken e => .error e
  | .brokenString m => .error (.malformed m)
  | _ => fail .noValue x.position

/-- A piece where a key is due, in an object with some members. -/
def stepName (members : List (Text × Value)) (frames : List Frame) (x : Lexeme) :
    Except Error (Due × List Frame) :=
  match x.token with
  | .string t => .ok (.colon members t, frames)
  | .brokenString m => .error (.malformed m)
  | _ => fail .noName x.position

/-- A piece after a value. -/
def stepAfter (v : Value) (frames : List Frame) (x : Lexeme) : Except Error (Due × List Frame) :=
  match frames with
  | [] => fail .extraData x.position
  | .array items :: outer =>
    match x.token with
    | .comma => .ok (.value, .array (v :: items) :: outer)
    | .closeArray => .ok (.after (.list (v :: items).reverse), outer)
    | _ => fail .noComma x.position
  | .object members key :: outer =>
    match x.token with
    | .comma => .ok (.name ((key, v) :: members), outer)
    | .closeObject => .ok (.after (.object (Members.ofPairs ((key, v) :: members).reverse)), outer)
    | _ => fail .noComma x.position

/-- One piece. -/
def step (limit : Nat) (dialect : Dialect) (due : Due) (frames : List Frame) (x : Lexeme) :
    Except Error (Due × List Frame) :=
  match due with
  | .value => stepValue limit dialect frames x
  | .firstItem =>
    match x.token, frames with
    | .closeArray, _ :: outer => .ok (.after (.list []), outer)
    | _, _ => stepValue limit dialect frames x
  | .firstName =>
    match x.token with
    | .closeObject => .ok (.after (.object []), frames)
    | _ => stepName [] frames x
  | .name members => stepName members frames x
  | .colon members key =>
    match x.token with
    | .colon => .ok (.value, .object members key :: frames)
    | _ => fail .noColon x.position
  | .after v => stepAfter v frames x

/-- What the end of a text of the given length means. -/
def finish (stop : Nat) (due : Due) (frames : List Frame) : Except Error Value :=
  match due with
  | .value | .firstItem => fail .noValue stop
  | .firstName | .name _ => fail .noName stop
  | .colon _ _ => fail .noColon stop
  | .after v =>
    match frames with
    | [] => .ok v
    | _ :: _ => fail .noComma stop

/-- All pieces of a text of the given length. -/
def run (limit : Nat) (dialect : Dialect) (stop : Nat) (due : Due) (frames : List Frame) :
    List Lexeme → Except Error Value
  | [] => finish stop due frames
  | x :: xs =>
    match step limit dialect due frames x with
    | .ok (due, frames) => run limit dialect stop due frames xs
    | .error e => .error e

/-- The value of a text whose containers are nested up to the given depth. -/
def readTo (limit : Nat) (dialect : Dialect) (t : Text) : Except Error Value :=
  if t.head? = some 0xFEFF then fail .byteOrderMark 0
  else run limit dialect t.length .value [] (lex t)

/-- The value of a text. -/
def read (dialect : Dialect) (t : Text) : Except Error Value := readTo depthLimit dialect t

end DeltaBridge.Json
