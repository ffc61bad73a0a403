import DeltaBridge.Bridge.Service

/-!
# The program

A run of the bridge from its start to its end: build it, start it, take turns until the user
interrupts it, and shut it down.

* `Ending`: how a run ends;
* `Bridge.pumpAll`: the turns, with what the network tells between them;
* `Program.run`.
-/

namespace DeltaBridge

/-- How a run of the program ends. -/
inductive Ending where
  | returned
  /-- The program ends with a text for the user. -/
  | farewell (t : Text)
  | badSetup (e : Bridge.SetupError)
  | failed (e : Failure)

namespace Bridge

open Act

/-- Turns until there is nothing to wait for, with what the clients tell after each turn. The user
interrupts the program at the end of the list. -/
def pumpAll : List (List Callback) → Act Bridge Unit
  | [] => do
    if ← pump then return
    fail .interrupted
  | cs :: rest => do
    if ← pump then return
    each (fun c => onSession (Session.handleAside c)) cs
    pumpAll rest

/-- The whole life of a bridge. Once it has started up it is shut down in any case. -/
def live (told : List (List Callback)) : Act Bridge Unit := do
  startUp
  let r ← attempt (pumpAll told)
  shutDown
  ofExcept r

end Bridge

namespace Program

/-- The words for a bad configuration. -/
def badSetupText (e : Bridge.SetupError) : Text := "configuration error: " ++ e.message

/-- The words for an interruption. -/
def interruptedText : Text := "🌙  graceful shutdown"

/-- The ending after the life of the bridge. -/
def endingOf : Except Failure Unit → Ending
  | .ok () => .returned
  | .error .interrupted => .farewell interruptedText
  | .error e => .failed e

/-- A run of the program on a network, with what the clients tell between the turns. -/
def run (settings : Settings) (file : DefinitionFile) (time : Text) (n : Network)
    (told : List (List Callback)) : Ending × Journal :=
  let built := Bridge.build settings file time
  let journal := Journal.empty.report built.reports
  match built.value with
  | .error e => (if e.isContained then .farewell (badSetupText e) else .badSetup e, journal)
  | .ok b =>
    let ended := (Bridge.live told).run n b journal
    (endingOf ended.result, ended.journal)

end Program

end DeltaBridge
