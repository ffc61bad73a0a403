import DeltaBridge.Bridge.Settings
import DeltaBridge.Text.Quoted

/-!
# The log threshold

The least level of the reports that are shown, as a number, from its name.

* `standardLevel?`: the names of levels;
* `ThresholdError`: two names denote other settings of the log, which are no levels;
* `threshold`: the level that a text names.
-/

namespace DeltaBridge

/-- The number of a level, by its name in capital letters. -/
def standardLevel? (name : Text) : Option Nat :=
  List.lookup name [("CRITICAL", 50), ("FATAL", 50), ("ERROR", 40), ("WARNING", 30), ("WARN", 30),
    ("INFO", 20), ("DEBUG", 10), ("NOTSET", 0)]

/-- Why a name gives no level. -/
inductive ThresholdError where
  /-- The name is that of the plain layout of reports. -/
  | layout
  /-- The name is that of the table of layouts. -/
  | layouts
  deriving DecidableEq, Repr

namespace ThresholdError

/-- The plain layout of reports. -/
def plainLayout : Text := "%(levelname)s:%(name)s:%(message)s"

/-- The table of layouts. -/
def layoutTable : Text :=
  "\x7b'%': (<class 'logging.PercentStyle'>, '%(levelname)s:%(name)s:%(message)s'), " ++
  "'\x7b': (<class 'logging.StrFormatStyle'>, '\x7blevelname\x7d:\x7bname\x7d:\x7bmessage\x7d'), " ++
  "'$': (<class 'logging.StringTemplateStyle'>, '$\x7blevelname\x7d:$\x7bname\x7d:$\x7bmessage\x7d')\x7d"

/-- The failure in words. -/
def message : ThresholdError → Text
  | layout => "Unknown level: " ++ plainLayout.quoted
  | layouts => "Level not an integer or a valid string: " ++ layoutTable

end ThresholdError

/-- The level of a name in capital letters: the level for reports of the usual kind if it names none. -/
def levelOfName (name : Text) : Except ThresholdError Nat :=
  if name = "BASIC_FORMAT" then .error .layout
  else if name = "_STYLES" then .error .layouts
  else .ok ((standardLevel? name).getD 20)

/-- The level that a text names, in either case of letters, or that the settings name if there is none. -/
def threshold (level : Option Text) (settings : Settings) : Except ThresholdError Nat :=
  match level with
  | none | some [] => levelOfName settings.logLevel.upper
  | some t => levelOfName t.upper

end DeltaBridge
