import GameRegistration.Settings.Toml
import GameRegistration.Diagnostic

/-! Settings of the command line, read from a TOML document and written as one. -/
namespace GameRegistration

structure Settings where
  warnings : WarningPolicy := {}
  /-- Whether JSON is written pretty; it is unless this says otherwise. -/
  pretty : Option Bool := none
deriving DecidableEq, Repr

namespace Settings

def isPretty (s : Settings) : Bool := s.pretty.getD true

def asBoolean : Toml → Option Bool
  | .boolean b => some b
  | _ => none

def booleanEntry (key : String) (entries : List (String × Toml)) : Option (Option Bool) :=
  match entries.lookup key with
  | none => some none
  | some v => (asBoolean v).map some

/-- The two flags in order; what follows them does not count. -/
def warningsOfItems : List Toml → Option WarningPolicy
  | [] => some {}
  | [a] => do return { warningsAsErrors := ← asBoolean a }
  | a :: b :: _ => do return { warningsAsErrors := ← asBoolean a, suppressWarnings := ← asBoolean b }

/-- A table of the two flags, or a list of them. A date counts as a table that has neither. -/
def warningsOf : Toml → Option WarningPolicy
  | .table _ entries => do
    let elevate ← booleanEntry "warnings_as_errors" entries
    let suppress ← booleanEntry "suppress_warnings" entries
    return { warningsAsErrors := elevate.getD false, suppressWarnings := suppress.getD false }
  | .moment => some {}
  | .array items => warningsOfItems items
  | .tables items => warningsOfItems items
  | _ => none

def ofToml : Toml → Option Settings
  | .table _ entries => do
    let pretty ← booleanEntry "pretty" entries
    let warnings ← match entries.lookup "compiler" with
      | none => some {}
      | some v => warningsOf v
    return { warnings, pretty }
  | _ => none

/-- None if the text is no TOML, or a setting has the wrong type. Unknown entries do not matter. -/
def ofText (text : String) : Option Settings := (Toml.read text).bind ofToml

def toText (s : Settings) : String :=
  (match s.pretty with
    | some b => "pretty = " ++ toString b ++ "\n\n"
    | none => "") ++
  "[compiler]\nwarnings_as_errors = " ++ toString s.warnings.warningsAsErrors ++
  "\nsuppress_warnings = " ++ toString s.warnings.suppressWarnings ++ "\n"

end Settings

end GameRegistration
