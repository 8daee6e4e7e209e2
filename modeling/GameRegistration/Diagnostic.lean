import GameRegistration.Document
import GameRegistration.Problem

/-! Diagnostics: problems with their place and level, and the policy for warnings. -/
namespace GameRegistration

inductive Level where
  | warning
  | error
deriving DecidableEq, Repr

def Level.text : Level → String
  | .warning => "warning"
  | .error => "error"

structure Diagnostic where
  source : SourcePosition
  level : Level
  problem : Problem
deriving DecidableEq, Repr

namespace Diagnostic

def text (d : Diagnostic) : String :=
  d.source.text ++ ": " ++ d.level.text ++ ": " ++ d.problem.message

def isError (d : Diagnostic) : Bool := d.level == .error

end Diagnostic

structure WarningPolicy where
  warningsAsErrors : Bool := false
  suppressWarnings : Bool := false
deriving DecidableEq, Repr

inductive WarningTreatment where
  | keep
  | elevate
  | suppress
deriving DecidableEq, Repr

/-- Elevation wins over suppression. -/
def WarningPolicy.treatment (p : WarningPolicy) : WarningTreatment :=
  if p.warningsAsErrors then .elevate else if p.suppressWarnings then .suppress else .keep

end GameRegistration
