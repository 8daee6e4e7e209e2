import GameRegistration.CommandLine.Invocation
import GameRegistration.Request
import GameRegistration.Settings
import GameRegistration.Record.Json
import GameRegistration.Schema

/-! The commands: what each writes to its two outputs and how it ends. Nothing is written to the
first output unless the command succeeds. The trace goes along for those who want to see it. -/
namespace GameRegistration.CommandLine

structure Transcript where
  out : String := ""
  err : String := ""
  trace : List Event := []
deriving DecidableEq, Repr

inductive Status where
  | committed
  | failed
  | done
deriving DecidableEq, Repr

inductive CommandError where
  | unreadable
  | request (error : RequestError)
  | schema (violation : SchemaViolation)
deriving DecidableEq, Repr

def CommandError.message : CommandError → String
  | .unreadable => "IO error: the request file cannot be read"
  | .request error => error.message
  | .schema violation => "Schema error: " ++ violation.message

def lines (texts : List String) : String := String.join (texts.map (· ++ "\n"))

/-- Compiles the request with the given text. Diagnostics are written one to a line, then the rows
are checked, and only then is the section written. -/
def compileText (warnings : WarningPolicy) (pretty : Bool) (text : String) :
    Transcript × Except CommandError Status :=
  match Request.ofText text with
  | .error error => ({}, .error (.request error))
  | .ok request =>
    let journal := request.run { warnings }
    let trace := journal.events ++ [Compilation.verdict request.sectionId journal]
    match Compilation.finish request.sectionId journal with
    | .error failure =>
      ({ err := lines (failure.diagnostics.map (·.text) ++ [failure.message]), trace }, .ok .failed)
    | .ok commit =>
      let err := lines (commit.warnings.map (·.text))
      match commit.content.violation? with
      | some violation => ({ err, trace }, .error (.schema violation))
      | none => ({ out := commit.content.toJson.render pretty ++ "\n", err, trace }, .ok .committed)

/-- Compiles a request file, which may be missing and must be UTF-8. -/
def compile (warnings : WarningPolicy) (pretty : Bool) (file : Option ByteArray) :
    Transcript × Except CommandError Status :=
  match file.bind String.fromUTF8? with
  | none => ({}, .error .unreadable)
  | some text => compileText warnings pretty text

def showTables (pretty : Bool) : Transcript :=
  { out := (Json.array (tables.map Table.toJson)).render pretty ++ "\n" }

def showSettings (settings : Settings) : Transcript := { out := settings.toText }

def loadSettings (file : Option String) : Option Settings :=
  match file with
  | none => some {}
  | some text => Settings.ofText text

end GameRegistration.CommandLine
