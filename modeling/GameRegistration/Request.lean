import GameRegistration.Compilation
import GameRegistration.Document.Json

/-! Requests: the jobs for one section, read from JSON. -/
namespace GameRegistration

open Json

namespace Context

def decode (mode : Mode) (r : Reading) : Result Context :=
  ofList <$> r.asMap mode fun _ => Reading.asText

def toJson (c : Context) : Json :=
  .object (c.entries.map fun (key, value) => (key, .text value))

end Context

namespace WarningPolicy

def decode (mode : Mode) : Reading → Result WarningPolicy :=
  Reading.asStructure mode
    (fun _ => .optional "warnings_as_errors" Reading.asBool <|
      .optional "suppress_warnings" Reading.asBool .nil)
    fun (elevate, suppress, ()) =>
      .ok { warningsAsErrors := elevate.getD false, suppressWarnings := suppress.getD false }

end WarningPolicy

namespace Job

def decodeOnElement (mode : Mode) : Reading → Result Job :=
  Reading.asStructure mode
    (fun mode => .optional "context" (Context.decode mode) <|
      .required "parent" (Element.decode mode) <| .required "element" (Element.decode mode) .nil)
    fun (context, parent, element, ()) => do
      return .onElement (context.getD {}) (← demand "parent" parent) (← demand "element" element)

def decodeOnAttribute (mode : Mode) : Reading → Result Job :=
  Reading.asStructure mode
    (fun mode => .optional "context" (Context.decode mode) <|
      .required "parent" (Element.decode mode) <|
      .required "attribute" (Attribute.decode mode) .nil)
    fun (context, parent, a, ()) => do
      return .onAttribute (context.getD {}) (← demand "parent" parent) (← demand "attribute" a)

/-- The tag `kind` may stand anywhere among a job's members. -/
def decode (mode : Mode) (r : Reading) : Result Job := do
  let (kind, content) ← r.asTagged mode "kind" ["element", "attribute"]
  if kind = "element" then decodeOnElement .buffered content
  else decodeOnAttribute .buffered content

end Job

structure Request where
  sectionId : String
  jobs : List Job

inductive RequestError where
  | json (fault : Fault)
  | emptySectionId
deriving DecidableEq, Repr

namespace RequestError

def message : RequestError → String
  | .json fault => "JSON error: " ++ fault.message
  | .emptySectionId => "Invalid request: section_id must not be empty"

end RequestError

namespace Request

def decode (mode : Mode) : Reading → Result Request :=
  Reading.asStructure mode
    (fun mode => .required "section_id" Reading.asText <|
      .required "jobs" (Reading.asList mode Job.decode) .nil)
    fun (sectionId, jobs, ()) => do
      return { sectionId := ← demand "section_id" sectionId, jobs := ← demand "jobs" jobs }

/-- A section must have a name. -/
def ofText (text : String) : Except RequestError Request :=
  match decodeText decode text with
  | .error fault => .error (.json fault)
  | .ok request => if request.sectionId = "" then .error .emptySectionId else .ok request

def run (r : Request) (setup : Setup) : Journal :=
  Plan.perform setup false (r.jobs.flatMap Job.tracedPlan)

end Request

end GameRegistration
