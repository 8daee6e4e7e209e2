/-! What a command line asks for: options for all commands first, then a command with its own. -/
namespace GameRegistration.CommandLine

inductive Command where
  | compile (input : String)
  | tables
  | settings
deriving DecidableEq, Repr

structure Options where
  /-- The settings file, if another than the usual one. -/
  config : Option String := none
  isCompact : Bool := false
  isVerbose : Bool := false
deriving DecidableEq, Repr

structure Invocation where
  options : Options
  command : Command
deriving DecidableEq, Repr

inductive UsageError where
  | noCommand
  | noInput
  | noValue (option : String)
  | unexpected (word : String)
deriving DecidableEq, Repr

def UsageError.message : UsageError → String
  | .noCommand => "a command is missing: compile, tables or config"
  | .noInput => "the command 'compile' needs --input <FILE>"
  | .noValue option => s!"the option '{option}' needs a value"
  | .unexpected word => s!"unexpected argument '{word}'"

namespace Command

def alone (command : Command) : List String → Except UsageError Command
  | [] => .ok command
  | word :: _ => .error (.unexpected word)

def readCompile : List String → Except UsageError Command
  | [] => .error .noInput
  | [option] =>
    if option = "-i" ∨ option = "--input" then .error (.noValue option)
    else .error (.unexpected option)
  | option :: file :: rest =>
    if option = "-i" ∨ option = "--input" then alone (.compile file) rest
    else .error (.unexpected option)

def read : List String → Except UsageError Command
  | [] => .error .noCommand
  | word :: rest =>
    if word = "compile" then readCompile rest
    else if word = "tables" then alone .tables rest
    else if word = "config" then alone .settings rest
    else .error (.unexpected word)

end Command

namespace Invocation

/-- The words up to the command set options; `options` holds those set so far. -/
def readFrom (options : Options) : List String → Except UsageError Invocation
  | [] => .error .noCommand
  | word :: rest =>
    if word = "--compact" then readFrom { options with isCompact := true } rest
    else if word = "-v" ∨ word = "--verbose" then readFrom { options with isVerbose := true } rest
    else if word = "-c" ∨ word = "--config" then
      match rest with
      | [] => .error (.noValue word)
      | file :: rest => readFrom { options with config := some file } rest
    else do return { options, command := ← Command.read (word :: rest) }

def read (words : List String) : Except UsageError Invocation := readFrom {} words

end Invocation

end GameRegistration.CommandLine
