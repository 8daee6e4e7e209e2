import GameRegistration.CommandLine

/-! The program: finds the files, runs the command, and writes what it has to say. -/
namespace GameRegistration.CommandLine

def readFile? (path : String) : IO (Option ByteArray) := do
  try
    return some (← IO.FS.readBinFile path)
  catch
    | .noFileOrDirectory .. => return none
    | e => throw e

def settingsFolder? : IO (Option String) := do
  match ← IO.getEnv "XDG_CONFIG_HOME" with
  | some folder => return some folder
  | none => return (← IO.getEnv "HOME").map (· ++ "/.config")

def usualSettingsFile : IO String := do
  match ← settingsFolder? with
  | some folder => return folder ++ "/wix-gaming/config.toml"
  | none => throw (IO.userError "Configuration error: Cannot find config directory")

/-- The settings file: the one asked for, or named by the environment, or the usual one. -/
def settingsFile (options : Options) : IO String := do
  if let some file := options.config then return file
  if let some file ← IO.getEnv "WIX_GAMING_CONFIG" then return file
  usualSettingsFile

def settings (options : Options) : IO Settings := do
  let file ← settingsFile options
  let text ← (← readFile? file).mapM fun bytes =>
    match String.fromUTF8? bytes with
    | some text => pure text
    | none => throw (IO.userError s!"IO error: {file} is not UTF-8")
  match loadSettings text with
  | some settings => return settings
  | none => throw (IO.userError s!"Configuration error: {file} holds no settings")

def write (options : Options) (t : Transcript) : IO Unit := do
  if options.isVerbose then IO.eprint (lines (t.trace.map (·.text)))
  IO.eprint t.err
  IO.print t.out

def execute (invocation : Invocation) : IO UInt32 := do
  let options := invocation.options
  let settings ← settings options
  let pretty := !options.isCompact && settings.isPretty
  match invocation.command with
  | .tables => write options (showTables pretty); return 0
  | .settings => write options (showSettings settings); return 0
  | .compile input =>
    let (transcript, ending) := compile settings.warnings pretty (← readFile? input)
    write options transcript
    match ending with
    | .ok .failed => return 1
    | .ok _ => return 0
    | .error e => throw (IO.userError e.message)

end GameRegistration.CommandLine

open GameRegistration.CommandLine in
/-- Ends with 0 on success, 1 on failure, and 2 if the command line makes no sense. -/
def main (words : List String) : IO UInt32 := do
  match Invocation.read words with
  | .error e =>
    IO.eprintln s!"error: {e.message}"
    return 2
  | .ok invocation =>
    try
      execute invocation
    catch e =>
      IO.eprintln s!"Error: {e}"
      return 1
