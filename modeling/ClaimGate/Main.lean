import ClaimGate.Json.Reader
import ClaimGate.Settings.Server

/-! The command line. It loads the settings of the server and reports whether a service
can run under them; a listener is not part of this library. Of the notations for a settings
document only JSON is read. -/

namespace ClaimGate.Main

structure Options where
  config : Option String := none
  check : Bool := false

/-- The options that the arguments give; none if an argument is not known. -/
def Options.ofArguments? : List String → Option Options
  | [] => some {}
  | "--check" :: rest => (ofArguments? rest).map fun o => { o with check := true }
  | "-c" :: path :: rest | "--config" :: path :: rest =>
    (ofArguments? rest).map fun o => { o with config := some path }
  | _ => none

/-- All variables that are set. Which of them are meant for the service is for their names to
say, so one that names no setting is refused with the settings. -/
def givenVariables : IO (List Variable) := do
  return Variable.ofEnvironment (← IO.FS.readFile "/proc/self/environ")

/-- The settings with the document at the path, if one is given. -/
def load (path : Option String) : IO (Except String ServerSettings) := do
  let vs ← givenVariables
  let settle (document : Option Json) :=
    (ServerSettings.load document vs).mapError LoadFault.message
  match path with
  | none => return settle none
  | some path =>
    match ← (IO.FS.readFile path).toBaseIO with
    | .error _ => return .error (LoadFault.missingFile path).message
    | .ok text =>
      match Json.document? text with
      | some document => return settle (some document)
      | none => return .error ("config file " ++ path ++ " is not a JSON document")

end ClaimGate.Main

open ClaimGate.Main in
def main (args : List String) : IO UInt32 := do
  match Options.ofArguments? args with
  | none =>
    IO.eprintln "usage: [-c PATH | --config PATH] [--check]"
    return 2
  | some options =>
    match ← load options.config with
    | .error message =>
      IO.eprintln ("Error: " ++ message)
      return 1
    | .ok _ =>
      if options.check then
        IO.println "configuration OK"
        return 0
      else
        IO.eprintln "Error: there is no listener to serve with"
        return 1
