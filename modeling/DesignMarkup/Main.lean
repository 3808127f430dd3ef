import DesignMarkup.CommandLine.Run

/-!
# The command line program

Reads the environment and the files that a request names, runs the request, and writes what comes of
it: the result to the standard output, log lines and errors to the standard error output.
-/

namespace DesignMarkup.CommandLine

def processEnvironment : IO Environment := do
  let values ← Setting.all.mapM fun setting => do
    return (← IO.getEnv setting.name).map fun text => (setting.name, text)
  return values.filterMap id

def fileErrorOf : IO.Error → FileError
  | .noFileOrDirectory .. => .notFound
  | .inappropriateType _ code _ => if code = 21 then .isDirectory else .notDirectory
  | .permissionDenied .. => .denied
  | .invalidArgument _ code _ => if code = 22 then .nullCharacter else .nameTooLong
  | _ => .notFound

def readPath (path : String) : IO (String × Except FileError (List UInt8)) := do
  match ← (IO.FS.readBinFile path).toBaseIO with
  | .ok bytes => return (path, .ok bytes.toList)
  | .error e => return (path, .error (fileErrorOf e))

def pathsOf (words : List String) : List String :=
  match Request.ofWords words with
  | .ok (some request) => (request.project.toList ++ request.layer.toList).map Path.normalize
  | _ => []

def readerOf (files : List (String × Except FileError (List UInt8))) : Reader := fun path =>
  (files.lookup path).getD (.error .notFound)

/-- Writes an outcome and returns its exit status. -/
def deliver (outcome : Outcome) : IO UInt32 := do
  for entry in outcome.log do
    IO.eprintln entry.line
  match outcome.usageError with
  | some (page, error) =>
    IO.eprint (Text.ofLines (usageLines page ++ [usageErrorLine page error]))
  | none => IO.print outcome.output
  return outcome.status.toUInt32

end DesignMarkup.CommandLine

open DesignMarkup.CommandLine in
def main (words : List String) : IO UInt32 := do
  let environment ← processEnvironment
  let files ← (pathsOf words).mapM readPath
  match run (readerOf files) environment words with
  | .ok outcome => deliver outcome
  | .error e =>
    IO.eprintln e.message
    return 1
