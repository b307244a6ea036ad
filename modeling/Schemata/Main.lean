import Schemata.CommandLine

/-!
# The program

Reads the files that a command line names, hands them over, and prints and writes the answer.
-/

namespace Schemata

/-- Why the system refused to read or to write a file. -/
def faultOf (e : IO.Error) : FileFault :=
  match e with
  | .noFileOrDirectory .. => .notFound
  | .inappropriateType _ 21 _ => .isFolder
  | .inappropriateType .. => .notFolder
  | .invalidArgument _ code _ =>
    if code == 36 || code == 0 - 36 then .nameTooLong else .refused (toString e)
  | e => .refused (toString e)

/-- Read a file that is to be compiled. -/
def readSource (path : String) : IO SourceFile := do
  try
    return .ofBytes path (← IO.FS.readBinFile path)
  catch e => return ⟨path, .error (faultOf e)⟩

/-- Write a text to a file, or tell why it cannot be done. -/
def writeOutput (path text : String) : IO (Option FileFault) := do
  try
    IO.FS.writeFile path text
    return none
  catch e => return some (faultOf e)

/-- Answer a command line. -/
def runProgram (words : List String) : IO Report := do
  match Invocation.ofWords? words with
  | none => return .usage
  | some .version => return .version
  | some (.compile r) =>
    match r.limits? with
    | .error message => return .failure message
    | .ok _ =>
      let report := r.run (← r.files.mapM readSource)
      match report.written with
      | none => return report
      | some (path, text) =>
        match ← writeOutput path text with
        | none => return report
        | some reason => return report.unwritten reason

end Schemata

/-- The program. -/
def main (words : List String) : IO UInt32 := do
  let report ← Schemata.runProgram words
  (← IO.getStdout).putStr report.stdout
  (← IO.getStderr).putStr report.stderr
  return report.status.toUInt32
