import Schemata.Compile.Folder
import Schemata.Outline.Writer
import Schemata.Text.Lowercase

/-!
# The command line

`compile` takes files and tells whether they make a schema. The diagnostics go to the error stream;
the outline of the schema goes to the output if it is asked for, or to a file, and a summary
otherwise. An `Invocation` is what the words of the command line ask for, and a `Report` is what
the program answers, so that nothing here touches a stream or a file.
-/

namespace Schemata

/-- What `compile` is asked to do. -/
structure CompileRequest where
  files : List String := []
  json : Bool := false
  output : Option String := none
  limits : Option String := none

/-- What a command line asks for. -/
inductive Invocation
  | version
  | compile (request : CompileRequest)

/-- What the program answers. -/
structure Report where
  status : Nat
  stdout : String := ""
  stderr : String := ""
  /-- A file that is written, by its path and its text. -/
  written : Option (String × String) := none

/-! ## Reading a command line -/

/-- An option of `compile` that takes a value. -/
inductive ValueOption
  | output
  | limits

namespace CompileRequest

/-- Set the flag. It may be set once. -/
def setJson (r : CompileRequest) : Option CompileRequest :=
  if r.json then none else some { r with json := true }

/-- Give an option its value. It may be given once, and a path is not empty. -/
def setValue (r : CompileRequest) (o : ValueOption) (value : String) : Option CompileRequest :=
  match o with
  | .output =>
    if r.output.isSome || value.isEmpty then none else some { r with output := some value }
  | .limits => if r.limits.isSome then none else some { r with limits := some value }

/-- Add a file. -/
def addFile (r : CompileRequest) (path : String) : Option CompileRequest :=
  if path.isEmpty then none else some { r with files := r.files ++ [path] }

/-- Whether a word is a value and not an option. -/
def isValue (word : String) : Bool := !word.startsWith "-" || word == "-"

/-- A value after its option, without the sign of equality that may stand between. -/
def attached (value : List Char) : String :=
  match value with
  | '=' :: rest => String.ofList rest
  | _ => String.ofList value

/-- Take an option with its value, attached to it or the next word, and leave the other words. -/
def takeValue (r : CompileRequest) (o : ValueOption) (value : Option String)
    (words : List String) : Option (CompileRequest × List String) :=
  match value, words with
  | some v, words => (r.setValue o v).map (·, words)
  | none, v :: rest => if isValue v then (r.setValue o v).map (·, rest) else none
  | none, [] => none

/-- Take the letters of a word that starts with one dash. -/
def takeLetters (r : CompileRequest) (words : List String) :
    List Char → Option (CompileRequest × List String)
  | [] => some (r, words)
  | 'j' :: rest => r.setJson.bind fun r => r.takeLetters words rest
  | 'o' :: rest => r.takeValue .output (if rest.isEmpty then none else some (attached rest)) words
  | 'l' :: rest => r.takeValue .limits (if rest.isEmpty then none else some (attached rest)) words
  | _ => none

/-- Take an option that is written out, possibly with a value after a sign of equality. -/
def takeLong (r : CompileRequest) (words : List String) (option : List Char) :
    Option (CompileRequest × List String) :=
  let name := String.ofList (option.takeWhile (· != '='))
  let value := match option.dropWhile (· != '=') with
    | [] => none
    | _ :: v => some (String.ofList v)
  match name, value with
  | "json", none => r.setJson.map (·, words)
  | "output", value => r.takeValue .output value words
  | "limits", value => r.takeValue .limits value words
  | _, _ => none

/-- Take all words after the name of the command; there are at most as many as the fuel allows. -/
def takeWords : Nat → CompileRequest → List String → Option CompileRequest
  | 0, _, _ => none
  | _, r, [] => some r
  | fuel + 1, r, word :: rest =>
    match word.toList with
    | ['-', '-'] => rest.foldlM addFile r
    | '-' :: '-' :: option => (r.takeLong rest option).bind fun (r, rest) => takeWords fuel r rest
    | '-' :: letter :: letters =>
      (r.takeLetters rest (letter :: letters)).bind fun (r, rest) => takeWords fuel r rest
    | _ => (r.addFile word).bind fun r => takeWords fuel r rest

end CompileRequest

/-- Whether a word asks for the version. Letters after the first do not matter. -/
def asksVersion (word : String) : Bool := word == "--version" || word.startsWith "-V"

/-- What the words of a command line ask for. After the question for the version no word matters. -/
def Invocation.ofWords? : List String → Option Invocation
  | "compile" :: words =>
    match CompileRequest.takeWords (words.length + 1) {} words with
    | some r => if r.files.isEmpty then none else some (.compile r)
    | none => none
  | word :: _ => if asksVersion word then some .version else none
  | [] => none

/-! ## Answering -/

/-- The answer to a command line that cannot be read. -/
def Report.usage : Report :=
  { status := 2
    stderr := "Usage: sdata compile [-j] [-o FILE] [-l PRESET] FILE...\n" }

/-- The answer to a question for the version. -/
def Report.version : Report := { status := 0, stdout := "sdata 0.1.0\n" }

/-- The answer when something beside the schema went wrong. -/
def Report.failure (message : String) : Report :=
  { status := 2, stderr := s!"Error: {message}\n" }

/-- The limits that go by a name in any case of letters. -/
def CompileRequest.limits? (r : CompileRequest) : Except String Limits :=
  let name := r.limits.getD "default"
  match Limits.preset? (Text.lowercase name) with
  | some limits => .ok limits
  | none => .error s!"unknown limits preset: {name}. Use: default, strict, permissive"

/-- The lines of a text that is printed line by line. -/
def lines (texts : List String) : String := String.join (texts.map (· ++ "\n"))

/-- The line about a namespace in a summary. -/
def NamespaceOutline.summary (ns : NamespaceOutline) : String :=
  s!"{ns.uri} ({ns.members.length} members)"

/-- The answer to `compile`. -/
def CompileRequest.report (r : CompileRequest) (c : Compilation) : Report :=
  let diagnostics := c.diagnostics.map (·.text)
  match c.schema with
  | none => { status := 1, stderr := lines (diagnostics ++ [s!"✗ {c.errors.length} error(s)"]) }
  | some s =>
    let stderr := lines diagnostics
    let outline := s.outline
    match r.output with
    | some path => { status := 0, stderr, written := some (path, outline.text true) }
    | none =>
      if r.json then { status := 0, stderr, stdout := lines [outline.text true] }
      else
        { status := 0
          stderr
          stdout := lines (outline.namespaces.map (·.summary) ++ ["✓ Schema is valid"]) }

/-- Read the files, compile them and answer. -/
def CompileRequest.run (r : CompileRequest) (files : List SourceFile) : Report :=
  match r.limits? with
  | .error message => .failure message
  | .ok limits =>
    match compileFiles files limits with
    | .ok c => r.report c
    | .error _ => { status := 101, stderr := "a duration is out of range\n" }

/-- The answer when the file for the output cannot be written. -/
def Report.unwritten (r : Report) (reason : FileFault) : Report :=
  let failure := Report.failure s!"I/O error: {reason.message}"
  { failure with stderr := r.stderr ++ failure.stderr }

/-- Answer a command line in a folder. -/
def Invocation.answer (folder : Folder) (words : List String) : Report :=
  match ofWords? words with
  | none => .usage
  | some .version => .version
  | some (.compile r) =>
    let report := r.run (r.files.map folder.read)
    match report.written.bind fun (path, _) => folder.refusal path with
    | some reason => report.unwritten reason
    | none => report

end Schemata
