import Schemata.Compile.Basic
import Schemata.Declaration.Reader

/-!
# Compiling files

The declarations of a schema may come from several files. Every file is loaded before anything is
compiled, and if any of them fails, the faults of all of them are the result.
-/

namespace Schemata

/-- Why a file cannot be read as a text, or cannot be written. -/
inductive FileFault
  | notFound
  /-- A folder was expected. -/
  | notFolder
  /-- A file was expected. -/
  | isFolder
  | nameTooLong
  | nulInName
  | notText
  /-- Another reason, in the words of the system. -/
  | refused (reason : String)

/-- The wording of a reason. -/
def FileFault.message : FileFault → String
  | .notFound => "No such file or directory (os error 2)"
  | .notFolder => "Not a directory (os error 20)"
  | .isFolder => "Is a directory (os error 21)"
  | .nameTooLong => "File name too long (os error 36)"
  | .nulInName => "file name contained an unexpected NUL byte"
  | .notText => "stream did not contain valid UTF-8"
  | .refused reason => reason

/-- A file that is to be compiled. -/
structure SourceFile where
  path : String
  content : Except FileFault String

namespace SourceFile

/-- The text of a file that is given by its bytes. -/
def ofBytes (path : String) (bytes : ByteArray) : SourceFile :=
  ⟨path, (String.fromUTF8? bytes).elim (.error .notText) .ok⟩

/-- The place that stands for a whole file. -/
def span (f : SourceFile) : Span := ⟨f.path, {}, {}⟩

/-- The declarations that a file holds. -/
def load (f : SourceFile) : Except Diagnostic (List NamespaceDecl) :=
  match f.content with
  | .error e =>
    .error (.errorAt none .invalidSchemaFile s!"cannot load '{f.path}': I/O error: {e.message}")
  | .ok text =>
    match readNamespaces text with
    | .ok ds => .ok ds
    | .error e => .error (.errorAt (some f.span) .parsing e.message)

end SourceFile

/-- The declarations of several files, and what is wrong with those that have none. -/
def loadFiles : List SourceFile → List NamespaceDecl × List Diagnostic
  | [] => ([], [])
  | f :: rest =>
    let (ds, faults) := loadFiles rest
    match f.load with
    | .ok more => (more ++ ds, faults)
    | .error d => (ds, d :: faults)

/-- Compile the declarations of several files. -/
def compileFiles (files : List SourceFile) (limits : Limits) : Except TooLong Compilation :=
  match loadFiles files with
  | (ds, []) => compile ds limits
  | (_, faults) => .ok ⟨faults, none, false⟩

end Schemata
