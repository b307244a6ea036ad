import Schemata.Compile.Files

/-!
# Folders

The working folder with the files in it, and where paths lead from there. A path is followed name
by name: a dot stays, two dots go up, and any other name has to be one of a folder or, as the last
one, of a file. What lies outside of the working folder is not known, and nothing is found there.

* `Folder.read` is the file at a path, with the reason if it cannot be read.
* `Folder.refusal` is the reason why a path cannot be written.
-/

namespace Schemata

/-- A folder: the files that were written to it, the oldest first. The last one of a path counts,
and one that was not found is not there. -/
structure Folder where
  files : List SourceFile

/-- Where a path leads. -/
inductive Place
  /-- A folder above the working folder or apart from it. -/
  | outside
  /-- A folder, by the names that lead to it from the working folder. -/
  | folder (names : List String)
  | file (f : SourceFile)

namespace Folder

/-- The bytes that a name may have. -/
def nameLimit : Nat := 255

/-- The bytes that a path may have. -/
def pathLimit : Nat := 4095

/-- The names in a path. -/
def namesOf (path : String) : List String := (path.splitOn "/").filter (· != "")

/-- One more name on the way, in a list of names from the working folder. -/
def append (names : List String) (name : String) : List String :=
  if name == "." then names else if name == ".." then names.dropLast else names ++ [name]

/-- The names that lead to a file from the working folder. -/
def address (f : SourceFile) : List String := (namesOf f.path).foldl append []

/-- Whether a file is there. -/
def isThere (f : SourceFile) : Bool :=
  match f.content with
  | .error .notFound => false
  | _ => true

/-- The file at an address. -/
def fileAt? (folder : Folder) (names : List String) : Option SourceFile :=
  (folder.files.reverse.find? fun f => address f == names).filter isThere

/-- Whether an address is that of a folder: the working folder, or one that leads to a file. -/
def isFolder (folder : Folder) (names : List String) : Bool :=
  names.isEmpty || folder.files.any fun f =>
    isThere f && names.isPrefixOf (address f) && names != address f

/-- Follow one name. -/
def step (folder : Folder) (place : Place) (name : String) : Except FileFault Place :=
  match place, name with
  | .file _, _ => .error .notFolder
  | place, "." => .ok place
  | .outside, ".." => .ok .outside
  | .folder names, ".." => .ok (if names.isEmpty then .outside else .folder names.dropLast)
  | place, name =>
    if nameLimit < name.utf8ByteSize then .error .nameTooLong
    else
      match place with
      | .folder names =>
        let next := names ++ [name]
        match folder.fileAt? next with
        | some f => .ok (.file f)
        | none => if folder.isFolder next then .ok (.folder next) else .error .notFound
      | _ => .error .notFound

/-- Follow names from where a path starts. -/
def follow (folder : Folder) (path : String) (names : List String) : Except FileFault Place :=
  if path.isEmpty then .error .notFound
  else if path.contains '\x00' then .error .nulInName
  else if pathLimit < path.utf8ByteSize then .error .nameTooLong
  else names.foldlM folder.step (if path.startsWith "/" then .outside else .folder [])

/-- The file at a path. One that is followed by a slash would have to be a folder. -/
def read (folder : Folder) (path : String) : SourceFile :=
  let content := match folder.follow path (namesOf path) with
    | .ok (.file f) => if path.endsWith "/" then .error .notFolder else f.content
    | .ok _ => .error .isFolder
    | .error fault => .error fault
  ⟨path, content⟩

/-- Why a path cannot be written. All but its last name have to lead to a folder, and the last one
must be no folder. -/
def refusal (folder : Folder) (path : String) : Option FileFault :=
  let names := namesOf path
  match folder.follow path names.dropLast with
  | .error fault => some fault
  | .ok place =>
    match names.getLast?, place with
    | none, _ => some .isFolder
    | some _, .file _ => some .notFolder
    | some name, place =>
      if name == "." || name == ".." || path.endsWith "/" then some .isFolder
      else
        match folder.step place name with
        | .ok (.file _) | .error .notFound => none
        | .ok _ => some .isFolder
        | .error fault => some fault

/-- Write a text to a path. -/
def write (folder : Folder) (path text : String) : Folder :=
  ⟨folder.files ++ [⟨path, .ok text⟩]⟩

/-- The text at a path, if there is one. -/
def text? (folder : Folder) (path : String) : Option String := (folder.read path).content.toOption

end Folder

end Schemata
