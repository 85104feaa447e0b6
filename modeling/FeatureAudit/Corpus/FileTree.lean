import FeatureAudit.Corpus.SourcePath

/-!
# File trees

A file tree has files with their octets, and directories: those that are listed, the current one,
and those above them or above a file. All of them are told by the names that lead to them from the
root. Looking up a path goes through its names one by one, from the root or from the current
directory. Files and directories can be closed to reading, and directories to searching.
-/

set_option autoImplicit false

namespace FeatureAudit

/-- Files and directories. -/
structure FileTree where
  /-- The files with their octets. -/
  files : List (List String × List UInt8)
  /-- Directories, besides the current one and those above files. -/
  directories : List (List String) := []
  /-- The current directory. -/
  current : List String := []
  /-- Files that must not be read, and directories that must not be listed. -/
  unreadable : List (List String) := []
  /-- Directories in which nothing must be looked up. -/
  unsearchable : List (List String) := []
  deriving DecidableEq, Repr

namespace FileTree

/-- Why a look-up fails. -/
inductive Fault where
  /-- There is nothing under a name. -/
  | missing
  /-- A directory stands where a file is expected. -/
  | directory
  /-- A file stands where a directory is expected. -/
  | notDirectory
  /-- A name or the path is too long. -/
  | nameTooLong
  /-- A directory must not be searched, or what stands there must not be read. -/
  | denied
  /-- The path has a character that no path may have. -/
  | unusable
  deriving DecidableEq, Repr

/-- What stands under a path. -/
inductive Entry where
  /-- A directory. -/
  | directory
  /-- A file. -/
  | file (octets : List UInt8)
  deriving DecidableEq, Repr

/-- The tree without files. -/
def empty : FileTree := { files := [] }

/-- Whether a file may be read, or a directory listed. -/
def mayRead (t : FileTree) (names : List String) : Bool := !t.unreadable.contains names

/-- Whether something may be looked up in a directory. -/
def maySearch (t : FileTree) (names : List String) : Bool := !t.unsearchable.contains names

/-- The directories that need no file below them. -/
def standing (t : FileTree) : List (List String) := t.current :: t.directories

/-- Whether there is a directory under a list of names. -/
def hasDirectory (t : FileTree) (names : List String) : Bool :=
  t.standing.any (fun d => names.isPrefixOf d) ||
    t.files.any fun f => names.isPrefixOf f.1 && f.1 != names

/-- What stands under a list of names. -/
def get? (t : FileTree) (names : List String) : Option Entry :=
  match t.files.lookup names with
  | some octets => some (.file octets)
  | none => if t.hasDirectory names then some .directory else none

/-! ## Looking up paths -/

/-- Follows names without looking them up: a point stays, double points go up, from the root to
itself. -/
def settle : List String → List String → List String
  | here, [] => here
  | here, name :: names =>
    if name == "." then settle here names
    else if name == ".." then settle here.dropLast names
    else settle (here ++ [name]) names

/-- Where the look-up of a path begins. -/
def start (t : FileTree) (p : SourcePath) : List String :=
  if p.root.isEmpty then t.current else []

/-- Where a path leads to. -/
def place (t : FileTree) (p : SourcePath) : List String := settle (t.start p) p.steps

/-- The most octets of a name. -/
def nameLimit : Nat := 255

/-- Paths of so many octets are too long. -/
def pathLimit : Nat := 4096

/-- Goes on through names from a directory, as `settle` does. Each name is looked up where the names
before it have led. -/
def walk (t : FileTree) (here : List String) : List String → Except Fault Entry
  | [] => match t.get? here with
    | some e => .ok e
    | none => .error .missing
  | name :: names =>
    match t.get? here with
    | none => .error .missing
    | some (.file _) => .error .notDirectory
    | some .directory =>
      if !t.maySearch here then .error .denied
      else if name == "." then t.walk here names
      else if name == ".." then t.walk here.dropLast names
      else if nameLimit < name.utf8ByteSize then .error .nameTooLong
      else t.walk (here ++ [name]) names

/-- Goes through the names of a path and on through more names. -/
def follow (t : FileTree) (p : SourcePath) (names : List String) : Except Fault Entry :=
  t.walk (t.start p) (p.steps ++ names)

/-- Looks up a path. -/
def lookup (t : FileTree) (p : SourcePath) : Except Fault Entry :=
  if p.text.toList.contains '\x00' then .error .unusable
  else if pathLimit ≤ p.text.utf8ByteSize then .error .nameTooLong
  else t.follow p []

/-- The octets of the file under a path. -/
def read (t : FileTree) (p : SourcePath) : Except Fault (List UInt8) :=
  match t.lookup p with
  | .error fault => .error fault
  | .ok e =>
    if t.mayRead (t.place p) then
      match e with
      | .file octets => .ok octets
      | .directory => .error .directory
    else .error .denied

/-- Adds a file under a path. -/
def addFile (t : FileTree) (p : SourcePath) (octets : List UInt8) : FileTree :=
  { t with files := (t.files.filter fun f => f.1 != t.place p) ++ [(t.place p, octets)] }

/-- Adds a directory under a path. -/
def addDirectory (t : FileTree) (p : SourcePath) : FileTree :=
  { t with directories := t.directories ++ [t.place p] }

/-! ## Listing directories -/

/-- The names of the files in a directory. -/
def fileNames (t : FileTree) (here : List String) : List String :=
  t.files.filterMap fun f =>
    match here.isPrefixOf? f.1 with
    | some [name] => some name
    | _ => none

/-- The names of the directories in a directory. -/
def directoryNames (t : FileTree) (here : List String) : List String :=
  ((t.files.filterMap fun f =>
      match here.isPrefixOf? f.1 with
      | some (name :: _ :: _) => some name
      | _ => none) ++
    t.standing.filterMap fun d => (here.isPrefixOf? d).bind List.head?).eraseDups

/-- The most names of a file or directory. -/
def depth (t : FileTree) : Nat :=
  ((t.files.map Prod.fst ++ t.standing).map List.length).max?.getD 0

end FileTree

end FeatureAudit
