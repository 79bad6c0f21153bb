import FluxComposer.CommandLine.Job
/-
A tree of files, and jobs that are carried out on it. A path is walked
name by name: each name but the last has to lead to a directory, a point
stays where it is, and two points lead one directory up. Writing a file
first makes the directories above it, whose names are those of the path
without its points.
-/
namespace FluxComposer.CommandLine

-- ============================================================== paths

/-- Why a file cannot be read or written. -/
inductive FileError where
  | missing
  | exists
  | notDirectory
  | isDirectory
  | nameTooLong
  deriving DecidableEq, Repr

/-- The reason, with its number. -/
def FileError.message : FileError → String
  | .missing => "No such file or directory (os error 2)"
  | .exists => "File exists (os error 17)"
  | .notDirectory => "Not a directory (os error 20)"
  | .isDirectory => "Is a directory (os error 21)"
  | .nameTooLong => "File name too long (os error 36)"

/-- A path: from the root or from the working directory, the names that
it leads through, and whether a slash stands behind the last of them. -/
structure FilePath where
  isAbsolute : Bool := false
  names : List String := []
  endsOpen : Bool := false
  deriving DecidableEq, Repr

namespace FilePath

/-- The longest name, in bytes. -/
def nameLimit : Nat := 255

/-- The length at which a path is too long, in bytes. -/
def lengthLimit : Nat := 4096

/-- The path that a text writes. -/
def ofText (text : String) : FilePath where
  isAbsolute := text.toList.head? == some '/'
  names := ((text.toList.splitOn '/').filter (!·.isEmpty)).map String.ofList
  endsOpen := text.toList.getLast? == some '/'

/-- The length of a path, in bytes. -/
def length (p : FilePath) : Nat :=
  ("/".intercalate p.names).utf8ByteSize + p.isAbsolute.toNat
    + p.endsOpen.toNat

/-- The names without the points. At the head of a path from the working
directory a point is a name of its own. -/
def components (p : FilePath) : List String :=
  match p.isAbsolute, p.names with
  | false, first :: rest => first :: rest.filter (· ≠ ".")
  | _, names => names.filter (· ≠ ".")

/-- The path of the directory that the last component stands in. -/
def above (p : FilePath) : FilePath :=
  { p with names := p.components.dropLast, endsOpen := false }

end FilePath

-- =============================================================== trees

/-- What a place in a tree holds. -/
inductive Entry where
  | directory
  | file (content : String)
  deriving DecidableEq, Repr

/-- A place in a tree: the names that lead to it from the root. -/
abbrev Place := List String

/-- A tree of files: what its places hold, the root apart, and the
working directory. -/
structure FileTree where
  entries : List (Place × Entry) := []
  workingDirectory : Place := []
  deriving DecidableEq, Repr

namespace FileTree

/-- What a place holds. The root is a directory. -/
def find? (t : FileTree) (place : Place) : Option Entry :=
  if place.isEmpty then some .directory
  else (t.entries.find? (·.1 = place)).map (·.2)

/-- Puts an entry at a place, instead of what it holds. -/
def put (t : FileTree) (place : Place) (entry : Entry) : FileTree :=
  if t.entries.any (·.1 = place) then
    { t with entries := t.entries.map fun e =>
        if e.1 = place then (place, entry) else e }
  else { t with entries := t.entries ++ [(place, entry)] }

/-- Follows one name from a directory to a directory. -/
def enter (t : FileTree) (place : Place) (name : String) :
    Except FileError Place :=
  if name = "." then .ok place
  else if name = ".." then .ok place.dropLast
  else if name.utf8ByteSize > FilePath.nameLimit then .error .nameTooLong
  else
    match t.find? (place ++ [name]) with
    | some .directory => .ok (place ++ [name])
    | some (.file _) => .error .notDirectory
    | none => .error .missing

/-- Follows names from the place where a path begins. -/
def walk (t : FileTree) (p : FilePath) (names : List String) :
    Except FileError Place :=
  if p.length ≥ FilePath.lengthLimit then .error .nameTooLong
  else
    names.foldlM t.enter (if p.isAbsolute then [] else t.workingDirectory)

/-- Whether a path leads to a directory. -/
def isDirectory (t : FileTree) (p : FilePath) : Bool :=
  (t.walk p p.names).isOk

/-- The place where a path ends, which may hold nothing yet. -/
def target (t : FileTree) (p : FilePath) : Except FileError Place := do
  let above ← t.walk p p.names.dropLast
  match p.names.getLast? with
  | none => if p.isAbsolute then return [] else .error .missing
  | some name =>
    if name = "." ∨ name = ".." then t.enter above name
    else if name.utf8ByteSize > FilePath.nameLimit then .error .nameTooLong
    else return above ++ [name]

-- ========================================================= directories

/-- Makes the directory at a path. -/
def makeDirectory (t : FileTree) (p : FilePath) :
    Except FileError FileTree := do
  let place ← t.target p
  if (t.find? place).isSome then .error .exists
  else return t.put place .directory

/-- Makes the directories at a path with the given names and at the paths
above it, as far as they are missing. The names are in reverse. -/
def makeDirectories (t : FileTree) (isAbsolute : Bool) :
    (names : List String) → Except FileError FileTree
  | [] => .ok t
  | name :: above =>
    let p : FilePath := { isAbsolute, names := (name :: above).reverse }
    let make (t : FileTree) : Except FileError FileTree :=
      match t.makeDirectory p with
      | .error .exists => if t.isDirectory p then .ok t else .error .exists
      | made => made
    match make t with
    | .error .missing => do make (← t.makeDirectories isAbsolute above)
    | made => made

-- =============================================================== files

/-- The content of the file at a path. -/
def read (t : FileTree) (p : FilePath) : Except FileError String := do
  match t.find? (← t.target p) with
  | some (.file content) =>
    if p.endsOpen then .error .notDirectory else return content
  | some .directory => .error .isDirectory
  | none => .error .missing

/-- Writes the file at a path whose directory exists. -/
def writeFile (t : FileTree) (p : FilePath) (content : String) :
    Except FileError FileTree := do
  if p.endsOpen ∧ (t.walk p p.names.dropLast).isOk then .error .isDirectory
  let place ← t.target p
  if t.find? place = some .directory then .error .isDirectory
  else return t.put place (.file content)

/-- Writes the file at a path and makes the directories above it, which
stay even if the file cannot be written. -/
def write (t : FileTree) (p : FilePath) (content : String) :
    FileTree × Except FileError Unit :=
  match t.makeDirectories p.isAbsolute p.above.names.reverse with
  | .error e => (t, .error e)
  | .ok made =>
    match made.writeFile p content with
    | .error e => (made, .error e)
    | .ok written => (written, .ok ())

/-- The files below the working directory, by their paths from it. -/
def files (t : FileTree) : List (String × String) :=
  t.entries.filterMap fun
  | (place, .file content) =>
    if t.workingDirectory.isPrefixOf place then
      some ("/".intercalate (place.drop t.workingDirectory.length), content)
    else none
  | (_, .directory) => none

/-- The tree with a directory at a place and at the places above it. -/
def withDirectory (t : FileTree) (place : Place) : FileTree :=
  (List.range place.length).foldl
    (fun t n => t.put (place.take (n + 1)) .directory) t

/-- The tree with files in its working directory and with the directories
that they stand in. -/
def ofFiles (workingDirectory : Place) (files : List (String × String)) :
    FileTree :=
  files.foldl (fun t (path, content) =>
    let place := workingDirectory ++ (FilePath.ofText path).names
    (t.withDirectory place.dropLast).put place (.file content))
    (withDirectory { workingDirectory } workingDirectory)

end FileTree

-- ================================================================ jobs

/-- Carries out the steps of a job on a tree of files, with a text as the
standard input and a rule by which requests are answered. -/
def Job.on (tree : FileTree) (input : String)
    (answer : Http.Request → Http.Exchange) : Job → Outcome × FileTree
  | .done outcome => (outcome, tree)
  | .read .standardInput next => (next (.ok input)).on tree input answer
  | .read (.file path) next =>
    (next ((tree.read (.ofText path)).mapError (·.message))).on tree input
      answer
  | .write path content next =>
    let (tree, written) := tree.write (.ofText path) content
    (next (written.mapError (·.message))).on tree input answer
  | .ask request next => (next (answer request)).on tree input answer

end FluxComposer.CommandLine
