/-!
# Files

A file system at one moment, as far as kubeconfig files are concerned: files, directories and
symbolic links, and the directory where relative paths start.

A path is walked step by step. Only a directory can be walked through, so nothing is behind a
file, not even by a final slash (`Files.walk`); a link stands for the steps of its text, and one
way leads through a bounded number of links (`Files.walkLinks`). The walk ends at a place that is
no link and below none, whose path is the canonical one.

Paths as texts are compared by their parts, which does not need the file system: `a//b/.` and
`a/b` are one path, and `a/../b` and `b` are two (`Files.parts`).
-/

namespace VolumeMigration

/-- Why a path cannot be read. -/
inductive FileError where
  | missing
  | notDirectory
  | isDirectory
  | tooManyLinks
  /-- The file is there, but not its text. -/
  | unreadable (reason : String)
  deriving DecidableEq, Repr

namespace FileError

/-- The system's words. -/
def message : FileError → String
  | missing => "No such file or directory (os error 2)"
  | notDirectory => "Not a directory (os error 20)"
  | isDirectory => "Is a directory (os error 21)"
  | tooManyLinks => "Too many levels of symbolic links (os error 40)"
  | unreadable reason => reason

end FileError

/-- What stands at a place. -/
inductive Place where
  /-- A file with its text, or why that cannot be had. -/
  | file (text : Except String String)
  | directory
  /-- A symbolic link to a path, which starts where the link stands unless it is absolute. -/
  | link (target : String)

/-- A file system: what stands at some places, each written as the names on the way from the
root. The directories above them are there as well. -/
structure Files where
  entries : List (List String × Place) := []
  /-- The path from the root to where relative paths start. -/
  directory : String := "/"

namespace Files

/-! ### Paths -/

/-- The components of a path, as written. -/
def components (path : String) : List String :=
  (path.toList.splitOn '/').map String.ofList

/-- Whether a component counts: a step to the same directory does not. -/
def isStep (component : String) : Bool := component != "" && component != "."

/-- The components that count. -/
def steps (path : String) : List String := (components path).filter isStep

/-- Whether a path starts at the root. -/
def isAbsolute (path : String) : Bool := path.toList.head? == some '/'

/-- What paths are compared by: whether they start at the root, and the steps. A relative path
that says that it starts here keeps saying so. -/
def parts (path : String) : Bool × List String :=
  (isAbsolute path, (if (components path).head? = some "." then ["."] else []) ++ steps path)

/-- A place as a path. -/
def pathOf (place : List String) : String := "/" ++ "/".intercalate place

/-- A path below another one. -/
def join (base child : String) : String :=
  if base.isEmpty || base.endsWith "/" then base ++ child else base ++ "/" ++ child

/-! ### Where paths lead -/

/-- Files with their texts, by paths that start at the root or at a directory. -/
def ofList (files : List (String × String)) (directory : String := "/") : Files where
  entries := files.map fun (path, text) ↦
    ((if isAbsolute path then [] else steps directory) ++ steps path, .file (.ok text))
  directory

/-- What stands at a place. -/
def at? (fs : Files) (place : List String) : Option Place :=
  if place.isEmpty then some .directory
  else
    match fs.entries.lookup place with
    | some found => some found
    | none =>
      if fs.entries.any fun (held, _) ↦ place.isPrefixOf held then some .directory else none

/-- Walks on from a place. Where a link is met, `follow` goes on: from the root or from the
directory of the link, with the steps of its text before those that are left. -/
def walk (fs : Files) (follow : List String → List String → Except FileError (List String))
    (place : List String) : List String → Except FileError (List String)
  | [] => .ok place
  | step :: steps =>
    match fs.at? place with
    | some .directory =>
      if !isStep step then walk fs follow place steps
      else if step = ".." then walk fs follow place.dropLast steps
      else
        match fs.at? (place ++ [step]) with
        | some (.link target) =>
          follow (if isAbsolute target then [] else place) (components target ++ steps)
        | some _ => walk fs follow (place ++ [step]) steps
        | none => .error .missing
    | some _ => .error .notDirectory
    | none => .error .missing

/-- Walks on from a place, through a bounded number of links. -/
def walkLinks (fs : Files) : Nat → List String → List String → Except FileError (List String)
  | 0 => walk fs fun _ _ ↦ .error .tooManyLinks
  | links + 1 => walk fs (walkLinks fs links)

/-- Links on one way. -/
def maxLinks : Nat := 40

/-- The components on the way to a path, from the root on. -/
def way (fs : Files) (path : String) : List String :=
  (if isAbsolute path then [] else components fs.directory) ++ components path

/-- Where a path leads. -/
def resolve (fs : Files) (path : String) : Except FileError (List String) :=
  if path.isEmpty then .error .missing else fs.walkLinks maxLinks [] (fs.way path)

/-- The canonical form of a path that exists; any other path stays as it is. -/
def canonical (fs : Files) (path : String) : String :=
  match fs.resolve path with
  | .ok place => pathOf place
  | .error _ => path

/-- The text at a path. -/
def read (fs : Files) (path : String) : Except FileError String := do
  let place ← fs.resolve path
  match fs.at? place with
  | some (.file text) => text.mapError .unreadable
  | some .directory => throw .isDirectory
  | _ => throw .missing

/-- Whether a path leads to a file. -/
def isFile (fs : Files) (path : String) : Bool :=
  match fs.resolve path with
  | .ok place => (fs.at? place).any fun | .file _ => true | _ => false
  | .error _ => false

end Files

end VolumeMigration
