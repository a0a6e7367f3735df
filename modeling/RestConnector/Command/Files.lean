import RestConnector.Command.Path
import RestConnector.Text.Percent

/-!
Contract: access to files.

Owns:
- `FileFault`, why a file cannot be read or written;
- `FileAccess`, the two ways in which a command uses files, in any monad;
- `FileTree`, files that are held in memory, and the access to them.

Does not own: the files of the machine, see `RestConnector.Main`.

Writing creates the directories that lead to a file.
-/

namespace RestConnector.Command

/-- Why a file cannot be read or written. -/
inductive FileFault where
  | missing
  | notDirectory
  | isDirectory
  | nameTooLong
  | notText
  /-- Any other reason, by its text. -/
  | other (text : String)
deriving Repr, DecidableEq

namespace FileFault

def message : FileFault → String
  | .missing => "No such file or directory (os error 2)"
  | .notDirectory => "Not a directory (os error 20)"
  | .isDirectory => "Is a directory (os error 21)"
  | .nameTooLong => "File name too long (os error 36)"
  | .notText => "stream did not contain valid UTF-8"
  | .other text => text

end FileFault

/-- Access to files by their paths. -/
structure FileAccess (m : Type → Type) where
  read : String → m (Except FileFault (List UInt8))
  write : String → String → m (Except FileFault Unit)

/-- Files in memory by the names on their paths, and the directories that were made for them.  The
places of absolute paths have the root in front. -/
structure FileTree where
  files : List (List String × String)
  directories : List (List String)
deriving Repr

namespace FileTree

def file? (tree : FileTree) (place : List String) : Option String := tree.files.lookup place

def root : List String := ["/"]

/-- The place from which a path leads on. -/
def base (path : String) : List String := if Path.isAbsolute path then root else []

/-- Whether there is a directory at a place; there is one around every file, and around that. -/
def isDirectory (tree : FileTree) (place : List String) : Bool :=
  place == root || place.all (· == "..") || tree.directories.contains place ||
    tree.files.any fun entry => place.length < entry.1.length && place.isPrefixOf entry.1

/-- The place around a place; the root is around itself. -/
def around (place : List String) : List String :=
  if place == root then root
  else if place.all (· == "..") then place ++ [".."]
  else place.dropLast

/-- The place that a name leads to from another one. -/
def enter (place : List String) (name : String) : List String :=
  if name = ".." then around place else place ++ [name]

/-- The place that some names lead to from another one; only a directory can be left. -/
def walk (tree : FileTree) : List String → List String → Except FileFault (List String)
  | place, [] => .ok place
  | place, name :: rest =>
    if (tree.file? place).isSome then .error .notDirectory
    else if !tree.isDirectory place then .error .missing
    else if Path.isTooLongName name then .error .nameTooLong
    else walk tree (enter place name) rest

/-- The place to which a path leads. -/
def locate (tree : FileTree) (path : String) : Except FileFault (List String) :=
  if Path.isTooLong path then .error .nameTooLong
  else walk tree (base path) (Path.steps path)

/-- The text of the file to which a path leads. -/
def read (tree : FileTree) (path : String) : Except FileFault String := do
  let place ← tree.locate path
  match tree.file? place with
  | some text => if Path.ending path = .name then .ok text else .error .notDirectory
  | none => .error (if tree.isDirectory place then .isDirectory else .missing)

def makeDirectories (tree : FileTree) : List String → List String → Except FileFault FileTree
  | place, [] => if (tree.file? place).isSome then .error .notDirectory else .ok tree
  | place, name :: rest =>
    if (tree.file? place).isSome then .error .notDirectory
    else if Path.isTooLongName name then .error .nameTooLong
    else
      let inner := enter place name
      let more :=
        if (tree.file? inner).isSome || tree.isDirectory inner then tree
        else { tree with directories := inner :: tree.directories }
      makeDirectories more inner rest

/-- The tree with a text in the file to which a path leads.  A path that ends in a slash leads to no
file, and one that ends in a dot to none that is not there. -/
def write (tree : FileTree) (path text : String) : Except FileFault FileTree := do
  if Path.isTooLong path then throw .nameTooLong
  let prepared ← tree.makeDirectories (base path) (Path.parent path)
  let place ← prepared.locate path
  if prepared.isDirectory place then throw .isDirectory
  match Path.ending path with
  | .name =>
    let others := prepared.files.filter fun entry => entry.1 != place
    return { prepared with files := (place, text) :: others }
  | .slash => throw .isDirectory
  | .dot => throw (if (prepared.file? place).isSome then .notDirectory else .missing)

/-- The place of the null device, which is empty. -/
def nullDevice : List String := root ++ ["dev", "null"]

def ofFiles (files : List (String × String)) : FileTree :=
  ⟨(files.map fun (path, text) => (base path ++ Path.steps path, text)) ++ [(nullDevice, "")], []⟩

def access : FileAccess (StateM FileTree) where
  read path := do
    return ((← get).read path).map fun text => Text.Percent.bytesOf text.toList
  write path text := do
    match (← get).write path text with
    | .ok tree =>
      set tree
      return .ok ()
    | .error fault => return .error fault

end FileTree

end RestConnector.Command
