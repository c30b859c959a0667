import Patchwork.Path
import Patchwork.Text.Quoted

/-!
# Files as values

A `FileSystem` is a tree of directories and files together with a working directory. Everything that
reads files takes one as an argument, so what a program does with files is a function of its value.
There are no permissions and no links: the directories above a file are those passed on the way to
it, and following a path always comes to an end.
-/

namespace Patchwork

/-- A file with its bytes, or a directory with its named entries. -/
inductive FileTree where
  | file (content : ByteArray)
  | directory (entries : List (String × FileTree))

/-- What can stand in the way of reaching or opening a file. -/
inductive Obstacle where
  | missing
  | notDirectory
  | isDirectory
  | nameTooLong
deriving DecidableEq

namespace Obstacle

def number : Obstacle → Nat
  | missing => 2
  | notDirectory => 20
  | isDirectory => 21
  | nameTooLong => 36

def text : Obstacle → String
  | missing => "No such file or directory"
  | notDirectory => "Not a directory"
  | isDirectory => "Is a directory"
  | nameTooLong => "File name too long"

end Obstacle

namespace FileTree

/-- The longest name of a directory entry, in bytes. -/
def nameLimit : Nat := 255

/-- What the names lead to from `here`; `above` holds the directories passed on the way, the nearest
first. Empty names and single dots lead nowhere, but only a directory has them. -/
def follow (here : FileTree) (above : List FileTree) : List String → Except Obstacle FileTree
  | [] => .ok here
  | name :: rest =>
    match here with
    | file _ => .error .notDirectory
    | directory entries =>
      if name = "" ∨ name = "." then follow here above rest
      else if name = ".." then
        match above with
        | [] => follow here [] rest
        | parent :: further => follow parent further rest
      else if nameLimit < name.utf8ByteSize then .error .nameTooLong
      else
        match entries.lookup name with
        | none => .error .missing
        | some entry => follow entry (here :: above) rest

/-- The entries with the entry `name` replaced, or taken away. -/
def alterEntry (name : String) (entry : Option FileTree) (entries : List (String × FileTree)) :
    List (String × FileTree) :=
  entries.filter (fun e => e.1 ≠ name) ++ entry.toList.map fun t => (name, t)

/-- Changes what the names lead to, with directories made on the way; a file in the way stays. -/
def alter (change : Option FileTree → Option FileTree) :
    List String → Option FileTree → Option FileTree
  | [], tree => change tree
  | name :: rest, tree =>
    match tree with
    | some (file content) => some (file content)
    | some (directory entries) =>
      some (directory (alterEntry name (alter change rest (entries.lookup name)) entries))
    | none => (alter change rest none).map fun entry => directory [(name, entry)]

mutual

def contents : FileTree → List ByteArray
  | file content => [content]
  | directory entries => contentsOfEntries entries

def contentsOfEntries : List (String × FileTree) → List ByteArray
  | [] => []
  | (_, entry) :: rest => contents entry ++ contentsOfEntries rest

end

end FileTree

/-- Why a path could not be used: it holds a null character, or it is blocked. -/
inductive AccessFailure where
  | nullInPath
  | blocked (obstacle : Obstacle) (path : String)
deriving DecidableEq

def AccessFailure.message : AccessFailure → String
  | nullInPath => "embedded null byte"
  | blocked obstacle path => s!"[Errno {obstacle.number}] {obstacle.text}: {Text.quoted path}"

/-- All files, and the names that lead from the root to the working directory. -/
structure FileSystem where
  root : FileTree
  workingDirectory : List String

namespace FileSystem

/-- The longest path that can be looked up, in bytes. -/
def pathLimit : Nat := 4095

def hasNull (path : String) : Bool := path.toList.contains '\x00'

/-- What is found at a path that holds no null character; the empty path leads to nothing. -/
def find (fs : FileSystem) (path : String) : Except Obstacle FileTree :=
  if path = "" then .error .missing
  else if pathLimit < path.utf8ByteSize then .error .nameTooLong
  else
    let start := if Path.anchorOf path.toList = .relative then fs.workingDirectory else []
    fs.root.follow [] (start ++ Path.pieces path)

/-- The bytes of the file at `path`, which is brought to normal form first. -/
def read (fs : FileSystem) (path : String) : Except AccessFailure ByteArray :=
  let opened := (Path.ofString path).render
  if hasNull opened then .error .nullInPath
  else
    match fs.find opened with
    | .ok (.file content) => .ok content
    | .ok (.directory _) => .error (.blocked .isDirectory opened)
    | .error obstacle => .error (.blocked obstacle opened)

/-- What is at the path, if anything; a name that cannot exist is a failure, not an absence. -/
def probe (fs : FileSystem) (path : Path) : Except AccessFailure (Option FileTree) :=
  let opened := path.render
  if hasNull opened then .ok none
  else
    match fs.find opened with
    | .ok tree => .ok (some tree)
    | .error .nameTooLong => .error (.blocked .nameTooLong opened)
    | .error _ => .ok none

/-- The path from the root, without double dots, that `path` means; whether it exists does not
matter. -/
def resolve (fs : FileSystem) (path : String) : Except AccessFailure Path :=
  if hasNull path then .error .nullInPath
  else .ok ((Path.ofString path).absolute fs.workingDirectory)

/-- The file system with a change at the path. -/
def alter (fs : FileSystem) (path : String) (change : Option FileTree → Option FileTree) :
    FileSystem :=
  let names := ((Path.ofString path).absolute fs.workingDirectory).names
  { fs with root := (FileTree.alter change names (some fs.root)).getD (.directory []) }

/-- The file system with a file of the given content at the path. -/
def writeFile (fs : FileSystem) (path : String) (content : ByteArray) : FileSystem :=
  fs.alter path fun _ => some (.file content)

def makeDirectory (fs : FileSystem) (path : String) : FileSystem :=
  fs.alter path fun tree => some (tree.getD (.directory []))

def remove (fs : FileSystem) (path : String) : FileSystem :=
  fs.alter path fun _ => none

end FileSystem

end Patchwork
