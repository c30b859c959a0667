/-!
# Paths

A path is a list of names below an anchor. Reading one (`Path.ofString`) drops empty names and
single dots, so writing it again (`Path.render`) gives its normal form; double dots stay, because
only the files themselves tell what they mean.
-/

namespace Patchwork

/-- Where a path starts: at the working directory, at the root, or at the root written with exactly
two slashes, which is kept apart from it. -/
inductive Anchor where
  | relative
  | root
  | doubleRoot
deriving DecidableEq

/-- The slashes an anchor is written with. -/
def Anchor.text : Anchor → String
  | .relative => ""
  | .root => "/"
  | .doubleRoot => "//"

structure Path where
  anchor : Anchor
  names : List String
deriving DecidableEq

namespace Path

/-- The pieces between slashes, empty ones included. -/
def pieces (s : String) : List String :=
  (s.toList.splitOn '/').map String.ofList

/-- One slash, or three and more, stand for the root; two are kept. -/
def anchorOf : List Char → Anchor
  | '/' :: '/' :: '/' :: _ => .root
  | '/' :: '/' :: _ => .doubleRoot
  | '/' :: _ => .root
  | _ => .relative

/-- The path a string stands for. -/
def ofString (s : String) : Path :=
  ⟨anchorOf s.toList, (pieces s).filter fun n => n ≠ "" ∧ n ≠ "."⟩

/-- The normal form; the path that leads nowhere is written as a dot. -/
def render (p : Path) : String :=
  match p with
  | ⟨.relative, []⟩ => "."
  | ⟨anchor, names⟩ => anchor.text ++ String.intercalate "/" names

/-- The path `q` taken from `p`: an anchored path stands for itself. -/
def append (p q : Path) : Path :=
  match q.anchor with
  | .relative => ⟨p.anchor, p.names ++ q.names⟩
  | _ => q

instance : Append Path := ⟨append⟩

/-- The path above; the root is above itself. -/
def parent (p : Path) : Path := ⟨p.anchor, p.names.dropLast⟩

def lastName (p : Path) : String := p.names.getLast?.getD ""

/-- One name followed from the names already passed: a double dot takes the last one back. -/
def step (passed : List String) (name : String) : List String :=
  if name = ".." then passed.dropLast else passed ++ [name]

/-- The path from the root, without double dots, that `p` means in the directory `cwd`. -/
def absolute (cwd : List String) (p : Path) : Path :=
  let start := if p.anchor = .relative then cwd else []
  ⟨.root, p.names.foldl step start⟩

end Path

/-- Where the source `source` of a document with the given base is found: below the base, in normal
form; without a base the source is its own path, unchanged. -/
def sourcePath (base : Option String) (source : String) : String :=
  match base with
  | none => source
  | some b => (Path.ofString b ++ Path.ofString source).render

end Patchwork
