import Patchwork.Command.Run

/-!
# The program on a real file system

`Command.run` works on a file system that is a value. Here that value is filled from the disk as far
as it is needed: with the arguments, the configuration files beside and above them, and then, as
long as a run fails for want of a source, that source.
-/

namespace Patchwork.Command

/-- Takes what is at the path from the disk, if anything is. -/
def fetchOne (fs : FileSystem) (path : String) : IO FileSystem := do
  try
    let found ← IO.FS.realPath path
    if ← found.isDir then return fs.makeDirectory path
    else return fs.writeFile path (← IO.FS.readBinFile path)
  catch _ => return fs

/-- Takes what is at the path and at all paths on the way to it. -/
def fetch (fs : FileSystem) (path : String) : IO FileSystem := do
  let names := ((Path.ofString path).absolute fs.workingDirectory).names
  (List.range names.length).foldlM (fun fs i => do
    fetchOne fs (Path.render ⟨.root, names.take (i + 1)⟩)) fs

/-- Takes the configuration files at the path and above it. -/
def fetchConfigs (fs : FileSystem) (path : String) : IO FileSystem := do
  let names := ((Path.ofString path).absolute fs.workingDirectory).names
  (List.range (names.length + 1)).foldlM (fun fs i => do
    fetch fs (Path.render ⟨.root, names.take i ++ [Config.fileName]⟩)) fs

/-- The source that an outcome lacks. -/
def Outcome.unavailable? : Outcome → Option String
  | .done report _ => report.unavailable
  | .misused => none

/-- Runs the program, and runs it again with the source it lacks until it lacks none that could be
fetched. -/
partial def settle (fs : FileSystem) (terminal : Bool) (arguments tried : List String) :
    IO Outcome := do
  let outcome := run fs terminal arguments
  match outcome.unavailable? with
  | none => return outcome
  | some path =>
    if tried.contains path || FileSystem.hasNull path then return outcome
    else settle (← fetch fs path) terminal arguments (path :: tried)

def usage : String :=
  "usage: logical-file [--config FILE] [--no-color] [--verbose] render [-n] FILE\n" ++
    "       logical-file [--config FILE] [--no-color] [--verbose] resolve FILE LINE\n" ++
    "       logical-file [--config FILE] [--no-color] [--verbose] sections FILE\n"

end Patchwork.Command

open Patchwork Command in
def main (arguments : List String) : IO UInt32 := do
  let out ← IO.getStdout
  let err ← IO.getStderr
  let here ← IO.FS.realPath "."
  let empty : FileSystem := ⟨.directory [], (Path.ofString here.toString).names⟩
  let start := empty.makeDirectory "."
  let operands := ((programOptions.split arguments).map fun s =>
    s.operands ++ s.options.map (·.2)).getD []
  let fs ← operands.foldlM (fun fs path => do
    if path.isEmpty || FileSystem.hasNull path then return fs
    else fetchConfigs (← fetch fs path) path) start
  match ← settle fs (← out.isTty) arguments [] with
  | .misused =>
    err.putStr usage
    return 2
  | .done report _ =>
    out.putStr report.out
    err.putStr report.err
    match report.escaped with
    | none => return report.exitCode.toUInt32
    | some e =>
      err.putStrLn e.message
      return 1
