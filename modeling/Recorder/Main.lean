/-
# The command line

`SPEC_FULL.md` §12.

`main` collects what a run finds (arguments, environment, the files at the paths
it may look at, the time, and while recording one message a line on standard
input), runs the program, and writes down what it leaves.
-/

import Recorder.CommandLine.Program
import Recorder.Config.EnvironmentFile
import Std.Time

namespace Recorder
namespace Console

/-- The settings in the environment and in the file `.env`. -/
def environment : IO (Entries String) := do
  let given ← Settings.variableNames.filterMapM fun name => do
    return (← IO.getEnv name).map (name, ·)
  let text ← try IO.FS.readFile ".env" catch _ => return given
  match EnvironmentFile.load given text with
  | .ok found => return found
  | .error e => throw (IO.userError e.message)

/-- What is at a path. -/
def look (p : FilePath) : IO (Option FileNode) := do
  let path := (← IO.currentDir) / p.text
  if ← path.isDir then return some .directory
  try return some (.file (← IO.FS.readBinFile path))
  catch _ => return none

/-- A path and those that lead to it. -/
def wayTo (p : FilePath) : List FilePath :=
  (List.range (p.names.length + 1)).map fun n => { p with names := p.names.take n }

/-- What is at the given paths. -/
def collect (paths : List FilePath) : IO FileTree := do
  let mut tree : FileTree := {}
  for p in paths.flatMap wayTo do
    if let some n ← look p then
      if let .ok names := tree.followFrom (FileTree.startOf p) p.names then
        tree := tree.put names n
  return tree

/-- Messages from standard input, one a line. -/
partial def listen (input : IO.FS.Stream) (feed : Feed) : IO Feed := do
  let line ← input.getLine
  if line.isEmpty then return feed else listen input (feed.addLine line)

/-- Writes the files of a tree that another one does not have. -/
def store (before after : FileTree) : IO Unit := do
  for (names, n) in after.nodes do
    match n with
    | .directory => if (before.node? names).isNone then IO.FS.createDirAll ("/".intercalate names)
    | .file content =>
      if before.content names != content || (before.node? names).isNone then
        IO.FS.writeBinFile ("/".intercalate names) content

/-- Runs the program. -/
def run (args : List String) : IO UInt32 := do
  let environment ← environment
  let files ← collect (Program.paths environment args)
  let now := Std.Time.DateTime.ofTimestamp (← Std.Time.Timestamp.now) .UTC
  let feed ← if Program.records args then listen (← IO.getStdin) {} else pure {}
  let outcome := Program.run
    { environment, files, feed
      logTime := now.format "uuuu-MM-dd HH:mm:ss,SSS"
      savedAt := now.format "uuuu-MM-dd'T'HH:mm:ss'Z'" } args
  store files outcome.files
  IO.print outcome.output
  match outcome.result with
  | .ok () => return 0
  | .error e =>
    IO.eprintln e.message
    return e.status

end Console
end Recorder

/-- The command line. -/
def main (args : List String) : IO UInt32 := Recorder.Console.run args
