import Highlighter.CommandLine.Run

/-!
# The program

Reads the files that the command line names, runs the program on them, and writes what it leaves
behind: its output, the files it made or changed, and the report of its failure.
-/

namespace Highlighter.Program

open CommandLine

/-- The variables of the environment that matter. -/
def variableNames : List String :=
  ["TINCT_VERBOSE", "TINCT_CONFIG", "TINCT_NO_COLOR", "HOME", "XDG_CONFIG_HOME"]

/-- The number of processors that the system lists, or one if it lists none. -/
def countProcessors : IO Nat := do
  let listing ← try IO.FS.readFile "/proc/cpuinfo" catch _ => pure ""
  return max 1 ((listing.splitOn "\n").countP (·.startsWith "processor"))

/-- How a command is used. -/
def usage : Verb → String
  | .tokens => "tinct tokens [-l LANGUAGE] [-F text|json] FILE"
  | .highlight => "tinct highlight [-l LANGUAGE] [-j JOBS] FILE..."
  | .languages => "tinct languages"
  | .config => "tinct config [-w FILE]"

/-- The texts about the program. -/
def text : Notice → String
  | .help .program _ =>
    let verbs := [.tokens, .highlight, .languages, .config]
    let lines := verbs.map fun verb => "  " ++ usage verb ++ "\n"
    "Usage:\n" ++ String.join lines ++ "Everywhere: [-v] [-c FILE] [--no-color]\n"
  | .help (.command verb) _ => "Usage: " ++ usage verb ++ "\n"
  | .help .manual _ => "Usage: tinct help [COMMAND]\n"
  | .version _ => "tinct 0.1.0\n"

/-- Reads the environment. -/
def readEnvironment : IO Environment := do
  let bindings ← variableNames.filterMapM fun name => do
    return (← IO.getEnv name).map fun value => (name, value)
  return { bindings, processors := ← countProcessors, texts := text }

/-- The path of a place from the root. -/
def absolute (place : Place) : String :=
  "/" ++ "/".intercalate place

/-- Adds to a tree what there is on the way along the pieces of a path. -/
def explore (tree : FileTree) (place : Place) : List String → IO FileTree
  | [] => return tree
  | piece :: pieces => do
    let place := FileTree.step place piece
    let root := (← IO.currentDir) / "/"
    let path := root / absolute place
    if ← path.isDir then
      let tree := if tree.isDirectory place then tree else tree.put place (.directory [])
      explore tree place pieces
    else if ← path.pathExists then
      return tree.put place (.file (← IO.FS.readBinFile path))
    else
      return tree

/-- The tree of everything that the paths lead through or to. -/
def readTree (paths : List String) : IO FileTree := do
  let current := Path.components (← IO.currentDir).toString
  let tree := FileTree.withWorkingDirectory current
  paths.foldlM (fun tree path => explore tree (tree.start path) (Path.pieces path)) tree

/-- Reads a stream to its end, behind what was read before. -/
partial def readAll (stream : IO.FS.Stream) (before : ByteArray) : IO ByteArray := do
  let next ← stream.read 65536
  if next.isEmpty then return before else readAll stream (before ++ next)

/-- Makes a file or a directory at a path, where there was another one before or nothing, with
everything in it that was not there. -/
partial def writeNode (path : String) (before : Option FileNode) (after : FileNode) : IO Unit := do
  match before, after with
  | some (.file old), .file new =>
    if old.data != new.data then IO.FS.writeBinFile path new
  | _, .file new => IO.FS.writeBinFile path new
  | _, .directory entries =>
    if !before.any FileNode.isDirectory then IO.FS.createDir path
    entries.forM fun (name, child) =>
      writeNode (path ++ "/" ++ name) (before.bind (·.child? name)) child

/-- Tells on the standard error how the program ended, unless it succeeded. -/
def writeStatus : Status → IO Unit
  | .success | .informed _ => return
  | .misused => IO.eprintln "error: the command line was not understood"
  | .failed error => IO.eprintln ("Error: " ++ error.report)

/-- Runs the program and returns its exit code. -/
def start (words : List String) : IO UInt32 := do
  let environment ← readEnvironment
  let arguments := (Arguments.ofWords environment words).toOption
  let files ← readTree ((arguments.map (·.paths environment)).getD [])
  let readsStandard := arguments.any fun arguments =>
    Inputs.standardPath ∈ arguments.command.inputPaths
  let standard ← if readsStandard then readAll (← IO.getStdin) .empty else pure .empty
  let outcome := run words environment ⟨files, standard⟩
  writeNode "" (some files.root) outcome.files.root
  (← IO.getStdout).putStr outcome.output
  writeStatus outcome.status
  return outcome.status.code.toUInt32

end Highlighter.Program

/-- Runs the program on the words of the command line. -/
def main (words : List String) : IO UInt32 :=
  Highlighter.Program.start words
