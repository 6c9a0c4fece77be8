import Highlighter.Config.Document
import Highlighter.Error
import Highlighter.FileTree

/-!
# Configuration files

A configuration is read from a file and checked, or written to a file whose directories are made
first. If no file is named, it is looked for in three places.
-/

namespace Highlighter

namespace FileTree

/-- The text of the file at a path. -/
def readText (files : FileTree) (path : String) : Except Error String :=
  match files.find? path with
  | some (.file contents) => match String.fromUTF8? contents with
    | some text => .ok text
    | none => .error .inputOutput
  | _ => .error .inputOutput

end FileTree

namespace Config

/-- The name of a configuration file. -/
def fileName : String := "tinct.toml"

/-- Reads and checks the configuration file at a path, for a program with a number of processors. -/
def load (files : FileTree) (path : String) (processors : Nat := 1) : Except Error Config := do
  if !files.contains path then throw (.configuration (.missing path))
  match ofText? processors (← files.readText path) with
  | none => throw (.configuration .malformed)
  | some config =>
    config.validate.mapError .configuration
    return config

/-- Writes a configuration to a path. The directories on the way are made before anything else can
fail, so a failure may leave them behind, and a write that is cut short leaves its beginning. -/
def save (config : Config) (files : FileTree) (path : String) : Except Error Unit × FileTree :=
  match files.makeParents path with
  | (false, files) => (.error .inputOutput, files)
  | (true, files) => match config.toText? with
    | none => (.error (.configuration .unwritable), files)
    | some document => match files.write? path document.toUTF8 with
      | none => (.error .inputOutput, files)
      | some after =>
        (if files.hasRoom document.toUTF8 then .ok () else .error .inputOutput, after)

/-- The path of an entry of a directory. -/
def join (directory name : String) : String :=
  if directory.toList.getLast? = some '/' then directory ++ name else directory ++ "/" ++ name

/-- The paths of the configuration files that are looked for in order: in the working directory, in
the home directory and in the directory for settings, which has to be absolute to count. -/
def candidates (home settings : Option String) : List String :=
  let home := home.filter (· ≠ "")
  let hidden := home.map (join · ".config")
  let settings := (settings.filter Path.isAbsolute).or hidden
  let nested := (hidden.toList ++ settings.toList).map fun directory =>
    join (join directory "tinct") fileName
  fileName :: nested

/-- Reads the first of the configuration files that is there; without any, the standard
configuration counts. -/
def find (files : FileTree) (home settings : Option String) (processors : Nat) :
    Except Error Config :=
  match (candidates home settings).find? files.contains with
  | some path => load files path processors
  | none => .ok (standard processors)

end Config

end Highlighter
