import Highlighter.OrderedMap
import Highlighter.Path
import Highlighter.Text.Basic

/-!
# File trees

A file tree is a root directory with everything below it. Paths are followed piece by piece, from
the root or from the working directory; every piece but the last has to lead to a directory, so the
path of an entry that is yet to be made can be followed as well. A path that is too long or holds a
null character leads nowhere as a whole, whatever its first pieces lead to. A file that is written
is opened first, which empties it or makes it, and then takes its contents as far as there is room.
-/

namespace Highlighter

/-- A file or a directory. -/
inductive FileNode where
  /-- A file with its contents. -/
  | file (contents : ByteArray)
  /-- A directory with its entries, in the order of their names. -/
  | directory (entries : List (String × FileNode))

/-- A place below a directory: the names that lead there. -/
abbrev Place := List String

namespace FileNode

/-- The entry of a directory that has a name. -/
def child? : FileNode → String → Option FileNode
  | directory entries, name => entries.lookup name
  | file _, _ => none

/-- What there is at a place. -/
def at? (node : FileNode) : Place → Option FileNode
  | [] => some node
  | name :: place => (node.child? name).bind fun child => child.at? place

/-- Puts something at a place. Directories on the way are made where there is nothing, and below a
file nothing can be put. -/
def put (node : FileNode) (place : Place) (new : FileNode) : FileNode :=
  match place with
  | [] => new
  | name :: place => match node with
    | file contents => file contents
    | directory entries =>
      let child := (entries.lookup name).getD (directory [])
      directory (OrderedMap.insertEntry name (child.put place new) entries)

/-- Decides whether a node is a directory. -/
def isDirectory : FileNode → Bool
  | directory _ => true
  | file _ => false

end FileNode

/-- The files and directories below a root, where relative paths start, and how much can be
written. -/
structure FileTree where
  /-- The root directory. -/
  root : FileNode
  /-- The place of the working directory. -/
  current : Place
  /-- How many bytes the next file that is written can hold, if the system sets a limit. -/
  room : Option Nat := none

namespace FileTree

/-- What there is at a place. -/
def node? (tree : FileTree) (place : Place) : Option FileNode :=
  tree.root.at? place

/-- Decides whether there is a directory at a place. -/
def isDirectory (tree : FileTree) (place : Place) : Bool :=
  (tree.node? place).any FileNode.isDirectory

/-- Puts a file or a directory at a place. -/
def put (tree : FileTree) (place : Place) (node : FileNode) : FileTree :=
  { tree with root := tree.root.put place node }

/-! ### Following paths -/

/-- Decides whether a path can be followed at all: paths have at most 4095 bytes, hold no null
character and are not empty. -/
def isPath (path : String) : Bool :=
  path ≠ "" && !path.toList.contains '\x00' && Text.byteLength path.toList ≤ 4095

/-- Decides whether an entry of a directory can have the name: names have at most 255 bytes. -/
def isName (name : String) : Bool :=
  Text.byteLength name.toList ≤ 255

/-- The place that one piece of a path leads to. -/
def step (place : Place) (piece : String) : Place :=
  if piece = "" ∨ piece = "." then place
  else if piece = ".." then place.dropLast
  else place ++ [piece]

/-- The place that the pieces of a path lead to, unless one of them would start from something that
is no directory. -/
def follow? (tree : FileTree) (place : Place) : List String → Option Place
  | [] => some place
  | piece :: pieces =>
    if tree.isDirectory place && isName piece then tree.follow? (step place piece) pieces
    else none

/-- The place where a path starts. -/
def start (tree : FileTree) (path : String) : Place :=
  if Path.isAbsolute path then [] else tree.current

/-- The place that a path leads to, whether or not there is anything yet. -/
def resolve? (tree : FileTree) (path : String) : Option Place :=
  if isPath path then tree.follow? (tree.start path) (Path.pieces path) else none

/-- What a path leads to. -/
def find? (tree : FileTree) (path : String) : Option FileNode :=
  (tree.resolve? path).bind tree.node?

/-- Decides whether a path leads to a file or a directory. -/
def contains (tree : FileTree) (path : String) : Bool :=
  (tree.find? path).isSome

/-! ### Changes -/

/-- Makes the directories that the pieces of a path lead through one after the other, and stops at
the first that cannot be made. Tells whether all of them are there now. -/
def makeDirectories (tree : FileTree) (place : Place) : List String → Bool × FileTree
  | [] => (true, tree)
  | piece :: pieces =>
    if isName piece then
      let place := step place piece
      match tree.node? place with
      | some (.directory _) => tree.makeDirectories place pieces
      | some (.file _) => (false, tree)
      | none => (tree.put place (.directory [])).makeDirectories place pieces
    else (false, tree)

/-- Makes the directory that a path leads to and those on the way, of which a path that cannot be
followed makes none. The empty path stands for the working directory, which is there already. -/
def makeDirectory (tree : FileTree) (path : String) : Bool × FileTree :=
  if path = "" then (true, tree)
  else if isPath path then tree.makeDirectories (tree.start path) (Path.pieces path)
  else (false, tree)

/-- Makes the directory that a path leads through last, and those on the way. -/
def makeParents (tree : FileTree) (path : String) : Bool × FileTree :=
  tree.makeDirectory (Path.parent path)

/-- Decides whether a file can hold the contents as a whole. -/
def hasRoom (tree : FileTree) (contents : ByteArray) : Bool :=
  tree.room.all (contents.size ≤ ·)

/-- What a file takes of the contents that are written to it. -/
def taken (tree : FileTree) (contents : ByteArray) : ByteArray :=
  tree.room.elim contents (contents.extract 0 ·)

/-- Writes a file, over the one that is there or as a new one in a directory. Once it has been
opened, it takes of the contents what there is room for. -/
def write? (tree : FileTree) (path : String) (contents : ByteArray) : Option FileTree := do
  let place ← tree.resolve? path
  if tree.isDirectory place then none
  else some (tree.put place (.file (tree.taken contents)))

/-- The tree that holds nothing but a working directory. -/
def withWorkingDirectory (current : Place) : FileTree where
  root := (FileNode.directory []).put current (.directory [])
  current := current

end FileTree

end Highlighter
