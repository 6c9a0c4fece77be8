/-!
# Paths

Paths are texts whose components are separated by slashes. Empty components and components that are
a single dot name the directory they stand in and are passed over.
-/

namespace Highlighter.Path

/-- Cuts a text at every slash. -/
def split (path : List Char) : List (List Char) :=
  match path with
  | [] => [[]]
  | c :: rest =>
    if c = '/' then [] :: split rest
    else match split rest with
      | [] => [[c]]
      | piece :: pieces => (c :: piece) :: pieces

/-- The pieces of a path between its slashes, empty ones included. -/
def pieces (path : String) : List String :=
  (split path.toList).map String.ofList

/-- Decides whether a piece leads nowhere else than where it stands. -/
def isIdle (piece : String) : Bool :=
  piece == "" || piece == "."

/-- The components that lead somewhere else than where they stand. -/
def components (path : String) : List String :=
  (pieces path).filter fun piece => !isIdle piece

/-- The path up to its last component, as it is written; empty if there is no other component. -/
def parent (path : String) : String :=
  let others := ((pieces path).reverse.dropWhile isIdle).tail
  "/".intercalate (others.dropWhile isIdle).reverse

/-- Decides whether a path starts at the root of the file system. -/
def isAbsolute (path : String) : Bool :=
  path.toList.head? == some '/'

/-- The last component, unless there is none or it leads to the parent directory. -/
def fileName? (path : String) : Option String :=
  (components path).getLast?.filter (· ≠ "..")

/-- The part of the file name behind its last dot, which is not the first character of the name. -/
def extension? (path : String) : Option String := do
  let name ← fileName? path
  let reversed := name.toList.reverse
  let stem ← (reversed.dropWhile (· ≠ '.')).tail?
  if stem = [] then none else some (String.ofList (reversed.takeWhile (· ≠ '.')).reverse)

end Highlighter.Path
