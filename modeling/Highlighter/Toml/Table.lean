import Highlighter.Toml.Value

/-!
# Building tables

The lines of a document add to its tables one at a time. A key may be set only once, a table may be
opened by a header only once, and a table that is complete may not be reached into: these rules are
the functions below, each of which fails on a line that breaks one.
-/

namespace Highlighter.Toml

namespace Entries

/-- Replaces the value of the first entry that has the key. -/
def replace (entries : Entries) (key : String) (value : Value) : Entries :=
  match entries with
  | [] => []
  | (name, held) :: rest =>
    if name = key then (name, value) :: rest else (name, held) :: replace rest key value

/-- Adds an entry for a key that has none yet. -/
def add? (entries : Entries) (key : String) (value : Value) : Option Entries :=
  match entries.lookup key with
  | some _ => none
  | none => some (entries ++ [(key, value)])

/-- Changes the last item of a list that has one. -/
def updateLast? {α : Type} (f : α → Option α) (items : List α) : Option (List α) := do
  let last ← items.getLast?
  return items.dropLast ++ [← f last]

/-- Sets the key at the end of a dotted path, which leads through tables that only dotted keys have
named, and through the last table of an array of tables. -/
def set? (path : List String) (key : String) (value : Value) (entries : Entries) :
    Option Entries :=
  match path with
  | [] => entries.add? key value
  | step :: path =>
    match entries.lookup step with
    | none => do
      let inner ← set? path key value []
      return entries ++ [(step, .table .dotted inner)]
    | some (.table .dotted inner) => do
      return entries.replace step (.table .dotted (← set? path key value inner))
    | some (.table .implied inner) =>
      if path = [] then none
      else do return entries.replace step (.table .implied (← set? path key value inner))
    | some (.tableArray items) =>
      if path = [] then none
      else do return entries.replace step (.tableArray (← updateLast? (set? path key value) items))
    | some _ => none

/-- Changes the table at the end of a path of headers, naming the tables on the way. -/
def update? (path : List String) (f : Entries → Option Entries) (entries : Entries) :
    Option Entries :=
  match path with
  | [] => f entries
  | step :: path =>
    match entries.lookup step with
    | none => do
      let inner ← update? path f []
      return entries ++ [(step, .table .implied inner)]
    | some (.table .inline _) => none
    | some (.table origin inner) => do
      return entries.replace step (.table origin (← update? path f inner))
    | some (.tableArray items) => do
      return entries.replace step (.tableArray (← updateLast? (update? path f) items))
    | some _ => none

/-- Opens the table with a key, which has at most been named on the way to others. -/
def openTable? (key : String) (entries : Entries) : Option Entries :=
  match entries.lookup key with
  | none => some (entries ++ [(key, .table .header [])])
  | some (.table .implied inner) => some (entries.replace key (.table .header inner))
  | some _ => none

/-- Opens one more table of the array of tables with a key. -/
def openItem? (key : String) (entries : Entries) : Option Entries :=
  match entries.lookup key with
  | none => some (entries ++ [(key, .tableArray [[]])])
  | some (.tableArray items) => some (entries.replace key (.tableArray (items ++ [[]])))
  | some _ => none

end Entries

/-- The entries of a table that is written as dotted keys with values. -/
def ofPairs? (pairs : List ((List String × String) × Value)) : Option Entries :=
  pairs.foldlM (fun entries ((path, key), value) => entries.set? path key value) []

end Highlighter.Toml
