import Highlighter.OrderedMap
import Highlighter.Toml.Reader

/-!
# Building written tables

A written table is opened once and then filled by lines with new keys. It is the last entry of the
document while that happens, so filling it changes the end of the document only.
-/

namespace Highlighter.Toml

/-! ### The last entry -/

theorem lookup_append_singleton {before : Entries} {name : String}
    (fresh : before.lookup name = none) (value : Value) :
    (before ++ [(name, value)]).lookup name = some value := by
  simp [List.lookup_append, fresh]

theorem replace_append_singleton {before : Entries} {name : String}
    (fresh : before.lookup name = none) (held value : Value) :
    Entries.replace (before ++ [(name, held)]) name value = before ++ [(name, value)] := by
  induction before with
  | nil => simp [Entries.replace]
  | cons entry before ih =>
      rw [lookup_cons_eq_ite] at fresh
      split at fresh
      · nomatch fresh
      · next different =>
          simp only [List.cons_append, Entries.replace, if_neg (Ne.symm different), ih fresh]

/-! ### Filling a table -/

/-- The statement that sets a key. -/
def Statement.ofEntry (entry : String × Value) : Statement :=
  .pair [] entry.1 entry.2

/-- Changing the table at the location changes the document in the given place only. -/
def Leads (location : List String) (place : Entries → Entries) : Prop :=
  ∀ f inner, Entries.update? location f (place inner) = (f inner).map place

namespace Leads

theorem document : Leads [] id := by
  intro f inner
  simp [Entries.update?]

theorem table {before : Entries} {name : String} (fresh : before.lookup name = none) :
    Leads [name] fun inner => before ++ [(name, .table .header inner)] := by
  intro f inner
  rw [Entries.update?, lookup_append_singleton fresh]
  cases changed : f inner with
  | none => simp [Entries.update?, changed]
  | some after => simp [Entries.update?, changed, replace_append_singleton fresh]

theorem item {before : Entries} {name : String} (fresh : before.lookup name = none)
    (items : List Entries) :
    Leads [name] fun last => before ++ [(name, .tableArray (items ++ [last]))] := by
  intro f last
  rw [Entries.update?, lookup_append_singleton fresh]
  cases changed : f last with
  | none => simp [Entries.update?, Entries.updateLast?, changed]
  | some after =>
      simp [Entries.update?, Entries.updateLast?, changed, replace_append_singleton fresh]

theorem add?_pair {location : List String} {place : Entries → Entries}
    (leads : Leads location place) {inner : Entries} {entry : String × Value}
    (fresh : inner.lookup entry.1 = none) :
    Draft.add? ⟨place inner, location⟩ (.ofEntry entry) =
      some ⟨place (inner ++ [entry]), location⟩ := by
  have added : Entries.set? [] entry.1 entry.2 inner = some (inner ++ [entry]) := by
    simp [Entries.set?, Entries.add?, fresh]
  simp [Draft.add?, Statement.ofEntry, leads _ inner, added]

theorem foldlM_pairs {location : List String} {place : Entries → Entries}
    (leads : Leads location place) {inner pairs : Entries}
    (distinct : ((inner ++ pairs).map (·.1)).Nodup) :
    (pairs.map .ofEntry).foldlM Draft.add? ⟨place inner, location⟩ =
      some ⟨place (inner ++ pairs), location⟩ := by
  induction pairs generalizing inner with
  | nil => simp
  | cons entry pairs ih =>
      have fresh : inner.lookup entry.1 = none := by
        apply List.lookup_eq_none_iff.mpr
        intro held member
        have different := (List.nodup_append.mp (by simpa using distinct)).2.2 held.1
          (List.mem_map_of_mem member) entry.1 List.mem_cons_self
        simpa using Ne.symm different
      rw [List.append_cons] at distinct ⊢
      rw [List.map_cons, List.foldlM_cons, leads.add?_pair fresh]
      exact ih distinct

end Leads

/-! ### Opening tables -/

theorem foldlM_table {before pairs : Entries} {name : String} (fresh : before.lookup name = none)
    (distinct : (pairs.map (·.1)).Nodup) (location : List String) :
    (.table [] name :: pairs.map .ofEntry).foldlM Draft.add? ⟨before, location⟩ =
      some ⟨before ++ [(name, .table .header pairs)], [name]⟩ := by
  have opened : Draft.add? ⟨before, location⟩ (.table [] name) =
      some ⟨before ++ [(name, .table .header [])], [name]⟩ := by
    simp [Draft.add?, Entries.update?, Entries.openTable?, fresh]
  rw [List.foldlM_cons, opened]
  exact (Leads.table fresh).foldlM_pairs distinct

/-- The statements that add a table to an array. -/
def Statement.ofItem (name : String) (pairs : Entries) : List Statement :=
  .tableItem [] name :: pairs.map .ofEntry

/-- The entry of an array of tables, which is there once the array has a table. -/
def arrayEntry (name : String) (tables : List Entries) : Entries :=
  if tables = [] then [] else [(name, .tableArray tables)]

theorem foldlM_item {before pairs : Entries} {name : String} (fresh : before.lookup name = none)
    (distinct : (pairs.map (·.1)).Nodup) (items : List Entries) (location : List String) :
    (Statement.ofItem name pairs).foldlM Draft.add? ⟨before ++ arrayEntry name items, location⟩ =
      some ⟨before ++ arrayEntry name (items ++ [pairs]), [name]⟩ := by
  have opened : Draft.add? ⟨before ++ arrayEntry name items, location⟩ (.tableItem [] name) =
      some ⟨before ++ [(name, .tableArray (items ++ [[]]))], [name]⟩ := by
    cases items with
    | nil => simp [arrayEntry, Draft.add?, Entries.update?, Entries.openItem?, fresh]
    | cons first items =>
        simp [arrayEntry, Draft.add?, Entries.update?, Entries.openItem?,
          lookup_append_singleton fresh, replace_append_singleton fresh]
  have filled : arrayEntry name (items ++ [pairs]) = [(name, .tableArray (items ++ [pairs]))] := by
    simp [arrayEntry]
  rw [Statement.ofItem, List.foldlM_cons, opened, filled]
  exact (Leads.item fresh items).foldlM_pairs distinct

theorem foldlM_items {before : Entries} {name : String} (fresh : before.lookup name = none)
    {tables : List Entries} (distinct : ∀ pairs ∈ tables, (pairs.map (·.1)).Nodup)
    (items : List Entries) (location : List String) :
    ((tables.flatMap (Statement.ofItem name)).foldlM Draft.add?
        ⟨before ++ arrayEntry name items, location⟩).map Draft.entries =
      some (before ++ arrayEntry name (items ++ tables)) := by
  induction tables generalizing items location with
  | nil => simp
  | cons pairs tables ih =>
      rcases List.forall_mem_cons.mp distinct with ⟨first, others⟩
      rw [List.flatMap_cons, List.foldlM_append, foldlM_item fresh first items location,
        List.append_cons items pairs tables]
      exact ih others (items ++ [pairs]) [name]

end Highlighter.Toml
