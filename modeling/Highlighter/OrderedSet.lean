import Highlighter.StrictOrder

/-!
# Ordered finite sets

A finite set is kept as the list of its members in strictly ascending order, so that equal sets are
equal values whatever sequence they were collected from.
-/

namespace Highlighter

universe u

/-- A finite set, held as its members in strictly ascending order. -/
structure OrderedSet (α : Type u) [LT α] where
  /-- The members, from the least to the greatest. -/
  toList : List α
  /-- Each member is less than every later one. -/
  ascending : toList.Pairwise (· < ·)
deriving DecidableEq

namespace OrderedSet

variable {α : Type u} [LT α] [DecidableLT α]

/-- Puts an element at its place in an ascending list, unless the list already holds it. -/
def insertSorted (a : α) : List α → List α
  | [] => [a]
  | b :: rest =>
    if a < b then a :: b :: rest
    else if b < a then b :: insertSorted a rest
    else b :: rest

theorem mem_of_mem_insertSorted {a b : α} {members : List α} (h : b ∈ insertSorted a members) :
    b = a ∨ b ∈ members := by
  induction members with
  | nil => simpa [insertSorted] using h
  | cons c rest ih =>
      simp only [insertSorted] at h
      split at h
      · simpa using h
      · split at h
        · rcases List.mem_cons.mp h with rfl | later
          · simp
          · rcases ih later with equal | held <;> simp_all
        · exact Or.inr h

variable [StrictOrder α]

theorem pairwise_insertSorted (a : α) {members : List α} (ascending : members.Pairwise (· < ·)) :
    (insertSorted a members).Pairwise (· < ·) := by
  induction members with
  | nil => simp [insertSorted]
  | cons b rest ih =>
      have ⟨below, restAscending⟩ := List.pairwise_cons.mp ascending
      simp only [insertSorted]
      split
      · next less =>
          refine List.pairwise_cons.mpr ⟨?_, ascending⟩
          intro c held
          rcases List.mem_cons.mp held with rfl | later
          · exact less
          · exact StrictOrder.trans less (below c later)
      · split
        · next greater =>
            refine List.pairwise_cons.mpr ⟨?_, ih restAscending⟩
            intro c held
            rcases mem_of_mem_insertSorted held with rfl | later
            · exact greater
            · exact below c later
        · exact ascending

/-- The set without members. -/
def empty : OrderedSet α := ⟨[], List.Pairwise.nil⟩

/-- Adds an element; a member stays as it is. -/
def insert (a : α) (set : OrderedSet α) : OrderedSet α :=
  ⟨insertSorted a set.toList, pairwise_insertSorted a set.ascending⟩

/-- Collects the elements of a list into a set. -/
def ofList (elements : List α) : OrderedSet α :=
  elements.foldl (fun set a => set.insert a) empty

end OrderedSet

/-- An element is a member of an ordered set when it is one of the listed members. -/
instance {α : Type u} [LT α] : Membership α (OrderedSet α) where
  mem set a := a ∈ set.toList

instance {α : Type u} [LT α] [DecidableEq α] (a : α) (set : OrderedSet α) : Decidable (a ∈ set) :=
  inferInstanceAs (Decidable (a ∈ set.toList))

namespace OrderedSet

variable {α : Type u} [LT α]

/-- Decides whether an element is a member. -/
def contains [DecidableEq α] (set : OrderedSet α) (a : α) : Bool :=
  decide (a ∈ set)

/-- Decides whether the set has no members. -/
def isEmpty (set : OrderedSet α) : Bool :=
  set.toList.isEmpty

/-- The least member that satisfies the predicate, if one does. -/
def find? (set : OrderedSet α) (p : α → Bool) : Option α :=
  set.toList.find? p

/-! ### Membership -/

theorem mem_iff_mem_toList {set : OrderedSet α} {a : α} : a ∈ set ↔ a ∈ set.toList :=
  Iff.rfl

@[simp]
theorem contains_iff_mem [DecidableEq α] {set : OrderedSet α} {a : α} :
    set.contains a = true ↔ a ∈ set := by
  simp [contains]

@[simp]
theorem not_mem_empty (a : α) : ¬a ∈ (empty : OrderedSet α) := by
  simp [mem_iff_mem_toList, empty]

variable [DecidableLT α] [StrictOrder α]

theorem mem_insertSorted {a b : α} {members : List α} :
    b ∈ insertSorted a members ↔ b = a ∨ b ∈ members := by
  constructor
  · exact mem_of_mem_insertSorted
  · intro h
    induction members with
    | nil => simpa [insertSorted] using h
    | cons c rest ih =>
        simp only [insertSorted]
        split
        · simpa using h
        · next notLess =>
            split
            · rcases h with rfl | held
              · simp [ih]
              · rcases List.mem_cons.mp held with rfl | later
                · simp
                · exact List.mem_cons_of_mem _ (ih (Or.inr later))
            · next notGreater =>
                have equal : a = c := StrictOrder.eq_of_not_lt notLess notGreater
                rcases h with rfl | held
                · simp [equal]
                · exact held

@[simp]
theorem mem_insert {a b : α} {set : OrderedSet α} : b ∈ set.insert a ↔ b = a ∨ b ∈ set :=
  mem_insertSorted

@[simp]
theorem mem_ofList {a : α} {elements : List α} : a ∈ ofList elements ↔ a ∈ elements := by
  suffices collected : ∀ set : OrderedSet α,
      a ∈ elements.foldl (fun set b => set.insert b) set ↔ a ∈ set ∨ a ∈ elements by
    simpa [ofList] using collected empty
  intro set
  induction elements generalizing set with
  | nil => simp
  | cons b rest ih =>
      simp only [List.foldl_cons, ih, mem_insert, List.mem_cons]
      grind

end OrderedSet

end Highlighter
