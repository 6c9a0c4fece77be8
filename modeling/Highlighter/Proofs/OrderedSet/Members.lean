import Highlighter.CharClass
import Mathlib.Data.Char
import Mathlib.Data.List.Perm.Basic
import Mathlib.Order.Bounds.Basic

/-!
# Ordered sets by their members

The list that an ordered set is kept as is determined by its members, so sets with the same members
are equal. The first of the listed members that satisfies a predicate is the least one that does.
For character classes this makes the text of the members a name of the class: the class of that
text is the class itself.
-/

namespace Highlighter

namespace OrderedSet

universe u

variable {α : Type u} [LT α]

theorem isEmpty_iff {set : OrderedSet α} : set.isEmpty = true ↔ set = empty := by
  cases set
  simp [isEmpty, empty]

theorem find?_eq_none_iff_forall {set : OrderedSet α} {p : α → Bool} :
    set.find? p = none ↔ ∀ a ∈ set, ¬p a :=
  List.find?_eq_none

variable [StrictOrder α]

theorem nodup_toList (set : OrderedSet α) : set.toList.Nodup := by
  refine set.ascending.imp ?_
  rintro a b less rfl
  exact StrictOrder.irrefl a less

/-- Sets with the same members are equal. -/
theorem eq_of_mem_iff {left right : OrderedSet α} (same : ∀ a, a ∈ left ↔ a ∈ right) :
    left = right := by
  have permuted : left.toList.Perm right.toList :=
    (List.perm_ext_iff_of_nodup left.nodup_toList right.nodup_toList).mpr same
  have equal : left.toList = right.toList := by
    refine List.Perm.eq_of_pairwise ?_ left.ascending right.ascending permuted
    intro a b _ _ less greater
    exact absurd (StrictOrder.trans less greater) (StrictOrder.irrefl a)
  cases left
  cases right
  simpa using equal

theorem ofList_eq_of_mem_iff [DecidableLT α] {set : OrderedSet α} {elements : List α}
    (same : ∀ a, a ∈ elements ↔ a ∈ set) : ofList elements = set :=
  eq_of_mem_iff fun a => mem_ofList.trans (same a)

theorem isEmpty_ofList [DecidableLT α] {elements : List α} :
    (ofList elements).isEmpty = true ↔ elements = [] := by
  rw [isEmpty_iff, List.eq_nil_iff_forall_not_mem]
  constructor
  · intro noMembers a occurs
    rw [← mem_ofList, noMembers] at occurs
    exact not_mem_empty a occurs
  · intro noneOccurs
    exact ofList_eq_of_mem_iff fun a => iff_of_false (noneOccurs a) (not_mem_empty a)

/-- What is found is a member of the sort looked for, and no such member comes before it. -/
theorem least_of_find? {set : OrderedSet α} {p : α → Bool} {a : α}
    (found : set.find? p = some a) : a ∈ set ∧ p a ∧ ∀ b ∈ set, p b → ¬b < a := by
  rcases List.find?_eq_some_iff_append.mp found with ⟨satisfies, before, after, order, none⟩
  have ascending := set.ascending
  rw [order] at ascending
  refine ⟨List.mem_of_find?_eq_some found, satisfies, ?_⟩
  intro b member satisfiesToo less
  rw [mem_iff_mem_toList, order] at member
  rcases List.mem_append.mp member with early | late
  · have refused := none b early
    simp [satisfiesToo] at refused
  · rcases List.mem_cons.mp late with rfl | behind
    · exact StrictOrder.irrefl b less
    · have greater : a < b :=
        (List.pairwise_cons.mp (List.pairwise_append.mp ascending).2.1).1 b behind
      exact StrictOrder.irrefl a (StrictOrder.trans greater less)

theorem find?_eq_some_iff_least {set : OrderedSet α} {p : α → Bool} {a : α} :
    set.find? p = some a ↔ a ∈ set ∧ p a ∧ ∀ b ∈ set, p b → ¬b < a := by
  constructor
  · exact least_of_find?
  · rintro ⟨member, satisfies, least⟩
    cases found : set.find? p with
    | none => exact absurd satisfies (find?_eq_none_iff_forall.mp found a member)
    | some b =>
        rcases least_of_find? found with ⟨otherMember, otherSatisfies, otherLeast⟩
        have equal : a = b :=
          StrictOrder.eq_of_not_lt (otherLeast a member satisfies)
            (least b otherMember otherSatisfies)
        rw [equal]

end OrderedSet

namespace CharClass

@[simp]
theorem mem_ofString {text : String} {c : Char} : c ∈ ofString text ↔ c ∈ text.toList :=
  OrderedSet.mem_ofList

theorem ofString_toString (set : CharClass) : ofString (toString set) = set := by
  refine OrderedSet.eq_of_mem_iff fun c => ?_
  rw [mem_ofString, toString, String.toList_ofList]
  rfl

/-- In the class of a text the least character of a sort is found. -/
theorem find?_ofString_eq_some_iff {text : String} {p : Char → Bool} {c : Char} :
    (ofString text).find? p = some c ↔ IsLeast { c | c ∈ text.toList ∧ p c } c := by
  simp only [OrderedSet.find?_eq_some_iff_least, mem_ofString, IsLeast, lowerBounds,
    Set.mem_ofPred_eq, and_assoc, and_imp, Char.not_lt]

end CharClass

end Highlighter
