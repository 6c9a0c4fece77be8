/-!
# Strict orders

What ordered sets and maps need of the order of their members and keys: of two different elements
one comes before the other, and coming before is transitive and never holds between an element and
itself. Characters and strings are ordered by code points, and lists word by word.
-/

namespace Highlighter

universe u

/-- A strict order in which any two different elements can be compared. -/
class StrictOrder (α : Type u) [LT α] : Prop where
  /-- No element comes before itself. -/
  irrefl (a : α) : ¬a < a
  /-- What comes before a predecessor comes before the element. -/
  trans {a b c : α} : a < b → b < c → a < c
  /-- Elements of which neither comes before the other are the same. -/
  eq_of_not_lt {a b : α} : ¬a < b → ¬b < a → a = b

instance : StrictOrder Char where
  irrefl := Char.lt_irrefl
  trans := Char.lt_trans
  eq_of_not_lt notLess notGreater :=
    Char.le_antisymm (Char.not_lt.mp notGreater) (Char.not_lt.mp notLess)

instance : StrictOrder String where
  irrefl := String.lt_irrefl
  trans := String.lt_trans
  eq_of_not_lt notLess notGreater :=
    String.le_antisymm (String.not_lt.mp notGreater) (String.not_lt.mp notLess)

instance {α : Type u} [LT α] [StrictOrder α] : StrictOrder (List α) where
  irrefl :=
    have : Std.Irrefl (α := α) (· < ·) := ⟨StrictOrder.irrefl⟩
    List.lt_irrefl
  trans :=
    have : Trans (α := α) (β := α) (γ := α) (· < ·) (· < ·) (· < ·) := ⟨StrictOrder.trans⟩
    List.lt_trans
  eq_of_not_lt notLess notGreater :=
    have : Std.Trichotomous (α := α) (· < ·) := ⟨fun _ _ => StrictOrder.eq_of_not_lt⟩
    List.le_antisymm (List.not_lt.mp notGreater) (List.not_lt.mp notLess)

end Highlighter
