import Highlighter.Proofs.OrderedSet.Members
import Mathlib.Data.List.Destutter

/-!
# Packed character classes

A character class can be kept packed: the bits of a mask stand for its ASCII members, and an array
holds the others in ascending order, in which they are looked up by bisection. Here such classes are
built and asked beside those that list their members. A packed class is determined by its members,
so it is a class of its own kind for each set of characters, and both kinds give the same answers.
-/

namespace Highlighter

/-- A set of characters, held as a mask of those in ASCII and as the others in ascending order. -/
structure PackedClass where
  /-- The bit of each ASCII member is set. -/
  ascii : BitVec 128
  /-- The other members, from the least to the greatest. -/
  others : Array Char
  /-- None of the others is in ASCII. -/
  beyond : ∀ c ∈ others, 128 ≤ c.toNat
  /-- Each of them is less than every later one. -/
  ascending : others.toList.Pairwise (· < ·)
deriving DecidableEq

namespace PackedClass

/-! ### Building -/

/-- Adds a character to the mask, or at the end of the others. -/
def add (parts : BitVec 128 × Array Char) (c : Char) : BitVec 128 × Array Char :=
  if c.toNat < 128 then (parts.1 ||| 1#128 <<< c.toNat, parts.2) else (parts.1, parts.2.push c)

/-- The mask and the others of a sequence of characters, as they come. -/
def collect (elements : List Char) : BitVec 128 × Array Char :=
  elements.foldl add (0#128, #[])

/-- Sorts characters and drops those that are repeated. -/
def sortUnique (elements : List Char) : List Char :=
  (elements.mergeSort (· ≤ ·)).destutter (· ≠ ·)

theorem mem_destutter'_iff {a b : Char} {elements : List Char} :
    b ∈ elements.destutter' (· ≠ ·) a ↔ b ∈ a :: elements := by
  induction elements generalizing a with
  | nil => simp
  | cons c elements ih =>
      by_cases differs : a ≠ c
      · rw [List.destutter'_cons_pos _ differs, List.mem_cons, ih, List.mem_cons (l := c :: _)]
      · rw [List.destutter'_cons_neg _ differs, ih]
        simp [not_not.mp differs]

theorem pairwise_destutter' {a : Char} {elements : List Char}
    (sorted : (a :: elements).Pairwise (· ≤ ·)) :
    (elements.destutter' (· ≠ ·) a).Pairwise (· < ·) := by
  induction elements generalizing a with
  | nil => simp
  | cons c elements ih =>
      rcases List.pairwise_cons.mp sorted with ⟨above, sortedRest⟩
      by_cases differs : a ≠ c
      · rw [List.destutter'_cons_pos _ differs]
        refine List.pairwise_cons.mpr ⟨?_, ih sortedRest⟩
        intro b member
        have next : a < c := lt_of_le_of_ne (above c List.mem_cons_self) differs
        rcases List.mem_cons.mp (mem_destutter'_iff.mp member) with rfl | later
        · exact next
        · exact next.trans_le ((List.pairwise_cons.mp sortedRest).1 b later)
      · rw [List.destutter'_cons_neg _ differs, not_not.mp differs]
        exact ih sortedRest

theorem mem_sortUnique {c : Char} {elements : List Char} :
    c ∈ sortUnique elements ↔ c ∈ elements := by
  have sorted : c ∈ elements.mergeSort (· ≤ ·) ↔ c ∈ elements := List.mem_mergeSort
  rw [← sorted, sortUnique]
  cases elements.mergeSort (· ≤ ·) with
  | nil => rfl
  | cons a rest => exact mem_destutter'_iff

theorem pairwise_sortUnique (elements : List Char) :
    (sortUnique elements).Pairwise (· < ·) := by
  have sorted : (elements.mergeSort (· ≤ ·)).Pairwise fun a b => decide (a ≤ b) := by
    apply List.pairwise_mergeSort
    · simpa using fun _ _ _ => le_trans
    · simpa using le_total
  simp only [decide_eq_true_eq] at sorted
  rw [sortUnique]
  cases order : elements.mergeSort (· ≤ ·) with
  | nil => exact List.Pairwise.nil
  | cons a rest => exact pairwise_destutter' (order ▸ sorted)

/-- A character is held by the part where it belongs. -/
def IsHeld (parts : BitVec 128 × Array Char) (c : Char) : Prop :=
  if c.toNat < 128 then parts.1.getLsbD c.toNat = true else c ∈ parts.2

theorem isHeld_add {parts : BitVec 128 × Array Char} {a c : Char} :
    IsHeld (add parts a) c ↔ IsHeld parts c ∨ c = a := by
  unfold IsHeld add
  by_cases short : c.toNat < 128
  · by_cases shortAdded : a.toNat < 128
    · rw [if_pos short, if_pos short, if_pos shortAdded, ← BitVec.twoPow_eq,
        BitVec.getLsbD_or, BitVec.getLsbD_twoPow]
      simp only [shortAdded, decide_true, Bool.true_and, Bool.or_eq_true, decide_eq_true_eq,
        Char.toNat_inj, eq_comm (a := a)]
    · have differs : c ≠ a := by
        rintro rfl
        exact shortAdded short
      simp [short, shortAdded, differs]
  · by_cases shortAdded : a.toNat < 128
    · have differs : c ≠ a := by
        rintro rfl
        exact short shortAdded
      simp [short, shortAdded, differs]
    · simp [short, shortAdded]

theorem isHeld_collect {elements : List Char} {c : Char} :
    IsHeld (collect elements) c ↔ c ∈ elements := by
  suffices collected : ∀ parts, IsHeld (elements.foldl add parts) c ↔
      IsHeld parts c ∨ c ∈ elements by
    have nothing : ¬IsHeld (0#128, #[]) c := by simp [IsHeld]
    rw [collect, collected]
    simp [nothing]
  intro parts
  induction elements generalizing parts with
  | nil => simp
  | cons a rest ih => rw [List.foldl_cons, ih, isHeld_add, List.mem_cons, or_assoc]

theorem beyond_collect {elements : List Char} {c : Char} (member : c ∈ (collect elements).2) :
    128 ≤ c.toNat := by
  suffices collected : ∀ parts : BitVec 128 × Array Char, (∀ c ∈ parts.2, 128 ≤ c.toNat) →
      ∀ c ∈ (elements.foldl add parts).2, 128 ≤ c.toNat from
    collected (0#128, #[]) (by simp) c member
  clear member
  induction elements with
  | nil => exact fun _ beyond => beyond
  | cons a rest ih =>
      intro parts beyond
      apply ih
      unfold add
      split
      · exact beyond
      · next long =>
          intro c member
          rcases Array.mem_push.mp member with before | rfl
          · exact beyond c before
          · omega

/-- The class without members. -/
def empty : PackedClass :=
  ⟨0#128, #[], by simp, by simp⟩

/-- The class of the characters that occur in a sequence. -/
def ofList (elements : List Char) : PackedClass where
  ascii := (collect elements).1
  others := (sortUnique (collect elements).2.toList).toArray
  beyond := by
    intro c member
    have collected : c ∈ (collect elements).2 := by simpa [mem_sortUnique] using member
    exact beyond_collect collected
  ascending := pairwise_sortUnique _

/-- The class of the characters that occur in a text. -/
def ofString (text : String) : PackedClass :=
  ofList text.toList

/-! ### Asking -/

/-- Decides whether the bit of a code point is set in the mask. -/
def hasBit (packed : PackedClass) (code : Nat) : Bool :=
  packed.ascii &&& 1#128 <<< code ≠ 0#128

/-- Looks a character up from one index up to another, in the half where it has to be. -/
def bisect (others : Array Char) (c : Char) (low high : Nat) : Bool :=
  if low < high then
    match others[low + (high - low) / 2]? with
    | none => false
    | some found =>
      if found < c then bisect others c (low + (high - low) / 2 + 1) high
      else if c < found then bisect others c low (low + (high - low) / 2)
      else true
  else false
termination_by high - low

/-- Decides whether a character is a member. -/
def contains (packed : PackedClass) (c : Char) : Bool :=
  if c.toNat < 128 then packed.hasBit c.toNat
  else bisect packed.others c 0 packed.others.size

/-- Decides whether the class has no members. -/
def isEmpty (packed : PackedClass) : Bool :=
  packed.ascii == 0#128 && packed.others.isEmpty

/-- The members, from the least to the greatest. -/
def toList (packed : PackedClass) : List Char :=
  ((List.range 128).filter packed.hasBit).map Char.ofNat ++ packed.others.toList

/-- The first member that satisfies the predicate, if one does. -/
def find? (packed : PackedClass) (p : Char → Bool) : Option Char :=
  packed.toList.find? p

/-- The text of the members in the order of their code points. -/
def toString (packed : PackedClass) : String :=
  String.ofList packed.toList

theorem hasBit_eq (packed : PackedClass) (code : Nat) :
    packed.hasBit code = packed.ascii.getLsbD code := by
  rw [hasBit, ← BitVec.twoPow_eq, BitVec.and_twoPow]
  cases set : packed.ascii.getLsbD code with
  | false => simp
  | true =>
      have inside : code < 128 := BitVec.lt_of_getLsbD set
      have ownBit : (BitVec.twoPow 128 code).getLsbD code = true := by simp [inside]
      have nonzero : BitVec.twoPow 128 code ≠ 0#128 := by
        intro zero
        simp [zero] at ownBit
      simp only [if_true, decide_eq_true nonzero]

/-- The lesser of two members stands before the greater. -/
theorem lt_of_getElem?_lt {others : Array Char} (ascending : others.toList.Pairwise (· < ·))
    {first second : Nat} {a b : Char} (atFirst : others[first]? = some a)
    (atSecond : others[second]? = some b) (less : a < b) : first < second := by
  rcases Array.getElem?_eq_some_iff.mp atFirst with ⟨insideFirst, rfl⟩
  rcases Array.getElem?_eq_some_iff.mp atSecond with ⟨insideSecond, rfl⟩
  rcases Nat.lt_trichotomy first second with before | rfl | behind
  · exact before
  · exact absurd less (lt_irrefl _)
  · have greater :=
      List.pairwise_iff_getElem.mp ascending second first insideSecond insideFirst behind
    exact absurd (less.trans greater) (lt_irrefl _)

/-- In an ascending array the search by halves finds what is there. -/
theorem bisect_iff {others : Array Char} (ascending : others.toList.Pairwise (· < ·)) (c : Char)
    {low high : Nat} (inside : high ≤ others.size) :
    bisect others c low high = true ↔
      ∃ index, low ≤ index ∧ index < high ∧ others[index]? = some c := by
  fun_induction bisect others c low high with
  | case1 low high ordered nothing =>
      have outside := Array.getElem?_eq_none_iff.mp nothing
      omega
  | case2 low high ordered found atMiddle less ih =>
      rw [ih inside]
      constructor
      · rintro ⟨index, above, below, atIndex⟩
        exact ⟨index, by omega, below, atIndex⟩
      · rintro ⟨index, above, below, atIndex⟩
        exact ⟨index, lt_of_getElem?_lt ascending atMiddle atIndex less, below, atIndex⟩
  | case3 low high ordered found atMiddle notLess greater ih =>
      rw [ih (by omega)]
      constructor
      · rintro ⟨index, above, below, atIndex⟩
        exact ⟨index, above, by omega, atIndex⟩
      · rintro ⟨index, above, below, atIndex⟩
        exact ⟨index, above, lt_of_getElem?_lt ascending atIndex atMiddle greater, atIndex⟩
  | case4 low high ordered found atMiddle notLess notGreater =>
      rcases StrictOrder.eq_of_not_lt notLess notGreater with rfl
      simp only [true_iff]
      exact ⟨_, by omega, by omega, atMiddle⟩
  | case5 low high empty =>
      simp only [Bool.false_eq_true, false_iff]
      rintro ⟨index, above, below, -⟩
      omega

theorem isHeld_iff {packed : PackedClass} {c : Char} :
    IsHeld (packed.ascii, packed.others) c ↔ packed.contains c = true := by
  unfold IsHeld contains
  split
  · rw [hasBit_eq]
  · rw [bisect_iff packed.ascending c le_rfl, Array.mem_iff_getElem?]
    constructor
    · rintro ⟨index, atIndex⟩
      rcases Array.getElem?_eq_some_iff.mp atIndex with ⟨inside, -⟩
      exact ⟨index, index.zero_le, inside, atIndex⟩
    · rintro ⟨index, -, -, atIndex⟩
      exact ⟨index, atIndex⟩

theorem contains_empty (c : Char) : empty.contains c = false := by
  rw [Bool.eq_false_iff, ne_eq, ← isHeld_iff]
  simp [IsHeld, empty]

/-- A class holds the characters that it was built from. -/
theorem contains_ofList {elements : List Char} {c : Char} :
    (ofList elements).contains c = true ↔ c ∈ elements := by
  rw [← isHeld_iff, ← isHeld_collect]
  simp [IsHeld, ofList, mem_sortUnique]

/-! ### Members in a row -/

theorem lt_iff_toNat_lt {a b : Char} : a < b ↔ a.toNat < b.toNat :=
  Iff.rfl

theorem toNat_ofNat_of_lt {code : Nat} (short : code < 128) : (Char.ofNat code).toNat = code := by
  rw [Char.ofNat, dif_pos (Or.inl (by omega))]
  rfl

theorem mem_toList_iff {packed : PackedClass} {c : Char} :
    c ∈ packed.toList ↔ packed.contains c = true := by
  rw [← isHeld_iff, toList, List.mem_append, List.mem_map, IsHeld]
  constructor
  · rintro (⟨code, member, rfl⟩ | member)
    · rcases List.mem_filter.mp member with ⟨inRange, set⟩
      have short := List.mem_range.mp inRange
      rw [toNat_ofNat_of_lt short, if_pos short, ← hasBit_eq]
      exact set
    · have long := packed.beyond c (Array.mem_toList_iff.mp member)
      rw [if_neg (by omega)]
      exact Array.mem_toList_iff.mp member
  · intro held
    split at held
    · next short =>
        left
        refine ⟨c.toNat, List.mem_filter.mpr ⟨List.mem_range.mpr short, ?_⟩, c.ofNat_toNat⟩
        rw [hasBit_eq, held]
    · exact Or.inr (Array.mem_toList_iff.mpr held)

theorem ascending_toList (packed : PackedClass) : packed.toList.Pairwise (· < ·) := by
  refine List.pairwise_append.mpr ⟨?_, packed.ascending, ?_⟩
  · have codes : ((List.range 128).filter packed.hasBit).Pairwise (· < ·) :=
      List.pairwise_lt_range.filter _
    refine List.pairwise_map.mpr (codes.imp_of_mem ?_)
    intro first second memberFirst memberSecond less
    have shortFirst := List.mem_range.mp (List.mem_filter.mp memberFirst).1
    have shortSecond := List.mem_range.mp (List.mem_filter.mp memberSecond).1
    rw [lt_iff_toNat_lt, toNat_ofNat_of_lt shortFirst, toNat_ofNat_of_lt shortSecond]
    exact less
  · intro a inMask c amongOthers
    rcases List.mem_map.mp inMask with ⟨code, member, rfl⟩
    have short := List.mem_range.mp (List.mem_filter.mp member).1
    have long := packed.beyond c (Array.mem_toList_iff.mp amongOthers)
    rw [lt_iff_toNat_lt, toNat_ofNat_of_lt short]
    omega

/-- The class that lists the members. -/
def unpack (packed : PackedClass) : CharClass :=
  ⟨packed.toList, packed.ascending_toList⟩

theorem mem_unpack {packed : PackedClass} {c : Char} :
    c ∈ packed.unpack ↔ packed.contains c = true :=
  mem_toList_iff

/-- Packing a sequence and listing its characters make the same class. -/
theorem unpack_ofList (elements : List Char) :
    (ofList elements).unpack = OrderedSet.ofList elements :=
  OrderedSet.eq_of_mem_iff fun c => by
    rw [mem_unpack, contains_ofList, OrderedSet.mem_ofList]

theorem contains_unpack (packed : PackedClass) :
    packed.unpack.contains = packed.contains := by
  funext c
  rw [Bool.eq_iff_iff, OrderedSet.contains_iff_mem, mem_unpack]

/-! ### Equality -/

/-- Packed classes with the same members are equal in both of their parts. -/
theorem eq_of_contains {left right : PackedClass}
    (same : ∀ c, left.contains c = true ↔ right.contains c = true) : left = right := by
  have held : ∀ c, IsHeld (left.ascii, left.others) c ↔ IsHeld (right.ascii, right.others) c :=
    fun c => isHeld_iff.trans ((same c).trans isHeld_iff.symm)
  have ascii : left.ascii = right.ascii := by
    apply BitVec.eq_of_getLsbD_eq
    intro code short
    have atCode := held (Char.ofNat code)
    rw [IsHeld, IsHeld, toNat_ofNat_of_lt short, if_pos short, if_pos short] at atCode
    exact Bool.eq_iff_iff.mpr atCode
  have others : left.others = right.others := by
    have members : ∀ c, c ∈ left.others ↔ c ∈ right.others := by
      intro c
      by_cases short : c.toNat < 128
      · have noneLeft : c ∉ left.others := fun member => by
          have long := left.beyond c member
          omega
        have noneRight : c ∉ right.others := fun member => by
          have long := right.beyond c member
          omega
        exact iff_of_false noneLeft noneRight
      · simpa [IsHeld, short] using held c
    have sets : (⟨left.others.toList, left.ascending⟩ : OrderedSet Char) =
        ⟨right.others.toList, right.ascending⟩ :=
      OrderedSet.eq_of_mem_iff fun c =>
        Array.mem_toList_iff.trans ((members c).trans Array.mem_toList_iff.symm)
    exact Array.toList_inj.mp (congrArg OrderedSet.toList sets)
  cases left
  cases right
  simp_all

theorem unpack_injective : Function.Injective unpack := by
  intro left right same
  apply eq_of_contains
  intro c
  rw [← mem_unpack, ← mem_unpack, same]

theorem isEmpty_iff {packed : PackedClass} : packed.isEmpty = true ↔ packed = empty := by
  cases packed
  simp [isEmpty, empty]

theorem isEmpty_unpack (packed : PackedClass) : packed.unpack.isEmpty = packed.isEmpty := by
  have emptyClass : empty.unpack = OrderedSet.empty :=
    OrderedSet.eq_of_mem_iff fun c => by
      rw [mem_unpack, contains_empty]
      simp
  rw [Bool.eq_iff_iff, isEmpty_iff, OrderedSet.isEmpty_iff, ← emptyClass, unpack_injective.eq_iff]

theorem ofList_eq_iff {elements others : List Char} :
    ofList elements = ofList others ↔ ∀ c, c ∈ elements ↔ c ∈ others := by
  constructor
  · intro same c
    rw [← contains_ofList, same, contains_ofList]
  · intro same
    exact eq_of_contains fun c => by rw [contains_ofList, contains_ofList, same]

theorem ofString_toString (packed : PackedClass) : ofString packed.toString = packed :=
  eq_of_contains fun c => by
    rw [ofString, toString, String.toList_ofList, contains_ofList, mem_toList_iff]

end PackedClass

/-! ### What classes answer -/

/-- What can be asked of a set of characters, however it is kept. -/
structure CharClass.Answers where
  /-- Whether a character is a member. -/
  contains : Char → Bool
  /-- Whether there are no members. -/
  isEmpty : Bool
  /-- The members one after the other. -/
  toList : List Char
  /-- The first member that satisfies a predicate, if one does. -/
  find? : (Char → Bool) → Option Char

/-- What a class that lists its members answers. -/
def CharClass.answers (set : CharClass) : Answers :=
  ⟨set.contains, set.isEmpty, set.toList, set.find?⟩

/-- What a packed class answers. -/
def PackedClass.answers (packed : PackedClass) : CharClass.Answers :=
  ⟨packed.contains, packed.isEmpty, packed.toList, packed.find?⟩

namespace CharClass

theorem answers_unpack (packed : PackedClass) : answers packed.unpack = packed.answers := by
  rw [answers, packed.contains_unpack, packed.isEmpty_unpack]
  rfl

/-- The answers are true of the set of the characters that occur in a sequence. -/
structure Answers.Describe (answers : Answers) (elements : List Char) : Prop where
  /-- The members are the characters that occur. -/
  contains : ∀ c, answers.contains c = true ↔ c ∈ elements
  /-- There are none only if the sequence is empty. -/
  isEmpty : answers.isEmpty = true ↔ elements = []
  /-- The members are listed. -/
  mem_toList : ∀ c, c ∈ answers.toList ↔ c ∈ elements
  /-- Each of them is listed once, in the order of code points. -/
  ascending : answers.toList.Pairwise fun first second => first.toNat < second.toNat
  /-- What is found is the least member that satisfies the predicate. -/
  find?_eq_some_iff : ∀ p c, answers.find? p = some c ↔ IsLeast { c | c ∈ elements ∧ p c } c
  /-- Nothing is found only if no member does. -/
  find?_eq_none_iff : ∀ p, answers.find? p = none ↔ ∀ c ∈ elements, ¬p c

theorem describe_answers_ofList (elements : List Char) :
    (answers (OrderedSet.ofList elements)).Describe elements where
  contains c := OrderedSet.contains_iff_mem.trans OrderedSet.mem_ofList
  isEmpty := OrderedSet.isEmpty_ofList
  mem_toList c := OrderedSet.mem_ofList
  ascending := (OrderedSet.ofList elements).ascending
  find?_eq_some_iff p c := by
    have ofText : (ofString (String.ofList elements)).find? p = some c ↔
        IsLeast { c | c ∈ (String.ofList elements).toList ∧ p c } c := find?_ofString_eq_some_iff
    rwa [ofString, String.toList_ofList] at ofText
  find?_eq_none_iff p := by
    refine OrderedSet.find?_eq_none_iff_forall.trans ?_
    simp only [OrderedSet.mem_ofList]

/--
A character class is a canonical set of characters. Built from any sequence, listed or packed, it
answers what is true of the characters that occur in the sequence. It is the class of its own text,
and equal to the class of another sequence exactly if the same characters occur in both.
-/
theorem isCanonical_ofList (elements : List Char) :
    (answers (OrderedSet.ofList elements)).Describe elements ∧
      (PackedClass.ofList elements).answers = answers (OrderedSet.ofList elements) ∧
      ofString (toString (OrderedSet.ofList elements)) = OrderedSet.ofList elements ∧
      PackedClass.ofString (PackedClass.ofList elements).toString = PackedClass.ofList elements ∧
      ∀ others : List Char,
        ((OrderedSet.ofList elements : CharClass) = OrderedSet.ofList others ↔
          ∀ c, c ∈ elements ↔ c ∈ others) ∧
        (PackedClass.ofList elements = PackedClass.ofList others ↔
          ∀ c, c ∈ elements ↔ c ∈ others) := by
  refine ⟨describe_answers_ofList elements, ?_, ofString_toString _,
    PackedClass.ofString_toString _, ?_⟩
  · rw [← PackedClass.unpack_ofList, answers_unpack]
  · intro others
    refine ⟨?_, PackedClass.ofList_eq_iff⟩
    rw [← PackedClass.unpack_ofList, ← PackedClass.unpack_ofList,
      PackedClass.unpack_injective.eq_iff, PackedClass.ofList_eq_iff]

end CharClass

end Highlighter
