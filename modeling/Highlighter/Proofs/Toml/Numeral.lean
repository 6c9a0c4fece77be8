import Highlighter.Toml.Reader
import Highlighter.Proofs.Toml.Text

/-!
# Reading written numbers

The decimal numeral of a number is read back as an integer. It consists of digits alone, so it is
neither a date nor a time nor a number with a fraction, and it has no leading zero, which the reader
would refuse.
-/

namespace Highlighter.Toml

/-! ### No other form -/

theorem expect?_eq_none {mark : Char} (noDigit : mark.isDigit = false) {text : List Char}
    (digits : ∀ c ∈ text, c.isDigit) : expect? mark text = none := by
  cases text with
  | nil => rfl
  | cons c rest =>
      have different := ne_of_class (digits c List.mem_cons_self) noDigit
      simp [expect?, different]

/-- Behind a number of fixed length there are still digits only, and so none of the marks that
dates and times have there. -/
theorem fixedNumber?_expect?_eq_none (mark : Char) (noDigit : mark.isDigit = false)
    {text : List Char} (digits : ∀ c ∈ text, c.isDigit) {count number : Nat} {after : List Char}
    (read : fixedNumber? count text = some (number, after)) : expect? mark after = none := by
  unfold fixedNumber? at read
  simp only [Option.ite_none_right_eq_some, Option.some.injEq, Prod.mk.injEq] at read
  rcases read with ⟨-, -, rfl⟩
  exact expect?_eq_none noDigit fun c member => digits c (List.mem_of_mem_drop member)

theorem afterDate?_eq_none {text : List Char} (digits : ∀ c ∈ text, c.isDigit) :
    afterDate? text = none := by
  unfold afterDate?
  cases year : fixedNumber? 4 text with
  | none => rfl
  | some read =>
      simp [fixedNumber?_expect?_eq_none '-' (by decide) digits year]

theorem afterTime?_eq_none {text : List Char} (digits : ∀ c ∈ text, c.isDigit) :
    afterTime? text = none := by
  unfold afterTime? afterMinutes?
  cases hour : fixedNumber? 2 text with
  | none => rfl
  | some read =>
      simp [fixedNumber?_expect?_eq_none ':' (by decide) digits hour]

theorem isDateTime_eq_false {text : List Char} (digits : ∀ c ∈ text, c.isDigit) :
    isDateTime text = false := by
  simp [isDateTime, afterTime?_eq_none digits, afterDate?_eq_none digits]

theorem splitSign_eq {text : List Char} (digits : ∀ c ∈ text, c.isDigit) :
    splitSign text = (false, text) := by
  cases text with
  | nil => rfl
  | cons c rest =>
      have digit := digits c List.mem_cons_self
      have notPlus : c ≠ '+' := ne_of_class digit (by decide)
      have notMinus : c ≠ '-' := ne_of_class digit (by decide)
      simp [splitSign, notPlus, notMinus]

theorem isFloat_eq_false {text : List Char} (digits : ∀ c ∈ text, c.isDigit) :
    isFloat text = false := by
  have unmarked : ∀ c ∈ text, (!(c == '.' || isExponentMark c)) = true := by
    intro c member
    have digit := digits c member
    have notPoint : c ≠ '.' := ne_of_class digit (by decide)
    have notSmall : c ≠ 'e' := ne_of_class digit (by decide)
    have notLarge : c ≠ 'E' := ne_of_class digit (by decide)
    simp [isExponentMark, notPoint, notSmall, notLarge]
  have notInfinite : text ≠ ['i', 'n', 'f'] := by
    rintro rfl
    exact absurd (digits 'i' List.mem_cons_self) (by decide)
  have notNumber : text ≠ ['n', 'a', 'n'] := by
    rintro rfl
    exact absurd (digits 'n' List.mem_cons_self) (by decide)
  have whole : text.dropWhile (fun c => !(c == '.' || isExponentMark c)) = [] := by
    rw [← List.append_nil text]
    exact dropWhile_append_eq unmarked (by simp)
  unfold isFloat
  simp only [splitSign_eq digits, notInfinite, notNumber, or_self, if_false, whole]
  cases decimalDigits? (text.takeWhile fun c => !(c == '.' || isExponentMark c)) <;> rfl

/-! ### The value of a numeral -/

theorem forall_isDigit_toDigits (number : Nat) : ∀ c ∈ Nat.toDigits 10 number, c.isDigit :=
  fun _ member => Nat.isDigit_of_mem_toDigits (by decide) (by decide) member

theorem ungroup?_eq_some {text : List Char} (nonempty : text ≠ [])
    (digits : ∀ c ∈ text, c.isDigit) : ungroup? Char.isDigit text = some text := by
  induction text with
  | nil => exact absurd rfl nonempty
  | cons c rest ih =>
      rcases List.forall_mem_cons.mp digits with ⟨digit, others⟩
      cases rest with
      | nil => simp [ungroup?, digit]
      | cons d rest =>
          have notGrouped : d ≠ '_' := ne_of_class (others d List.mem_cons_self) (by decide)
          simp [ungroup?, digit, notGrouped, ih (by simp) others]

theorem valueOfDigits_eq {text : List Char} (digits : ∀ c ∈ text, c.isDigit) :
    valueOfDigits 10 text = Nat.ofDigitChars 10 text 0 := by
  suffices general : ∀ value, text.foldl
      (fun value c => 10 * value + valueOfDigits.digitValue c) value =
        Nat.ofDigitChars 10 text value from general 0
  intro value
  induction text generalizing value with
  | nil => rfl
  | cons c rest ih =>
      rcases List.forall_mem_cons.mp digits with ⟨digit, others⟩
      have digitValue : valueOfDigits.digitValue c = c.toNat - '0'.toNat := by
        simp [valueOfDigits.digitValue, digit]
      rw [List.foldl_cons, Nat.ofDigitChars_cons, digitValue, ih others]

theorem eq_zero_of_leadingZero {number : Nat} {rest : List Char}
    (leadingZero : Nat.toDigits 10 number = '0' :: rest) : number = 0 := by
  induction number using Nat.strongRecOn generalizing rest with
  | ind number ih =>
      by_cases small : number < 10
      · rw [Nat.toDigits_of_lt_base small] at leadingZero
        exact Nat.digitChar_eq_zero.mp (List.cons.inj leadingZero).1
      · have large : 10 ≤ number := Nat.not_lt.mp small
        rw [Nat.toDigits_of_base_le (by decide) large] at leadingZero
        rcases List.append_eq_cons_iff.mp leadingZero with ⟨noDigits, -⟩ | ⟨others, same, -⟩
        · exact absurd noDigits Nat.toDigits_ne_nil
        · have zero := ih (number / 10) (by omega) same
          omega

theorem decimalDigits?_toDigits (number : Nat) :
    decimalDigits? (Nat.toDigits 10 number) = some (Nat.toDigits 10 number) := by
  unfold decimalDigits?
  split
  · next c rest leadingZero =>
      rcases eq_zero_of_leadingZero leadingZero with rfl
      nomatch leadingZero
  · exact ungroup?_eq_some Nat.toDigits_ne_nil (forall_isDigit_toDigits number)

theorem integer?_toDigits {number : Nat} (small : fits number) :
    integer? (Nat.toDigits 10 number) = some (number : Int) := by
  have digits := forall_isDigit_toDigits number
  have unannounced : ∀ mark rest, Nat.toDigits 10 number = '0' :: mark :: rest →
      mark.isDigit = false → False := by
    intro mark rest same noDigit
    have digit := digits mark (by simp [same])
    simp [digit] at noDigit
  unfold integer?
  split
  · next same => exact (unannounced _ _ same (by decide)).elim
  · next same => exact (unannounced _ _ same (by decide)).elim
  · next same => exact (unannounced _ _ same (by decide)).elim
  · simp [splitSign_eq digits, decimalDigits?_toDigits, valueOfDigits_eq digits,
      Nat.ofDigitChars_toDigits, small]

/-- A numeral is read back as its number if that is small enough. -/
theorem scalar?_toDigits {number : Nat} (small : fits number) {rest : List Char}
    (ends : ∀ c ∈ rest.head?, isScalar c = false) :
    scalar? (Nat.toDigits 10 number ++ rest) = some (.integer number, rest) := by
  have digits := forall_isDigit_toDigits number
  have scalars : ∀ c ∈ Nat.toDigits 10 number, isScalar c := by
    intro c member
    simp [isScalar, Char.isAlphanum, digits c member]
  have noTruth : Nat.toDigits 10 number ≠ ['t', 'r', 'u', 'e'] ∧
      Nat.toDigits 10 number ≠ ['f', 'a', 'l', 's', 'e'] := by
    constructor <;> (intro same; exact absurd (digits _ (same ▸ List.mem_cons_self)) (by decide))
  have value : scalarOf? (Nat.toDigits 10 number) = some (.integer number) := by
    simp [scalarOf?, noTruth, isDateTime_eq_false digits, isFloat_eq_false digits,
      integer?_toDigits small]
  have noDate : isDate (Nat.toDigits 10 number) = false := by
    simp [isDate, afterDate?_eq_none digits]
  simp [scalar?, takeWhile_append_eq scalars ends, dropWhile_append_eq scalars ends, noDate, value]

end Highlighter.Toml
