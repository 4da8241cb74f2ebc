import Mathlib.Data.List.Basic

set_option autoImplicit false

/-! # Numbers in the text

Numbers are written in decimal digits, a negative one with a minus before them. They are read as
they were written (`number?_repr`), and have nothing else in them. -/

namespace IndustrySet.Text

/-- The number that some digits denote. -/
def natural? (digits : List Char) : Option Nat :=
  if digits ≠ [] ∧ digits.all Char.isDigit then some (Nat.ofDigitChars 10 digits 0) else none

/-- The number that is written, which may have a minus before it. -/
def number? (text : String) : Option Int :=
  match text.toList with
  | '-' :: digits => (natural? digits).map fun n => -n
  | digits => (natural? digits).map fun n => n

theorem natural?_toDigits (n : Nat) : natural? (Nat.toDigits 10 n) = some n := by
  have digits : (Nat.toDigits 10 n).all Char.isDigit = true :=
    List.all_eq_true.2 fun c mem => Nat.isDigit_of_mem_toDigits (by decide) (by decide) mem
  rw [natural?, if_pos ⟨Nat.toDigits_ne_nil, digits⟩,
    Nat.ofDigitChars_toDigits (by decide) (by decide)]

/-- A number is told by its digits. -/
theorem digits_injective : Function.Injective (toString : Nat → String) := by
  intro n m same
  have digits : n.repr = m.repr := same
  rw [← String.toList_inj, Nat.toList_repr, Nat.toList_repr] at digits
  have read := congrArg natural? digits
  rw [natural?_toDigits, natural?_toDigits] at read
  exact Option.some.inj read

theorem notMem_toDigits {c : Char} (notDigit : c.isDigit = false) (n : Nat) :
    c ∉ Nat.toDigits 10 n := by
  intro mem
  rw [Nat.isDigit_of_mem_toDigits (by decide) (by decide) mem] at notDigit
  cases notDigit

theorem toList_repr_negSucc (n : Nat) :
    (Int.negSucc n).repr.toList = '-' :: Nat.toDigits 10 (n + 1) := by
  show ("-" ++ (n + 1).repr).toList = _
  rw [String.toList_append, Nat.toList_repr]
  rfl

/-- What is neither a digit nor a minus does not stand in a number. -/
theorem notMem_toList_repr {c : Char} (notDigit : c.isDigit = false) (notMinus : c ≠ '-')
    (n : Int) : c ∉ n.repr.toList := by
  cases n with
  | ofNat n =>
    show c ∉ n.repr.toList
    rw [Nat.toList_repr]
    exact notMem_toDigits notDigit n
  | negSucc n =>
    rw [toList_repr_negSucc, List.mem_cons, not_or]
    exact ⟨notMinus, notMem_toDigits notDigit (n + 1)⟩

/-- A number is read as it was written. -/
theorem number?_repr (n : Int) : number? n.repr = some n := by
  cases n with
  | ofNat n =>
    show (match n.repr.toList with
      | '-' :: digits => (natural? digits).map fun n => -(n : Int)
      | digits => (natural? digits).map fun n => (n : Int)) = _
    rw [Nat.toList_repr]
    split
    · next digits same =>
      exact absurd (same ▸ List.mem_cons_self) (notMem_toDigits (c := '-') (by decide) n)
    · rw [natural?_toDigits]
      rfl
  | negSucc n =>
    rw [number?, toList_repr_negSucc]
    simp only [natural?_toDigits]
    rfl

end IndustrySet.Text
