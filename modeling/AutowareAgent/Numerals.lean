import Mathlib.Algebra.Group.Int.Defs
import Mathlib.Data.List.TakeWhile
import Mathlib.Tactic.SplitIfs

/-!
Decimal numerals of 64-bit integers as the C++ standard library prints and reads
them. Reading skips white space, takes an optional sign and the longest run of
digits, and ignores what follows; it reports a numeral without digits and a
value that 64 bits do not hold. Reading what was printed gives the number back.
-/
namespace AutowareAgent.Numerals

/-- Why `std::stoll` throws. -/
inductive NumeralError
  | InvalidArgument
  | OutOfRange
  deriving DecidableEq, Repr

/-- `std::to_string` of a 64-bit integer. -/
def toString64 (i : Int64) : String := toString i.toInt

/-- `std::isspace` in the C locale. -/
def isspace (c : Char) : Bool := c = ' ' || ('\t' ≤ c && c ≤ '\r')

/-- The sign and the characters after it. -/
def signed : List Char → Bool × List Char
  | '-' :: rest => (true, rest)
  | '+' :: rest => (false, rest)
  | rest => (false, rest)

/-- `std::stoll`. -/
def stoll (s : String) : Except NumeralError Int64 :=
  let (negative, rest) := signed (s.toList.dropWhile isspace)
  let digits := rest.takeWhile Char.isDigit
  if digits = [] then .error .InvalidArgument
  else
    let magnitude : Int := Nat.ofDigitChars 10 digits 0
    let value := if negative then -magnitude else magnitude
    if -2 ^ 63 ≤ value ∧ value < 2 ^ 63 then .ok (Int64.ofInt value) else .error .OutOfRange

theorem toDigits_isDigit {n : Nat} {c : Char} (member : c ∈ Nat.toDigits 10 n) : c.isDigit :=
  Nat.isDigit_of_mem_toDigits (by omega) (by omega) member

theorem takeWhile_toDigits (n : Nat) : (Nat.toDigits 10 n).takeWhile Char.isDigit = Nat.toDigits 10 n :=
  List.takeWhile_eq_self_iff.mpr fun _ member => toDigits_isDigit member

theorem isspace_digit {c : Char} (digit : c.isDigit) : isspace c = false := by
  simp only [Char.isDigit, ge_iff_le, Bool.and_eq_true, decide_eq_true_eq] at digit
  have low : 48 ≤ c.val.toNat := by simpa [UInt32.le_iff_toNat_le] using digit.1
  have space : c ≠ ' ' := by rintro rfl; exact absurd low (by decide)
  have tab : ¬ c ≤ '\r' := by
    intro high
    have : c.val.toNat ≤ 13 := by simpa [Char.le_def, UInt32.le_iff_toNat_le] using high
    omega
  simp [isspace, space, tab]

/-- White space does not begin a numeral. -/
theorem dropWhile_toDigits (n : Nat) : (Nat.toDigits 10 n).dropWhile isspace = Nat.toDigits 10 n := by
  cases digits : Nat.toDigits 10 n with
  | nil => rfl
  | cons c rest =>
    have digit : c.isDigit := toDigits_isDigit (n := n) (by simp [digits])
    simp [isspace_digit digit]

theorem signed_toDigits (n : Nat) : signed (Nat.toDigits 10 n) = (false, Nat.toDigits 10 n) := by
  cases digits : Nat.toDigits 10 n with
  | nil => rfl
  | cons c rest =>
    have digit : c.isDigit := toDigits_isDigit (n := n) (by simp [digits])
    have minus : c ≠ '-' := by rintro rfl; exact absurd digit (by decide)
    have plus : c ≠ '+' := by rintro rfl; exact absurd digit (by decide)
    unfold signed
    split
    · rename_i same; exact absurd (List.cons.inj same).1 minus
    · rename_i same; exact absurd (List.cons.inj same).1 plus
    · rfl

theorem toList_toString64 (i : Int64) :
    (toString64 i).toList =
      if 0 ≤ i.toInt then Nat.toDigits 10 i.toInt.toNat else '-' :: Nat.toDigits 10 (-i.toInt).toNat := by
  unfold toString64
  cases value : i.toInt with
  | ofNat n => simp [toString, Int.repr]
  | negSucc n =>
    have negative : ¬ (0 : Int) ≤ Int.negSucc n := by omega
    simp [toString, Int.repr, negative]

/-- A printed number is read back. -/
@[simp] theorem stoll_toString64 (i : Int64) : stoll (toString64 i) = .ok i := by
  have low := i.le_toInt
  have high := i.toInt_lt
  unfold stoll
  rw [toList_toString64]
  by_cases sign : 0 ≤ i.toInt
  · have magnitude : ((i.toInt.toNat : Nat) : Int) = i.toInt := Int.toNat_of_nonneg sign
    simp only [sign, ↓reduceIte, dropWhile_toDigits, signed_toDigits, takeWhile_toDigits,
      Nat.toDigits_ne_nil, Nat.ofDigitChars_ten_toDigits, Bool.false_eq_true, magnitude]
    rw [if_pos ⟨low, high⟩, Int64.ofInt_toInt]
  · have magnitude : (((-i.toInt).toNat : Nat) : Int) = -i.toInt := Int.toNat_of_nonneg (by omega)
    have space : isspace '-' = false := by decide
    simp only [sign, ↓reduceIte, List.dropWhile_cons, space, Bool.false_eq_true, signed, takeWhile_toDigits,
      Nat.toDigits_ne_nil, Nat.ofDigitChars_ten_toDigits, magnitude, Int.neg_neg]
    rw [if_pos ⟨low, high⟩, Int64.ofInt_toInt]

end AutowareAgent.Numerals
