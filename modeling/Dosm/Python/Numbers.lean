import Dosm.Base.Binary64
import Dosm.Ftp.Replies

namespace Dosm.Python

open Binary64
open Ftp (Digits maxDigits)

/-! Integers and floats of the source language: reading them, their text, and the operations
that can leave the finite numbers.

A float is a number of binary64, an infinity or no number. The sign of a zero is kept where
a text is read only.
-/

inductive Double where
  | finite (number : Finite)
  | infinite (negative : Bool)
  | nan

namespace Double

def isFinite : Double → Bool
  | .finite _ => true
  | .infinite _ | .nan => false

/-- What an operation on floats gives for an exact result. -/
def ofRat (value : ℚ) : Double :=
  match toFinite value with
  | some number => .finite number
  | none => .infinite (value < 0)

def neg : Double → Double
  | .finite number => .finite number.neg
  | .infinite negative => .infinite !negative
  | .nan => .nan

def sub (left right : Finite) : Double := ofRat (left.value - right.value)

def scaled (factor : Finite) : Double → Double
  | .finite number => ofRat (number.value * factor.value)
  | .infinite negative => if factor.value = 0 then .nan else .infinite (negative ^^ decide (factor.value < 0))
  | .nan => .nan

def less : Double → Double → Bool
  | .finite left, .finite right => left.value < right.value
  | .infinite true, .finite _ | .finite _, .infinite false | .infinite true, .infinite false => true
  | _, _ => false

/-- `min` of two values: the second only when it is less. -/
def min (first second : Double) : Double := if less second first then second else first

/-- `max` of two values: the second only when it is more. -/
def max (first second : Double) : Double := if less first second then second else first

def roundTo (decimals : ℕ) : Double → Double
  | .finite number => .finite (number.roundTo decimals)
  | other => other

end Double

inductive NumberError where
  | value
  | overflow
  deriving DecidableEq

/-- `int` of a float. -/
def Double.truncate : Double → Except NumberError Int
  | .finite number => .ok (if number.value < 0 then ⌈number.value⌉ else ⌊number.value⌋)
  | .infinite _ => .error .overflow
  | .nan => .error .value

def trueDiv (dividend divisor : Int) : Except NumberError Finite :=
  match toFinite (dividend / divisor) with
  | some quotient => .ok quotient
  | none => .error .overflow

/-! Reading. -/

/-- What is trimmed off a number; the separators of ASCII are not. -/
def isNumberBlank (char : Char) : Bool := isSpace char && !(28 ≤ char.toNat && char.toNat ≤ 31)

def trimNumber (text : String) : List Char := (text.toList.dropWhile isNumberBlank).rdropWhile isNumberBlank

def signed : List Char → Bool × List Char
  | '-' :: rest => (true, rest)
  | '+' :: rest => (false, rest)
  | rest => (false, rest)

section Reading

variable (digits : Digits)

/-- Decimal digits with single underscores between them, and what follows. -/
def digitRun (begun : Bool) : List Char → List Nat × List Char
  | [] => ([], [])
  | char :: rest =>
      match digits.decimal char with
      | some digit =>
          let (read, left) := digitRun true rest
          (digit :: read, left)
      | none =>
          if begun && char = '_' && (rest.head?.bind digits.decimal).isSome then digitRun false rest
          else ([], char :: rest)

def digitsValue (read : List Nat) : Nat := read.foldl (fun number digit => number * 10 + digit) 0

def withSign (negative : Bool) (magnitude : Nat) : Int := if negative then -magnitude else magnitude

/-- `int` of a text; `none` is a `ValueError`. -/
def intOf (text : String) : Option Int :=
  let (negative, rest) := signed (trimNumber text)
  let (read, left) := digitRun digits false rest
  if read = [] ∨ left ≠ [] ∨ maxDigits < read.length then none else some (withSign negative (digitsValue read))

def fractionOf : List Char → List Nat × List Char
  | '.' :: rest => digitRun digits false rest
  | rest => ([], rest)

def exponentOf : List Char → Option Int
  | [] => some 0
  | char :: rest =>
      let (negative, rest) := signed rest
      let (read, left) := digitRun digits false rest
      if (char = 'e' ∨ char = 'E') ∧ read ≠ [] ∧ left = [] then some (withSign negative (digitsValue read)) else none

def magnitudeOf (chars : List Char) : Option Double :=
  let word := chars.map Char.toLower
  if word = "inf".toList ∨ word = "infinity".toList then some (.infinite false)
  else if word = "nan".toList then some .nan
  else
    let (whole, rest) := digitRun digits false chars
    let (fraction, rest) := fractionOf digits rest
    if whole = [] ∧ fraction = [] then none
    else (exponentOf digits rest).map fun exponent : Int =>
      .ofRat (digitsValue (whole ++ fraction) * (10 : ℚ) ^ (exponent - fraction.length))

/-- The sign and the magnitude of a float; `none` is a `ValueError`. -/
def readFloat (text : String) : Option (Bool × Double) :=
  let (negative, rest) := signed (trimNumber text)
  (magnitudeOf digits rest).map fun magnitude => (negative, magnitude)

/-- `float` of a text. -/
def floatOf (text : String) : Option Double :=
  (readFloat digits text).map fun read => if read.1 then read.2.neg else read.2

end Reading

/-! The text of a float. -/

/-- So many digits and a power of ten that are read as the value, of two the nearer. -/
def spelling (value : ℚ) (count : Nat) : Option (Int × Int) :=
  let power := Int.log 10 value - count + 1
  let nearer := roundEven (value / 10 ^ power)
  let other := if nearer ≤ value / 10 ^ power then nearer + 1 else nearer - 1
  ([nearer, other].find? fun spelled : Int => nearest (spelled * 10 ^ power) = value).map fun spelled => (spelled, power)

/-- The least number of digits is taken. -/
def shortest (value : ℚ) : Int × Int :=
  ((List.range 17).findSome? fun fewer => spelling value (fewer + 1)).getD (0, 0)

def zeros (count : Int) : List Char := List.replicate count.toNat '0'

/-- Digits behind a point that is moved to the right: up to sixteen places are written out. -/
def placed (digits : List Char) (point : Int) : List Char :=
  if -4 < point ∧ point ≤ 16 then
    if point ≤ 0 then '0' :: '.' :: zeros (-point) ++ digits
    else if digits.length ≤ point then digits ++ zeros (point - digits.length) ++ ".0".toList
    else digits.take point.toNat ++ '.' :: digits.drop point.toNat
  else
    let power := point - 1
    let shown := (toString power.natAbs).toList
    digits.take 1 ++ (if digits.tail = [] then [] else '.' :: digits.tail) ++
      'e' :: (if power < 0 then '-' else '+') :: zeros (2 - shown.length) ++ shown

/-- `repr` of a float without its sign. -/
def Double.magnitudeText : Double → List Char
  | .finite number =>
      if number.value = 0 then "0.0".toList
      else
        let (spelled, power) := shortest |number.value|
        let all := (toString spelled).toList
        placed (all.rdropWhile (· = '0')) (all.length + power)
  | .infinite _ => "inf".toList
  | .nan => "nan".toList

/-- `repr` of a float that has been read. -/
def floatText (read : Bool × Double) : String :=
  match read.2 with
  | .nan => "nan"
  | magnitude => String.ofList ((if read.1 then ['-'] else []) ++ magnitude.magnitudeText)

/-! Numerals are read as the number they show. -/

section Numerals

variable {digits : Digits} {chars : List Char} {number : Nat}

theorem decimal_isDigit {char : Char} (digit : char.isDigit = true) : digits.decimal char = some (char.toNat - '0'.toNat) := by
  have bounds : 48 ≤ char.toNat ∧ char.toNat ≤ 57 := by
    simpa [Char.isDigit, Char.le_def, UInt32.le_iff_toNat_le] using digit
  rw [(digits.ascii char (by omega)).1, digitValue_isDigit digit]

theorem digitRun_digits {begun : Bool} (decimal : ∀ char ∈ chars, char.isDigit = true) :
    digitRun digits begun chars = (chars.map fun char => char.toNat - '0'.toNat, []) := by
  induction chars generalizing begun with
  | nil => rfl
  | cons char rest ih =>
      rw [digitRun, decimal_isDigit (decimal char List.mem_cons_self)]
      dsimp only
      rw [ih fun other member => decimal other (List.mem_cons_of_mem _ member)]
      rfl

theorem digitsValue_digits : digitsValue (chars.map fun char => char.toNat - '0'.toNat) = Nat.ofDigitChars 10 chars 0 := by
  have folded : ∀ start, (chars.map fun char => char.toNat - '0'.toNat).foldl (fun number digit => number * 10 + digit) start =
      Nat.ofDigitChars 10 chars start := by
    induction chars with
    | nil => exact fun start => Nat.ofDigitChars_nil.symm
    | cons char rest ih =>
        intro start
        rw [List.map_cons, List.foldl_cons, ih, Nat.ofDigitChars_cons, Nat.mul_comm]
  exact folded 0

theorem numeral_chars : ∃ first rest, (toString number).toList = first :: rest ∧
    (∀ char ∈ first :: rest, char.isDigit = true) ∧ Nat.ofDigitChars 10 (first :: rest) 0 = number := by
  have shown : (toString number).toList = Nat.toDigits 10 number := by
    rw [Nat.toString_eq_ofList_toDigits, String.toList_ofList]
  cases same : Nat.toDigits 10 number with
  | nil => exact absurd same Nat.toDigits_ne_nil
  | cons first rest =>
      refine ⟨first, rest, shown.trans same, fun char member => ?_, ?_⟩
      · exact Nat.isDigit_of_mem_toDigits (by decide) (by decide) (same ▸ member)
      · rw [← same]
        exact Nat.ofDigitChars_ten_toDigits

theorem trimNumber_visible {text : String} (visible : ∀ char ∈ text.toList, isSpace char = false) :
    trimNumber text = text.toList := by
  have kept : ∀ char ∈ text.toList, isNumberBlank char = false := by
    intro char member
    rw [isNumberBlank, visible char member, Bool.false_and]
  rw [trimNumber, List.dropWhile_eq_self_iff.mpr, List.rdropWhile_eq_self_iff.mpr]
  · intro nonempty blank
    rw [kept _ (List.getLast_mem nonempty)] at blank
    cases blank
  · intro nonempty
    rw [kept _ (List.getElem_mem nonempty)]
    exact Bool.false_ne_true

theorem signed_digit {first : Char} {rest : List Char} (digit : first.isDigit = true) :
    signed (first :: rest) = (false, first :: rest) := by
  unfold signed
  split
  next same =>
    cases same
    cases digit
  next same =>
    cases same
    cases digit
  next => rfl

theorem intOf_toString : intOf digits (toString number) =
    if (toString number).length ≤ maxDigits then some (number : Int) else none := by
  obtain ⟨first, rest, shown, decimal, value⟩ := @numeral_chars number
  have visible : ∀ char ∈ (toString number).toList, isSpace char = false := fun char member =>
    isSpace_digit (decimal char (shown ▸ member))
  have size : (toString number).length = (first :: rest).length := by rw [← String.length_toList, shown]
  unfold intOf
  rw [trimNumber_visible visible, shown, signed_digit (decimal first List.mem_cons_self)]
  dsimp only
  rw [digitRun_digits decimal]
  dsimp only
  rw [digitsValue_digits, value, List.length_map, size]
  by_cases short : (first :: rest).length ≤ maxDigits
  · rw [if_pos short, if_neg]
    · rfl
    · simp only [List.map_cons, reduceCtorEq, ne_eq, not_true, false_or, not_lt]
      exact short
  · rw [if_neg short, if_pos]
    exact .inr (.inr (by omega))

theorem floatOf_toString : floatOf digits (toString number) = some (.ofRat number) := by
  obtain ⟨first, rest, shown, decimal, value⟩ := @numeral_chars number
  have visible : ∀ char ∈ (toString number).toList, isSpace char = false := fun char member =>
    isSpace_digit (decimal char (shown ▸ member))
  have digit := decimal first List.mem_cons_self
  have word : ∀ letter others, letter.isDigit = false → (first :: rest).map Char.toLower ≠ letter :: others := by
    intro letter others lettered same
    have lower : first.toLower = first := by
      have bounds : 48 ≤ first.val.toNat ∧ first.val.toNat ≤ 57 := by
        simpa [Char.isDigit, UInt32.le_iff_toNat_le] using digit
      unfold Char.toLower
      rw [dif_neg]
      simp only [ge_iff_le, UInt32.le_iff_toNat_le, not_and_or, not_le]
      exact .inl (by simp only [Char.reduceVal, UInt32.reduceToNat]; omega)
    rw [List.map_cons, List.cons.injEq, lower] at same
    rw [same.1] at digit
    rw [digit] at lettered
    cases lettered
  have read : magnitudeOf digits (first :: rest) = some (.ofRat number) := by
    have inf : (first :: rest).map Char.toLower ≠ "inf".toList := word 'i' _ rfl
    have infinity : (first :: rest).map Char.toLower ≠ "infinity".toList := word 'i' _ rfl
    have nan : (first :: rest).map Char.toLower ≠ "nan".toList := word 'n' _ rfl
    unfold magnitudeOf
    dsimp only
    rw [if_neg (not_or.mpr ⟨inf, infinity⟩), if_neg nan, digitRun_digits decimal]
    dsimp only [fractionOf, exponentOf]
    rw [List.append_nil, digitsValue_digits, value]
    simp
  rw [floatOf, readFloat, trimNumber_visible visible, shown, signed_digit digit]
  dsimp only
  rw [read]
  rfl

end Numerals

end Dosm.Python
