import Dosm.Python.Text
import Mathlib.Algebra.Group.Int.Defs

namespace Dosm.Python

/-! The values of a decoded argument map. -/

/-- A list or a mapping is known by its text; a float by its text and its integer
part, absent for a value that is not a number. -/
inductive Value where
  | none
  | bool (value : Bool)
  | int (value : Int)
  | float (text : String) (truncated : Option Int) (zero : Bool)
  | str (value : String)
  | container (text : String) (mapping empty : Bool)
  deriving DecidableEq

abbrev Args := List (String × Value)

/-- An exception the called function does not catch. -/
inductive Raised where
  | attributeError
  | interfaceError
  | multipleResultsFound
  | pendingRollback
  deriving DecidableEq

namespace Value

def truthy : Value → Bool
  | .none => false
  | .bool value => value
  | .int value => value ≠ 0
  | .float _ _ zero => !zero
  | .str value => value ≠ ""
  | .container _ _ empty => !empty

def columnText : Value → Except Raised (Option String)
  | .none => .ok Option.none
  | .bool value => .ok (some (if value then "1" else "0"))
  | .int value => .ok (some (toString value))
  | .float text _ _ => .ok (some text)
  | .str value => .ok (some value)
  | .container .. => .error .interfaceError

def isColumnInt (value : Int) : Bool := -2 ^ 63 ≤ value && value < 2 ^ 63

/-- `str` of a value, as a template prints it. -/
def asText : Value → String
  | .none => "None"
  | .bool value => if value then "True" else "False"
  | .int value => toString value
  | .float text _ _ => text
  | .str value => value
  | .container text _ _ => text

theorem asText_str (text : String) : (str text).asText = text := rfl

end Value

namespace Args

def get (args : Args) (name : String) : Value := (args.lookup name).getD .none

/-- `(args.get(name) or default).strip()`: only a string has a `strip`. -/
def text (args : Args) (name : String) (default : String := "") : Except Raised String :=
  let value := get args name
  if value.truthy then
    match value with
    | .str value => .ok (strip value)
    | _ => .error .attributeError
  else .ok (strip default)

end Args

def digitValue (char : Char) : Option Nat :=
  if '0' ≤ char ∧ char ≤ '9' then some (char.toNat - '0'.toNat) else none

/-- Decimal digits with single underscores between them. -/
def parseDigits (number : Nat) : List Char → Option Nat
  | [] => some number
  | '_' :: char :: rest => do parseDigits (number * 10 + (← digitValue char)) rest
  | char :: rest => do parseDigits (number * 10 + (← digitValue char)) rest

def parseNat : List Char → Option Nat
  | [] => none
  | char :: rest => do parseDigits (← digitValue char) rest

/-- `int` of a string; `none` is a `ValueError`. -/
def parseInt (text : String) : Option Int :=
  match (strip text).toList with
  | '-' :: digits => (parseNat digits).map fun number => -(number : Int)
  | '+' :: digits => (parseNat digits).map Int.ofNat
  | digits => (parseNat digits).map Int.ofNat

/-- `int` of any value; `none` is a `TypeError` or a `ValueError`. -/
def Value.toInt : Value → Option Int
  | .bool value => some (if value then 1 else 0)
  | .int value => some value
  | .float _ truncated _ => truncated
  | .str text => parseInt text
  | .none | .container .. => Option.none

example : parseInt " -1_024\n" = some (-1024) ∧ parseInt "1__0" = none := by decide

theorem parseInt_strip {text : String} : parseInt (strip text) = parseInt text := by
  rw [parseInt, strip_strip, parseInt]

theorem digitValue_isDigit {char : Char} (digit : char.isDigit = true) :
    digitValue char = some (char.toNat - '0'.toNat) := by
  have bounds : '0' ≤ char ∧ char ≤ '9' := by
    simpa [Char.isDigit, Char.le_def, UInt32.le_iff_toNat_le] using digit
  rw [digitValue, if_pos bounds]

theorem parseDigits_digits {chars : List Char} (number : Nat) (digits : ∀ char ∈ chars, char.isDigit = true) :
    parseDigits number chars = some (Nat.ofDigitChars 10 chars number) := by
  induction chars generalizing number with
  | nil => rw [parseDigits, Nat.ofDigitChars_nil]
  | cons char rest ih =>
      have digit := digits char List.mem_cons_self
      have plain : char ≠ '_' := by
        rintro rfl
        cases digit
      have later : ∀ next, parseDigits next rest = some (Nat.ofDigitChars 10 rest next) := fun next =>
        ih next fun char member => digits char (List.mem_cons_of_mem _ member)
      rw [parseDigits, digitValue_isDigit digit]
      · rw [Nat.ofDigitChars_cons, Nat.mul_comm 10 number]
        exact later _
      · intro next tail same
        exact absurd same plain

theorem parseNat_toDigits {number : Nat} : parseNat (Nat.toDigits 10 number) = some number := by
  have digits : ∀ char ∈ Nat.toDigits 10 number, char.isDigit = true := fun char member =>
    Nat.isDigit_of_mem_toDigits (by decide) (by decide) member
  have whole : Nat.ofDigitChars 10 (Nat.toDigits 10 number) 0 = number := Nat.ofDigitChars_ten_toDigits
  cases chars : Nat.toDigits 10 number with
  | nil => exact absurd chars Nat.toDigits_ne_nil
  | cons char rest =>
      rw [chars] at digits whole
      rw [parseNat, digitValue_isDigit (digits char List.mem_cons_self)]
      have tail := parseDigits_digits (char.toNat - '0'.toNat) fun char member =>
        digits char (List.mem_cons_of_mem _ member)
      rw [Nat.ofDigitChars_cons, Nat.mul_zero, Nat.zero_add] at whole
      rw [whole] at tail
      exact tail

theorem parseInt_toString {number : Int} : parseInt (toString number) = some number := by
  have digits : ∀ (natural : Nat) (char : Char), char ∈ natural.repr.toList → char.isDigit = true := by
    intro natural char member
    rw [Nat.toList_repr] at member
    exact Nat.isDigit_of_mem_toDigits (by decide) (by decide) member
  have visible : ∀ char ∈ (toString number).toList, isSpace char = false := by
    intro char member
    rw [Int.toString_eq_repr, Int.repr_eq_if] at member
    have plain : char.isDigit = true ∨ char = '-' := by
      split at member
      · exact .inl (digits _ char member)
      · rw [String.toList_append] at member
        rcases List.mem_append.mp member with sign | digit
        · exact .inr (List.mem_singleton.mp sign)
        · exact .inl (digits _ char digit)
    rcases plain with digit | rfl
    · exact isSpace_digit digit
    · rfl
  rw [parseInt, strip_visible visible, Int.toString_eq_repr, Int.repr_eq_if]
  by_cases nonnegative : 0 ≤ number
  · rw [if_pos nonnegative, Nat.toList_repr]
    have read : parseNat (Nat.toDigits 10 number.toNat) = some number.toNat := parseNat_toDigits
    have unsigned : ∀ sign rest, Nat.toDigits 10 number.toNat = sign :: rest → sign.isDigit = true := by
      intro sign rest same
      refine digits number.toNat sign ?_
      rw [Nat.toList_repr, same]
      exact List.mem_cons_self
    split
    · rename_i rest same
      cases unsigned _ _ same
    · rename_i rest same
      cases unsigned _ _ same
    · rw [read, Option.map_some, Int.ofNat_eq_natCast, Int.toNat_of_nonneg nonnegative]
  · have signed : ("-" ++ (-number).toNat.repr).toList = '-' :: Nat.toDigits 10 (-number).toNat := by
      rw [String.toList_append, Nat.toList_repr]
      rfl
    rw [if_neg nonnegative, signed]
    simp only [parseNat_toDigits]
    have negated : -((-number).toNat : Int) = number := by omega
    exact congrArg some negated

end Dosm.Python
