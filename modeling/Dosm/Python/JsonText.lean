import Mathlib.Data.Bool.AllAny
import Dosm.Python.Value
import Dosm.Python.Slices

namespace Dosm.Python

/-! Decoded JSON documents, and what Python does with their values. -/

/-- The fields of a mapping have distinct names. -/
inductive Json where
  | null
  | bool (value : Bool)
  | int (value : Int)
  | float (text : String) (truncated : Option Int) (zero : Bool)
  | str (value : String)
  | array (items : List Json)
  | object (fields : List (String × Json))

/-- An exception as a message about it shows it. -/
structure Exn where
  type : String
  message : String
  deriving DecidableEq

def Exn.text (exn : Exn) : String := exn.type ++ ": " ++ exn.message

namespace Json

def truthy : Json → Bool
  | .null => false
  | .bool value => value
  | .int value => value ≠ 0
  | .float _ _ zero => !zero
  | .str value => value ≠ ""
  | .array items => !items.isEmpty
  | .object fields => !fields.isEmpty

/-- Python's `value or default`. -/
def orElse (value default : Json) : Json := if value.truthy then value else default

def typeName : Json → String
  | .null => "NoneType"
  | .bool _ => "bool"
  | .int _ => "int"
  | .float .. => "float"
  | .str _ => "str"
  | .array _ => "list"
  | .object _ => "dict"

def noAttribute (value : Json) (missing : String) : Exn where
  type := "AttributeError"
  message := "'" ++ value.typeName ++ "' object has no attribute '" ++ missing ++ "'"

def get (value : Json) (name : String) (default : Json := .null) : Except Exn Json :=
  match value with
  | .object fields => .ok ((fields.lookup name).getD default)
  | value => .error (noAttribute value "get")

def strip : Json → Except Exn String
  | .str text => .ok (Python.strip text)
  | value => .error (noAttribute value "strip")

/-- What a loop over the value goes through. -/
def items : Json → Except Exn (List Json)
  | .array items => .ok items
  | .object fields => .ok (fields.map fun field => .str field.1)
  | .str text => .ok (text.toList.map fun char => .str (String.singleton char))
  | value => .error ⟨"TypeError", "'" ++ value.typeName ++ "' object is not iterable"⟩

end Json

/-- `int(value)`. -/
def Json.toInt : Json → Except Exn Int
  | .bool value => .ok (if value then 1 else 0)
  | .int value => .ok value
  | .float text (some truncated) _ => .ok truncated
  | .float text none _ => .error ⟨"ValueError", "cannot convert float " ++ text ++ " to integer"⟩
  | .str text =>
      match parseInt text with
      | some value => .ok value
      | none => .error ⟨"ValueError", "invalid literal for int() with base 10: " ++ Python.repr text⟩
  | value => .error
      ⟨"TypeError", "int() argument must be a string, a bytes-like object or a real number, not '" ++
        value.typeName ++ "'"⟩

end Dosm.Python

namespace Dosm.Python.Json

/-! The text of a JSON document.

Everything outside printable ASCII is escaped, so the text is one line whatever is in
the document.
-/

def hexDigits : List Char := "0123456789abcdef".toList

def hexDigit (digit : Nat) : Char := hexDigits.getD (digit % 16) '0'

/-- `\\u` and four digits. -/
def unicodeEscape (code : Nat) : List Char :=
  ['\\', 'u', hexDigit (code / 4096), hexDigit (code / 256), hexDigit (code / 16), hexDigit code]

def Printable (char : Char) : Prop := 32 ≤ char.toNat ∧ char.toNat < 127

instance : DecidablePred Printable := fun char => inferInstanceAs (Decidable (32 ≤ char.toNat ∧ char.toNat < 127))

/-- A character of a string; beyond the first plane it becomes two escapes. -/
def escapeChar (char : Char) : List Char :=
  if char = '"' then ['\\', '"']
  else if char = '\\' then ['\\', '\\']
  else if char = '\n' then ['\\', 'n']
  else if char = '\r' then ['\\', 'r']
  else if char = '\t' then ['\\', 't']
  else if char = '\x0c' then ['\\', 'f']
  else if char = '\x08' then ['\\', 'b']
  else if Printable char then [char]
  else if char.toNat < 0x10000 then unicodeEscape char.toNat
  else
    unicodeEscape (0xD800 + (char.toNat - 0x10000) / 1024) ++ unicodeEscape (0xDC00 + (char.toNat - 0x10000) % 1024)

def quoted (text : String) : List Char := '"' :: text.toList.flatMap escapeChar ++ ['"']

/-- `float.__repr__`, and the names of the values that are no number. -/
def floatText (text : String) : List Char :=
  if text = "nan" then "NaN".toList
  else if text = "inf" then "Infinity".toList
  else if text = "-inf" then "-Infinity".toList
  else text.toList

mutual

def chars : Json → List Char
  | .null => "null".toList
  | .bool value => (if value then "true" else "false").toList
  | .int value => (toString value).toList
  | .float text _ _ => floatText text
  | .str value => quoted value
  | .array items => '[' :: ", ".toList.intercalate (itemChars items) ++ [']']
  | .object fields => '{' :: ", ".toList.intercalate (fieldChars fields) ++ ['}']

def itemChars : List Json → List (List Char)
  | [] => []
  | item :: rest => item.chars :: itemChars rest

def fieldChars : List (String × Json) → List (List Char)
  | [] => []
  | field :: rest => fieldText field :: fieldChars rest

def fieldText : String × Json → List Char
  | (name, value) => quoted name ++ ": ".toList ++ value.chars

end

def dumps (value : Json) : String := String.ofList value.chars

mutual

def floats : Json → List String
  | .float text _ _ => [text]
  | .array items => itemFloats items
  | .object fields => fieldFloats fields
  | _ => []

def itemFloats : List Json → List String
  | [] => []
  | item :: rest => item.floats ++ itemFloats rest

def fieldFloats : List (String × Json) → List String
  | [] => []
  | field :: rest => pairFloats field ++ fieldFloats rest

def pairFloats : String × Json → List String
  | (_, value) => value.floats

end

example : dumps (.object [("tool", .str "a\nb\u2028"), ("args", .array [.int (-2), .bool true, .null])]) =
    "\x7b\"tool\": \"a\\nb\\u2028\", \"args\": [-2, true, null]\x7d" := by decide

theorem printable_hexDigit (digit : Nat) : Printable (hexDigit digit) := by
  have digits : ∀ index : Fin 16, Printable (hexDigits.getD index.val '0') := by decide
  exact digits ⟨digit % 16, Nat.mod_lt _ (by decide)⟩

theorem printable_unicodeEscape (code : Nat) : ∀ char ∈ unicodeEscape code, Printable char := by
  intro char member
  simp only [unicodeEscape, List.mem_cons, List.not_mem_nil, or_false] at member
  rcases member with rfl | rfl | rfl | rfl | rfl | rfl
  · decide
  · decide
  all_goals exact printable_hexDigit _

theorem printable_escapeChar (char : Char) : ∀ shown ∈ escapeChar char, Printable shown := by
  have pair : ∀ second : Char, Printable second → ∀ shown ∈ ['\\', second], Printable shown := by
    intro second printable shown member
    rcases List.mem_cons.mp member with rfl | last
    · decide
    · rw [List.mem_singleton.mp last]
      exact printable
  unfold escapeChar
  repeat' split
  · exact pair _ (by decide)
  · exact pair _ (by decide)
  · exact pair _ (by decide)
  · exact pair _ (by decide)
  · exact pair _ (by decide)
  · exact pair _ (by decide)
  · exact pair _ (by decide)
  next printable =>
    intro shown member
    rw [List.mem_singleton.mp member]
    exact printable
  · exact printable_unicodeEscape _
  · intro shown member
    rcases List.mem_append.mp member with high | low
    · exact printable_unicodeEscape _ shown high
    · exact printable_unicodeEscape _ shown low

theorem printable_quoted (text : String) : ∀ char ∈ quoted text, Printable char := by
  intro char member
  simp only [quoted, List.cons_append, List.mem_cons, List.mem_append, List.mem_flatMap, List.not_mem_nil,
    or_false] at member
  rcases member with rfl | ⟨source, -, inside⟩ | rfl
  · decide
  · exact printable_escapeChar source char inside
  · decide

theorem printable_int (value : Int) : ∀ char ∈ (toString value).toList, Printable char := by
  have natural : ∀ number : Nat, ∀ char ∈ (toString number).toList, Printable char := by
    intro number char member
    rw [Nat.toString_eq_ofList_toDigits, String.toList_ofList] at member
    have digit := Nat.isDigit_of_mem_toDigits (by decide) (by decide) member
    have bounds : 48 ≤ char.toNat ∧ char.toNat ≤ 57 := by
      simpa [Char.isDigit, Char.le_def, UInt32.le_iff_toNat_le] using digit
    exact ⟨by omega, by omega⟩
  cases value with
  | ofNat number => exact natural number
  | negSucc number =>
      have shown : toString (Int.negSucc number) = "-" ++ toString (number + 1) := rfl
      rw [shown, String.toList_append]
      intro char member
      rcases List.mem_append.mp member with sign | digit
      · rw [List.mem_singleton.mp sign]
        decide
      · exact natural _ char digit

theorem printable_join {texts : List (List Char)} (each : ∀ text ∈ texts, ∀ char ∈ text, Printable char) :
    ∀ char ∈ ", ".toList.intercalate texts, Printable char := by
  intro char member
  rcases mem_intercalate member with comma | ⟨text, listed, inside⟩
  · exact List.all_iff_forall_prop.mp (by decide) char comma
  · exact each text listed char inside

/-- A float is shown in printable characters. -/
def FloatsPrintable (texts : List String) : Prop := ∀ text ∈ texts, ∀ char ∈ text.toList, Printable char

theorem printable_floatText {text : String} (plain : ∀ char ∈ text.toList, Printable char) :
    ∀ char ∈ floatText text, Printable char := by
  unfold floatText
  repeat' split
  · exact List.all_iff_forall_prop.mp (by decide)
  · exact List.all_iff_forall_prop.mp (by decide)
  · exact List.all_iff_forall_prop.mp (by decide)
  · exact plain

mutual

theorem printable_chars : ∀ value : Json, FloatsPrintable value.floats → ∀ char ∈ value.chars, Printable char
  | .null, _ => by simp [chars, Printable]
  | .bool value, _ => by cases value <;> simp [chars, Printable]
  | .int value, _ => printable_int value
  | .float text _ _, plain => printable_floatText (plain text List.mem_cons_self)
  | .str value, _ => printable_quoted value
  | .array items, plain => by
      have inside := printable_join (printable_items items plain)
      intro char member
      simp only [chars, List.cons_append, List.mem_cons, List.mem_append, List.not_mem_nil, or_false] at member
      rcases member with rfl | within | rfl
      · decide
      · exact inside char within
      · decide
  | .object fields, plain => by
      have inside := printable_join (printable_fields fields plain)
      intro char member
      simp only [chars, List.cons_append, List.mem_cons, List.mem_append, List.not_mem_nil, or_false] at member
      rcases member with rfl | within | rfl
      · decide
      · exact inside char within
      · decide

theorem printable_items : ∀ items : List Json, FloatsPrintable (itemFloats items) →
    ∀ text ∈ itemChars items, ∀ char ∈ text, Printable char
  | [], _ => by simp [itemChars]
  | item :: rest, plain => by
      have first := printable_chars item fun text listed => plain text (List.mem_append_left _ listed)
      have later := printable_items rest fun text listed => plain text (List.mem_append_right _ listed)
      intro text member
      rcases List.mem_cons.mp member with rfl | listed
      · exact first
      · exact later text listed

theorem printable_fields : ∀ fields : List (String × Json), FloatsPrintable (fieldFloats fields) →
    ∀ text ∈ fieldChars fields, ∀ char ∈ text, Printable char
  | [], _ => by simp [fieldChars]
  | field :: rest, plain => by
      have first := printable_field field fun text listed => plain text (List.mem_append_left _ listed)
      have later := printable_fields rest fun text listed => plain text (List.mem_append_right _ listed)
      intro text member
      rcases List.mem_cons.mp member with rfl | listed
      · exact first
      · exact later text listed

theorem printable_field : ∀ field : String × Json, FloatsPrintable (pairFloats field) →
    ∀ char ∈ fieldText field, Printable char
  | (name, value), plain => by
      have inside := printable_chars value plain
      intro char member
      simp only [fieldText, List.mem_append] at member
      rcases member with (quote | colon) | within
      · exact printable_quoted name char quote
      · exact List.all_iff_forall_prop.mp (by decide) char colon
      · exact inside char within

end

end Dosm.Python.Json
