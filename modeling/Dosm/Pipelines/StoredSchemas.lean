import Dosm.Python.JsonText
import Dosm.Python.Numbers
import Dosm.Base.Checks

namespace Dosm.Pipelines.Inputs

open Python
open Ftp (Digits)

/-! The typed inputs of a pipeline: the stored schema, the run form and the saved values.

A schema is read anew wherever it is used. The form is walked once for each row, and rows of
one name write to one value; the saved values are compared with each of the rows.
-/

/-! The text of a value. -/

mutual

def pyRepr : Json → String
  | .null => "None"
  | .bool value => if value then "True" else "False"
  | .int value => toString value
  | .float text _ _ => text
  | .str text => Python.repr text
  | .array items => "[" ++ ", ".intercalate (itemReprs items) ++ "]"
  | .object fields => "\x7b" ++ ", ".intercalate (fieldReprs fields) ++ "\x7d"

def itemReprs : List Json → List String
  | [] => []
  | item :: rest => pyRepr item :: itemReprs rest

def fieldReprs : List (String × Json) → List String
  | [] => []
  | field :: rest => fieldRepr field :: fieldReprs rest

def fieldRepr : String × Json → String
  | (name, value) => Python.repr name ++ ": " ++ pyRepr value

end

/-- `str` of a value. -/
def pyStr : Json → String
  | .str text => text
  | value => pyRepr value

/-! Reading a schema. -/

inductive TypeName where
  | string
  | boolean
  | choice
  | number
  deriving DecidableEq

def TypeName.text : TypeName → String
  | string => "string"
  | boolean => "boolean"
  | choice => "choice"
  | number => "number"

def supportedTypes : List (String × TypeName) :=
  [("string", .string), ("boolean", .boolean), ("choice", .choice), ("number", .number)]

def normType (t : Json) : Except Exn TypeName := do
  let text ← (t.orElse (.str "string")).strip
  return (supportedTypes.lookup (lower text)).getD .string

def splitOptions (raw : String) : List String :=
  ((split ',' (replaceChar '\n' ',' raw)).map strip).filter (· ≠ "")

/-- What a value of the input is; only a choice has options. -/
inductive InputKind where
  | string
  | boolean
  | choice (options : List String)
  | number
  deriving DecidableEq

def InputKind.typeName : InputKind → TypeName
  | string => .string
  | boolean => .boolean
  | choice _ => .choice
  | number => .number

structure InputRow where
  name : String
  kind : InputKind
  default : Option Json
  required : Bool
  description : Option Json

def field (row : List (String × Json)) (name : String) : Json := (row.lookup name).getD .null

def isEmpty : Json → Bool
  | .null => true
  | .str text => text = ""
  | _ => false

def optionsOf (options : Json) : Except Exn (List String) := do
  let listed : Json := match options.orElse (.array []) with
    | .str raw => .array ((splitOptions raw).map .str)
    | other => other
  return ((← listed.items).map pyStr).filter fun option => strip option ≠ ""

def kindOf (row : List (String × Json)) : TypeName → Except Exn InputKind
  | .string => .ok .string
  | .boolean => .ok .boolean
  | .number => .ok .number
  | .choice => (optionsOf (field row "options")).map .choice

def normalizeRow (row : List (String × Json)) : Except Exn (Option InputRow) := do
  let name ← ((field row "name").orElse (.str "")).strip
  if name = "" then return none
  else
    let t ← normType (field row "type")
    let kind ← kindOf row t
    return some {
      name
      kind
      default := (row.lookup "default").filter fun value => !isEmpty value
      required := (field row "required").truthy
      description := (row.lookup "description").filter Json.truthy }

def normalizeRows : List Json → Except Exn (List InputRow)
  | [] => .ok []
  | .object row :: rest => do
      let first ← normalizeRow row
      return first.toList ++ (← normalizeRows rest)
  | _ :: rest => normalizeRows rest

def normalizeSchema (schema : Json) : Except Exn (List InputRow) := do
  normalizeRows (← (schema.orElse (.array [])).items)

/-- The entry of a key that is only written for some values. -/
def entry (name : String) (value : Option Json) : List (String × Json) := value.toList.map fun value => (name, value)

def InputRow.fields (row : InputRow) : List (String × Json) :=
  ("name", .str row.name) :: ("type", .str row.kind.typeName.text) ::
    entry "options" (match row.kind with
      | .choice options => some (.array (options.map .str))
      | _ => none) ++
    entry "default" row.default ++ entry "required" (if row.required then some (.bool true) else none) ++
    entry "description" row.description

def InputRow.toJson (row : InputRow) : Json := .object row.fields

/-! The run form. -/

inductive FormValue where
  | text (value : String)
  | upload

abbrev Form := String → Option FormValue

def Form.submitted (form : Form) (name : String) : Option FormValue := form ("input__" ++ name)

/-- `bool(raw)`. -/
def checked : Option FormValue → Bool
  | some (.text value) => value ≠ ""
  | some .upload => true
  | none => false

def entered : Option FormValue → String
  | some (.text value) => strip value
  | some .upload | none => ""

section Values

variable (digits : Digits)

/-- `str.isdigit`. -/
def isDigitText (text : String) : Bool := text ≠ "" && text.toList.all digits.isDigit

/-- `int(s) if s.lstrip("-").isdigit() else float(s)`. -/
def numberOf (text : String) : Option Json :=
  if isDigitText digits (lstripChar '-' text) then (intOf digits text).map .int
  else (readFloat digits text).map fun read =>
    .float (floatText read) read.2.truncate.toOption (match read.2 with
      | .finite number => number.value = 0
      | _ => false)

/-- The value that a row takes from the form, if it takes one. -/
def coerceValue (row : InputRow) (raw : Option FormValue) : Except String (Option Json) :=
  match row.kind with
  | .boolean => .ok (some (.bool (checked raw)))
  | kind =>
      let s := entered raw
      if s = "" then
        if row.required then .error (Python.repr row.name ++ " is required") else .ok none
      else
        match kind with
        | .choice options =>
            if options ≠ [] ∧ s ∉ options then
              .error (Python.repr row.name ++ " must be one of " ++ pyRepr (.array (options.map .str)) ++
                " (got " ++ Python.repr s ++ ")")
            else .ok (some (.str s))
        | .number =>
            match numberOf digits s with
            | none => .error (Python.repr row.name ++ " must be a number (got " ++ Python.repr s ++ ")")
            | some number => .ok (some number)
        | _ => .ok (some (.str s))

/-- `out[name] = value`. -/
def assign (out : List (String × Json)) (name : String) (value : Json) : List (String × Json) :=
  if out.any fun entry => entry.1 = name then
    out.map fun entry => if entry.1 = name then (name, value) else entry
  else out ++ [(name, value)]

def coerceRows (form : Form) : List (String × Json) → List InputRow → Except String (List (String × Json))
  | out, [] => .ok out
  | out, row :: rest => do
      match ← coerceValue digits row (form.submitted row.name) with
      | none => coerceRows form out rest
      | some value => coerceRows form (assign out row.name value) rest

/-- How a run form is refused: by a message, or with an exception where the schema cannot be read. -/
inductive Refused where
  | invalid (message : String)
  | raised (exn : Exn)

def coerceRunInputs (schema : Json) (form : Form) : Except Refused (List (String × Json)) :=
  match normalizeSchema schema with
  | .error exn => .error (.raised exn)
  | .ok rows => (coerceRows digits form [] rows).mapError .invalid

/-! The saved values. -/

def isNumeric : Json → Bool
  | .int _ | .float .. => true
  | value => (floatOf digits (pyStr value)).isSome

def rowProblem (values : List (String × Json)) (row : InputRow) : Option String :=
  match (values.lookup row.name).filter fun value => !isEmpty value with
  | none => if row.required then some ("missing required input " ++ Python.repr row.name) else none
  | some value =>
      match row.kind with
      | .choice options =>
          if options ≠ [] ∧ pyStr value ∉ options then
            some (Python.repr row.name ++ "=" ++ pyRepr value ++ " is not one of " ++ pyRepr (.array (options.map .str)))
          else none
      | .number => if isNumeric digits value then none else some (Python.repr row.name ++ "=" ++ pyRepr value ++ " is not a number")
      | _ => none

def validatePayloadValues (schema : Json) (values : List (String × Json)) : Except Exn (List String) := do
  let rows ← normalizeSchema schema
  return rows.filterMap (rowProblem digits values) ++ values.filterMap fun entry : String × Json =>
    if entry.1 ≠ "__raw__" ∧ entry.1 ∉ rows.map InputRow.name then
      some ("input " ++ Python.repr entry.1 ++ " is no longer in the pipeline schema")
    else none

end Values

end Dosm.Pipelines.Inputs

namespace Dosm.Pipelines.Inputs

open Python

/-! Which stored schemas can be read.

The agent stores whatever JSON value the model has written, unless it is empty. A value that
can be read gives rows of one form, and these give themselves when they are read again.
-/

/-- The schema that an argument makes: what is no text, or no JSON, is no schema, and an empty one is not kept. -/
def decodeInputs (loads : String → Option Json) : Value → Option Json
  | .str raw => if raw = "" then none else (loads raw).filter Json.truthy
  | _ => none

/-- `create_pipeline`. -/
def createSchema (loads : String → Option Json) (args : Args) : Option Json := decodeInputs loads (args.get "inputs_schema")

/-- `update_pipeline`, which keeps the stored schema when none is given. -/
def updateSchema (loads : String → Option Json) (stored : Option Json) (args : Args) : Option Json :=
  match args.get "inputs_schema" with
  | .none => stored.filter Json.truthy
  | given => decodeInputs loads given

def Stores (loads : String → Option Json) (value : Json) : Prop :=
  (∃ args, createSchema loads args = some value) ∨ ∃ stored args, updateSchema loads stored args = some value

/-- A row as the pages rely on it. -/
structure Proper (row : InputRow) : Prop where
  named : strip row.name ≠ ""
  typed : (supportedTypes.lookup row.kind.typeName.text).isSome = true
  options : ∀ options, row.kind = .choice options → ∀ option ∈ options, strip option ≠ ""

/-- The stored text is read without an exception, into proper rows that give themselves when read again. -/
def Safe (loads : String → Option Json) (text : String) : Prop :=
  ∃ schema rows, loads text = some schema ∧ normalizeSchema schema = .ok rows ∧ (∀ row ∈ rows, Proper row) ∧
    normalizeSchema (.array (rows.map InputRow.toJson)) = .ok rows

def isText : Json → Bool
  | .str _ => true
  | _ => false

def isIterable : Json → Bool
  | .str _ | .array _ | .object _ => true
  | _ => false

/-- A name is a text if it is anything; a row with a name has a type that is a text if it is anything, and the
options of a choice can be gone through. -/
structure RowReadable (row : List (String × Json)) : Prop where
  name : (field row "name").truthy = true → isText (field row "name") = true
  type : ∀ name, field row "name" = .str name → strip name ≠ "" →
    (field row "type").truthy = true → isText (field row "type") = true
  options : ∀ name, field row "name" = .str name → strip name ≠ "" → normType (field row "type") = .ok .choice →
    (field row "options").truthy = true → isIterable (field row "options") = true

structure Readable (schema : Json) : Prop where
  iterable : isIterable schema = true
  rows : ∀ items, schema = .array items → ∀ row, .object row ∈ items → RowReadable row

section Reading

variable {row : List (String × Json)} {value : Json} {normal : InputRow} {name : String}

theorem strip_orElse {default : String} : (∃ text, (value.orElse (.str default)).strip = .ok text) ↔
    (value.truthy = true → isText value = true) := by
  by_cases truthy : value.truthy = true
  · cases value <;> simp_all [Json.orElse, Json.strip, isText]
  · simp [Json.orElse, truthy, Json.strip]

theorem optionsOf_ok : (∃ options, optionsOf value = .ok options) ↔ (value.truthy = true → isIterable value = true) := by
  by_cases truthy : value.truthy = true
  · cases value with
    | null => cases truthy
    | bool | int | float => simp_all [optionsOf, Json.orElse, Json.items, isIterable, bind, Except.bind]
    | str | array | object => simp_all [optionsOf, Json.orElse, Json.items, isIterable, bind, Except.bind, pure, Except.pure]
  · simp [optionsOf, Json.orElse, truthy, Json.items, bind, Except.bind, pure, Except.pure]

theorem kindOf_ok : ∀ t, (∃ kind, kindOf row t = .ok kind) ↔
    (t = .choice → (field row "options").truthy = true → isIterable (field row "options") = true)
  | .string | .boolean | .number => by simp [kindOf]
  | .choice => by
      rw [← optionsOf_ok]
      cases read : optionsOf (field row "options") <;> simp [kindOf, read, Except.map]

theorem normalizeRow_unnamed (read : ((field row "name").orElse (.str "")).strip = .ok "") : normalizeRow row = .ok none := by
  simp [normalizeRow, read, bind, Except.bind, pure, Except.pure]

theorem normalizeRow_named {t : TypeName} {kind : InputKind}
    (read : ((field row "name").orElse (.str "")).strip = .ok name) (named : name ≠ "")
    (typed : normType (field row "type") = .ok t) (kinded : kindOf row t = .ok kind) :
    normalizeRow row = .ok (some {
      name
      kind
      default := (row.lookup "default").filter fun value => !isEmpty value
      required := (field row "required").truthy
      description := (row.lookup "description").filter Json.truthy }) := by
  simp [normalizeRow, read, named, typed, kinded, bind, Except.bind, pure, Except.pure]

theorem normType_ok : (∃ t, normType value = .ok t) ↔ (value.truthy = true → isText value = true) := by
  rw [← @strip_orElse value "string", normType]
  cases (value.orElse (.str "string")).strip <;> simp [bind, Except.bind, pure, Except.pure]

theorem strip_named (read : ((field row "name").orElse (.str "")).strip = .ok name) (named : name ≠ "") :
    ∃ raw, field row "name" = .str raw ∧ strip raw = name := by
  have empty : strip "" = "" := by decide
  by_cases truthy : (field row "name").truthy = true
  · rw [Json.orElse, if_pos truthy] at read
    cases found : field row "name" with
    | str raw =>
        rw [found] at read
        cases read
        exact ⟨raw, rfl, rfl⟩
    | null | bool | int | float | array | object =>
        rw [found] at read
        cases read
  · rw [Json.orElse, if_neg truthy, Json.strip, empty] at read
    cases read
    exact absurd rfl named

theorem strip_of_named {raw : String} (found : field row "name" = .str raw) (named : strip raw ≠ "") :
    ((field row "name").orElse (.str "")).strip = .ok (strip raw) := by
  have nonempty : raw ≠ "" := by
    rintro rfl
    exact named (by decide)
  have truthy : (field row "name").truthy = true := by simp [found, Json.truthy, nonempty]
  rw [Json.orElse, if_pos truthy, found]
  rfl

theorem normalizeRow_ok : (∃ normal, normalizeRow row = .ok normal) ↔ RowReadable row := by
  constructor
  · rintro ⟨normal, read⟩
    obtain ⟨name, stripped, rest⟩ := Checks.bind_ok read
    have steps : ∀ raw, field row "name" = .str raw → strip raw ≠ "" → ∃ t, normType (field row "type") = .ok t ∧
        ∃ kind, kindOf row t = .ok kind := by
      intro raw found named
      have same := stripped.symm.trans (strip_of_named found named)
      rw [if_neg (Except.ok.inj same ▸ named)] at rest
      obtain ⟨t, typed, rest⟩ := Checks.bind_ok rest
      obtain ⟨kind, kinded, -⟩ := Checks.bind_ok rest
      exact ⟨t, typed, kind, kinded⟩
    refine ⟨strip_orElse.mp ⟨name, stripped⟩, fun raw found named => ?_, fun raw found named choice => ?_⟩
    · obtain ⟨t, typed, -⟩ := steps raw found named
      exact normType_ok.mp ⟨t, typed⟩
    · obtain ⟨t, typed, kinded⟩ := steps raw found named
      exact (kindOf_ok t).mp kinded (Except.ok.inj (typed.symm.trans choice))
  · intro readable
    obtain ⟨name, read⟩ := strip_orElse.mpr readable.name
    by_cases named : name = ""
    · rw [named] at read
      exact ⟨none, normalizeRow_unnamed read⟩
    · obtain ⟨raw, found, same⟩ := strip_named read named
      have named' : strip raw ≠ "" := same.symm ▸ named
      obtain ⟨t, typed⟩ := normType_ok.mpr (readable.type raw found named')
      have iterable := readable.options raw found named'
      rw [typed] at iterable
      obtain ⟨kind, kinded⟩ := (kindOf_ok t).mpr fun choice => iterable (congrArg _ choice)
      exact ⟨_, normalizeRow_named read named typed kinded⟩

theorem normalizeRows_ok {items : List Json} :
    (∃ rows, normalizeRows items = .ok rows) ↔ ∀ row, .object row ∈ items → RowReadable row := by
  induction items with
  | nil => simp [normalizeRows]
  | cons item rest ih =>
      cases item with
      | object row =>
          simp only [normalizeRows, List.mem_cons, Json.object.injEq, forall_eq_or_imp]
          rw [← ih, ← normalizeRow_ok]
          cases first : normalizeRow row <;> cases later : normalizeRows rest <;>
            simp [bind, Except.bind, pure, Except.pure]
      | null | bool | int | float | str | array => simp [normalizeRows, ih]

theorem normalizeSchema_ok {schema : Json} (truthy : schema.truthy = true) :
    (∃ rows, normalizeSchema schema = .ok rows) ↔ Readable schema := by
  have loop : normalizeSchema schema = schema.items >>= normalizeRows := by
    rw [normalizeSchema, Json.orElse, if_pos truthy]
  rw [loop]
  cases schema with
  | null => cases truthy
  | bool | int | float =>
      refine iff_of_false ?_ fun readable => Bool.noConfusion readable.iterable
      rintro ⟨rows, read⟩
      cases read
  | str text =>
      refine iff_of_true (normalizeRows_ok.mpr fun row member => ?_) ⟨rfl, nofun⟩
      obtain ⟨char, -, same⟩ := List.mem_map.mp member
      cases same
  | object fields =>
      refine iff_of_true (normalizeRows_ok.mpr fun row member => ?_) ⟨rfl, nofun⟩
      obtain ⟨field, -, same⟩ := List.mem_map.mp member
      cases same
  | array items =>
      refine Iff.trans (@normalizeRows_ok items) ⟨fun rows => ⟨rfl, ?_⟩, fun readable => readable.rows items rfl⟩
      rintro _ ⟨⟩
      exact rows

end Reading

structure Normal (row : InputRow) : Prop where
  named : row.name ≠ ""
  stripped : strip row.name = row.name
  options : ∀ options, row.kind = .choice options → ∀ option ∈ options, strip option ≠ ""
  default : ∀ value, row.default = some value → isEmpty value = false
  description : ∀ value, row.description = some value → value.truthy = true

section Rereading

variable {row : List (String × Json)} {normal : InputRow} {name key : String} {value : Option Json} {options : List String}

theorem optionsOf_nonblank {listed : Json} (read : optionsOf listed = .ok options) : ∀ option ∈ options, strip option ≠ "" := by
  unfold optionsOf at read
  obtain ⟨items, -, kept⟩ := Checks.bind_ok read
  cases kept
  intro option member
  exact of_decide_eq_true (List.mem_filter.mp member).2

theorem normalizeRow_normal (read : normalizeRow row = .ok (some normal)) : Normal normal := by
  obtain ⟨name, stripped, rest⟩ := Checks.bind_ok read
  split at rest
  · cases rest
  next named =>
    obtain ⟨t, -, rest⟩ := Checks.bind_ok rest
    obtain ⟨kind, kinded, rest⟩ := Checks.bind_ok rest
    cases rest
    obtain ⟨raw, -, same⟩ := strip_named stripped named
    refine ⟨named, ?_, ?_, ?_, ?_⟩
    · rw [← same, strip_strip]
    · rintro options rfl
      cases t with
      | choice =>
          obtain ⟨listed, read, same⟩ : ∃ listed, optionsOf (field row "options") = .ok listed ∧
              InputKind.choice listed = .choice options := by
            cases read : optionsOf (field row "options") with
            | error => rw [kindOf, read] at kinded; cases kinded
            | ok listed =>
                rw [kindOf, read] at kinded
                exact ⟨listed, rfl, Except.ok.inj kinded⟩
          cases same
          exact optionsOf_nonblank read
      | string | boolean | number => cases kinded
    · intro value found
      simpa using (Option.filter_eq_some_iff.mp found).2
    · intro value found
      exact (Option.filter_eq_some_iff.mp found).2

@[simp] theorem lookup_entry : (entry key value).lookup name = if name = key then value else none := by
  cases value with
  | none => simp [entry]
  | some value =>
      by_cases same : name = key
      · simp [entry, same]
      · simp [entry, List.lookup_cons, same, beq_eq_false_iff_ne.mpr same]

theorem field_name : field normal.fields "name" = .str normal.name := rfl

theorem lookup_options (choice : normal.kind = .choice options) :
    normal.fields.lookup "options" = some (.array (options.map .str)) := by
  simp [InputRow.fields, List.lookup_cons, List.lookup_append, choice]

theorem lookup_default : normal.fields.lookup "default" = normal.default := by
  simp [InputRow.fields, List.lookup_cons, List.lookup_append]

theorem field_required : (field normal.fields "required").truthy = normal.required := by
  cases required : normal.required <;> simp [field, InputRow.fields, List.lookup_cons, List.lookup_append, required, Json.truthy]

theorem lookup_description : normal.fields.lookup "description" = normal.description := by
  simp [InputRow.fields, List.lookup_cons, List.lookup_append]

theorem normType_text (t : TypeName) : normType (.str t.text) = .ok t := by
  cases t <;> rfl

theorem optionsOf_texts (nonblank : ∀ option ∈ options, strip option ≠ "") :
    optionsOf (.array (options.map .str)) = .ok options := by
  have listed : (Json.array (options.map .str)).orElse (.array []) = .array (options.map .str) := by
    cases options <;> rfl
  have texts : (options.map Json.str).map pyStr = options := by
    rw [List.map_map]
    exact List.map_id options
  unfold optionsOf
  rw [listed]
  change Except.ok (((options.map Json.str).map pyStr).filter fun option => strip option ≠ "") = _
  rw [texts, List.filter_eq_self.mpr]
  exact fun option member => decide_eq_true (nonblank option member)

theorem kindOf_fields (nonblank : ∀ options, normal.kind = .choice options → ∀ option ∈ options, strip option ≠ "") :
    kindOf normal.fields normal.kind.typeName = .ok normal.kind := by
  cases kind : normal.kind with
  | choice options =>
      rw [InputKind.typeName, kindOf, field, lookup_options kind, Option.getD_some, optionsOf_texts (nonblank options kind)]
      rfl
  | string | boolean | number => rfl

theorem normalizeRow_fields (settled : Normal normal) : normalizeRow normal.fields = .ok (some normal) := by
  have read : ((field normal.fields "name").orElse (.str "")).strip = .ok normal.name := by
    have named := @strip_of_named normal.fields normal.name field_name (by rw [settled.stripped]; exact settled.named)
    rwa [settled.stripped] at named
  have typed : normType (field normal.fields "type") = .ok normal.kind.typeName := normType_text _
  rw [normalizeRow_named read settled.named typed (kindOf_fields settled.options), lookup_default, field_required,
    lookup_description]
  have default : (normal.default.filter fun value => !isEmpty value) = normal.default := by
    cases found : normal.default with
    | none => rfl
    | some value => rw [Option.filter_some, if_pos (by rw [settled.default value found]; rfl)]
  have description : normal.description.filter Json.truthy = normal.description := by
    cases found : normal.description with
    | none => rfl
    | some value => rw [Option.filter_some, if_pos (settled.description value found)]
  rw [default, description]

theorem normalizeRows_normal {items : List Json} {rows : List InputRow} (read : normalizeRows items = .ok rows) :
    ∀ row ∈ rows, Normal row := by
  induction items generalizing rows with
  | nil =>
      cases read
      exact nofun
  | cons item rest ih =>
      cases item with
      | object row =>
          obtain ⟨first, readFirst, read⟩ := Checks.bind_ok read
          obtain ⟨later, readLater, read⟩ := Checks.bind_ok read
          cases read
          intro normal member
          rcases List.mem_append.mp member with now | after
          · rw [Option.mem_toList.mp now] at readFirst
            exact normalizeRow_normal readFirst
          · exact ih readLater normal after
      | null | bool | int | float | str | array => exact ih read

theorem normalizeRows_toJson {rows : List InputRow} (settled : ∀ row ∈ rows, Normal row) :
    normalizeRows (rows.map InputRow.toJson) = .ok rows := by
  induction rows with
  | nil => rfl
  | cons row rest ih =>
      rw [List.map_cons, InputRow.toJson, normalizeRows, normalizeRow_fields (settled row List.mem_cons_self),
        ih fun other member => settled other (List.mem_cons_of_mem _ member)]
      rfl

theorem normalizeSchema_normal {schema : Json} {rows : List InputRow} (read : normalizeSchema schema = .ok rows) :
    ∀ row ∈ rows, Normal row := by
  obtain ⟨items, -, read⟩ := Checks.bind_ok read
  exact normalizeRows_normal read

theorem normalizeSchema_toJson {rows : List InputRow} (settled : ∀ row ∈ rows, Normal row) :
    normalizeSchema (.array (rows.map InputRow.toJson)) = .ok rows := by
  have listed : (Json.array (rows.map InputRow.toJson)).orElse (.array []) = .array (rows.map InputRow.toJson) := by
    cases rows <;> rfl
  rw [normalizeSchema, listed]
  exact normalizeRows_toJson settled

theorem Normal.proper (settled : Normal normal) : Proper normal where
  named := by
    rw [settled.stripped]
    exact settled.named
  typed := by cases normal.kind <;> rfl
  options := settled.options

theorem Stores.truthy {loads : String → Option Json} {schema : Json} (stores : Stores loads schema) :
    schema.truthy = true := by
  have decoded : ∀ raw, decodeInputs loads raw = some schema → schema.truthy = true := by
    intro raw accepted
    unfold decodeInputs at accepted
    split at accepted
    · split at accepted
      · cases accepted
      · exact (Option.filter_eq_some_iff.mp accepted).2
    · cases accepted
  rcases stores with ⟨args, created⟩ | ⟨stored, args, updated⟩
  · exact decoded _ created
  · unfold updateSchema at updated
    split at updated
    · exact (Option.filter_eq_some_iff.mp updated).2
    · exact decoded _ updated

end Rereading

/-- A stored schema is safe if and only if it can be gone through and its rows can be read. -/
theorem stored_schema_safe_iff (loads : String → Option Json) (schema : Json) (stores : Stores loads schema)
    (readsBack : loads schema.dumps = some schema) : Safe loads schema.dumps ↔ Readable schema := by
  rw [← normalizeSchema_ok stores.truthy]
  constructor
  · rintro ⟨read, rows, same, normal, -⟩
    cases readsBack.symm.trans same
    exact ⟨rows, normal⟩
  · rintro ⟨rows, normal⟩
    have settled := normalizeSchema_normal normal
    exact ⟨schema, rows, readsBack, normal, fun row member => (settled row member).proper, normalizeSchema_toJson settled⟩

/-- A decoder that knows one document by its text. -/
def knows (schema : Json) (text : String) : Option Json := if text = schema.dumps then some schema else none

theorem knows_dumps (schema : Json) : knows schema schema.dumps = some schema := if_pos rfl

theorem dumps_nonempty {schema : Json} (written : schema.chars ≠ []) : schema.dumps ≠ "" := by
  intro empty
  exact written (String.ofList_eq_empty_iff.mp empty)

theorem stores_known {schema : Json} (written : schema.chars ≠ []) (truthy : schema.truthy = true) :
    Stores (knows schema) schema := by
  refine .inl ⟨[("inputs_schema", .str schema.dumps)], ?_⟩
  have argument : Args.get [("inputs_schema", .str schema.dumps)] "inputs_schema" = .str schema.dumps := rfl
  rw [createSchema, argument, decodeInputs, if_neg (dumps_nonempty written), knows_dumps, Option.filter_some, if_pos truthy]

def environmentRow : List (String × Json) :=
  [("name", .str " env "), ("type", .str "Choice"), ("options", .array [.str "staging", .str "prod", .int 7]),
    ("required", .int 1)]

theorem environment_schema_safe : Safe (knows (.array [.object environmentRow])) (Json.array [.object environmentRow]).dumps := by
  refine (stored_schema_safe_iff _ _ (stores_known (by decide) rfl) (knows_dumps _)).mpr ⟨rfl, ?_⟩
  rintro items ⟨⟩ row member
  rw [List.mem_singleton, Json.object.injEq] at member
  subst member
  exact ⟨fun _ => rfl, fun _ _ _ _ => rfl, fun _ _ _ _ _ => rfl⟩

/-- The document is stored and cannot be read. -/
def Breaks (schema : Json) : Prop :=
  Stores (knows schema) schema ∧ knows schema schema.dumps = some schema ∧ ¬ Safe (knows schema) schema.dumps

theorem breaks_of_raises {schema : Json} {exn : Exn} (written : schema.chars ≠ []) (truthy : schema.truthy = true)
    (raises : normalizeSchema schema = .error exn) : Breaks schema := by
  refine ⟨stores_known written truthy, knows_dumps schema, ?_⟩
  rintro ⟨read, rows, same, normal, -⟩
  cases (knows_dumps schema).symm.trans same
  cases raises.symm.trans normal

/-- A number, a number as a name or a type, and a number as the options of a choice. -/
theorem numbers_break_schema : Breaks (.int 3) ∧ Breaks (.array [.object [("name", .int 5)]]) ∧
    Breaks (.array [.object [("name", .str "env"), ("type", .int 5)]]) ∧
      Breaks (.array [.object [("name", .str "env"), ("type", .str "choice"), ("options", .int 2)]]) :=
  ⟨breaks_of_raises (by decide) rfl rfl, breaks_of_raises (by decide) rfl rfl, breaks_of_raises (by decide) rfl rfl,
    breaks_of_raises (by decide) rfl rfl⟩

end Dosm.Pipelines.Inputs
