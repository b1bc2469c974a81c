import Dosm.Pipelines.StoredSchemas

namespace Dosm.Pipelines.Inputs

open Python
open Ftp (Digits)

/-! When the values of a run form fit the schema they were made for.

Each row takes the value of its input from the form by itself, and the last one wins; the
rows of that name then all look at what the last one has made of it.
-/

/-- A row takes a value: a boolean always, another one from a text that is not blank. -/
def takes (form : Form) (row : InputRow) : Bool := row.kind = .boolean || entered (form.submitted row.name) ≠ ""

/-- The last row of the name that takes a value. -/
def decider (form : Form) (rows : List InputRow) (name : String) : Option InputRow :=
  rows.reverse.find? fun row => row.name = name && takes form row

/-- The value of one row as another row of its name sees it: no boolean is a number, and a choice with options has
the text of the boolean or the number among them. -/
def Suits (digits : Digits) (raw : Option FormValue) (kind last : InputKind) : Prop :=
  match kind, last with
  | .number, .boolean => False
  | .choice options, .boolean => options = [] ∨ pyStr (.bool (checked raw)) ∈ options
  | .choice options, .number => options = [] ∨ ∃ number, numberOf digits (entered raw) = some number ∧ pyStr number ∈ options
  | _, _ => True

def Makes (digits : Digits) (raw : Option FormValue) (kind : InputKind) (value : Json) : Prop :=
  match kind with
  | .boolean => value = .bool (checked raw)
  | .string => value = .str (entered raw)
  | .choice options => value = .str (entered raw) ∧ (options = [] ∨ entered raw ∈ options)
  | .number => numberOf digits (entered raw) = some value

/-- The rows of one name suit each other. -/
def Consistent (digits : Digits) (form : Form) (rows : List InputRow) : Prop :=
  ∀ row ∈ rows, ∀ last, decider form rows row.name = some last →
    Suits digits (form.submitted row.name) row.kind last.kind

section Numbers

variable {digits : Digits} {text : String} {value : Json}

theorem floatOf_of_intOf {number : Int} (read : intOf digits text = some number) : (floatOf digits text).isSome = true := by
  unfold intOf at read
  dsimp only at read
  split at read
  · cases read
  next whole =>
    simp only [not_or, not_not] at whole
    have run : digitRun digits false (signed (trimNumber text)).2 = ((digitRun digits false (signed (trimNumber text)).2).1, []) :=
      Prod.ext rfl whole.2.1
    rw [floatOf, Option.isSome_map, readFloat, Option.isSome_map, magnitudeOf]
    split
    · rfl
    split
    · rfl
    rw [run]
    simp [fractionOf, whole.1, exponentOf]

theorem floatOf_of_numberOf (read : numberOf digits text = some value) : (floatOf digits text).isSome = true := by
  unfold numberOf at read
  split at read
  · obtain ⟨number, taken, -⟩ := Option.map_eq_some_iff.mp read
    exact floatOf_of_intOf taken
  · obtain ⟨number, taken, -⟩ := Option.map_eq_some_iff.mp read
    rw [floatOf, taken]
    rfl

theorem isNumeric_of_numberOf (read : numberOf digits text = some value) : isNumeric digits value = true ∧ isEmpty value = false := by
  unfold numberOf at read
  split at read
  · obtain ⟨number, -, rfl⟩ := Option.map_eq_some_iff.mp read
    exact ⟨rfl, rfl⟩
  · obtain ⟨number, -, rfl⟩ := Option.map_eq_some_iff.mp read
    exact ⟨rfl, rfl⟩

theorem isNumeric_bool {flag : Bool} : isNumeric digits (.bool flag) = false := by
  have letters : digits.decimal 'T' = none ∧ digits.decimal 'F' = none :=
    ⟨(digits.ascii 'T' (by decide)).1, (digits.ascii 'F' (by decide)).1⟩
  cases flag with
  | false =>
      have shown : isNumeric digits (.bool false) = (floatOf digits "False").isSome := rfl
      have trimmed : trimNumber "False" = "False".toList := by decide
      rw [shown, floatOf, Option.isSome_map, readFloat, trimmed]
      simp [signed, magnitudeOf, digitRun, letters.2, fractionOf]
  | true =>
      have shown : isNumeric digits (.bool true) = (floatOf digits "True").isSome := rfl
      have trimmed : trimNumber "True" = "True".toList := by decide
      rw [shown, floatOf, Option.isSome_map, readFloat, trimmed]
      simp [signed, magnitudeOf, digitRun, letters.1, fractionOf]

end Numbers

section Walks

variable {digits : Digits} {form : Form} {row last : InputRow} {rows : List InputRow} {name : String} {value : Json}
  {out values : List (String × Json)} {taken : Option Json}

/-- Where no value is taken none is required; a value that is taken is of the kind of its row. -/
theorem coerceValue_ok (coerced : coerceValue digits row (form.submitted row.name) = .ok taken) :
    (taken = none ∧ takes form row = false ∧ row.required = false) ∨
      ∃ value, taken = some value ∧ takes form row = true ∧ Makes digits (form.submitted row.name) row.kind value := by
  by_cases boolean : row.kind = .boolean
  · simp only [coerceValue, boolean] at coerced
    cases coerced
    exact .inr ⟨_, rfl, by simp [takes, boolean], by rw [boolean]; rfl⟩
  by_cases blank : entered (form.submitted row.name) = ""
  · left
    have untaken : takes form row = false := by simp [takes, boolean, blank]
    cases required : row.required with
    | false =>
        cases kind : row.kind <;> simp_all [coerceValue]
    | true =>
        cases kind : row.kind <;> simp_all [coerceValue]
  · right
    have takes : takes form row = true := by simp [takes, blank]
    cases kind : row.kind with
    | boolean => exact absurd kind boolean
    | string =>
        simp only [coerceValue, kind, if_neg blank] at coerced
        cases coerced
        exact ⟨_, rfl, takes, rfl⟩
    | choice options =>
        simp only [coerceValue, kind, if_neg blank] at coerced
        split at coerced
        · cases coerced
        next listed =>
          cases coerced
          refine ⟨_, rfl, takes, rfl, ?_⟩
          by_cases none : options = []
          · exact .inl none
          · exact .inr (not_not.mp fun missing => listed ⟨none, missing⟩)
    | number =>
        simp only [coerceValue, kind, if_neg blank] at coerced
        cases read : numberOf digits (entered (form.submitted row.name)) with
        | none =>
            rw [read] at coerced
            cases coerced
        | some number =>
            rw [read] at coerced
            cases coerced
            exact ⟨_, rfl, takes, read⟩

theorem lookup_replaced {key : String} {entries : List (String × Json)} :
    (entries.map fun entry => if entry.1 = key then (key, value) else entry).lookup name =
      if name = key then (entries.lookup name).map fun _ => value else entries.lookup name := by
  induction entries with
  | nil => simp
  | cons entry rest ih =>
      obtain ⟨first, held⟩ := entry
      rw [List.map_cons]
      by_cases same : first = key
      · subst same
        by_cases wanted : name = first
        · simp [wanted]
        · simp [List.lookup_cons, wanted, ih, beq_eq_false_iff_ne.mpr wanted]
      · by_cases wanted : name = first
        · subst wanted
          simp [same]
        · simp [List.lookup_cons, same, ih, beq_eq_false_iff_ne.mpr wanted]

theorem any_eq_isSome {key : String} : (out.any fun entry => entry.1 = key) = (out.lookup key).isSome := by
  induction out with
  | nil => rfl
  | cons entry rest ih =>
      obtain ⟨first, held⟩ := entry
      rw [List.any_cons, ih, List.lookup_cons]
      by_cases same : key = first
      · simp [same]
      · simp [beq_eq_false_iff_ne.mpr same, Ne.symm same]

theorem lookup_assign {key : String} :
    (assign out key value).lookup name = if name = key then some value else out.lookup name := by
  unfold assign
  rw [any_eq_isSome]
  split
  next there =>
    obtain ⟨held, found⟩ := Option.isSome_iff_exists.mp there
    rw [lookup_replaced]
    split
    next same => rw [same, found, Option.map_some]
    next => rfl
  next absent =>
    rw [List.lookup_append]
    by_cases same : name = key
    · rw [same, Option.not_isSome_iff_eq_none.mp absent, if_pos rfl]
      simp
    · simp [List.lookup_cons, same, beq_eq_false_iff_ne.mpr same]

theorem decider_cons : decider form (row :: rows) name =
    (decider form rows name).or (if row.name = name ∧ takes form row = true then some row else none) := by
  rw [decider, List.reverse_cons, List.find?_append, decider]
  congr 1
  by_cases same : row.name = name <;> cases took : takes form row <;> simp [same, took]

theorem decider_some (decides : decider form rows name = some last) :
    last ∈ rows ∧ last.name = name ∧ takes form last = true := by
  have found := List.find?_some decides
  rw [Bool.and_eq_true, decide_eq_true_eq] at found
  exact ⟨List.mem_reverse.mp (List.mem_of_find?_eq_some decides), found⟩

theorem coerceRows_ok (coerced : coerceRows digits form out rows = .ok values) :
    (∀ row ∈ rows, ∃ taken, coerceValue digits row (form.submitted row.name) = .ok taken) ∧
      ∀ name, values.lookup name = match decider form rows name with
        | some last => (coerceValue digits last (form.submitted last.name)).toOption.join
        | none => out.lookup name := by
  induction rows generalizing out with
  | nil =>
      cases coerced
      exact ⟨nofun, fun name => rfl⟩
  | cons row rest ih =>
      obtain ⟨taken, first, later⟩ := Checks.bind_ok coerced
      have step : ∃ next, coerceRows digits form next rest = .ok values ∧ ∀ name, next.lookup name =
          if name = row.name ∧ takes form row = true then taken else out.lookup name := by
        rcases coerceValue_ok first with ⟨rfl, untaken, -⟩ | ⟨value, rfl, took, -⟩
        · exact ⟨out, later, fun name => by simp [untaken]⟩
        · exact ⟨_, later, fun name => by rw [lookup_assign]; simp [took]⟩
      obtain ⟨next, later, written⟩ := step
      obtain ⟨returned, looked⟩ := ih later
      refine ⟨?_, fun name => ?_⟩
      · rintro other (_ | ⟨_, member⟩)
        · exact ⟨taken, first⟩
        · exact returned other member
      · rw [looked, decider_cons]
        cases decides : decider form rest name with
        | some last => rfl
        | none =>
            dsimp only [Option.none_or]
            rw [written]
            by_cases own : row.name = name ∧ takes form row = true
            · rw [if_pos own, if_pos ⟨own.1.symm, own.2⟩]
              simp [first, Except.toOption]
            · rw [if_neg own, if_neg fun other => own ⟨other.1.symm, other.2⟩]

theorem names_of_assign {key : String} {pair : String × Json} (member : pair ∈ assign out key value) :
    pair.1 = key ∨ pair ∈ out := by
  unfold assign at member
  split at member
  · obtain ⟨entry, listed, rfl⟩ := List.mem_map.mp member
    split
    · exact .inl rfl
    · exact .inr listed
  · rcases List.mem_append.mp member with before | now
    · exact .inr before
    · rw [List.mem_singleton.mp now]
      exact .inl rfl

theorem coerceRows_names (coerced : coerceRows digits form out rows = .ok values) :
    ∀ pair ∈ values, pair.1 ∈ rows.map InputRow.name ∨ pair ∈ out := by
  induction rows generalizing out with
  | nil =>
      cases coerced
      exact fun pair member => .inr member
  | cons row rest ih =>
      obtain ⟨taken, -, later⟩ := Checks.bind_ok coerced
      intro pair member
      cases taken with
      | none => exact (ih later pair member).imp_left (List.mem_cons_of_mem _)
      | some value =>
          rcases ih later pair member with known | written
          · exact .inl (List.mem_cons_of_mem _ known)
          · rcases names_of_assign written with own | before
            · exact .inl (own ▸ List.mem_cons_self)
            · exact .inr before

theorem rowProblem_present (found : values.lookup row.name = some value) (present : isEmpty value = false) :
    rowProblem digits values row = none ↔ match row.kind with
      | .choice options => options = [] ∨ pyStr value ∈ options
      | .number => isNumeric digits value = true
      | _ => True := by
  have kept : ((values.lookup row.name).filter fun value => !isEmpty value) = some value := by
    rw [found, Option.filter_some, if_pos (by rw [present]; rfl)]
  rw [rowProblem, kept]
  cases row.kind with
  | string | boolean => simp
  | choice options =>
      by_cases listed : options = [] ∨ pyStr value ∈ options
      · simp only [listed, ite_eq_right_iff, reduceCtorEq, imp_false, not_and_or, not_not]
      · rw [not_or] at listed
        simp [listed]
  | number => simp

theorem makes_of_filled (coerced : coerceValue digits row (form.submitted row.name) = .ok taken)
    (filled : entered (form.submitted row.name) ≠ "") : ∃ value, Makes digits (form.submitted row.name) row.kind value := by
  rcases coerceValue_ok coerced with ⟨-, untaken, -⟩ | ⟨value, -, -, made⟩
  · simp [takes, filled] at untaken
  · exact ⟨value, made⟩

theorem rowProblem_iff (coerced : coerceValue digits row (form.submitted row.name) = .ok taken)
    (decides : decider form rows row.name = some last) (made : Makes digits (form.submitted row.name) last.kind value)
    (found : values.lookup row.name = some value) :
    rowProblem digits values row = none ↔ Suits digits (form.submitted row.name) row.kind last.kind := by
  obtain ⟨-, named, took⟩ := decider_some decides
  rw [takes, named] at took
  generalize kind : last.kind = lastKind at made took ⊢
  cases lastKind with
  | boolean =>
      obtain rfl : value = .bool (checked (form.submitted row.name)) := made
      rw [rowProblem_present found rfl]
      cases row.kind with
      | string | boolean | choice => rfl
      | number => simp [isNumeric_bool, Suits]
  | number =>
      have read : numberOf digits (entered (form.submitted row.name)) = some value := made
      rw [rowProblem_present found (isNumeric_of_numberOf read).2]
      cases row.kind with
      | string | boolean => rfl
      | choice => simp [Suits, read]
      | number => simp [Suits, (isNumeric_of_numberOf read).1]
  | string | choice =>
      have filled : entered (form.submitted row.name) ≠ "" := by simpa using took
      obtain rfl : value = .str (entered (form.submitted row.name)) := by
        first | exact made | exact made.1
      rw [rowProblem_present found (by simp [isEmpty, filled])]
      obtain ⟨own, makes⟩ := makes_of_filled coerced filled
      cases rowKind : row.kind with
      | string | boolean => rfl
      | choice options =>
          rw [rowKind] at makes
          exact iff_of_true makes.2 trivial
      | number =>
          rw [rowKind] at makes
          exact iff_of_true (floatOf_of_numberOf makes) trivial

theorem rowProblem_undecided (coerced : coerceValue digits row (form.submitted row.name) = .ok taken) (member : row ∈ rows)
    (undecided : decider form rows row.name = none) (missing : values.lookup row.name = none) :
    rowProblem digits values row = none := by
  have untaken : takes form row = false := by
    have passed := List.find?_eq_none.mp undecided row (List.mem_reverse.mpr member)
    simpa using passed
  rcases coerceValue_ok coerced with ⟨-, -, optional⟩ | ⟨value, -, took, -⟩
  · rw [rowProblem, missing]
    simp [optional]
  · rw [untaken] at took
    cases took

theorem rowProblems_iff (coerced : coerceRows digits form [] rows = .ok values) :
    (∀ row ∈ rows, rowProblem digits values row = none) ↔ Consistent digits form rows := by
  obtain ⟨returned, looked⟩ := coerceRows_ok coerced
  refine forall₂_congr fun row member => ?_
  obtain ⟨taken, own⟩ := returned row member
  cases decides : decider form rows row.name with
  | none =>
      have missing : values.lookup row.name = none := by
        rw [looked, decides]
        rfl
      exact iff_of_true (rowProblem_undecided own member decides missing) nofun
  | some last =>
      obtain ⟨among, named, took⟩ := decider_some decides
      obtain ⟨made, lastOwn⟩ := returned last among
      rcases coerceValue_ok lastOwn with ⟨-, untaken, -⟩ | ⟨value, rfl, -, makes⟩
      · rw [took] at untaken
        cases untaken
      · rw [named] at makes
        have found : values.lookup row.name = some value := by
          rw [looked, decides]
          dsimp only
          rw [lastOwn]
          rfl
        rw [rowProblem_iff own decides makes found]
        simp

theorem unknown_names (coerced : coerceRows digits form [] rows = .ok values) :
    (values.filterMap fun entry : String × Json =>
      if entry.1 ≠ "__raw__" ∧ entry.1 ∉ rows.map InputRow.name then
        some ("input " ++ Python.repr entry.1 ++ " is no longer in the pipeline schema")
      else none) = [] := by
  rw [List.filterMap_eq_nil_iff]
  intro entry member
  rcases coerceRows_names coerced entry member with known | before
  · exact if_neg fun unknown => unknown.2 known
  · cases before

/-- A saved form goes through the rows as they are handed on, which are read again. -/
theorem handed_on {schema : Json} (normal : normalizeSchema schema = .ok rows) :
    coerceRunInputs digits (.array (rows.map InputRow.toJson)) form = coerceRunInputs digits schema form ∧
      validatePayloadValues digits (.array (rows.map InputRow.toJson)) values = validatePayloadValues digits schema values := by
  have again := normalizeSchema_toJson (normalizeSchema_normal normal)
  constructor
  · rw [coerceRunInputs, coerceRunInputs, again, normal]
  · rw [validatePayloadValues, validatePayloadValues, again, normal]

theorem consistent_of_distinct (distinct : (rows.map InputRow.name).Nodup) : Consistent digits form rows := by
  intro row member last decides
  obtain ⟨among, named, -⟩ := decider_some decides
  obtain rfl := List.inj_on_of_nodup_map distinct among member named
  cases last.kind <;> trivial

end Walks

/-- The values that a run form gives have no problem under their schema if and only if its rows of one name suit
each other on that form. -/
theorem fresh_inputs_fit_iff (digits : Digits) (schema : Json) (form : Form) (values : List (String × Json))
    (coerced : coerceRunInputs digits schema form = .ok values) :
    validatePayloadValues digits schema values = .ok [] ↔
      ∃ rows, normalizeSchema schema = .ok rows ∧ Consistent digits form rows := by
  unfold coerceRunInputs at coerced
  cases normal : normalizeSchema schema with
  | error exn =>
      rw [normal] at coerced
      cases coerced
  | ok rows =>
      rw [normal] at coerced
      dsimp only at coerced
      have walked : coerceRows digits form [] rows = .ok values := by
        cases walked : coerceRows digits form [] rows with
        | error message =>
            rw [walked] at coerced
            cases coerced
        | ok out =>
            rw [walked] at coerced
            cases coerced
            rfl
      have shown : validatePayloadValues digits schema values = .ok (rows.filterMap (rowProblem digits values)) := by
        unfold validatePayloadValues
        rw [normal]
        change Except.ok (_ ++ _) = _
        rw [unknown_names walked, List.append_nil]
      rw [shown, Except.ok.injEq, List.filterMap_eq_nil_iff, rowProblems_iff walked]
      simp

def textForm (fields : List (String × String)) : Form := fun name => (fields.lookup name).map .text

def deployRows : List (List (String × Json)) :=
  [[("name", .str "env"), ("type", .str "choice"), ("options", .str "staging, prod"), ("required", .bool true)],
    [("name", .str "replicas"), ("type", .str "number")], [("name", .str "dry_run"), ("type", .str "boolean")]]

def deploySchema : Json := .array (deployRows.map .object)

def deployInputs : List InputRow :=
  [⟨"env", .choice ["staging", "prod"], none, true, none⟩, ⟨"replicas", .number, none, false, none⟩,
    ⟨"dry_run", .boolean, none, false, none⟩]

theorem deploy_inputs_fit : validatePayloadValues Ftp.asciiDigits deploySchema
    [("env", .str "prod"), ("replicas", .int 7), ("dry_run", .bool false)] = .ok [] := by
  refine (fresh_inputs_fit_iff Ftp.asciiDigits deploySchema
    (textForm [("input__env", " prod "), ("input__replicas", "007")]) _ ?_).mpr
      ⟨deployInputs, ?_, consistent_of_distinct (by decide)⟩
  · rfl
  · rfl

/-- A schema with one name for two inputs, and a form whose values do not fit it. -/
def Drifts (rows : List (List (String × Json))) (form : Form) (values : List (String × Json)) : Prop :=
  coerceRunInputs Ftp.asciiDigits (.array (rows.map .object)) form = .ok values ∧
    validatePayloadValues Ftp.asciiDigits (.array (rows.map .object)) values ≠ .ok []

theorem drifts_of_fault {rows : List (List (String × Json))} {form : Form} {values : List (String × Json)}
    (coerced : coerceRunInputs Ftp.asciiDigits (.array (rows.map .object)) form = .ok values)
    (faults : (validatePayloadValues Ftp.asciiDigits (.array (rows.map .object)) values).toOption.map List.length = some 1) :
    Drifts rows form values := by
  refine ⟨coerced, fun fits => ?_⟩
  rw [fits] at faults
  cases faults

theorem same_name_drifts :
    Drifts [[("name", .str "scale"), ("type", .str "number")], [("name", .str "scale"), ("type", .str "boolean")]]
      (textForm []) [("scale", .bool false)] ∧
    Drifts [[("name", .str "tier"), ("type", .str "choice"), ("options", .str "01,02")],
        [("name", .str "tier"), ("type", .str "number")]]
      (textForm [("input__tier", "01")]) [("tier", .int 1)] :=
  ⟨drifts_of_fault rfl rfl, drifts_of_fault rfl rfl⟩

end Dosm.Pipelines.Inputs
