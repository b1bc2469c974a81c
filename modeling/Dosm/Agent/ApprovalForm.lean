import Dosm.Agent.Confirmation
import Dosm.Agent.Readings

namespace Dosm.Agent

open Models Python Plans

/-! The approval form, from a card's arguments to the runner and back.

The page shows every argument as text, an approval writes the text that comes back
over the argument, and the runner reads it as it reads any value. What the text of
a value is read as need not be what the value itself is read as.
-/

/-- What a field of the page sends when nothing in it is touched. -/
def shown (stored : Args) (field : Field) : Option String :=
  match field.type with
  | .boolean => if (stored.get field.name).truthy then some "true" else none
  | _ => some ((stored.lookup field.name).getD (.str "")).asText

/-- The form as sent: each field's content, and what was typed to confirm. -/
def submission (action : Action) (contents : Field → Option String) (typed : String) : Form :=
  (action.argsSchema.filterMap fun field =>
    (contents field).map fun content => ("arg_" ++ field.name, content)) ++ [("confirmation", typed)]

section Carried

def Decodes {α : Type} (decode : Value → α) (value : Value) : Prop :=
  strip value.asText = "" ∨ decode (.str (strip value.asText)) = decode value

variable {Seconds : Type} (coercions : Coercions Seconds)

/-- The values whose text is read as they are: text wherever text is asked for, the
numbers that are not zero where zero stands for a default, anything for a box. -/
def Carried (reader : Reader) (value : Value) : Prop :=
  match reader with
  | .text | .presentText | .givenText | .description => ∃ text, value = .str text
  | .raw | .body => ∃ text, value = .str text ∧ (strip text = "" ∨ strip text = text)
  | .seconds =>
      (∃ text, value = .str text ∧
        (strip text = "" ∨ strip text = text ∨ (coercions.float value).isSome)) ∨
      (∃ number, value = .int number ∧ number ≠ 0 ∧ (coercions.float value).isSome) ∨
      ∃ text truncated, value = .float text truncated false ∧ (coercions.float value).isSome
  | .id =>
      match value with
      | .none | .str _ => True
      | .bool value => value = false
      | .int number => number ≠ 0
      | .float text truncated zero => parseInt text = if zero then none else truncated
      | .container text _ _ => parseInt text = none
  | .idGiven =>
      match value with
      | .none | .str _ | .int _ => True
      | .bool _ => False
      | .float text truncated _ => parseInt text = truncated
      | .container text _ _ => parseInt text = none
  | .port =>
      match value with
      | .str _ => True
      | .int number => number ≠ 0
      | .float text truncated zero => parseInt text = truncated ∧ zero = false
      | .container text _ empty => parseInt text = none ∧ empty = false
      | .none | .bool _ => False
  | .inputs => (∃ text, value = .str text) ∨ (value.truthy = true ∧ isObject value = false)
  | .config => Decodes coercions.decodeConfig value
  | .configGiven => value ≠ .none ∧ Decodes coercions.decodeConfig value
  | .schema => Decodes coercions.decodeInputs value
  | .schemaGiven => value ≠ .none ∧ Decodes coercions.decodeInputs value
  | .flag | .flagDefault | .flagGiven => True

variable {coercions} {reader : Reader} {value : Value} {text : String}

theorem strip_truthy (given : strip text ≠ "") : (Value.str (strip text)).truthy = true := by
  simpa [Value.truthy] using given

theorem str_truthy (given : strip text ≠ "") : (Value.str text).truthy = true := by
  have nonempty : text ≠ "" := by
    rintro rfl
    exact given (by decide)
  simpa [Value.truthy] using nonempty

theorem int_truthy {number : Int} (nonzero : number ≠ 0) : (Value.int number).truthy = true := by
  simpa [Value.truthy] using nonzero

theorem toInt_strip : (Value.str (strip text)).toInt = parseInt text := by
  rw [Value.toInt, parseInt_strip]

theorem carried_read (carried : Carried coercions reader value) (given : strip value.asText ≠ "")
    (notFlag : reader.isFlag = false) :
    readAs coercions reader (some (.str (strip value.asText))) = readAs coercions reader (some value) := by
  have sent := strip_truthy given
  have unreadNone : parseInt "None" = none := by decide
  have unreadFalse : parseInt "False" = none := by decide
  cases reader with
  | raw | body =>
      obtain ⟨text, rfl, blank | same⟩ := carried
      · exact absurd blank given
      · rw [Value.asText, same]
  | text | presentText =>
      obtain ⟨text, rfl⟩ := carried
      have raw := str_truthy given
      simp only [readAs, Option.getD_some, sent, stripped, strip_strip]
      simp only [Value.asText] at raw
      simp only [Value.asText, raw]
  | givenText =>
      obtain ⟨text, rfl⟩ := carried
      simp only [readAs, Option.getD_some, ifGiven, stripped, Value.asText, strip_strip]
  | description =>
      obtain ⟨text, rfl⟩ := carried
      simp only [readAs, Value.asText, strip_strip]
  | seconds =>
      have parses : (coercions.float value).isSome →
          coercions.float (.str (strip value.asText)) = coercions.float value → value.truthy = true →
          readAs coercions .seconds (some (.str (strip value.asText))) =
            readAs coercions .seconds (some value) := by
        intro parsed same truthy
        obtain ⟨seconds, read⟩ := Option.isSome_iff_exists.mp parsed
        simp only [readAs, Option.getD_some, sent, truthy, same, read]
      rcases carried with ⟨text, rfl, blank | same | parsed⟩ | ⟨number, rfl, nonzero, parsed⟩ |
        ⟨text, truncated, rfl, parsed⟩
      · exact absurd blank given
      · rw [Value.asText, same]
      · exact parses parsed (coercions.float_strip text) (str_truthy given)
      · obtain ⟨seconds, read⟩ := Option.isSome_iff_exists.mp parsed
        refine parses parsed ?_ (int_truthy nonzero)
        rw [coercions.float_strip, read]
        exact coercions.float_int number seconds read
      · refine parses parsed ?_ rfl
        rw [coercions.float_strip, coercions.float_float, Value.asText]
  | id =>
      simp only [readAs, Option.getD_some, idOrNone, sent, if_true, toInt_strip]
      cases value with
      | str text =>
          have raw : (Value.str text).truthy = true := str_truthy given
          rw [if_pos raw, Value.asText, Value.toInt]
      | none => exact congrArg Reading.id unreadNone
      | bool value =>
          cases carried
          exact congrArg Reading.id unreadFalse
      | int number =>
          rw [if_pos (int_truthy carried), Value.asText, parseInt_toString, Value.toInt]
      | float text truncated zero =>
          have read : parseInt text = if zero then none else truncated := carried
          cases zero <;> simp [Value.asText, read, Value.truthy, Value.toInt]
      | container text mapping empty =>
          have unread : parseInt text = none := carried
          rw [Value.asText, unread, Value.toInt, ite_self]
  | idGiven =>
      simp only [readAs, Option.getD_some, idOr, toInt_strip]
      cases value with
      | str text => simp only [Value.asText, Value.toInt]
      | none => simp only [Value.asText, unreadNone]
      | bool value => cases carried
      | int number => simp only [Value.asText, parseInt_toString, Value.toInt]
      | float text truncated zero =>
          have read : parseInt text = truncated := carried
          simp only [Value.asText, read, Value.toInt]
      | container text mapping empty =>
          have unread : parseInt text = none := carried
          simp only [Value.asText, unread, Value.toInt]
  | port =>
      simp only [readAs, Option.getD_some, sent, if_true, toInt_strip]
      cases value with
      | str text =>
          have raw : (Value.str text).truthy = true := str_truthy given
          rw [if_pos raw, Value.asText, Value.toInt]
      | none => cases carried
      | bool value => cases carried
      | int number =>
          rw [if_pos (int_truthy carried), Value.asText, parseInt_toString, Value.toInt]
      | float text truncated zero =>
          obtain ⟨read, rfl⟩ := carried
          have raw : (Value.float text truncated false).truthy = true := rfl
          rw [if_pos raw, Value.asText, read, Value.toInt]
      | container text mapping empty =>
          obtain ⟨unread, rfl⟩ := carried
          have raw : (Value.container text mapping false).truthy = true := rfl
          rw [if_pos raw, Value.asText, unread, Value.toInt]
  | inputs =>
      have refused : isObject (.str (strip value.asText)) = false := rfl
      rcases carried with ⟨text, rfl⟩ | ⟨truthy, notObject⟩
      · have raw : (Value.str text).truthy = true := str_truthy given
        simp only [readAs, Option.getD_some, sent, raw, if_true, isObject, Bool.false_eq_true, if_false]
      · simp only [readAs, Option.getD_some, sent, truthy, if_true, refused, notObject, Bool.false_eq_true, if_false]
  | config | schema =>
      rcases carried with blank | same
      · exact absurd blank given
      · simp only [readAs, Option.getD_some, same]
  | configGiven | schemaGiven =>
      obtain ⟨present, blank | same⟩ := carried
      · exact absurd blank given
      · simp only [readAs, Option.getD_some, ifGiven, Function.comp_apply, same]
  | flag | flagDefault | flagGiven => cases notFlag

theorem idOr_given (given : value ≠ .none) : idOr none value = value.toInt := by
  cases value with
  | none => exact absurd rfl given
  | bool _ | int _ | float _ _ _ | str _ | container _ _ _ =>
      simp only [idOr]
      split
      · rename_i found
        exact found.symm
      · rename_i absent
        exact absent.symm

theorem carried_flag (isFlag : reader.isFlag = true) : Carried coercions reader value := by
  cases reader with
  | flag | flagDefault | flagGiven => trivial
  | _ => cases isFlag

theorem carried_blank (blank : strip text = "") : Carried coercions reader (.str text) := by
  cases reader with
  | text | presentText | givenText | description => exact ⟨text, rfl⟩
  | raw | body => exact ⟨text, rfl, .inl blank⟩
  | seconds => exact .inl ⟨text, rfl, .inl blank⟩
  | id | idGiven | port | flag | flagDefault | flagGiven => trivial
  | inputs => exact .inl ⟨text, rfl⟩
  | config | schema => exact .inl blank
  | configGiven | schemaGiven => exact ⟨nofun, .inl blank⟩

theorem carried_of_read (given : strip value.asText ≠ "") (same :
    readAs coercions reader (some (.str (strip value.asText))) = readAs coercions reader (some value)) :
    Carried coercions reader value := by
  have sent := strip_truthy given
  have unreadTrue : parseInt "True" = none := by decide
  have unreadFalse : parseInt "False" = none := by decide
  cases reader with
  | raw => exact ⟨_, (Reading.value.inj same).symm, .inr strip_strip⟩
  | body =>
      simp only [readAs, Option.getD_some, sent, if_true] at same
      split at same
      · cases value with
        | str text => exact ⟨text, rfl, .inr (Reading.text.inj same)⟩
        | none | bool _ | int _ | float _ _ _ | container _ _ _ => cases same
      · exact absurd (Reading.text.inj same) given
  | text =>
      simp only [readAs, Option.getD_some, sent, if_true] at same
      split at same
      · cases value with
        | str text => exact ⟨text, rfl⟩
        | none | bool _ | int _ | float _ _ _ | container _ _ _ => cases same
      · cases same
  | presentText =>
      simp only [readAs, sent, if_true] at same
      split at same
      · cases value with
        | str text => exact ⟨text, rfl⟩
        | none | bool _ | int _ | float _ _ _ | container _ _ _ => cases same
      · rw [stripped, strip_strip] at same
        exact absurd (Reading.text.inj same) given
  | givenText | description =>
      cases value with
      | str text => exact ⟨text, rfl⟩
      | none | bool _ | int _ | float _ _ _ | container _ _ _ => cases same
  | seconds =>
      simp only [readAs, Option.getD_some, sent, if_true] at same
      by_cases truthy : value.truthy = true
      · rw [if_pos truthy] at same
        cases parsed : coercions.float value with
        | none =>
            rw [parsed] at same
            split at same
            · cases same
            · have stays := Reading.value.inj same
              exact .inl ⟨_, stays.symm, .inr (.inl strip_strip)⟩
        | some seconds =>
            have isNumber : (coercions.float value).isSome := by rw [parsed]; rfl
            cases value with
            | str text => exact .inl ⟨text, rfl, .inr (.inr isNumber)⟩
            | int number => exact .inr (.inl ⟨number, rfl, by simpa [Value.truthy] using truthy, isNumber⟩)
            | float text truncated zero =>
                cases zero with
                | true => cases truthy
                | false => exact .inr (.inr ⟨text, truncated, rfl, isNumber⟩)
            | none => cases truthy
            | bool value =>
                cases value with
                | false => cases truthy
                | true =>
                    have word : coercions.float (.str (strip (Value.bool true).asText)) = none := by
                      rw [coercions.float_strip]
                      exact coercions.float_true
                    rw [word, parsed] at same
                    cases same
            | container text mapping empty => cases parsed.symm.trans (coercions.float_container _ _ _)
      · rw [if_neg truthy] at same
        split at same <;> cases same
  | id =>
      simp only [readAs, Option.getD_some, idOrNone, sent, if_true, toInt_strip] at same
      have read := Reading.id.inj same
      cases value with
      | none | str _ => trivial
      | bool value =>
          cases value with
          | false => rfl
          | true => cases unreadTrue.symm.trans read
      | int number =>
          rintro rfl
          cases parseInt_toString.symm.trans read
      | float text truncated zero =>
          cases zero with
          | false => exact read
          | true => exact read
      | container text mapping empty =>
          rw [Value.toInt, ite_self] at read
          exact read
  | idGiven =>
      have word : idOr none (.str (strip value.asText)) = parseInt value.asText :=
        (idOr_given (by simp)).trans toInt_strip
      have read : parseInt value.asText = idOr none value := word.symm.trans (Reading.id.inj same)
      cases value with
      | none | str _ | int _ => trivial
      | bool value =>
          cases value with
          | false => cases unreadFalse.symm.trans read
          | true => cases unreadTrue.symm.trans read
      | float text truncated zero => exact read.trans (idOr_given (by simp))
      | container text mapping empty => exact read.trans (idOr_given (by simp))
  | port =>
      simp only [readAs, Option.getD_some, sent, if_true, toInt_strip] at same
      split at same
      · rename_i truthy
        have read := Reading.id.inj same
        cases value with
        | str _ => trivial
        | none => cases truthy
        | bool value =>
            cases value with
            | false => cases truthy
            | true => cases unreadTrue.symm.trans read
        | int number => exact (by simpa [Value.truthy] using truthy : number ≠ 0)
        | float text truncated zero =>
            cases zero with
            | true => cases truthy
            | false => exact ⟨read, rfl⟩
        | container text mapping empty =>
            cases empty with
            | true => cases truthy
            | false => exact ⟨read, rfl⟩
      · cases same
  | inputs =>
      have refused : isObject (.str (strip value.asText)) = false := rfl
      simp only [readAs, Option.getD_some, sent, if_true, refused, Bool.false_eq_true, if_false] at same
      split at same
      · rename_i truthy
        split at same
        · cases same
        · rename_i notObject
          exact .inr ⟨truthy, by simpa using notObject⟩
      · cases same
  | config => exact .inr (Reading.config.inj same)
  | schema => exact .inr (Reading.inputsSchema.inj same)
  | configGiven =>
      cases value with
      | none => cases same
      | bool _ | int _ | float _ _ _ | str _ | container _ _ _ => exact ⟨by simp, .inr (Reading.config.inj same)⟩
  | schemaGiven =>
      cases value with
      | none => cases same
      | bool _ | int _ | float _ _ _ | str _ | container _ _ _ =>
          exact ⟨by simp, .inr (Reading.inputsSchema.inj same)⟩
  | flag | flagDefault | flagGiven => trivial

end Carried

section Submission

variable {action : Action} {contents : Field → Option String} {typed : String} {field : Field}

theorem argName_ne {name : String} : "arg_" ++ name ≠ "confirmation" := by
  intro same
  have letters := congrArg (fun text => text.toList.head?) same
  simp [String.toList_append] at letters

theorem lookup_absent {fields : List Field} {key : String} (absent : ∀ other ∈ fields, key ≠ "arg_" ++ other.name) :
    (fields.filterMap fun field => (contents field).map fun content =>
      ("arg_" ++ field.name, content)).lookup key = none := by
  induction fields with
  | nil => rfl
  | cons other fields ih =>
      have later := ih fun field member => absent field (List.mem_cons_of_mem _ member)
      cases sent : contents other with
      | none => simpa [sent] using later
      | some content =>
          have different : (key == "arg_" ++ other.name) = false := by
            simpa using absent other List.mem_cons_self
          simpa [sent, List.lookup_cons, different] using later

theorem lookup_contents {fields : List Field} (distinct : (fields.map Field.name).Nodup)
    (listed : field ∈ fields) :
    (fields.filterMap fun field => (contents field).map fun content =>
      ("arg_" ++ field.name, content)).lookup ("arg_" ++ field.name) = contents field := by
  induction fields with
  | nil => cases listed
  | cons other fields ih =>
      rw [List.map_cons, List.nodup_cons] at distinct
      rcases List.mem_cons.mp listed with rfl | later
      · have absent : ∀ other ∈ fields, "arg_" ++ field.name ≠ "arg_" ++ other.name := by
          intro other member same
          rw [String.append_right_inj] at same
          exact distinct.1 (List.mem_map.mpr ⟨other, member, same.symm⟩)
        cases sent : contents field with
        | none => simpa [sent] using lookup_absent absent
        | some content => simp [sent]
      · have different : ("arg_" ++ field.name == "arg_" ++ other.name) = false := by
          rw [beq_eq_false_iff_ne, Ne, String.append_right_inj]
          rintro same
          exact distinct.1 (List.mem_map.mpr ⟨field, later, same⟩)
        have tail := ih distinct.2 later
        cases sent : contents other with
        | none => simpa [sent] using tail
        | some content => simpa [sent, List.lookup_cons, different] using tail

theorem editOf_submission (known : action ∈ actions) (listed : field ∈ action.argsSchema) :
    editOf (submission action contents typed) field.name = strip ((contents field).getD "") := by
  have unnamed : ([("confirmation", typed)] : Form).lookup ("arg_" ++ field.name) = none := by
    have different : ("arg_" ++ field.name == "confirmation") = false := by
      simpa using argName_ne
    simp [List.lookup_cons, different]
  rw [editOf, submission, List.lookup_append, lookup_contents (rendered_read action known).1 listed,
    unnamed, Option.or_none]

theorem confirmation_submission : confirmation (submission action contents typed) = strip typed := by
  rw [confirmation, submission, List.lookup_append,
    lookup_absent fun other _ => argName_ne.symm, Option.none_or]
  simp

end Submission

section RoundTrip

variable {Seconds Effect : Type} (coercions : Coercions Seconds)

def Carries (action : Action) (stored : Args) (fields : List Field) : Prop :=
  ∀ field ∈ fields, ∀ entry ∈ runnerReads action.name, entry.1 = field.name →
    ∀ value ∈ stored.lookup field.name, Carried coercions entry.2 value

/-- A run of a tool: whatever its runner makes of what it reads. -/
def runTool (rest : String → List (String × Reading Seconds) → Effect) (tool : String) (args : Args) :
    Effect :=
  rest tool (readings coercions tool args)

variable {coercions} {action : Action} {contents : Field → Option String} {stored : Args} {typed : String}
  {field : Field} {entry : String × Reader}

def submitted (action : Action) (stored : Args) (contents : Field → Option String) (typed : String) : Args :=
  applyEdits (submission action contents typed) stored (action.argsSchema.map Field.name)

theorem lookup_submitted (known : action ∈ actions) (listed : field ∈ action.argsSchema) :
    (submitted action stored contents typed).lookup field.name =
      if strip ((contents field).getD "") = "" then stored.lookup field.name
      else some (.str (strip ((contents field).getD ""))) := by
  rw [submitted, lookup_applyEdits (List.mem_map.mpr ⟨field, listed, rfl⟩), editOf_submission known listed]

theorem lookup_unshown {key : String} (unshown : ∀ field ∈ action.argsSchema, field.name ≠ key) :
    (submitted action stored contents typed).lookup key = stored.lookup key := by
  have absent : key ∉ action.argsSchema.map Field.name := by
    intro member
    obtain ⟨field, listed, same⟩ := List.mem_map.mp member
    exact unshown field listed same
  rw [submitted, lookup_edited, if_neg fun both => absent both.1]

theorem read_box (isFlag : entry.2.isFlag = true) {value : Value} (checked : value.truthy = true) :
    readAs coercions entry.2 (some (.str "true")) = readAs coercions entry.2 (some value) := by
  have sent : (Value.str "true").truthy = true := by decide
  cases reader : entry.2 with
  | flag | flagDefault | flagGiven => simp only [readAs, Option.getD_some, Option.elim_some, sent, checked]
  | _ => simp [reader, Reader.isFlag] at isFlag

theorem read_untouched (known : action ∈ actions) (listed : field ∈ action.argsSchema)
    (untouched : contents field = shown stored field) (reads : entry ∈ runnerReads action.name)
    (named : entry.1 = field.name)
    (carried : ∀ value ∈ stored.lookup field.name, Carried coercions entry.2 value) :
    readAs coercions entry.2 ((submitted action stored contents typed).lookup field.name) =
      readAs coercions entry.2 (stored.lookup field.name) := by
  rw [lookup_submitted known listed, untouched]
  by_cases blank : strip ((shown stored field).getD "") = ""
  · rw [if_pos blank]
  rw [if_neg blank]
  have kind := ((rendered_read action known).2 field listed).2 entry reads named
  by_cases isBox : field.type = .boolean
  · have box : shown stored field = if (stored.get field.name).truthy then some "true" else none := by
      simp only [shown, isBox]
    rw [box] at blank ⊢
    by_cases checked : (stored.get field.name).truthy = true
    · rw [if_pos checked]
      cases found : stored.lookup field.name with
      | none =>
          rw [Args.get, found] at checked
          cases checked
      | some value =>
          rw [Args.get, found] at checked
          exact read_box (kind.mpr isBox) checked
    · rw [if_neg checked] at blank
      exact absurd (by decide) blank
  · have text : shown stored field = some ((stored.lookup field.name).getD (.str "")).asText := by
      unfold shown
      split
      · rename_i box
        exact absurd box isBox
      · rfl
    rw [text, Option.getD_some] at blank ⊢
    cases found : stored.lookup field.name with
    | none =>
        rw [found] at blank
        exact absurd (by decide) blank
    | some value =>
        rw [found, Option.getD_some] at blank
        have notFlag : entry.2.isFlag = false := by
          rw [← Bool.not_eq_true, kind]
          exact isBox
        exact carried_read (carried value found) blank notFlag

theorem readings_submitted {target : Args} (same : ∀ entry ∈ runnerReads action.name,
    readAs coercions entry.2 ((submitted action stored contents typed).lookup entry.1) =
      readAs coercions entry.2 (target.lookup entry.1)) :
    readings coercions action.name (submitted action stored contents typed) =
      readings coercions action.name target :=
  List.map_congr_left fun entry reads => Prod.ext rfl (same entry reads)

theorem readings_shown (known : action ∈ actions)
    (carries : Carries coercions action stored action.argsSchema) :
    readings coercions action.name (submitted action stored (shown stored) typed) =
      readings coercions action.name stored := by
  refine readings_submitted fun entry reads => ?_
  by_cases isShown : ∃ field ∈ action.argsSchema, field.name = entry.1
  · obtain ⟨field, listed, named⟩ := isShown
    rw [← named]
    exact read_untouched known listed rfl reads named.symm (carries field listed entry reads named.symm)
  · rw [lookup_unshown fun field listed named => isShown ⟨field, listed, named⟩]

/-- Untouched, the form is read as the stored arguments on carried values only: on
any other the run sees another argument than the card has. -/
theorem readings_shown_iff (known : action ∈ actions)
    (visible : ∀ key value, stored.lookup key = some value → strip value.asText = "" →
      ∃ text, value = .str text) :
    readings coercions action.name (submitted action stored (shown stored) typed) =
        readings coercions action.name stored ↔
      Carries coercions action stored action.argsSchema := by
  constructor
  · intro same field listed entry reads named value found
    have present : stored.lookup field.name = some value := found
    have kind := ((rendered_read action known).2 field listed).2 entry reads named
    by_cases isFlag : entry.2.isFlag = true
    · exact carried_flag isFlag
    by_cases blank : strip value.asText = ""
    · obtain ⟨text, rfl⟩ := visible _ _ present blank
      exact carried_blank blank
    have read := read_of_readings entry.1 entry.2 same reads
    rw [named, lookup_submitted known listed, present] at read
    have sent : (shown stored field).getD "" = value.asText := by
      unfold shown
      split
      · rename_i box
        exact absurd (kind.mpr box) isFlag
      · rw [present, Option.getD_some, Option.getD_some]
    rw [sent, if_neg blank] at read
    exact carried_of_read blank read
  · exact readings_shown known

theorem readings_changed (typed content : String) (known : action ∈ actions)
    (listed : field ∈ action.argsSchema)
    (carries : Carries coercions action stored (action.argsSchema.erase field)) :
    readings coercions action.name
        (submitted action stored (Function.update (shown stored) field (some content)) typed) =
      readings coercions action.name
        (if strip content = "" then stored else (field.name, .str (strip content)) :: stored) := by
  refine readings_submitted fun entry reads => ?_
  by_cases changed : entry.1 = field.name
  · rw [changed, lookup_submitted known listed, Function.update_self, Option.getD_some]
    split
    · rfl
    · rw [lookup_cons, if_pos rfl]
  have kept : (if strip content = "" then stored else (field.name, .str (strip content)) :: stored).lookup
      entry.1 = stored.lookup entry.1 := by
    split
    · rfl
    · rw [lookup_cons, if_neg changed]
  rw [kept]
  by_cases isShown : ∃ other ∈ action.argsSchema, other.name = entry.1
  · obtain ⟨other, present, named⟩ := isShown
    have different : other ≠ field := by
      rintro rfl
      exact changed named.symm
    rw [← named]
    exact read_untouched known present (Function.update_of_ne different _ _) reads named.symm
      (carries other ((List.mem_erase_of_ne different).mpr present) entry reads named.symm)
  · rw [lookup_unshown fun other present named => isShown ⟨other, present, named⟩]

theorem asked_read : ∀ action ∈ actions,
    (∀ name ∈ action.elevatedConfirmField, ⟨name, .string⟩ ∈ action.argsSchema ∧
      ((name, .text) ∈ runnerReads action.name ∨ (name, .raw) ∈ runnerReads action.name)) ∧
    (action.name ∈ commandClassifyTools → ⟨"command", .string⟩ ∈ action.argsSchema ∧
      ("command", .text) ∈ runnerReads action.name) := by
  decide

theorem text_submitted {name : String} (typed : String) (known : action ∈ actions)
    (carries : Carries coercions action stored action.argsSchema)
    (listed : ⟨name, .string⟩ ∈ action.argsSchema)
    (reads : (name, .text) ∈ runnerReads action.name ∨ (name, .raw) ∈ runnerReads action.name) :
    ∃ text, (stored.lookup name).getD (.str "") = .str text ∧
      ((submitted action stored (shown stored) typed).lookup name).getD (.str "") =
        .str (if strip text = "" then text else strip text) := by
  have isText : ∃ text, (stored.lookup name).getD (.str "") = .str text := by
    cases found : stored.lookup name with
    | none => exact ⟨"", rfl⟩
    | some value =>
        rcases reads with text | raw
        · exact carries _ listed _ text rfl value found
        · obtain ⟨text, same, _⟩ := carries _ listed _ raw rfl value found
          exact ⟨text, same⟩
  obtain ⟨text, same⟩ := isText
  refine ⟨text, same, ?_⟩
  have sent : (shown stored ⟨name, .string⟩).getD "" = text := by
    simp only [shown, Option.getD_some, same, Value.asText]
  have read : (submitted action stored (shown stored) typed).lookup name = _ := lookup_submitted known listed
  rw [sent] at read
  rw [read]
  split
  · exact same
  · rfl

theorem shown_approved {conversions : Conversions} {allowList : List String} {card : PlanCard}
    (found : getAction card.tool = some action) (loaded : conversions.loads card.args = .mapping stored)
    (carries : Carries coercions action stored action.argsSchema) (pending : card.status = .pending)
    (confirms : ∀ field ∈ action.elevatedConfirmField,
      strip typed = strip (displayed (agentTools conversions allowList) card) ∧
        (strip typed = "" → displayed (agentTools conversions allowList) card = "")) :
    (invokedWith (agentTools conversions allowList) card
      (.single (submission action (shown stored) typed))).isSome := by
  have known : action ∈ actions := List.mem_of_find?_eq_some found
  have named : action.name = card.tool := by simpa using List.find?_some found
  have registered : (agentTools conversions allowList).getAction card.tool = some action.spec := by
    simp [agentTools, found]
  have decoded : (agentTools conversions allowList).loads card.args = .mapping stored := loaded
  obtain ⟨asked, commands⟩ := asked_read action known
  obtain ⟨tier, classified⟩ : ∃ tier, tierOf (agentTools conversions allowList) card.tool
      (submitted action stored (shown stored) typed) = .ok tier := by
    unfold tierOf
    by_cases classifies : card.tool ∈ commandClassifyTools
    · rw [if_pos classifies]
      obtain ⟨listed, reads⟩ := commands (named ▸ classifies)
      obtain ⟨text, _, sent⟩ := text_submitted typed known carries listed (.inl reads)
      rw [sent]
      exact ⟨_, rfl⟩
    · rw [if_neg classifies, registered]
      exact ⟨_, rfl⟩
  have typedRight : ∀ field ∈ action.spec.elevatedConfirmField,
      confirmation (submission action (shown stored) typed) =
        conversions.str (((submitted action stored (shown stored) typed).lookup field).getD (.str "")) := by
    intro field confirmed
    obtain ⟨same, kept⟩ := confirms field confirmed
    obtain ⟨listed, reads⟩ := asked field confirmed
    obtain ⟨text, stored, sent⟩ := text_submitted typed known carries listed reads
    have displays : displayed (agentTools conversions allowList) card = text := by
      have field : action.spec.elevatedConfirmField = some field := confirmed
      simp only [displayed, registered, decoded, field, stored]
      exact conversions.str_text text
    rw [displays] at same kept
    rw [confirmation_submission, sent, conversions.str_text]
    by_cases blank : strip text = ""
    · rw [if_pos blank, same, blank, kept (same.trans blank)]
    · rw [if_neg blank, same]
  have approved : Plans.decide (agentTools conversions allowList) card
      (submission action (shown stored) typed) = .approve _ tier :=
    decide_approves registered decoded classified typedRight
  simp only [invokedWith, if_pos pending, approved, Option.isSome_some]

end RoundTrip

def wholeNumbers : Coercions Int where
  float
    | .int number => some number
    | .str text | .float text _ _ => parseInt text
    | .none | .bool _ | .container .. => none
  decodeConfig value := .ok value.asText
  decodeInputs value := some value.asText
  float_strip _ := parseInt_strip
  float_int number seconds read := by
    cases read
    exact parseInt_toString
  float_float _ _ _ := rfl
  float_true := by decide
  float_container _ _ _ := rfl

def webCard : PlanCard where
  id := 1
  conversationId := 1
  messageId := some 1
  tool := "create_host"
  args := "\x7b\"name\": \"web\"\x7d"

def webArgs : Args := [("name", .str "web"), ("hostname", .str "10.0.0.7"), ("port", .int 2222),
  ("description", .str "old"), ("credential_id", .none), ("is_jumpbox", .bool true)]

def webConversions : Conversions where
  loads _ := .mapping webArgs
  dumps _ := webCard.args
  str := Value.asText
  isFloat value := (wholeNumbers.float value).isSome
  str_text _ := rfl

def createHostAction : Action := (getAction "create_host").get rfl

theorem webArgs_carried : Carries wholeNumbers createHostAction webArgs createHostAction.argsSchema := by
  have listed : ∀ entry ∈ runnerReads "create_host", ∀ value ∈ webArgs.lookup entry.1,
      Carried wholeNumbers entry.2 value := by
    intro entry reads value stored
    have listed : runnerReads "create_host" = [("name", .text), ("hostname", .text), ("protocol", .text),
        ("port", .port), ("description", .text), ("credential_id", .id), ("jump_host_id", .id),
        ("is_jumpbox", .flag), ("tags", .text)] := rfl
    simp only [listed, List.mem_cons, List.not_mem_nil, or_false] at reads
    rcases reads with rfl | rfl | rfl | rfl | rfl | rfl | rfl | rfl | rfl <;> cases stored
    · exact ⟨"web", rfl⟩
    · exact ⟨"10.0.0.7", rfl⟩
    · exact (by decide : (2222 : Int) ≠ 0)
    · exact ⟨"old", rfl⟩
    · exact trivial
    · exact trivial
  intro field _ entry reads named value stored
  exact listed entry reads value (named ▸ stored)

def oneTenant : World where
  db := { tenants := Table.empty.insert (fun id => { id, name := "Acme", slug := "acme" }) (Tenant.keyed _ _) }
  secrets := ∅

end Dosm.Agent
