namespace Dosm

universe u

/-! Computations that leave events on record and may fail.

What happened before a failure stays on record, also when the failure is handled.
`Only allowed` says that nothing else happens; its rules follow the program.
-/

structure Logged (Event Failure : Type) (Value : Type u) where
  log : List Event
  result : Except Failure Value

namespace Logged

variable {Event Failure : Type} {Value Next : Type u} {Item : Type}

def andThen (first : Logged Event Failure Value) (next : Value → Logged Event Failure Next) :
    Logged Event Failure Next :=
  match first.result with
  | .error failure => ⟨first.log, .error failure⟩
  | .ok value => ⟨first.log ++ (next value).log, (next value).result⟩

instance : Monad (Logged Event Failure) where
  pure value := ⟨[], .ok value⟩
  bind := andThen

def record (event : Event) : Logged Event Failure Unit := ⟨[event], .ok ()⟩

def raise (failure : Failure) : Logged Event Failure Value := ⟨[], .error failure⟩

/-- A call whose outcome is known and leaves nothing on record. -/
def call (outcome : Except Failure Value) : Logged Event Failure Value := ⟨[], outcome⟩

def handle (attempt : Logged Event Failure Value)
    (handler : Failure → Option (Logged Event Failure Value)) : Logged Event Failure Value :=
  match attempt.result with
  | .ok _ => attempt
  | .error failure =>
      match handler failure with
      | none => attempt
      | some recovery => ⟨attempt.log ++ recovery.log, recovery.result⟩

def forEach (action : Item → Logged Event Failure Value) : List Item → Logged Event Failure (List Value)
  | [] => pure []
  | item :: rest => do
      let value ← action item
      let values ← forEach action rest
      return value :: values

variable {first : Logged Event Failure Value} {next : Value → Logged Event Failure Next}
  {value : Value} {failure : Failure} {allowed : Event → Prop} {event : Event}

theorem bind_of_ok (returned : first.result = .ok value) :
    first >>= next = ⟨first.log ++ (next value).log, (next value).result⟩ := by
  change andThen first next = _
  rw [andThen, returned]

theorem bind_of_error (failed : first.result = .error failure) :
    first >>= next = ⟨first.log, .error failure⟩ := by
  change andThen first next = _
  rw [andThen, failed]

theorem call_ok_bind : call (.ok value) >>= next = next value := by
  have returned : (call (.ok value) : Logged Event Failure Value).result = .ok value := rfl
  rw [bind_of_ok returned]
  rfl

theorem handle_of_ok {handler : Failure → Option (Logged Event Failure Value)}
    (returned : first.result = .ok value) : handle first handler = first := by
  rw [handle, returned]

theorem handle_of_none {handler : Failure → Option (Logged Event Failure Value)}
    (failed : first.result = .error failure) (unhandled : handler failure = none) :
    handle first handler = first := by
  rw [handle, failed]
  dsimp only
  rw [unhandled]

theorem handle_of_some {handler : Failure → Option (Logged Event Failure Value)}
    {recovery : Logged Event Failure Value} (failed : first.result = .error failure)
    (handled : handler failure = some recovery) :
    handle first handler = ⟨first.log ++ recovery.log, recovery.result⟩ := by
  rw [handle, failed]
  dsimp only
  rw [handled]

def succeeds (attempt : Logged Event Failure Value) : Bool := attempt.result.toOption.isSome

theorem succeeds_iff : first.succeeds = true ↔ ∃ value, first.result = .ok value := by
  cases outcome : first.result <;> simp [succeeds, outcome, Except.toOption]

theorem bind_log_of_fails (failed : first.succeeds = false) : (first >>= next).log = first.log := by
  cases outcome : first.result with
  | error failure => rw [bind_of_error outcome]
  | ok value => simp [succeeds, outcome, Except.toOption] at failed

theorem bind_succeeds_of_ok (returned : first.result = .ok value) :
    (first >>= next).succeeds = (next value).succeeds := by
  rw [bind_of_ok returned]
  rfl

theorem bind_succeeds_of_fails (failed : first.succeeds = false) : (first >>= next).succeeds = false := by
  cases outcome : first.result with
  | error failure =>
      rw [bind_of_error outcome]
      rfl
  | ok value => simp [succeeds, outcome, Except.toOption] at failed

theorem bind_pure_log {f : Value → Next} : (first >>= fun value => pure (f value)).log = first.log := by
  cases outcome : first.result with
  | error failure => rw [bind_of_error outcome]
  | ok value =>
      rw [bind_of_ok outcome]
      exact List.append_nil _

theorem bind_pure_succeeds {f : Value → Next} :
    (first >>= fun value => pure (f value)).succeeds = first.succeeds := by
  cases outcome : first.result with
  | error failure => rw [bind_of_error outcome, succeeds, succeeds, outcome]; rfl
  | ok value => rw [bind_of_ok outcome, succeeds, succeeds, outcome]; rfl

theorem forEach_cons {action : Item → Logged Event Failure Value} {item : Item} {rest : List Item} :
    forEach action (item :: rest) =
      action item >>= fun value => forEach action rest >>= fun values => pure (value :: values) := rfl

theorem forEach_succeeds {action : Item → Logged Event Failure Value} {items : List Item} :
    (forEach action items).succeeds = items.all fun item => (action item).succeeds := by
  induction items with
  | nil => rfl
  | cons item rest ih =>
      rw [forEach_cons, List.all_cons, ← ih]
      cases done : (action item).succeeds with
      | false => rw [bind_succeeds_of_fails done, Bool.false_and]
      | true =>
          obtain ⟨value, returned⟩ := succeeds_iff.mp done
          rw [bind_succeeds_of_ok returned, Bool.true_and, bind_pure_succeeds]

theorem forEach_log {action : Item → Logged Event Failure Value} {items : List Item}
    (quiet : ∀ item, (action item).succeeds = false → (action item).log = []) :
    (forEach action items).log = (items.takeWhile fun item => (action item).succeeds).flatMap
        fun item => (action item).log := by
  induction items with
  | nil => rfl
  | cons item rest ih =>
      rw [forEach_cons]
      cases done : (action item).succeeds with
      | false =>
          rw [bind_log_of_fails done, quiet item done, List.takeWhile_cons, done]
          rfl
      | true =>
          obtain ⟨value, returned⟩ := succeeds_iff.mp done
          rw [bind_of_ok returned, List.takeWhile_cons, if_pos done, List.flatMap_cons, ← ih, bind_pure_log]

theorem forEach_split {action : Item → Logged Event Failure Value} {items : List Item} :
    ((∃ values, (forEach action items).result = .ok values) ∧ (∀ item ∈ items, (action item).succeeds = true) ∧
      (forEach action items).log = items.flatMap fun item => (action item).log) ∨
    ∃ before item after failure, items = before ++ item :: after ∧ (action item).result = .error failure ∧
      (forEach action items).result = .error failure ∧
      (forEach action items).log = (before.flatMap fun item => (action item).log) ++ (action item).log := by
  induction items with
  | nil => exact .inl ⟨⟨[], rfl⟩, nofun, rfl⟩
  | cons item rest ih =>
      rw [forEach_cons]
      cases outcome : (action item).result with
      | error failure =>
          refine .inr ⟨[], item, rest, failure, rfl, outcome, ?_, ?_⟩
          · rw [bind_of_error outcome]
          · rw [bind_of_error outcome]
            rfl
      | ok value =>
          rw [bind_of_ok outcome, bind_pure_log]
          rcases ih with ⟨⟨values, returned⟩, succeed, log⟩ | ⟨before, failing, after, failure, split, failed, result, log⟩
          · refine .inl ⟨⟨value :: values, ?_⟩, ?_, ?_⟩
            · rw [bind_of_ok returned]
              rfl
            · intro other listed
              rcases List.mem_cons.mp listed with rfl | later
              · exact succeeds_iff.mpr ⟨value, outcome⟩
              · exact succeed other later
            · rw [List.flatMap_cons, log]
          · refine .inr ⟨item :: before, failing, after, failure, ?_, failed, ?_, ?_⟩
            · rw [split, List.cons_append]
            · rw [bind_of_error result]
            · rw [List.flatMap_cons, List.append_assoc, log]

theorem mem_forEach_log {action : Item → Logged Event Failure Value} {items : List Item}
    (happened : event ∈ (forEach action items).log) :
    ∃ item ∈ items, event ∈ (action item).log ∧ (action item).log ⊆ (forEach action items).log := by
  obtain ⟨-, -, log⟩ | ⟨before, item, after, failure, split, -, -, log⟩ := @forEach_split _ _ _ _ action items
  · rw [log] at happened ⊢
    obtain ⟨item, listed, inside⟩ := List.mem_flatMap.mp happened
    exact ⟨item, listed, inside, fun other within => List.mem_flatMap.mpr ⟨item, listed, within⟩⟩
  · rw [log] at happened ⊢
    rcases List.mem_append.mp happened with earlier | last
    · obtain ⟨first, listed, inside⟩ := List.mem_flatMap.mp earlier
      have member : first ∈ items := split ▸ List.mem_append_left _ listed
      refine ⟨first, member, inside, fun other within => List.mem_append_left _ ?_⟩
      exact List.mem_flatMap.mpr ⟨first, listed, within⟩
    · have member : item ∈ items := split ▸ List.mem_append_right before List.mem_cons_self
      exact ⟨item, member, last, fun other within => List.mem_append_right _ within⟩

@[simp] theorem pure_log : (pure value : Logged Event Failure Value).log = [] := rfl
@[simp] theorem pure_result : (pure value : Logged Event Failure Value).result = .ok value := rfl
@[simp] theorem raise_log : (raise failure : Logged Event Failure Value).log = [] := rfl
@[simp] theorem raise_result : (raise failure : Logged Event Failure Value).result = .error failure := rfl
@[simp] theorem record_log : (record event : Logged Event Failure Unit).log = [event] := rfl
@[simp] theorem record_result : (record event : Logged Event Failure Unit).result = .ok () := rfl

def Only (allowed : Event → Prop) (attempt : Logged Event Failure Value) : Prop :=
  ∀ event ∈ attempt.log, allowed event

theorem only_pure : Only allowed (pure value : Logged Event Failure Value) := by
  simp [Only]

theorem only_raise : Only allowed (raise failure : Logged Event Failure Value) := by
  simp [Only]

theorem only_call {outcome : Except Failure Value} :
    Only allowed (call outcome : Logged Event Failure Value) := by
  simp [Only, call]

theorem only_record : Only allowed (record event : Logged Event Failure Unit) ↔ allowed event := by
  simp [Only]

theorem only_bind : Only allowed (first >>= next) ↔
    Only allowed first ∧ ∀ value, first.result = .ok value → Only allowed (next value) := by
  cases outcome : first.result with
  | error failure =>
      rw [bind_of_error outcome]
      simp [Only]
  | ok value =>
      rw [bind_of_ok outcome]
      simp [Only, or_imp, forall_and]

theorem Only.bind (before : Only allowed first)
    (after : ∀ value, first.result = .ok value → Only allowed (next value)) :
    Only allowed (first >>= next) := only_bind.mpr ⟨before, after⟩

theorem Only.handle {handler : Failure → Option (Logged Event Failure Value)} (only : Only allowed first)
    (recovers : ∀ failure recovery, first.result = .error failure → handler failure = some recovery →
      Only allowed recovery) : Only allowed (handle first handler) := by
  unfold Logged.handle
  cases outcome : first.result with
  | ok value => exact only
  | error failure =>
      dsimp only
      cases handled : handler failure with
      | none => exact only
      | some recovery =>
          intro event listed
          rcases List.mem_append.mp listed with before | after
          · exact only event before
          · exact recovers failure recovery outcome handled event after

theorem Only.forEach {action : Item → Logged Event Failure Value} {items : List Item}
    (each : ∀ item ∈ items, Only allowed (action item)) : Only allowed (forEach action items) := by
  induction items with
  | nil => exact only_pure
  | cons item rest ih =>
      refine Only.bind (each item List.mem_cons_self) fun value _ => ?_
      refine Only.bind (ih fun later listed => each later (List.mem_cons_of_mem _ listed)) ?_
      exact fun values _ => only_pure

end Logged

end Dosm
