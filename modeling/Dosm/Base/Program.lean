import Mathlib.Data.List.Basic

namespace Dosm

/-! Programs that change a state and may raise.

What a program did to the state before it raised stays. `Sends log scripts` says that a
program adds to a log one of several scripts, or the beginning of one when it raises.
-/

def Program (State Failure Value : Type) := State → Except Failure Value × State

namespace Program

variable {State Failure Event Value Next : Type}

instance : Monad (Program State Failure) where
  pure value state := (.ok value, state)
  bind first next state :=
    match first state with
    | (.error failure, after) => (.error failure, after)
    | (.ok value, after) => next value after

def raise (failure : Failure) : Program State Failure Value := fun state => (.error failure, state)

def get : Program State Failure State := fun state => (.ok state, state)

def modify (change : State → State) : Program State Failure Unit := fun state => (.ok (), change state)

def ofExcept (outcome : Except Failure Value) : Program State Failure Value := fun state => (outcome, state)

def handle (body : Program State Failure Value) (handler : Failure → Option (Program State Failure Value)) :
    Program State Failure Value := fun state =>
  match body state with
  | (.ok value, after) => (.ok value, after)
  | (.error failure, after) =>
      match handler failure with
      | none => (.error failure, after)
      | some recovery => recovery after

/-- Run the cleanup whatever happens; what it raises takes the place of the outcome. -/
def ensure (body : Program State Failure Value) (cleanup : Program State Failure Unit) :
    Program State Failure Value := fun state =>
  match cleanup (body state).2 with
  | (.error failure, after) => (.error failure, after)
  | (.ok _, after) => ((body state).1, after)

variable {first : Program State Failure Value} {next : Value → Program State Failure Next} {state after : State}
  {value : Value} {failure : Failure} {body : Program State Failure Value} {cleanup : Program State Failure Unit}

@[simp] theorem pure_apply : (pure value : Program State Failure Value) state = (.ok value, state) := rfl

@[simp] theorem raise_apply : (raise failure : Program State Failure Value) state = (.error failure, state) := rfl

@[simp] theorem get_apply : (get : Program State Failure State) state = (.ok state, state) := rfl

@[simp] theorem modify_apply {change : State → State} :
    (modify change : Program State Failure Unit) state = (.ok (), change state) := rfl

@[simp] theorem ofExcept_apply {outcome : Except Failure Value} :
    (ofExcept outcome : Program State Failure Value) state = (outcome, state) := rfl

theorem bind_of_ok (returned : first state = (.ok value, after)) : (first >>= next) state = next value after := by
  change (match first state with | (.error failure, after) => _ | (.ok value, after) => _) = _
  rw [returned]

theorem bind_of_error (raised : first state = (.error failure, after)) :
    (first >>= next) state = (.error failure, after) := by
  change (match first state with | (.error failure, after) => _ | (.ok value, after) => _) = _
  rw [raised]

theorem bind_eq_ok {result : Next} {last : State} : (first >>= next) state = (.ok result, last) ↔
    ∃ value after, first state = (.ok value, after) ∧ next value after = (.ok result, last) := by
  constructor
  · intro returned
    cases ran : first state with
    | mk outcome after =>
        cases outcome with
        | error failure =>
            rw [bind_of_error ran] at returned
            cases returned
        | ok value =>
            rw [bind_of_ok ran] at returned
            exact ⟨value, after, rfl, returned⟩
  · rintro ⟨value, after, ran, returned⟩
    rw [bind_of_ok ran, returned]

theorem bind_assoc {Last : Type} {last : Next → Program State Failure Last} :
    (first >>= next) >>= last = first >>= fun value => next value >>= last := by
  funext state
  cases ran : first state with
  | mk outcome after =>
      cases outcome with
      | error failure => rw [bind_of_error (bind_of_error ran), bind_of_error ran]
      | ok value =>
          have whole : (first >>= next) state = next value after := bind_of_ok ran
          rw [bind_of_ok ran]
          cases second : next value after with
          | mk outcome later =>
              cases outcome with
              | error failure => rw [bind_of_error (whole.trans second), bind_of_error second]
              | ok result => rw [bind_of_ok (whole.trans second), bind_of_ok second]

theorem bind_cases : (∃ failure after, first state = (.error failure, after) ∧
      (first >>= next) state = (.error failure, after)) ∨
    ∃ value after, first state = (.ok value, after) ∧ (first >>= next) state = next value after := by
  cases ran : first state with
  | mk outcome after =>
      cases outcome with
      | error failure => exact .inl ⟨failure, after, rfl, bind_of_error ran⟩
      | ok value => exact .inr ⟨value, after, rfl, bind_of_ok ran⟩

theorem ensure_of_ok {outcome : Except Failure Value} {done : Unit} (ran : body state = (outcome, after))
    (cleaned : (cleanup after).1 = .ok done) : (ensure body cleanup state).1 = outcome := by
  unfold ensure
  rw [ran]
  dsimp only
  split
  next raised => cases (congrArg Prod.fst raised).symm.trans cleaned
  · rfl

theorem ensure_of_error {outcome : Except Failure Value} (ran : body state = (outcome, after))
    (raised : (cleanup after).1 = .error failure) : (ensure body cleanup state).1 = .error failure := by
  unfold ensure
  rw [ran]
  dsimp only
  split
  next other => exact congrArg Except.error (Except.error.inj ((congrArg Prod.fst other).symm.trans raised))
  next cleaned => cases (congrArg Prod.fst cleaned).symm.trans raised

theorem ensure_state : (ensure body cleanup state).2 = (cleanup (body state).2).2 := by
  unfold ensure
  split
  next ran => rw [ran]
  next ran => rw [ran]

/-! What a program adds to a log. -/

/-- The program adds one of the scripts, or the beginning of one when it raises. -/
def Sends (log : State → List Event) (scripts : List (List Event)) (program : Program State Failure Value) : Prop :=
  ∀ state, ∃ script ∈ scripts, ∃ sent, sent <+: script ∧ log (program state).2 = log state ++ sent ∧
    ∀ value, (program state).1 = .ok value → sent = script

def sequences (scripts others : List (List Event)) : List (List Event) :=
  scripts.flatMap fun script => others.map (script ++ ·)

section Sends

variable {log : State → List Event} {scripts others : List (List Event)}
  {handler : Failure → Option (Program State Failure Value)}

theorem mem_sequences {whole : List Event} : whole ∈ sequences scripts others ↔
    ∃ script ∈ scripts, ∃ other ∈ others, script ++ other = whole := by
  simp [sequences]

theorem sends_bind (nonempty : others ≠ []) (begins : Sends log scripts first)
    (ends : ∀ value, Sends log others (next value)) : Sends log (sequences scripts others) (first >>= next) := by
  intro state
  obtain ⟨script, member, sent, start, logged, complete⟩ := begins state
  rcases @bind_cases _ _ _ _ first next state with ⟨failure, after, ran, whole⟩ | ⟨value, after, ran, whole⟩
  · rw [ran] at logged
    obtain ⟨other, otherMember⟩ := List.exists_mem_of_ne_nil others nonempty
    refine ⟨script ++ other, mem_sequences.mpr ⟨script, member, other, otherMember, rfl⟩, sent,
      start.trans (List.prefix_append _ _), ?_, ?_⟩
    · rw [whole]
      exact logged
    · intro value returned
      rw [whole] at returned
      cases returned
  · have same : sent = script := complete value (by rw [ran])
    rw [ran] at logged
    obtain ⟨other, otherMember, more, moreStart, moreLogged, moreComplete⟩ := ends value after
    refine ⟨script ++ other, mem_sequences.mpr ⟨script, member, other, otherMember, rfl⟩, sent ++ more, ?_, ?_, ?_⟩
    · rw [same]
      exact (List.prefix_append_right_inj script).mpr moreStart
    · rw [whole, moreLogged, logged, List.append_assoc]
    · intro result returned
      rw [whole] at returned
      rw [same, moreComplete result returned]

def Quiet (log : State → List Event) (program : Program State Failure Value) : Prop :=
  ∀ state, log (program state).2 = log state

theorem Quiet.sends {program : Program State Failure Value} (quiet : Quiet log program) : Sends log [[]] program :=
  fun state => ⟨[], List.mem_singleton.mpr rfl, [], List.prefix_refl _, by rw [quiet state, List.append_nil],
    fun _ _ => rfl⟩

theorem quiet_pure : Quiet log (pure value : Program State Failure Value) := fun _ => rfl

theorem quiet_bind (begins : Quiet log first) (ends : ∀ value, Quiet log (next value)) : Quiet log (first >>= next) := by
  intro state
  have middle := begins state
  rcases @bind_cases _ _ _ _ first next state with ⟨failure, after, ran, whole⟩ | ⟨value, after, ran, whole⟩
  · rw [ran] at middle
    rw [whole]
    exact middle
  · rw [ran] at middle
    rw [whole, ends value after]
    exact middle

theorem sequences_nil_left : sequences [[]] others = others := by
  simp [sequences]

theorem sequences_nil_right : sequences scripts [[]] = scripts := by
  simp [sequences]

theorem sends_bind_quiet (begins : Sends log scripts first) (quiet : ∀ value, Quiet log (next value)) :
    Sends log scripts (first >>= next) := by
  have whole := sends_bind (List.cons_ne_nil [] []) begins fun value => (quiet value).sends
  rwa [sequences_nil_right] at whole

theorem sends_quiet_bind (nonempty : others ≠ []) (quiet : Quiet log first)
    (ends : ∀ value, Sends log others (next value)) : Sends log others (first >>= next) := by
  have whole := sends_bind nonempty quiet.sends ends
  rwa [sequences_nil_left] at whole

theorem Sends.grows {program : Program State Failure Value} (sends : Sends log scripts program) :
    ∃ more, log (program state).2 = log state ++ more := by
  obtain ⟨_, -, more, -, logged, -⟩ := sends state
  exact ⟨more, logged⟩

theorem bind_grows (goes : ∀ value, Sends log others (next value)) :
    ∃ more, log ((first >>= next) state).2 = log (first state).2 ++ more := by
  rcases @bind_cases _ _ _ _ first next state with ⟨failure, after, ran, whole⟩ | ⟨value, after, ran, whole⟩
  · exact ⟨[], by rw [whole, ran, List.append_nil]⟩
  · obtain ⟨more, logged⟩ := @Sends.grows _ _ _ _ after _ _ _ (goes value)
    exact ⟨more, by rw [whole, ran, logged]⟩

theorem handle_log (quiet : ∀ failure recovery, handler failure = some recovery → Quiet log recovery) :
    log (handle body handler state).2 = log (body state).2 := by
  unfold handle
  split
  next ran => rw [ran]
  next failure after ran =>
    rw [ran]
    split
    · rfl
    next recovery found => exact quiet failure recovery found after

theorem sends_mono {more : List (List Event)} {program : Program State Failure Value}
    (within : ∀ script ∈ scripts, script ∈ more) (sends : Sends log scripts program) : Sends log more program := by
  intro state
  obtain ⟨script, member, rest⟩ := sends state
  exact ⟨script, within script member, rest⟩

end Sends

end Program

end Dosm
