import Mathlib.Data.List.Basic

namespace Dosm.Upkeep

universe u v w

/-! Chains of transactions that report what they changed.

A chain stops at the first transaction that fails and keeps what the earlier ones
committed. It is quiet on a state when it changes and reports nothing there. A
chain of transactions that each settle, and that no later one disturbs, is quiet
on the state it leaves.
-/

/-- One transaction: it fails and is rolled back, or yields the state after it and
what it reports. -/
abbrev Transaction (State : Type u) (Report : Type v) (Failure : Type w) :=
  State → Except Failure (State × List Report)

variable {State : Type u} {Report : Type v} {Failure : Type w}

def runAll : List (Transaction State Report Failure) → State → State × Except Failure (List Report)
  | [], state => (state, .ok [])
  | transaction :: rest, state =>
      match transaction state with
      | .error failure => (state, .error failure)
      | .ok (next, report) =>
          let (final, reports) := runAll rest next
          (final, reports.map (report ++ ·))

def Quiet (transaction : Transaction State Report Failure) (state : State) : Prop :=
  transaction state = .ok (state, [])

def Idle (invariant : State → Prop) (transaction : Transaction State Report Failure) : Prop :=
  ∀ state, invariant state → Quiet transaction state

def Settles (invariant : State → Prop) (transaction : Transaction State Report Failure) : Prop :=
  ∀ state after report, invariant state → transaction state = .ok (after, report) → Quiet transaction after

def Spares (invariant : State → Prop) (earlier later : Transaction State Report Failure) : Prop :=
  ∀ state after report, invariant state → later state = .ok (after, report) →
    Quiet earlier state → Quiet earlier after

def Keeps (invariant : State → Prop) (transaction : Transaction State Report Failure) : Prop :=
  ∀ state after report, invariant state → transaction state = .ok (after, report) → invariant after

def Succeeds (invariant : State → Prop) (transaction : Transaction State Report Failure) : Prop :=
  ∀ state, invariant state → ∃ after report, transaction state = .ok (after, report)

variable {invariant : State → Prop} {transaction earlier later : Transaction State Report Failure}
  {transactions first second : List (Transaction State Report Failure)} {state after : State}
  {report : List Report} {failure : Failure}

theorem Idle.same (idle : Idle invariant transaction) (holds : invariant state)
    (done : transaction state = .ok (after, report)) : after = state := by
  have quiet : transaction state = .ok (state, []) := idle state holds
  rw [quiet] at done
  cases done
  rfl

theorem Idle.settles (idle : Idle invariant transaction) : Settles invariant transaction := by
  intro state after report holds done
  rw [idle.same holds done]
  exact idle state holds

theorem Idle.keeps (idle : Idle invariant transaction) : Keeps invariant transaction := by
  intro state after report holds done
  rw [idle.same holds done]
  exact holds

theorem Idle.succeeds (idle : Idle invariant transaction) : Succeeds invariant transaction :=
  fun state holds => ⟨state, [], idle state holds⟩

theorem Idle.mono {stronger : State → Prop} (idle : Idle invariant transaction)
    (implies : ∀ state, stronger state → invariant state) : Idle stronger transaction :=
  fun state holds => idle state (implies state holds)

theorem Idle.spared (idle : Idle invariant earlier) (keeps : Keeps invariant later) :
    Spares invariant earlier later :=
  fun state after report holds done _ => idle after (keeps state after report holds done)

theorem Idle.spares (idle : Idle invariant later) : Spares invariant earlier later := by
  intro state after report holds done quiet
  rw [idle.same holds done]
  exact quiet

theorem runAll_cons_ok (done : transaction state = .ok (after, report)) :
    runAll (transaction :: transactions) state =
      ((runAll transactions after).1, (runAll transactions after).2.map (report ++ ·)) := by
  simp only [runAll, done]

theorem runAll_cons_error (failed : transaction state = .error failure) :
    runAll (transaction :: transactions) state = (state, .error failure) := by
  simp only [runAll, failed]

theorem runAll_quiet (quiet : ∀ transaction ∈ transactions, Quiet transaction state) :
    runAll transactions state = (state, .ok []) := by
  induction transactions with
  | nil => rfl
  | cons transaction rest ih =>
      obtain ⟨here, onward⟩ := List.forall_mem_cons.mp quiet
      rw [runAll_cons_ok here, ih onward]
      rfl

theorem runAll_keeps (keeps : ∀ transaction ∈ transactions, Keeps invariant transaction)
    (holds : invariant state) : invariant (runAll transactions state).1 := by
  induction transactions generalizing state with
  | nil => exact holds
  | cons transaction rest ih =>
      obtain ⟨here, onward⟩ := List.forall_mem_cons.mp keeps
      cases done : transaction state with
      | error failure =>
          rw [runAll_cons_error done]
          exact holds
      | ok result =>
          rw [runAll_cons_ok done]
          exact ih onward (here state result.1 result.2 holds done)

theorem runAll_succeeds (succeeds : ∀ transaction ∈ transactions, Succeeds invariant transaction)
    (keeps : ∀ transaction ∈ transactions, Keeps invariant transaction) (holds : invariant state) :
    ∃ reports, (runAll transactions state).2 = .ok reports := by
  induction transactions generalizing state with
  | nil => exact ⟨[], rfl⟩
  | cons transaction rest ih =>
      obtain ⟨passes, passing⟩ := List.forall_mem_cons.mp succeeds
      obtain ⟨here, onward⟩ := List.forall_mem_cons.mp keeps
      obtain ⟨after, report, done⟩ := passes state holds
      obtain ⟨reports, finished⟩ := ih passing onward (here state after report holds done)
      exact ⟨report ++ reports, by rw [runAll_cons_ok done, finished]; rfl⟩

theorem runAll_stopped (keeps : ∀ transaction ∈ first, Keeps invariant transaction)
    (fails : ∀ state, invariant state → ∃ failure, transaction state = .error failure)
    (holds : invariant state) :
    ∃ failure, (runAll (first ++ transaction :: second) state).2 = .error failure := by
  induction first generalizing state with
  | nil =>
      obtain ⟨failure, failed⟩ := fails state holds
      exact ⟨failure, by rw [List.nil_append, runAll_cons_error failed]⟩
  | cons head rest ih =>
      obtain ⟨here, onward⟩ := List.forall_mem_cons.mp keeps
      rw [List.cons_append]
      cases done : head state with
      | error failure => exact ⟨failure, by rw [runAll_cons_error done]⟩
      | ok result =>
          obtain ⟨failure, stopped⟩ := ih onward (here state result.1 result.2 holds done)
          exact ⟨failure, by rw [runAll_cons_ok done, stopped]; rfl⟩

theorem runAll_spares (spares : ∀ later ∈ transactions, Spares invariant earlier later)
    (keeps : ∀ transaction ∈ transactions, Keeps invariant transaction) (holds : invariant state)
    (quiet : Quiet earlier state) : Quiet earlier (runAll transactions state).1 := by
  induction transactions generalizing state with
  | nil => exact quiet
  | cons transaction rest ih =>
      obtain ⟨sparing, sparingRest⟩ := List.forall_mem_cons.mp spares
      obtain ⟨here, onward⟩ := List.forall_mem_cons.mp keeps
      cases done : transaction state with
      | error failure =>
          rw [runAll_cons_error done]
          exact quiet
      | ok result =>
          rw [runAll_cons_ok done]
          exact ih sparingRest onward (here state result.1 result.2 holds done)
            (sparing state result.1 result.2 holds done quiet)

theorem runAll_settled (settles : ∀ transaction ∈ transactions, Settles invariant transaction)
    (spares : transactions.Pairwise (Spares invariant))
    (keeps : ∀ transaction ∈ transactions, Keeps invariant transaction) (holds : invariant state)
    {reports : List Report} (succeeded : (runAll transactions state).2 = .ok reports) :
    ∀ transaction ∈ transactions, Quiet transaction (runAll transactions state).1 := by
  induction transactions generalizing state reports with
  | nil => exact fun _ member => absurd member List.not_mem_nil
  | cons transaction rest ih =>
      obtain ⟨settled, settling⟩ := List.forall_mem_cons.mp settles
      obtain ⟨spared, sparing⟩ := List.pairwise_cons.mp spares
      obtain ⟨here, onward⟩ := List.forall_mem_cons.mp keeps
      cases done : transaction state with
      | error failure =>
          rw [runAll_cons_error done] at succeeded
          cases succeeded
      | ok result =>
          have next := here state result.1 result.2 holds done
          rw [runAll_cons_ok done] at succeeded ⊢
          cases finished : (runAll rest result.1).2 with
          | error failure =>
              rw [finished] at succeeded
              cases succeeded
          | ok reported =>
              exact List.forall_mem_cons.mpr
                ⟨runAll_spares spared onward next (settled state result.1 result.2 holds done),
                  ih settling sparing onward next finished⟩

theorem pairwise_spares_idle (idle : ∀ transaction ∈ first, Idle invariant transaction)
    (keeps : ∀ transaction ∈ second, Keeps invariant transaction)
    (spares : second.Pairwise (Spares invariant)) : (first ++ second).Pairwise (Spares invariant) := by
  refine List.pairwise_append.mpr ⟨?_, spares, ?_⟩
  · exact List.pairwise_of_forall_mem_list fun earlier member later laterMember =>
      (idle earlier member).spared (idle later laterMember).keeps
  · exact fun earlier member later laterMember => (idle earlier member).spared (keeps later laterMember)

theorem runAll_again (settles : ∀ transaction ∈ transactions, Settles invariant transaction)
    (spares : transactions.Pairwise (Spares invariant))
    (keeps : ∀ transaction ∈ transactions, Keeps invariant transaction) (holds : invariant state)
    {reports : List Report} (succeeded : (runAll transactions state).2 = .ok reports) :
    runAll transactions (runAll transactions state).1 = ((runAll transactions state).1, .ok []) :=
  runAll_quiet (runAll_settled settles spares keeps holds succeeded)

end Dosm.Upkeep
