import Dosm.Base.WriteLock

namespace Dosm.WriteLock

/-! What a task does to its sessions, from what it is answered.

A flow is the events of a piece of code with the value that it returns, or none
when it raises. Its specification says how it leaves the sessions: idle, or with
one session that may hold the lock.
-/

structure Flow (α : Type) where
  events : List Event
  result : Option α

namespace Flow

variable {α β : Type}

instance : Monad Flow where
  pure value := ⟨[], some value⟩
  bind first next := match first.result with
    | none => ⟨first.events, none⟩
    | some value => ⟨first.events ++ (next value).events, (next value).result⟩

def emit (event : Event) : Flow Unit := ⟨[event], some ()⟩

def raise : Flow α := ⟨[], none⟩

def write (session : Session) : Flow Unit := emit (.write session)

def flush (session : Session) : Flow Unit := emit (.flush session)

def commit (session : Session) : Flow Unit := emit (.commit session)

def rollback (session : Session) : Flow Unit := emit (.rollback session)

/-- A flush that the database refuses: its transaction is over. -/
def refused (session : Session) : Flow Unit := ⟨[.flush session, .rollback session], some ()⟩

/-- The caller of a secrets backend, and whether the backend stores. -/
def setSecret (stored : Bool) : Flow Unit := ⟨[.setSecret], if stored then some () else none⟩

/-- The loop is given away until there is an answer. -/
def await (answer : Option α) : Flow α := ⟨[.suspend, .resume], answer⟩

/-- An awaited piece of work that a worker thread does. -/
def offload (work : Flow α) : Flow α := ⟨.suspend :: (work.events ++ [.resume]), work.result⟩

/-- Code under a `try` whose handler takes every exception. -/
def orElse (body : Flow α) (handler : Flow α) : Flow α :=
  match body.result with
  | some _ => body
  | none => ⟨body.events ++ handler.events, handler.result⟩

/-- A session that is committed when its block returns and rolled back when it raises. -/
def withSession (session : Session) (body : Flow α) : Flow α :=
  ⟨body.events ++ [if body.result.isSome then .commit session else .rollback session], body.result⟩

def repeat' (body : α → Flow Unit) : List α → Flow Unit
  | [] => pure ()
  | item :: rest => do
      body item
      repeat' body rest

end Flow

def Idle (asleep : Bool) (own : Own) : Prop := own.held = none ∧ own.suspended = asleep

def Writing (asleep : Bool) (session : Session) (own : Own) : Prop :=
  own.Admits session ∧ own.suspended = asleep

def Fit (asleep : Bool) (session : Session) : Prop := asleep = true → ∃ number, session = .worker number

theorem fit_awake {session : Session} : Fit false session := nofun

theorem fit_worker {asleep : Bool} {number : Nat} : Fit asleep (.worker number) := fun _ => ⟨number, rfl⟩

variable {α β : Type} {asleep : Bool} {session : Session} {own after : Own} {event : Event}
  {before middle returned raised : Own → Prop} {flow body handler : Flow α} {next : α → Flow β}

theorem Idle.writing (idle : Idle asleep own) : Writing asleep session own := ⟨.inl idle.1, idle.2⟩

theorem Idle.sound (idle : Idle asleep own) {ahead : List Event} : own.breaks ahead = false := by
  simp [Own.breaks, Own.sleeps, idle.1]

theorem Writing.sound (writing : Writing asleep session own) (fit : Fit asleep session)
    {rest : List Event} (modest : event ≠ .setSecret) : own.breaks (event :: rest) = false := by
  rcases writing with ⟨unheld | held, asleep⟩
  · simp [Own.breaks, Own.sleeps, unheld]
  · have awake : own.sleeps = false := by
      unfold Own.sleeps
      cases state : own.suspended with
      | false => rfl
      | true =>
          obtain ⟨number, rfl⟩ := fit (asleep.symm.trans state)
          rw [held]
          rfl
    simp [Own.breaks, awake, modest]

/-- From `before` the flow keeps the discipline, and ends in `returned` or, by an
exception, in `raised`. -/
def Spec (before : Own → Prop) (flow : Flow α) (returned raised : Own → Prop) : Prop :=
  ∀ own, before own → ∃ after, own.through flow.events = some after ∧
    if flow.result.isSome then returned after else raised after

namespace Spec

variable {weaker : Own → Prop} {value : α}

theorem from_stronger (holds : Spec middle flow returned raised) (stronger : ∀ own, before own → middle own) :
    Spec before flow returned raised := fun own holdsBefore => holds own (stronger own holdsBefore)

theorem to_weaker (holds : Spec before flow middle weaker) (returns : ∀ own, middle own → returned own)
    (raises : ∀ own, weaker own → raised own) : Spec before flow returned raised := by
  intro own start
  obtain ⟨after, passed, ends⟩ := holds own start
  refine ⟨after, passed, ?_⟩
  split at ends
  · rename_i done
    rw [if_pos done]
    exact returns after ends
  · rename_i failed
    rw [if_neg failed]
    exact raises after ends

theorem from_idle (holds : Spec (Writing asleep session) flow returned raised) :
    Spec (Idle asleep) flow returned raised :=
  holds.from_stronger fun _ idle => idle.writing

theorem pure (ends : ∀ own, before own → returned own) :
    Spec before (Pure.pure value : Flow α) returned raised :=
  fun own start => ⟨own, rfl, ends own start⟩

theorem raise (ends : ∀ own, before own → raised own) :
    Spec before (Flow.raise : Flow α) returned raised :=
  fun own start => ⟨own, rfl, ends own start⟩

theorem bind (first : Spec before flow middle raised)
    (rest : ∀ value, Spec middle (next value) returned raised) :
    Spec before (flow >>= next) returned raised := by
  intro own start
  obtain ⟨after, passed, ends⟩ := first own start
  cases answer : flow.result with
  | none =>
      have same : flow >>= next = ⟨flow.events, none⟩ := by simp only [Bind.bind, answer]
      rw [answer] at ends
      rw [same]
      exact ⟨after, passed, ends⟩
  | some value =>
      have same : flow >>= next = ⟨flow.events ++ (next value).events, (next value).result⟩ := by
        simp only [Bind.bind, answer]
      rw [answer] at ends
      obtain ⟨last, passedRest, endsRest⟩ := rest value after ends
      rw [same]
      refine ⟨last, ?_, endsRest⟩
      rw [Own.through_append, passed]
      exact passedRest

theorem orElse (body' : Spec before body returned middle) (handled : Spec middle handler returned raised) :
    Spec before (body.orElse handler) returned raised := by
  intro own start
  obtain ⟨after, passed, ends⟩ := body' own start
  unfold Flow.orElse
  cases answer : body.result with
  | some value =>
      rw [answer] at ends
      refine ⟨after, passed, ?_⟩
      rw [answer]
      exact ends
  | none =>
      rw [answer] at ends
      obtain ⟨last, passedHandler, endsHandler⟩ := handled after ends
      refine ⟨last, ?_, endsHandler⟩
      rw [Own.through_append, passed]
      exact passedHandler

theorem repeat' {items : List α} {body : α → Flow Unit} (each : ∀ item ∈ items, Spec before (body item) before raised) :
    Spec before (Flow.repeat' body items) before raised := by
  induction items with
  | nil => exact pure fun _ holds => holds
  | cons item rest ih =>
      rw [List.forall_mem_cons] at each
      exact bind each.1 fun _ => ih each.2

theorem emit (sound : ∀ own, before own → own.breaks [event] = false)
    (steps : ∀ own, before own → ∃ after, own.step event = some after ∧ returned after) :
    Spec before (Flow.emit event) returned raised := by
  intro own start
  obtain ⟨after, stepped, ends⟩ := steps own start
  refine ⟨after, ?_, ends⟩
  simp only [Flow.emit, Own.through, sound own start, stepped]
  rfl

theorem write (fit : Fit asleep session) :
    Spec (Writing asleep session) (Flow.write session) (Writing asleep session) raised :=
  emit (fun _ writing => writing.sound fit nofun) fun _ writing => ⟨_, rfl, writing⟩

theorem write_idle {other : Session} : Spec (Idle asleep) (Flow.write other) (Idle asleep) raised :=
  emit (fun _ idle => idle.sound) fun _ idle => ⟨_, rfl, idle⟩

theorem flush (fit : Fit asleep session) :
    Spec (Writing asleep session) (Flow.flush session) (Writing asleep session) raised := by
  refine emit (fun _ writing => writing.sound fit nofun) fun own writing => ?_
  simp only [Own.step]
  split
  · rw [if_pos writing.1]
    exact ⟨_, rfl, .inr rfl, writing.2⟩
  · exact ⟨_, rfl, writing⟩

theorem commit (fit : Fit asleep session) :
    Spec (Writing asleep session) (Flow.commit session) (Idle asleep) raised := by
  refine emit (fun _ writing => writing.sound fit nofun) fun own writing => ?_
  simp only [Own.step]
  split
  · rw [if_pos writing.1]
    exact ⟨_, rfl, rfl, writing.2⟩
  · refine ⟨_, rfl, ?_, writing.2⟩
    rcases writing.1 with unheld | held
    · simp [unheld]
    · simp [held]

theorem rollback (fit : Fit asleep session) :
    Spec (Writing asleep session) (Flow.rollback session) (Idle asleep) raised := by
  refine emit (fun _ writing => writing.sound fit nofun) fun own writing => ⟨_, rfl, ?_, writing.2⟩
  rcases writing.1 with unheld | held
  · simp [unheld]
  · simp [held]

theorem refused (fit : Fit asleep session) :
    Spec (Writing asleep session) (Flow.refused session) (Idle asleep) raised :=
  bind (flush fit) fun _ => rollback fit

theorem setSecret {stored : Bool} : Spec (Idle asleep) (Flow.setSecret stored) (Idle asleep) (Idle asleep) := by
  intro own idle
  refine ⟨own, ?_, by split <;> exact idle⟩
  simp only [Flow.setSecret, Own.through, idle.sound, Own.step, if_pos idle.1]
  rfl

theorem offload (work : Spec (Idle true) body (Idle true) (Idle true)) :
    Spec (Idle false) (Flow.offload body) (Idle false) (Idle false) := by
  rintro own ⟨unheld, awake⟩
  obtain ⟨after, passed, ends⟩ := work { own with suspended := true } ⟨unheld, rfl⟩
  have idle : Idle true after := by
    split at ends <;> exact ends
  refine ⟨{ after with suspended := false }, ?_, by split <;> exact ⟨idle.1, rfl⟩⟩
  have start : Idle false own := ⟨unheld, awake⟩
  simp only [Flow.offload, Own.through, start.sound, Own.step, awake]
  have resumed : after.through [.resume] = some { after with suspended := false } := by
    simp only [Own.through, idle.sound, Own.step, idle.2]
    rfl
  have whole := @Own.through_append { own with suspended := true } body.events [.resume]
  rw [passed] at whole
  exact whole.trans resumed

theorem await {answer : Option α} : Spec (Idle false) (Flow.await answer) (Idle false) (Idle false) := by
  have silent : Spec (Idle true) (⟨[], answer⟩ : Flow α) (Idle true) (Idle true) :=
    fun own idle => ⟨own, rfl, by split <;> exact idle⟩
  exact offload silent

theorem withSession (fit : Fit asleep session)
    (block : Spec before body (Writing asleep session) (Writing asleep session)) :
    Spec before (Flow.withSession session body) (Idle asleep) (Idle asleep) := by
  intro own start
  obtain ⟨after, passed, ends⟩ := block own start
  have writing : Writing asleep session after := by
    split at ends <;> exact ends
  cases answer : body.result with
  | none =>
      have rolledBack : Spec _ _ (Idle asleep) (Idle asleep) := rollback fit
      obtain ⟨last, closed, idle⟩ := rolledBack after writing
      refine ⟨last, ?_, by split <;> exact idle⟩
      simp only [Flow.withSession, answer]
      rw [Own.through_append, passed]
      exact closed
  | some value =>
      have committed : Spec _ _ (Idle asleep) (Idle asleep) := commit fit
      obtain ⟨last, closed, idle⟩ := committed after writing
      refine ⟨last, ?_, by split <;> exact idle⟩
      simp only [Flow.withSession, answer]
      rw [Own.through_append, passed]
      exact closed

end Spec

def Doomed (before : Own → Prop) (flow : Flow α) : Prop :=
  ∀ own, before own → ∀ rest, own.disciplined (flow.events ++ rest) = false

namespace Doomed

variable {value : α} {items : List α} {each : α → Flow Unit}

theorem bind (doomed : Doomed before flow) : Doomed before (flow >>= next) := by
  intro own start rest
  cases answer : flow.result with
  | none =>
      have same : (flow >>= next).events = flow.events := by simp only [Bind.bind, answer]
      rw [same]
      exact doomed own start rest
  | some value =>
      have same : (flow >>= next).events = flow.events ++ (next value).events := by
        simp only [Bind.bind, answer]
      rw [same, List.append_assoc]
      exact doomed own start _

theorem bind_after (first : Spec before flow middle middle) (answer : flow.result = some value)
    (doomed : Doomed middle (next value)) : Doomed before (flow >>= next) := by
  intro own start rest
  obtain ⟨after, passed, ends⟩ := first own start
  rw [answer] at ends
  have same : (flow >>= next).events = flow.events ++ (next value).events := by
    simp only [Bind.bind, answer]
  rw [same, List.append_assoc, Own.disciplined_append passed]
  exact doomed after ends rest

theorem orElse (doomed : Doomed before body) : Doomed before (body.orElse handler) := by
  intro own start rest
  unfold Flow.orElse
  split
  · exact doomed own start rest
  · simp only [List.append_assoc]
    exact doomed own start _

theorem withSession (doomed : Doomed before body) : Doomed before (Flow.withSession session body) := by
  intro own start rest
  simp only [Flow.withSession, List.append_assoc]
  exact doomed own start _

theorem repeat' (holds : ∃ item ∈ items, Doomed before (each item))
    (others : ∀ item ∈ items, ¬ Doomed before (each item) →
      Spec before (each item) before before ∧ (each item).result = some ()) :
    Doomed before (Flow.repeat' each items) := by
  induction items with
  | nil =>
      obtain ⟨item, listed, -⟩ := holds
      cases listed
  | cons item later ih =>
      by_cases now : Doomed before (each item)
      · exact now.bind
      · obtain ⟨quiet, returns⟩ := others item List.mem_cons_self now
        refine bind_after quiet returns (ih ?_ fun item listed => others item (List.mem_cons_of_mem _ listed))
        obtain ⟨doomed, listed, breaks⟩ := holds
        rcases List.mem_cons.mp listed with rfl | listed
        · exact absurd breaks now
        · exact ⟨doomed, listed, breaks⟩

theorem flushed_await {number : Nat} {answer : Option α} : Doomed (Idle false) (do
    Flow.write (.task number)
    Flow.flush (.task number)
    Flow.await answer : Flow α) := by
  intro own idle rest
  simp [Flow.write, Flow.flush, Flow.emit, Flow.await, Bind.bind, Own.disciplined, Own.step, Own.breaks,
    Own.sleeps, Own.Admits, Own.clean, idle.1, idle.2]

theorem handed_over {number : Nat} {later : Flow α} : Doomed (Idle false) (Flow.offload (do
    Flow.write (.task number)
    Flow.flush (.task number)
    later : Flow α)) := by
  intro own idle rest
  have order : own.disciplined ((Flow.offload (do
      Flow.write (.task number)
      Flow.flush (.task number)
      later : Flow α)).events ++ rest) =
    own.disciplined (.suspend :: .write (.task number) :: .flush (.task number) ::
      (later.events ++ [.resume] ++ rest)) := by
    simp [Flow.offload, Flow.write, Flow.flush, Flow.emit, Bind.bind]
  rw [order]
  simp [Own.disciplined, Own.step, Own.breaks, Own.sleeps, Own.Admits, Own.clean, idle.1, idle.2,
    Own.disciplined_of_sleeps]

end Doomed

end Dosm.WriteLock
