namespace Dosm

universe u

/-! Threads whose events happen one at a time, in any order between threads. -/

inductive Interleaving {Event : Type u} : List (List Event) → List Event → Prop where
  | done {threads : List (List Event)} (ended : ∀ thread ∈ threads, thread = []) : Interleaving threads []
  | step {before after : List (List Event)} {thread trace : List Event} {event : Event}
      (rest : Interleaving (before ++ thread :: after) trace) :
      Interleaving (before ++ (event :: thread) :: after) (event :: trace)

namespace Interleaving

variable {Event : Type u} {threads : List (List Event)} {thread trace : List Event} {event : Event}

theorem mem_iff (interleaving : Interleaving threads trace) :
    event ∈ trace ↔ ∃ thread ∈ threads, event ∈ thread := by
  induction interleaving with
  | done ended =>
      refine ⟨nofun, ?_⟩
      rintro ⟨thread, listed, member⟩
      rw [ended thread listed] at member
      exact member
  | @step before after thread trace first rest ih =>
      rw [List.mem_cons, ih]
      constructor
      · rintro (rfl | ⟨other, listed, member⟩)
        · exact ⟨event :: thread, List.mem_append_right before List.mem_cons_self, List.mem_cons_self⟩
        · rcases List.mem_append.mp listed with earlier | later
          · exact ⟨other, List.mem_append_left _ earlier, member⟩
          rcases List.mem_cons.mp later with rfl | later
          · exact ⟨first :: other, List.mem_append_right before List.mem_cons_self, List.mem_cons_of_mem first member⟩
          · exact ⟨other, List.mem_append_right before (List.mem_cons_of_mem _ later), member⟩
      · rintro ⟨other, listed, member⟩
        rcases List.mem_append.mp listed with earlier | later
        · exact .inr ⟨other, List.mem_append_left _ earlier, member⟩
        rcases List.mem_cons.mp later with rfl | later
        · rcases List.mem_cons.mp member with same | inside
          · exact .inl same
          · exact .inr ⟨thread, List.mem_append_right before List.mem_cons_self, inside⟩
        · exact .inr ⟨other, List.mem_append_right before (List.mem_cons_of_mem _ later), member⟩

theorem cons_over (interleaving : Interleaving threads trace) : Interleaving ([] :: threads) trace := by
  induction interleaving with
  | done ended =>
      refine .done fun thread listed => ?_
      rcases List.mem_cons.mp listed with rfl | listed
      · rfl
      · exact ended thread listed
  | @step before after thread trace event rest ih =>
      have later : Interleaving (([] :: before) ++ thread :: after) trace := ih
      have stepped : Interleaving (([] :: before) ++ (event :: thread) :: after) (event :: trace) := .step later
      exact stepped

theorem flatten : Interleaving threads threads.flatten := by
  induction threads with
  | nil => exact .done nofun
  | cons thread rest ih =>
      induction thread with
      | nil => exact ih.cons_over
      | cons event later inner =>
          have stepped : Interleaving ([] ++ (event :: later) :: rest) (event :: (later :: rest).flatten) := .step inner
          exact stepped

end Interleaving

end Dosm
