namespace Dosm.Checks

universe u v

/-! Chains of checks: what a chain that succeeds has passed. -/

variable {Failure : Type u} {First Second : Type v} {check : Except Failure First}
  {next : First → Except Failure Second} {result : Second} {failure : Failure}

theorem bind_ok (passed : (check >>= next) = .ok result) :
    ∃ value, check = .ok value ∧ next value = .ok result := by
  cases check with
  | error failure => cases passed
  | ok value => exact ⟨value, rfl, passed⟩

theorem guard_ok {condition : Prop} [Decidable condition] {rest : Except Failure Second}
    (passed : (if condition then throw failure else rest) = .ok result) :
    ¬ condition ∧ rest = .ok result := by
  split at passed
  · cases passed
  · exact ⟨‹_›, passed⟩

theorem require_ok {condition : Prop} [Decidable condition] {rest : Except Failure Second}
    (passed : (if condition then rest else throw failure) = .ok result) :
    condition ∧ rest = .ok result := by
  split at passed
  · exact ⟨‹_›, passed⟩
  · cases passed

end Dosm.Checks
