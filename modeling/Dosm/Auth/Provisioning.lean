import Dosm.Auth.Accounts

namespace Dosm.Auth

open Models Python

/-! Which row a sign-in through Okta writes.

A subject that has a row keeps it. Another gets a new one, under the preferred name
or, where that is taken, under the name with the end of the subject after it.
-/

namespace Accounts

variable (state : Accounts)

/-- `provision_user`, whose caller refuses the users that are not active. -/
def provision (identity : Identity) (tenant : Int) (role : Role) : Except Refusal Accounts :=
  match state.userBySub identity.sub with
  | some user =>
      let change := signedIn identity tenant role
      .ok { state with users := state.users.modify user.id change (signedIn_id identity tenant role) }
  | none =>
      let username := state.uniqueUsername identity.username identity.sub
      if state.usernameTaken username then .error .exception
      else .ok { state with users := state.users.insert (newUser identity username tenant role) (newUser_id identity username tenant role) }

end Accounts

def Identity.base (identity : Identity) : String :=
  let given := strip (if identity.username = "" then (if identity.sub = "" then "user" else identity.sub) else identity.username)
  if given = "" then "user" else given

/-- The name with the last six characters of the subject. -/
def Identity.suffixed (identity : Identity) : String :=
  identity.base ++ "-" ++ String.ofList (identity.sub.toList.drop (identity.sub.length - 6))

def Accounts.Free (state : Accounts) (username : String) : Prop := ∀ row ∈ state.users.rows, row.username ≠ username

/-- The subject's one row is updated, or a row with a name of its own is added; no other
row changes. -/
def ProvisionsOwn (state : Accounts) (identity : Identity) (tenant : Int) (role : Role) : Prop :=
  ∃ after, state.provision identity tenant role = .ok after ∧
    (∀ row ∈ state.users.rows, row.oktaSub ≠ some identity.sub → row ∈ after.users.rows) ∧
    ((∃ user ∈ state.users.rows, user.oktaSub = some identity.sub ∧
        (∀ row ∈ state.users.rows, row.oktaSub = some identity.sub → row = user) ∧
        after.users.rows = state.users.rows.map fun row =>
          if row.id = user.id then Accounts.signedIn identity tenant role row else row) ∨
      ∃ user, state.Free user.username ∧ user.oktaSub = some identity.sub ∧
        after.users.rows = state.users.rows ++ [user])

section Provisioning

variable {state : Accounts} {identity : Identity} {tenant : Int} {role : Role} {username : String} {user : User}

theorem userBySub_some (found : state.userBySub identity.sub = some user) :
    user ∈ state.users.rows ∧ user.oktaSub = some identity.sub :=
  ⟨List.mem_of_find?_eq_some found, by simpa using List.find?_some found⟩

theorem userBySub_none_iff : state.userBySub identity.sub = none ↔
    ∀ row ∈ state.users.rows, row.oktaSub ≠ some identity.sub := by
  simp [Accounts.userBySub]

theorem usernameTaken_iff : state.usernameTaken username = true ↔ ¬ state.Free username := by
  simp [Accounts.usernameTaken, Accounts.Free]

theorem uniqueUsername_new (absent : ∀ row ∈ state.users.rows, row.oktaSub ≠ some identity.sub) :
    (state.Free identity.base ∧ state.uniqueUsername identity.username identity.sub = identity.base) ∨
      (¬ state.Free identity.base ∧ state.uniqueUsername identity.username identity.sub = identity.suffixed) := by
  cases found : state.users.rows.find? fun user => user.username = identity.base with
  | none =>
      left
      refine ⟨by simpa [Accounts.Free] using found, ?_⟩
      delta Identity.base at found
      dsimp only at found
      simp only [Accounts.uniqueUsername, found]
      rfl
  | some existing =>
      have member := List.mem_of_find?_eq_some found
      have named : existing.username = identity.base := by simpa using List.find?_some found
      right
      refine ⟨fun free => free existing member named, ?_⟩
      delta Identity.base at found
      dsimp only at found
      simp only [Accounts.uniqueUsername, found]
      exact if_neg (absent existing member)

theorem provision_new_iff (absent : ∀ row ∈ state.users.rows, row.oktaSub ≠ some identity.sub) :
    ProvisionsOwn state identity tenant role ↔ state.Free identity.base ∨ state.Free identity.suffixed := by
  have unfound := userBySub_none_iff.mpr absent
  have chosenFree : state.Free (state.uniqueUsername identity.username identity.sub) ↔
      state.Free identity.base ∨ state.Free identity.suffixed := by
    rcases uniqueUsername_new absent with ⟨free, chosen⟩ | ⟨taken, chosen⟩
    · rw [chosen]
      simp [free]
    · rw [chosen]
      simp [taken]
  rw [← chosenFree]
  constructor
  · rintro ⟨after, provisioned, _⟩
    simp only [Accounts.provision, unfound] at provisioned
    by_contra taken
    rw [if_pos (usernameTaken_iff.mpr taken)] at provisioned
    cases provisioned
  · intro free
    let make := Accounts.newUser identity (state.uniqueUsername identity.username identity.sub) tenant role
    have inserted : state.provision identity tenant role = .ok { state with users := state.users.insert make } := by
      simp only [Accounts.provision, unfound]
      rw [if_neg fun taken => usernameTaken_iff.mp taken free]
    exact ⟨_, inserted, fun row member _ => List.mem_append_left _ member,
      .inr ⟨make state.users.fresh, free, rfl, rfl⟩⟩

theorem provision_known (found : state.userBySub identity.sub = some user)
    (subs : ∀ row ∈ state.users.rows, row.oktaSub = some identity.sub → row = user) :
    ProvisionsOwn state identity tenant role := by
  obtain ⟨member, own⟩ := userBySub_some found
  refine ⟨_, by simp only [Accounts.provision, found]; rfl, fun row listed other => ?_, .inl ⟨user, member, own, subs, rfl⟩⟩
  have distinct : row.id ≠ user.id := by
    intro same
    have equal := Table.eq_of_key listed member same
    exact other (equal ▸ own)
  exact List.mem_map.mpr ⟨row, listed, if_neg distinct⟩

/-- A sign-in writes its own row exactly when the subject has one or one of the two
names is free. -/
theorem provisions_own_iff
    (subs : ∀ first ∈ state.users.rows, ∀ second ∈ state.users.rows, first.oktaSub.isSome →
      first.oktaSub = second.oktaSub → first = second) :
    ProvisionsOwn state identity tenant role ↔
      (∃ row ∈ state.users.rows, row.oktaSub = some identity.sub) ∨ state.Free identity.base ∨
        state.Free identity.suffixed := by
  cases found : state.userBySub identity.sub with
  | none =>
      have absent := userBySub_none_iff.mp found
      rw [provision_new_iff absent]
      exact (or_iff_right fun ⟨row, member, own⟩ => absent row member own).symm
  | some user =>
      obtain ⟨member, own⟩ := userBySub_some found
      apply iff_of_true
      · apply provision_known found
        intro row listed same
        exact subs row listed user member (by rw [same]; rfl) (same.trans own.symm)
      · exact .inl ⟨user, member, own⟩

end Provisioning

/-! Two users whose names a third subject would be given. -/

def annRow : User where
  id := 1
  username := "ann"
  role := .operator
  tenantId := some 1
  roleLocked := false
  isActive := true
  oktaSub := none
  email := none
  displayName := none

def annAndNamesake : Accounts where
  users := ⟨[annRow, { annRow with id := 2, username := "ann-cdefgh", oktaSub := some "00u1cdefgh" }], by decide⟩
  tenants := .empty
  inactive := []
  mappings := .empty
  defaultRole := "viewer"

def thirdAnn : Identity where
  sub := "00u2cdefgh"
  email := none
  username := "ann"
  displayName := none
  groups := .none

theorem provisions_own_namesake : ProvisionsOwn annAndNamesake { thirdAnn with sub := "00u1cdefgh" } 1 .viewer :=
  (provisions_own_iff (by decide)).mpr (.inl ⟨_, List.mem_cons_of_mem _ List.mem_cons_self, rfl⟩)

theorem third_namesake_fails : annAndNamesake.users.Distinct User.username ∧
    annAndNamesake.provision thirdAnn 1 .viewer = .error .exception ∧
    ¬ ProvisionsOwn annAndNamesake thirdAnn 1 .viewer := by
  have fails : annAndNamesake.provision thirdAnn 1 .viewer = .error .exception := by rfl
  refine ⟨by unfold Table.Distinct; decide, fails, fun ⟨after, provisioned, _⟩ => ?_⟩
  rw [fails] at provisioned
  cases provisioned

end Dosm.Auth
