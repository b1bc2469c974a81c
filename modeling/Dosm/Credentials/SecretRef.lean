import Dosm.Base.Transition
import Dosm.Agent.Credentials

namespace Dosm.Credentials.SecretRef

open Models Python Secrets Agent Web Transition Checks

/-! Which credential a secret path belongs to.

Paths are made from a lossy slug of the name and never change afterwards, so
nothing but luck keeps a new path apart from the old ones. What the backend
holds for a credential is safe as long as that luck lasts: the results cover
the runs in which no accepted creation meets a path already in use.
-/

inductive Operation where
  | create (caller : Caller) (form : CredentialForm) (backendUp : Bool)
  | createDynamic (caller : Caller) (name : String)
  | rename (caller : Caller) (credId : Int) (newName : String)
  | edit (caller : Caller) (credId : Int) (form : CredentialForm) (backendUp : Bool)
  | delete (caller : Caller) (credId : Int)
  | setMine (caller : Caller) (credId : Int) (material : String)
  | clearMine (caller : Caller) (credId : Int)
  | assignOrg (caller : Caller) (credId : Int) (orgUnitId : Option Int)
  | agentCreate (tid : Option Int) (args : Args) (backendUp : Bool)
  | agentUpdate (tid : Option Int) (args : Args) (backendUp : Bool)
  | agentDelete (tid : Option Int) (args : Args) (backendUp : Bool)

/-- The form without a path of the user's own. -/
def automatic (form : CredentialForm) : CredentialForm := { form with secretRef := "" }

def perform (world : World) : Operation → World
  | .create caller form backendUp => (credentialsCreate world caller (automatic form) backendUp).1
  | .createDynamic caller name => (myCredentialsNew world caller name).1
  | .rename caller credId newName => (credentialsRename world caller credId newName).1
  | .edit caller credId form backendUp => (credentialsUpdate world caller credId form backendUp).1
  | .delete caller credId => (credentialsDelete world caller credId).1
  | .setMine caller credId material => (myCredentialsSet world caller credId material).1
  | .clearMine caller credId => (myCredentialsClear world caller credId).1
  | .assignOrg caller credId orgUnitId => (credentialsAssignOrg world caller credId orgUnitId).1
  | .agentCreate tid args backendUp => (createCredentialRunner world tid args backendUp).world
  | .agentUpdate tid args backendUp => (updateCredentialRunner world tid args backendUp).world
  | .agentDelete tid args backendUp => (deleteCredentialRunner world tid args backendUp).world

def credentialSystem : Machine World Operation where
  initial world := world.db.credentials.rows = []
  step world operation := some (perform world operation)

def accepted {Failure : Type} (db : Database) (draft : Except Failure Credential) : Option Credential :=
  match draft with
  | .error _ => none
  | .ok draft => if (integrityError db draft none).isNone then some draft else none

def added (world : World) : Operation → Option Credential
  | .create caller form _ => accepted world.db (createDraft world.db caller (automatic form))
  | .createDynamic caller name => accepted world.db (dynamicDraft world.db caller name)
  | .agentCreate tid args _ =>
      match credentialArgs args with
      | .error _ => none
      | .ok given => accepted world.db (agentDraft world.db tid given)
  | _ => none

/-- The existing row an operation is about. -/
def subject (world : World) : Operation → Option Int
  | .rename _ credId _ | .edit _ credId _ _ | .delete _ credId | .setMine _ credId _
  | .clearMine _ credId | .assignOrg _ credId _ => some credId
  | .agentUpdate tid args _ | .agentDelete tid args _ =>
      match args.text "name" with
      | .error _ => none
      | .ok name =>
          match credentialNamed world.db tid name with
          | .ok (some cred) => some cred.id
          | _ => none
  | _ => none

/-- No existing credential has the path the new row gets. -/
def FreshRef (world : World) (operation : Operation) : Prop :=
  ∀ draft, added world operation = some draft →
    ∀ cred ∈ world.db.credentials.rows, cred.secretRef ≠ draft.secretRef

instance (world : World) (operation : Operation) : Decidable (FreshRef world operation) :=
  match adds : added world operation with
  | none => isTrue fun draft same => by cases adds.symm.trans same
  | some new =>
      decidable_of_iff (∀ cred ∈ world.db.credentials.rows, cred.secretRef ≠ new.secretRef) <| by
        constructor
        · intro fresh draft same
          cases Option.some.inj (adds.symm.trans same)
          exact fresh
        · exact fun fresh => fresh new adds

/-- The paths under which the backend holds material of a credential. -/
def PathOf (cred : Credential) (path : String) : Prop :=
  path = cred.secretRef ∨ ∃ userId, path = userPath cred userId

structure Effect (new : Option Credential) (about : Option Int) (before after : World) : Prop where
  rows : ∀ cred ∈ after.db.credentials.rows,
    (∃ old ∈ before.db.credentials.rows, old.id = cred.id ∧ old.secretRef = cred.secretRef) ∨
    ∃ draft, new = some draft ∧ cred.id = before.db.credentials.fresh ∧
      cred.secretRef = draft.secretRef
  secrets : ∀ path, after.secrets.lookup path = before.secrets.lookup path ∨
    (∃ draft, new = some draft ∧ path = draft.secretRef) ∨
    ∃ cred ∈ before.db.credentials.rows, about = some cred.id ∧ PathOf cred path

section Effects

variable {new : Option Credential} {about : Option Int} {before after : World}
  {cred draft : Credential} {path value : String}

theorem Effect.refl : Effect new about before before where
  rows cred member := .inl ⟨cred, member, rfl, rfl⟩
  secrets _ := .inl rfl

theorem Effect.of_secrets (effect : Effect new about before after)
    {secrets : Backend} (kept : ∀ path, secrets.lookup path = after.secrets.lookup path ∨
      (∃ draft, new = some draft ∧ path = draft.secretRef) ∨
      ∃ cred ∈ before.db.credentials.rows, about = some cred.id ∧ PathOf cred path) :
    Effect new about before { after with secrets } where
  rows := effect.rows
  secrets path := by
    rcases kept path with same | allowed
    · exact (effect.secrets path).imp_left same.trans
    · exact .inr allowed

theorem lookup_insert_or {secrets : Backend} (other : String) :
    (secrets.insert path value).lookup other = secrets.lookup other ∨ other = path := by
  by_cases same : other = path
  · exact .inr same
  · exact .inl (AList.lookup_insert_ne same)

theorem lookup_erase_or {secrets : Backend} (other : String) :
    (secrets.erase path).lookup other = secrets.lookup other ∨ other = path := by
  by_cases same : other = path
  · exact .inr same
  · exact .inl (AList.lookup_erase_ne same)

theorem Effect.setSecret {backendUp : Bool} (effect : Effect new about before after)
    (allowed : (∃ draft, new = some draft ∧ path = draft.secretRef) ∨
      ∃ cred ∈ before.db.credentials.rows, about = some cred.id ∧ PathOf cred path) :
    Effect new about before (setSecret after backendUp path value) := by
  unfold Credentials.setSecret
  split
  · refine effect.of_secrets fun other => (lookup_insert_or other).imp_right ?_
    rintro rfl
    exact allowed
  · exact effect

theorem Effect.eraseSecret (effect : Effect new about before after)
    (allowed : ∃ cred ∈ before.db.credentials.rows, about = some cred.id ∧ PathOf cred path) :
    Effect new about before { after with secrets := after.secrets.erase path } := by
  refine effect.of_secrets fun other => (lookup_erase_or other).imp_right ?_
  rintro rfl
  exact .inr allowed

theorem effect_insert {db : Database} (inserted : addCredential before.db draft = .ok db) :
    Effect (some draft) about before { before with db } where
  rows cred member := by
    unfold addCredential at inserted
    split at inserted
    · cases inserted
    · cases inserted
      rcases Table.mem_insert.mp member with old | rfl
      · exact .inl ⟨cred, old, rfl, rfl⟩
      · exact .inr ⟨draft, rfl, rfl, rfl⟩
  secrets _ := .inl rfl

theorem accepted_of_add {Failure : Type} {db after : Database} {checked : Except Failure Credential}
    (drafted : checked = .ok draft) (inserted : addCredential db draft = .ok after) :
    accepted db checked = some draft := by
  subst drafted
  unfold addCredential at inserted
  split at inserted
  · cases inserted
  · rename_i sound
    simp [accepted, sound]

theorem effect_modify {id : Int} {change : Credential → Credential}
    (modified : after.db.credentials.rows =
      before.db.credentials.rows.map fun row => if key row = id then change row else row)
    (same : ∀ row, row.id = (change row).id ∧ row.secretRef = (change row).secretRef)
    (sameSecrets : after.secrets = before.secrets) : Effect new about before after where
  rows cred member := by
    rw [modified] at member
    obtain ⟨old, oldMember, rfl⟩ := List.mem_map.mp member
    refine .inl ⟨old, oldMember, ?_⟩
    split
    · exact same old
    · exact ⟨rfl, rfl⟩
  secrets path := .inl (by rw [sameSecrets])

theorem effect_drop {id : Int} :
    Effect new about before { before with db := dropCredential before.db id } where
  rows cred member := .inl ⟨cred, (Table.mem_remove.mp member).1, rfl, rfl⟩
  secrets _ := .inl rfl

end Effects

/-! One effect lemma for each operation. -/

section Operations

variable {world : World} {caller : Caller} {credId : Int} {cred : Credential} {backendUp : Bool}
  {tid : Option Int} {args : Args}

theorem create_effect {form : CredentialForm} :
    Effect (accepted world.db (createDraft world.db caller form)) none world
      (credentialsCreate world caller form backendUp).1 := by
  unfold credentialsCreate
  cases drafted : createDraft world.db caller form with
  | error reply => exact .refl
  | ok draft =>
      cases inserted : addCredential world.db draft with
      | error message =>
          simp only [inserted]
          exact .refl
      | ok db =>
          simp only [inserted, accepted_of_add rfl inserted]
          have effect : Effect (some draft) none world { world with db } := effect_insert inserted
          split
          · exact effect.setSecret (.inl ⟨draft, rfl, rfl⟩)
          · exact effect

theorem createDynamic_effect {name : String} :
    Effect (accepted world.db (dynamicDraft world.db caller name)) none world
      (myCredentialsNew world caller name).1 := by
  unfold myCredentialsNew
  cases drafted : dynamicDraft world.db caller name with
  | error reply => exact .refl
  | ok draft =>
      cases inserted : addCredential world.db draft with
      | error message =>
          simp only [inserted]
          exact .refl
      | ok db =>
          simp only [inserted, accepted_of_add rfl inserted]
          exact effect_insert inserted

theorem rename_effect {newName : String} :
    Effect none (some credId) world (credentialsRename world caller credId newName).1 := by
  unfold credentialsRename
  simp only []
  split
  · exact .refl
  · split
    · exact .refl
    · split
      · exact .refl
      · split
        · exact .refl
        · exact effect_modify rfl (fun _ => ⟨rfl, rfl⟩) rfl

theorem edit_effect {form : CredentialForm} :
    Effect none (some credId) world (credentialsUpdate world caller credId form backendUp).1 := by
  unfold credentialsUpdate
  simp only []
  split
  · exact .refl
  · rename_i cred checked
    obtain ⟨member, same⟩ := checked_some checked
    split
    · exact .refl
    · split
      · exact .refl
      · split
        · refine Effect.setSecret (effect_modify rfl (fun _ => ⟨rfl, rfl⟩) rfl) ?_
          exact .inr ⟨cred, member, by rw [same], .inl rfl⟩
        · exact effect_modify rfl (fun _ => ⟨rfl, rfl⟩) rfl

theorem delete_effect :
    Effect none (some credId) world (credentialsDelete world caller credId).1 := by
  unfold credentialsDelete
  simp only []
  split
  · exact .refl
  · split
    · exact .refl
    · split
      · exact .refl
      · exact effect_drop

theorem dynamicCredential_some (found : dynamicCredential world.db caller credId = .ok cred) :
    cred ∈ world.db.credentials.rows ∧ cred.id = credId := by
  unfold dynamicCredential at found
  cases visible : visibleCredential world.db caller credId with
  | error reply =>
      rw [visible] at found
      cases found
  | ok row =>
      have kept : (if row.kind = .dynamic then pure row else throw notFound :
          Except Reply Credential) = .ok cred := by
        rw [visible] at found
        exact found
      split at kept
      · cases kept
        exact visibleCredential_some visible
      · cases kept

theorem setMine_effect {material : String} :
    Effect none (some credId) world (myCredentialsSet world caller credId material).1 := by
  unfold myCredentialsSet
  split
  · exact .refl
  · rename_i cred found
    obtain ⟨member, same⟩ := dynamicCredential_some found
    refine Effect.refl.of_secrets fun other => (lookup_insert_or other).imp_right ?_
    rintro rfl
    exact .inr ⟨cred, member, by rw [same], .inr ⟨caller.userId, rfl⟩⟩

theorem clearMine_effect :
    Effect none (some credId) world (myCredentialsClear world caller credId).1 := by
  unfold myCredentialsClear
  split
  · exact .refl
  · rename_i cred found
    obtain ⟨member, same⟩ := dynamicCredential_some found
    exact Effect.refl.eraseSecret ⟨cred, member, by rw [same], .inr ⟨caller.userId, rfl⟩⟩

theorem assignOrg_effect {orgUnitId : Option Int} :
    Effect none (some credId) world (credentialsAssignOrg world caller credId orgUnitId).1 := by
  unfold credentialsAssignOrg
  simp only []
  split
  · exact .refl
  · split
    · exact effect_modify rfl (fun _ => ⟨rfl, rfl⟩) rfl
    · exact .refl

theorem agentCreate_effect {given : CredentialArgs} (parsed : credentialArgs args = .ok given) :
    Effect (accepted world.db (agentDraft world.db tid given)) none world
      (createCredentialRunner world tid args backendUp).world := by
  unfold createCredentialRunner
  split
  · exact .refl
  · simp only [parsed]
    cases drafted : agentDraft world.db tid given with
    | error summary => exact .refl
    | ok draft =>
        cases inserted : addCredential world.db draft with
        | error message =>
            simp only [inserted]
            exact .refl
        | ok db =>
            simp only [inserted, accepted_of_add rfl inserted]
            have effect : Effect (some draft) none world { world with db } := effect_insert inserted
            split
            · exact effect.setSecret (.inl ⟨draft, rfl, rfl⟩)
            · exact effect.setSecret (.inl ⟨draft, rfl, rfl⟩)

theorem agentCreate_raised {raised : Raised} (failed : credentialArgs args = .error raised) :
    (createCredentialRunner world tid args backendUp).world = world := by
  unfold createCredentialRunner
  split
  · rfl
  · simp only [failed, Run.raise]

theorem agentUpdate_effect : Effect none (subject world (.agentUpdate tid args backendUp)) world
    (updateCredentialRunner world tid args backendUp).world := by
  unfold updateCredentialRunner Run.withText
  cases read : args.text "name" with
  | error raised => exact .refl
  | ok name =>
      simp only []
      split
      · exact .refl
      · split
        · split
          · exact .refl
          · exact .refl
          · rename_i cred named
            have member := credentialNamed_some named
            have about : subject world (.agentUpdate tid args backendUp) = some cred.id := by
              simp only [subject, read, named]
            split
            · split
              · exact effect_modify rfl (fun _ => ⟨rfl, rfl⟩) rfl
              · split
                · refine Effect.setSecret (effect_modify rfl (fun _ => ⟨rfl, rfl⟩) rfl) ?_
                  exact .inr ⟨cred, member, about, .inl rfl⟩
                · exact effect_modify rfl (fun _ => ⟨rfl, rfl⟩) rfl
            · exact .refl
            · exact .refl
        · exact .refl

theorem agentDelete_effect : Effect none (subject world (.agentDelete tid args backendUp)) world
    (deleteCredentialRunner world tid args backendUp).world := by
  unfold deleteCredentialRunner Run.withText
  cases read : args.text "name" with
  | error raised => exact .refl
  | ok name =>
      simp only []
      split
      · exact .refl
      · split
        · exact .refl
        · exact .refl
        · rename_i cred named
          have member := credentialNamed_some named
          have about : subject world (.agentDelete tid args backendUp) = some cred.id := by
            simp only [subject, read, named]
          cases backendUp with
          | false => exact effect_drop
          | true =>
              exact Effect.eraseSecret effect_drop ⟨cred, member, about, .inl rfl⟩

end Operations

theorem perform_effect (world : World) (operation : Operation) :
    Effect (added world operation) (subject world operation) world (perform world operation) := by
  cases operation with
  | create caller form backendUp => exact create_effect
  | createDynamic caller name => exact createDynamic_effect
  | rename caller credId newName => exact rename_effect
  | edit caller credId form backendUp => exact edit_effect
  | delete caller credId => exact delete_effect
  | setMine caller credId material => exact setMine_effect
  | clearMine caller credId => exact clearMine_effect
  | assignOrg caller credId orgUnitId => exact assignOrg_effect
  | agentCreate tid args backendUp =>
      cases parsed : credentialArgs args with
      | error raised =>
          rw [perform, agentCreate_raised parsed]
          exact .refl
      | ok given =>
          simp only [added, parsed]
          exact agentCreate_effect parsed
  | agentUpdate tid args backendUp => exact agentUpdate_effect
  | agentDelete tid args backendUp => exact agentDelete_effect

/-! The paths of new rows are automatic. -/

theorem accepted_some {Failure : Type} {db : Database} {checked : Except Failure Credential}
    {draft : Credential} (found : accepted db checked = some draft) : checked = .ok draft := by
  unfold accepted at found
  split at found
  · cases found
  · split at found
    · cases found
      rfl
    · cases found

theorem createDraft_automatic {db : Database} {caller : Caller} {form : CredentialForm}
    {draft : Credential} (drafted : createDraft db caller (automatic form) = .ok draft) :
    Automatic draft.secretRef := by
  have blank : strip (automatic form).secretRef = "" := (by decide : strip "" = "")
  obtain ⟨_, _, drafted⟩ := bind_ok drafted
  obtain ⟨tenant, _, drafted⟩ := bind_ok drafted
  simp only [blank, ↓reduceIte] at drafted
  split at drafted
  · cases drafted
  · obtain ⟨_, built⟩ := guard_ok drafted
    cases built
    exact automatic_auto

theorem dynamicDraft_automatic {db : Database} {caller : Caller} {name : String}
    {draft : Credential} (drafted : dynamicDraft db caller name = .ok draft) :
    Automatic draft.secretRef := by
  obtain ⟨_, _, drafted⟩ := bind_ok drafted
  obtain ⟨tenant, _, drafted⟩ := bind_ok drafted
  obtain ⟨_, built⟩ := guard_ok drafted
  cases built
  exact automatic_auto

theorem agentDraft_automatic {db : Database} {tid : Option Int} {given : CredentialArgs}
    {draft : Credential} (drafted : agentDraft db tid given = .ok draft) :
    Automatic draft.secretRef := by
  unfold agentDraft at drafted
  split at drafted
  · cases drafted
  · obtain ⟨_, drafted⟩ := guard_ok drafted
    split at drafted
    · cases drafted
    · obtain ⟨_, built⟩ := guard_ok drafted
      cases built
      exact automatic_auto

theorem added_automatic {world : World} {operation : Operation} {draft : Credential}
    (adds : added world operation = some draft) : Automatic draft.secretRef := by
  cases operation with
  | create caller form backendUp => exact createDraft_automatic (accepted_some adds)
  | createDynamic caller name => exact dynamicDraft_automatic (accepted_some adds)
  | agentCreate tid args backendUp =>
      simp only [added] at adds
      split at adds
      · cases adds
      · exact agentDraft_automatic (accepted_some adds)
  | _ => cases adds

/-- Paths are automatic and belong to one row each. -/
structure Sound (world : World) : Prop where
  automatic : ∀ cred ∈ world.db.credentials.rows, Automatic cred.secretRef
  unaliased : ∀ first ∈ world.db.credentials.rows, ∀ second ∈ world.db.credentials.rows,
    first.secretRef = second.secretRef → first = second

section Preservation

variable {new : Option Credential} {about : Option Int} {before after : World} {cred : Credential}
  {path : String}

theorem Sound.step (sound : Sound before) (effect : Effect new about before after)
    (automaticNew : ∀ draft, new = some draft → Automatic draft.secretRef)
    (freshNew : ∀ draft, new = some draft →
      ∀ cred ∈ before.db.credentials.rows, cred.secretRef ≠ draft.secretRef) : Sound after where
  automatic cred member := by
    rcases effect.rows cred member with ⟨old, oldMember, _, samePath⟩ | ⟨draft, adds, _, path⟩
    · rw [← samePath]
      exact sound.automatic old oldMember
    · rw [path]
      exact automaticNew draft adds
  unaliased first firstMember second secondMember same := by
    refine Table.eq_of_key firstMember secondMember ?_
    rcases effect.rows first firstMember with
      ⟨firstOld, firstIn, firstKey, firstPath⟩ | ⟨firstDraft, firstAdds, firstKey, firstPath⟩
    · rcases effect.rows second secondMember with
        ⟨secondOld, secondIn, secondKey, secondPath⟩ | ⟨draft, adds, _, draftPath⟩
      · have one := sound.unaliased firstOld firstIn secondOld secondIn
          (firstPath.trans (same.trans secondPath.symm))
        subst one
        exact firstKey.symm.trans secondKey
      · exact absurd (firstPath.trans (same.trans draftPath)) (freshNew draft adds firstOld firstIn)
    · rcases effect.rows second secondMember with
        ⟨secondOld, secondIn, _, secondPath⟩ | ⟨secondDraft, secondAdds, secondKey, secondPath⟩
      · exact absurd (secondPath.trans (same.symm.trans firstPath))
          (freshNew firstDraft firstAdds secondOld secondIn)
      · exact firstKey.trans secondKey.symm

theorem pathOf_inj {other : Credential} (credAutomatic : Automatic cred.secretRef)
    (otherAutomatic : Automatic other.secretRef) (credPath : PathOf cred path)
    (otherPath : PathOf other path) : cred.secretRef = other.secretRef := by
  rcases credPath with same | ⟨user, same⟩
  · rcases otherPath with otherSame | ⟨otherUser, otherSame⟩
    · exact same.symm.trans otherSame
    · exact absurd (same.symm.trans otherSame) (automatic_ne_userPath credAutomatic)
  · rcases otherPath with otherSame | ⟨otherUser, otherSame⟩
    · exact absurd (otherSame.symm.trans same) (automatic_ne_userPath otherAutomatic)
    · exact userPath_inj (same.symm.trans otherSame)

theorem Sound.secret_kept (sound : Sound before) (effect : Effect new about before after)
    (automaticNew : ∀ draft, new = some draft → Automatic draft.secretRef)
    (freshNew : ∀ draft, new = some draft →
      ∀ cred ∈ before.db.credentials.rows, cred.secretRef ≠ draft.secretRef)
    (member : cred ∈ before.db.credentials.rows) (unrelated : about ≠ some cred.id)
    (ofCred : PathOf cred path) : after.secrets.lookup path = before.secrets.lookup path := by
  rcases effect.secrets path with kept | ⟨draft, adds, same⟩ | ⟨other, otherMember, isAbout, ofOther⟩
  · exact kept
  · have one := pathOf_inj (sound.automatic cred member) (automaticNew draft adds) ofCred (.inl same)
    exact absurd one (freshNew draft adds cred member)
  · have one := pathOf_inj (sound.automatic cred member) (sound.automatic other otherMember)
      ofCred ofOther
    cases sound.unaliased cred member other otherMember one
    exact absurd isAbout unrelated

end Preservation

theorem sound_of_initial {world : World} (starts : credentialSystem.initial world) : Sound world where
  automatic cred member := by
    rw [starts] at member
    cases member
  unaliased first member := by
    rw [starts] at member
    cases member

theorem sound_of_reachable {world : World}
    (reached : credentialSystem.ReachableUnder FreshRef world) : Sound world := by
  refine reached.invariant (fun _ => sound_of_initial) ?_
  rintro before operation after fresh stepped sound
  cases stepped
  exact sound.step (perform_effect before operation) (fun _ => added_automatic) fresh

/-- While no accepted creation meets a path in use, every credential has its
own path, and no operation touches what the backend holds for a credential it
is not about. -/
theorem secrets_unaliased {world : World}
    (reached : credentialSystem.ReachableUnder FreshRef world) :
    (∀ first ∈ world.db.credentials.rows, ∀ second ∈ world.db.credentials.rows,
        first ≠ second → first.secretRef ≠ second.secretRef) ∧
      ∀ operation, FreshRef world operation → ∀ cred ∈ world.db.credentials.rows,
        subject world operation ≠ some cred.id → ∀ path, PathOf cred path →
          (perform world operation).secrets.lookup path = world.secrets.lookup path := by
  have sound := sound_of_reachable reached
  refine ⟨?paths, ?secrets⟩
  case paths =>
    intro first firstMember second secondMember different same
    exact different (sound.unaliased first firstMember second secondMember same)
  case secrets =>
    intro operation fresh cred member unrelated path ofCred
    exact sound.secret_kept (perform_effect world operation) (fun _ => added_automatic) fresh member
      unrelated ofCred

def acme : World where
  db := { tenants := Table.empty.insert fun id => { id, name := "Acme", slug := "acme" } }
  secrets := ∅

def operator : Caller := { tid := some 1, userId := 7, role := .operator }

def createLogin (name secretValue : String) : Operation :=
  .create operator { name, kind := "login", secretValue } true

def twoLogins : World :=
  perform (perform acme (createLogin "db admin" "one")) (createLogin "web admin" "two")

theorem secrets_unaliased_two_names :
    ∃ first second, twoLogins.db.credentials.get 1 = some first ∧
      twoLogins.db.credentials.get 2 = some second ∧ first.secretRef ≠ second.secretRef := by
  have meets : credentialSystem.Meets FreshRef acme
      [createLogin "db admin" "one", createLogin "web admin" "two"] :=
    Machine.meets_cons rfl (by decide) (Machine.meets_cons rfl (by decide) trivial)
  have reached : credentialSystem.ReachableUnder FreshRef twoLogins := ⟨acme, _, rfl, rfl, meets⟩
  have apart := (secrets_unaliased reached).1
  refine ⟨_, _, rfl, rfl, apart _ ?_ _ ?_ (by decide)⟩
  · exact (Table.get_eq_some_iff.mp (rfl : twoLogins.db.credentials.get 1 = some _)).1
  · exact (Table.get_eq_some_iff.mp (rfl : twoLogins.db.credentials.get 2 = some _)).1

/-- Two names with one slug: the second creation replaces the secret the first
credential resolves to. -/
theorem one_slug_aliases :
    ∃ world, credentialSystem.Reachable world ∧
      ∃ first ∈ world.db.credentials.rows, ∃ second ∈ world.db.credentials.rows,
        first.name = "db admin" ∧ second.name = "DB-Admin" ∧
          first.secretRef = second.secretRef ∧
          (perform acme (createLogin "db admin" "one")).secrets.lookup first.secretRef = some "one" ∧
          world.secrets.lookup first.secretRef = some "two" := by
  refine ⟨_, ⟨acme, [createLogin "db admin" "one", createLogin "DB-Admin" "two"], rfl, rfl⟩, ?_⟩
  decide +kernel

end Dosm.Credentials.SecretRef
