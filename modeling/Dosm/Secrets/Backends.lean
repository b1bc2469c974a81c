import Dosm.Base.Component
import Dosm.Base.Sql
import Mathlib.Data.List.AList
import Mathlib.Data.List.Dedup
import Mathlib.Data.List.Sort
import Mathlib.Data.String.Basic

namespace Dosm.Secrets.Backends

open Base Python

/-! The two backends behind the secrets interface.

The local one keeps encrypted rows under their paths and lists them by `LIKE`. The
other keeps text in a tree of names on a server and lists one level of it. Which names
a path stands for is up to the client and the server, which may also refuse it.
-/

inductive Failure where
  /-- `SecretNotFound`. -/
  | notFound (path : String)
  | undecryptable (path : String)
  | undecodable
  /-- What the server or its client objects to, other than a path where nothing is. -/
  | refused
  deriving DecidableEq

local instance bytes_decEq : DecidableEq ByteArray := ByteArray.instDecidableEq

inductive Value where
  | nothing
  | bytes (value : ByteArray)
  | text (value : String)
  | paths (found : List String)
  deriving DecidableEq

abbrev Answer := Except Failure Value

inductive Call where
  | set (path : String) (value : ByteArray)
  | setStr (path value : String)
  | get (path : String)
  | getStr (path : String)
  | delete (path : String)
  | list (start : String)

/-- A call that fails leaves the store as it is. -/
structure SecretsBackend (Store : Type) where
  get : String → Store → Except Failure ByteArray
  set : String → ByteArray → Store → Except Failure Store
  delete : String → Store → Except Failure Store
  list : String → Store → Except Failure (List String)

namespace SecretsBackend

variable {Store : Type} (backend : SecretsBackend Store)

def decode (value : ByteArray) : Except Failure String :=
  match String.fromUTF8? value with
  | none => .error .undecodable
  | some text => .ok text

def getStr (path : String) (store : Store) : Except Failure String := backend.get path store >>= decode

def setStr (path value : String) (store : Store) : Except Failure Store := backend.set path value.toUTF8 store

def wrote (store : Store) : Except Failure Store → Store × Answer
  | .error failure => (store, .error failure)
  | .ok changed => (changed, .ok .nothing)

def component : Component Store Call Answer where
  respond store
    | .set path value => wrote store (backend.set path value store)
    | .setStr path value => wrote store (backend.setStr path value store)
    | .get path => (store, (backend.get path store).map Value.bytes)
    | .getStr path => (store, (backend.getStr path store).map Value.text)
    | .delete path => wrote store (backend.delete path store)
    | .list start => (store, (backend.list start store).map Value.paths)

end SecretsBackend

/-- Encryption draws fresh randomness each time. -/
structure Fernet (Token : Type) where
  encrypt : Nat → ByteArray → Token
  decrypt : Token → Option ByteArray
  decrypt_encrypt : ∀ draw value, decrypt (encrypt draw value) = some value

section Local

variable {Token : Type}

abbrev Rows (Token : Type) := AList fun _ : String => Token

structure LocalStore (Token : Type) where
  rows : Rows Token := ∅
  drawn : Nat := 0

def listed (start path : String) : Bool := start = "" || Like.like path (start ++ "%")

def localEncryptedBackend (fernet : Fernet Token) : SecretsBackend (LocalStore Token) where
  get path store :=
    match store.rows.lookup path with
    | none => .error (.notFound path)
    | some token =>
        match fernet.decrypt token with
        | none => .error (.undecryptable path)
        | some value => .ok value
  set path value store :=
    .ok { rows := store.rows.insert path (fernet.encrypt store.drawn value), drawn := store.drawn + 1 }
  delete path store :=
    if path ∈ store.rows then .ok { store with rows := store.rows.erase path } else .error (.notFound path)
  list start store := .ok ((store.rows.keys.filter (listed start)).insertionSort (· ≤ ·))

end Local

abbrev Tree := AList fun _ : List String => String

def rstripSlash (text : String) : String := String.ofList (text.toList.rdropWhile (· = '/'))

/-- `vaultPrefix` is the configured one; `names` is how client and server take a path. -/
structure Mount where
  vaultPrefix : String
  names : String → Option (List String)

namespace Mount

variable (mount : Mount)

def fullPath (path : String) : String :=
  let home := stripChar '/' mount.vaultPrefix
  if home = "" then lstripChar '/' path else home ++ "/" ++ lstripChar '/' path

def secret (path : String) : Option (List String) := mount.names (mount.fullPath path)

def folder (start : String) : Option (List String) := mount.names (rstripSlash (mount.fullPath start))

end Mount

/-- The key under which a listing of a folder shows a secret in it; a slash follows
what is itself a folder. -/
def shown : List String → List String → Option String
  | [], [] => none
  | [], [name] => some name
  | [], name :: _ => some (name ++ "/")
  | _ :: _, [] => none
  | name :: folder, first :: rest => if name = first then shown folder rest else none

def listSecrets (folder : List String) (tree : Tree) : List String := (tree.keys.filterMap (shown folder)).dedup

def base (start : String) : String := if start = "" then "" else rstripSlash start ++ "/"

def vaultBackend (mount : Mount) : SecretsBackend Tree where
  get path tree :=
    match mount.secret path with
    | none => .error .refused
    | some names =>
        match tree.lookup names with
        | none => .error (.notFound path)
        | some value => .ok value.toUTF8
  set path value tree :=
    match String.fromUTF8? value with
    | none => .error .undecodable
    | some text =>
        match mount.secret path with
        | none | some [] => .error .refused
        | some names => .ok (tree.insert names text)
  delete path tree :=
    match mount.secret path with
    | none | some [] => .error .refused
    | some names => .ok (tree.erase names)
  list start tree :=
    match mount.folder start with
    | none => .error .refused
    | some folder =>
        .ok (((listSecrets folder tree).map fun key => base start ++ rstripSlash key).insertionSort (· ≤ ·))

section Agreement

variable {Token : Type} (fernet : Fernet Token) (mount : Mount)

/-- The path stands for these names and no other stored path does. -/
def Own (rows : Rows Token) (path : String) (names : List String) : Prop :=
  mount.secret path = some names ∧ ∀ other ∈ rows, mount.secret other = some names → other = path

def Writable (rows : Rows Token) (path : String) : Prop := ∃ names ≠ [], Own mount rows path names

def Readable (rows : Rows Token) (path : String) : Prop := ∃ names, Own mount rows path names

/-- What is stored below the folder is directly in it, under the path that the listing
gives it, and is all that the pattern matches. -/
def Listable (rows : Rows Token) (start : String) : Prop :=
  ∃ folder, mount.folder start = some folder ∧ ∀ path ∈ rows,
    (listed start path = true ↔ ∃ names key, mount.secret path = some names ∧ shown folder names = some key) ∧
      (listed start path = true →
        ∃ name, mount.secret path = some (folder ++ [name]) ∧ base start ++ rstripSlash name = path)

/-- A value is text, a deleted secret is there, and every path is told from the stored
ones in the tree as well. -/
def Careful (rows : Rows Token) : Call → Prop
  | .set path value => (String.fromUTF8? value).isSome ∧ Writable mount rows path
  | .setStr path _ => Writable mount rows path
  | .get path | .getStr path => Readable mount rows path
  | .delete path => path ∈ rows
  | .list start => Listable mount rows start

structure Agree (store : LocalStore Token) (tree : Tree) : Prop where
  stored : ∀ path token, store.rows.lookup path = some token → ∃ names ≠ [], ∃ text,
    mount.secret path = some names ∧ fernet.decrypt token = some text.toUTF8 ∧ tree.lookup names = some text
  kept : ∀ names ∈ tree, ∃ path ∈ store.rows, mount.secret path = some names
  apart : ∀ path ∈ store.rows, ∀ other ∈ store.rows, mount.secret path = mount.secret other → path = other

variable {fernet mount} {store : LocalStore Token} {tree : Tree}

theorem fromUTF8?_toUTF8 (text : String) : String.fromUTF8? text.toUTF8 = some text := dif_pos text.isValidUTF8

theorem fromUTF8?_some {value : ByteArray} {text : String} (decoded : String.fromUTF8? value = some text) :
    value = text.toUTF8 := by
  unfold String.fromUTF8? at decoded
  split at decoded
  · cases decoded
    rfl
  · cases decoded

namespace Agree

theorem lookup (agree : Agree fernet mount store tree) {path : String} {names : List String}
    (own : Own mount store.rows path names) :
    (store.rows.lookup path = none ∧ tree.lookup names = none) ∨
      ∃ token text, store.rows.lookup path = some token ∧ fernet.decrypt token = some text.toUTF8 ∧
        tree.lookup names = some text := by
  cases found : store.rows.lookup path with
  | some token =>
      obtain ⟨others, _, text, stands, decrypted, kept⟩ := agree.stored path token found
      obtain rfl : names = others := Option.some.inj (own.1.symm.trans stands)
      exact .inr ⟨token, text, rfl, decrypted, kept⟩
  | none =>
      refine .inl ⟨rfl, AList.lookup_eq_none.mpr fun listed => ?_⟩
      obtain ⟨other, member, stands⟩ := agree.kept names listed
      obtain rfl := own.2 other member stands
      exact AList.lookup_eq_none.mp found member

theorem get (agree : Agree fernet mount store tree) {path : String} (readable : Readable mount store.rows path) :
    (localEncryptedBackend fernet).get path store = (vaultBackend mount).get path tree := by
  obtain ⟨names, own⟩ := readable
  simp only [localEncryptedBackend, vaultBackend, own.1]
  obtain ⟨missing, absent⟩ | ⟨token, text, found, decrypted, kept⟩ := agree.lookup own
  · simp only [missing, absent]
  · simp only [found, decrypted, kept]

theorem insert (agree : Agree fernet mount store tree) {path : String} {names : List String} (named : names ≠ [])
    (own : Own mount store.rows path names) (draw : Nat) (text : String) :
    Agree fernet mount
      { rows := store.rows.insert path (fernet.encrypt store.drawn text.toUTF8), drawn := draw }
      (tree.insert names text) where
  stored other token found := by
    by_cases same : other = path
    · subst same
      obtain rfl : fernet.encrypt store.drawn text.toUTF8 = token := by simpa using found
      exact ⟨names, named, text, own.1, fernet.decrypt_encrypt .., AList.lookup_insert _⟩
    · rw [AList.lookup_insert_ne same] at found
      obtain ⟨others, notRoot, value, stands, decrypted, kept⟩ := agree.stored other token found
      have elsewhere : others ≠ names := by
        rintro rfl
        exact same (own.2 other (AList.lookup_isSome.mp (by rw [found]; rfl)) stands)
      exact ⟨others, notRoot, value, stands, decrypted, (AList.lookup_insert_ne elsewhere).trans kept⟩
  kept others listed := by
    rcases (AList.mem_insert _).mp listed with rfl | before
    · exact ⟨path, (AList.mem_insert _).mpr (.inl rfl), own.1⟩
    · obtain ⟨other, member, stands⟩ := agree.kept others before
      exact ⟨other, (AList.mem_insert _).mpr (.inr member), stands⟩
  apart one oneStored other otherStored same := by
    rcases (AList.mem_insert _).mp oneStored with rfl | oneBefore
    · rcases (AList.mem_insert _).mp otherStored with rfl | otherBefore
      · rfl
      · exact (own.2 other otherBefore (same.symm.trans own.1)).symm
    · rcases (AList.mem_insert _).mp otherStored with rfl | otherBefore
      · exact own.2 one oneBefore (same.trans own.1)
      · exact agree.apart one oneBefore other otherBefore same

theorem erase (agree : Agree fernet mount store tree) {path : String} {names : List String}
    (member : path ∈ store.rows) (stands : mount.secret path = some names) :
    Agree fernet mount { store with rows := store.rows.erase path } (tree.erase names) where
  stored other token found := by
    have remains : other ≠ path ∧ other ∈ store.rows :=
      AList.mem_erase.mp (AList.lookup_isSome.mp (by rw [found]; rfl))
    rw [AList.lookup_erase_ne remains.1] at found
    obtain ⟨others, notRoot, value, otherStands, decrypted, kept⟩ := agree.stored other token found
    have elsewhere : others ≠ names := by
      rintro rfl
      exact remains.1 (agree.apart other remains.2 path member (otherStands.trans stands.symm))
    exact ⟨others, notRoot, value, otherStands, decrypted, (AList.lookup_erase_ne elsewhere).trans kept⟩
  kept others listed := by
    obtain ⟨elsewhere, before⟩ := AList.mem_erase.mp listed
    obtain ⟨other, otherMember, otherStands⟩ := agree.kept others before
    refine ⟨other, AList.mem_erase.mpr ⟨?_, otherMember⟩, otherStands⟩
    rintro rfl
    exact elsewhere (Option.some.inj (otherStands.symm.trans stands))
  apart one oneStored other otherStored same :=
    agree.apart one (AList.mem_erase.mp oneStored).2 other (AList.mem_erase.mp otherStored).2 same

end Agree

theorem shown_append (folder : List String) (name : String) : shown folder (folder ++ [name]) = some name := by
  induction folder with
  | nil => rfl
  | cons first rest inductive_step =>
      rw [List.cons_append, shown, if_pos rfl]
      exact inductive_step

section Listing

variable {folder : List String} {start : String}

theorem key_stored (agree : Agree fernet mount store tree)
    (listable : ∀ path ∈ store.rows,
      (listed start path = true ↔ ∃ names key, mount.secret path = some names ∧ shown folder names = some key) ∧
        (listed start path = true →
          ∃ name, mount.secret path = some (folder ++ [name]) ∧ base start ++ rstripSlash name = path))
    {key : String} (member : key ∈ listSecrets folder tree) :
    base start ++ rstripSlash key ∈ store.rows ∧ listed start (base start ++ rstripSlash key) = true ∧
      mount.secret (base start ++ rstripSlash key) = some (folder ++ [key]) := by
  obtain ⟨names, kept, shows⟩ := List.mem_filterMap.mp (List.mem_dedup.mp member)
  obtain ⟨path, isStored, stands⟩ := agree.kept names kept
  obtain ⟨matched, direct⟩ := listable path isStored
  have listedPath := matched.mpr ⟨names, key, stands, shows⟩
  obtain ⟨name, inside, spelled⟩ := direct listedPath
  obtain rfl : names = folder ++ [name] := Option.some.inj (stands.symm.trans inside)
  obtain rfl : name = key := Option.some.inj ((shown_append folder name).symm.trans shows)
  rw [spelled]
  exact ⟨isStored, listedPath, inside⟩

theorem insertionSort_congr {found others : List String} (same : found.Perm others) :
    found.insertionSort (· ≤ ·) = others.insertionSort (· ≤ ·) := by
  have sorted : ((found.insertionSort (· ≤ ·)).Perm (others.insertionSort (· ≤ ·))) :=
    (List.perm_insertionSort _ found).trans (same.trans (List.perm_insertionSort _ others).symm)
  exact sorted.eq_of_pairwise' (List.pairwise_insertionSort _ _) (List.pairwise_insertionSort _ _)

theorem Agree.list (agree : Agree fernet mount store tree) (listable : Listable mount store.rows start) :
    (localEncryptedBackend fernet).list start store = (vaultBackend mount).list start tree := by
  obtain ⟨folder, stands, listable⟩ := listable
  simp only [localEncryptedBackend, vaultBackend, stands]
  have distinct : ((listSecrets folder tree).map fun key => base start ++ rstripSlash key).Nodup := by
    refine (List.nodup_dedup _).map_on fun key member other otherMember same => ?_
    have stands := (key_stored agree listable member).2.2
    have otherStands := (key_stored agree listable otherMember).2.2
    rw [same, otherStands] at stands
    simpa using stands.symm
  refine congrArg Except.ok (insertionSort_congr ?_)
  rw [List.perm_ext_iff_of_nodup (store.rows.keys_nodup.filter _) distinct]
  intro path
  rw [List.mem_filter, List.mem_map]
  constructor
  · rintro ⟨isStored, matched⟩
    obtain ⟨name, inside, spelled⟩ := (listable path isStored).2 matched
    obtain ⟨token, found⟩ := Option.isSome_iff_exists.mp (AList.lookup_isSome.mpr isStored)
    obtain ⟨names, _, text, others, _, kept⟩ := agree.stored path token found
    obtain rfl : folder ++ [name] = names := Option.some.inj (inside.symm.trans others)
    have inTree : folder ++ [name] ∈ tree := AList.lookup_isSome.mp (by rw [kept]; rfl)
    exact ⟨name, List.mem_dedup.mpr (List.mem_filterMap.mpr ⟨_, inTree, shown_append folder name⟩), spelled⟩
  · rintro ⟨key, member, rfl⟩
    have isStored := key_stored agree listable member
    exact ⟨isStored.1, isStored.2.1⟩

end Listing

end Agreement

section Histories

variable {Token : Type} {fernet : Fernet Token} {mount : Mount} {store : LocalStore Token} {tree : Tree}

theorem wrote_agrees {wroteLocal : Except Failure (LocalStore Token)} {wroteVault : Except Failure Tree}
    {after : LocalStore Token} {afterTree : Tree} (inRows : wroteLocal = .ok after)
    (inTree : wroteVault = .ok afterTree) (agree : Agree fernet mount after afterTree) :
    (SecretsBackend.wrote store wroteLocal).2 = (SecretsBackend.wrote tree wroteVault).2 ∧
      Agree fernet mount (SecretsBackend.wrote store wroteLocal).1 (SecretsBackend.wrote tree wroteVault).1 := by
  subst inRows inTree
  exact ⟨rfl, agree⟩

theorem Agree.set (agree : Agree fernet mount store tree) {path text : String}
    (writable : Writable mount store.rows path) :
    ∃ after afterTree, (localEncryptedBackend fernet).set path text.toUTF8 store = .ok after ∧
      (vaultBackend mount).set path text.toUTF8 tree = .ok afterTree ∧ Agree fernet mount after afterTree := by
  obtain ⟨names, named, own⟩ := writable
  refine ⟨_, tree.insert names text, rfl, ?_, agree.insert named own _ text⟩
  simp only [vaultBackend, fromUTF8?_toUTF8, own.1]

theorem Agree.delete (agree : Agree fernet mount store tree) {path : String} (member : path ∈ store.rows) :
    ∃ after afterTree, (localEncryptedBackend fernet).delete path store = .ok after ∧
      (vaultBackend mount).delete path tree = .ok afterTree ∧ Agree fernet mount after afterTree := by
  obtain ⟨token, found⟩ := Option.isSome_iff_exists.mp (AList.lookup_isSome.mpr member)
  obtain ⟨names, named, text, stands, _, _⟩ := agree.stored path token found
  refine ⟨_, tree.erase names, if_pos member, ?_, agree.erase member stands⟩
  simp only [vaultBackend, stands]

theorem respond_agrees (call : Call) (agree : Agree fernet mount store tree)
    (careful : Careful mount store.rows call) :
    ((localEncryptedBackend fernet).component.respond store call).2 =
        ((vaultBackend mount).component.respond tree call).2 ∧
      Agree fernet mount ((localEncryptedBackend fernet).component.respond store call).1
        ((vaultBackend mount).component.respond tree call).1 := by
  cases call with
  | set path value =>
      obtain ⟨isText, writable⟩ := careful
      obtain ⟨text, decoded⟩ := Option.isSome_iff_exists.mp isText
      obtain rfl := fromUTF8?_some decoded
      have both : ∃ after afterTree, (localEncryptedBackend fernet).set path text.toUTF8 store = .ok after ∧
          (vaultBackend mount).set path text.toUTF8 tree = .ok afterTree ∧ Agree fernet mount after afterTree :=
        agree.set writable
      obtain ⟨after, afterTree, inRows, inTree, agrees⟩ := both
      exact wrote_agrees inRows inTree agrees
  | setStr path text =>
      have both : ∃ after afterTree, (localEncryptedBackend fernet).set path text.toUTF8 store = .ok after ∧
          (vaultBackend mount).set path text.toUTF8 tree = .ok afterTree ∧ Agree fernet mount after afterTree :=
        agree.set careful
      obtain ⟨after, afterTree, inRows, inTree, agrees⟩ := both
      exact wrote_agrees inRows inTree agrees
  | get path =>
      refine ⟨?_, agree⟩
      simp only [SecretsBackend.component, agree.get careful]
  | getStr path =>
      refine ⟨?_, agree⟩
      simp only [SecretsBackend.component, SecretsBackend.getStr, agree.get careful]
  | delete path =>
      obtain ⟨after, afterTree, inRows, inTree, agrees⟩ := agree.delete careful
      exact wrote_agrees inRows inTree agrees
  | list start =>
      refine ⟨?_, agree⟩
      simp only [SecretsBackend.component, agree.list careful]

/-- For a single read the condition is exact: the answers are the same just under it. -/
theorem get_alike_iff (agree : Agree fernet mount store tree) (path : String) :
    (localEncryptedBackend fernet).get path store = (vaultBackend mount).get path tree ↔
      Readable mount store.rows path := by
  refine ⟨fun alike => ?_, agree.get⟩
  have rowsAnswer : (localEncryptedBackend fernet).get path store ≠ .error .refused := by
    simp only [localEncryptedBackend]
    split
    · exact fun refused => by cases refused
    · split <;> exact fun refused => by cases refused
  cases stands : mount.secret path with
  | none => exact absurd (alike.trans (by simp only [vaultBackend, stands])) rowsAnswer
  | some names =>
      refine ⟨names, stands, fun other member otherStands => ?_⟩
      obtain ⟨token, found⟩ := Option.isSome_iff_exists.mp (AList.lookup_isSome.mpr member)
      obtain ⟨others, _, text, otherNames, _, kept⟩ := agree.stored other token found
      obtain rfl : names = others := Option.some.inj (otherStands.symm.trans otherNames)
      simp only [vaultBackend, stands, kept] at alike
      have here : path ∈ store.rows := by
        by_contra missing
        simp [localEncryptedBackend, AList.lookup_eq_none.mpr missing] at alike
      exact agree.apart other member path here (otherStands.trans stands.symm)

/-- Deleting what is not there is where the backends always part. -/
theorem delete_alike_iff (agree : Agree fernet mount store tree) (path : String) :
    (SecretsBackend.wrote store ((localEncryptedBackend fernet).delete path store)).2 =
        (SecretsBackend.wrote tree ((vaultBackend mount).delete path tree)).2 ↔ path ∈ store.rows := by
  constructor
  · intro alike
    by_contra missing
    have rowsAnswer : (localEncryptedBackend fernet).delete path store = .error (.notFound path) := if_neg missing
    rw [rowsAnswer] at alike
    simp only [vaultBackend] at alike
    split at alike <;> simp [SecretsBackend.wrote] at alike
  · intro member
    obtain ⟨after, afterTree, inRows, inTree, _⟩ := agree.delete member
    rw [inRows, inTree]
    rfl

theorem agree_empty : Agree fernet mount {} ∅ where
  stored path token found := by cases found
  kept names listed := absurd listed (AList.notMem_empty names)
  apart path stored := absurd stored (AList.notMem_empty path)

/-- Started empty, the two backends answer every history of careful calls alike. -/
theorem backends_answer_alike (fernet : Fernet Token) (mount : Mount) (calls : List Call)
    (careful : (localEncryptedBackend fernet).component.Meets (fun store => Careful mount store.rows) {} calls) :
    (localEncryptedBackend fernet).component.answers {} calls = (vaultBackend mount).component.answers ∅ calls :=
  Component.answers_eq
    (fun store tree call (agree : Agree fernet mount store tree) (careful : Careful mount store.rows call) =>
      respond_agrees call agree careful)
    agree_empty careful

end Histories

section Runs

def unsealed : Fernet (Nat × ByteArray) where
  encrypt draw value := (draw, value)
  decrypt token := some token.2
  decrypt_encrypt _ _ := rfl

def dosmMount : Mount := ⟨"dosm", fun path => some ((split '/' path).filter (· ≠ ""))⟩

def oneSecret : List Call :=
  [.setStr "ssh/admin" "k1", .list "ssh/", .getStr "ssh/admin", .get "ssh/other", .delete "ssh/admin"]

theorem oneSecret_careful :
    (localEncryptedBackend unsealed).component.Meets (fun store => Careful dosmMount store.rows) {} oneSecret := by
  have named : dosmMount.secret "ssh/admin" = some ["dosm", "ssh", "admin"] := by decide
  refine ⟨⟨["dosm", "ssh", "admin"], by decide, named, ?_⟩, ⟨["dosm", "ssh"], by decide, ?_⟩,
    ⟨["dosm", "ssh", "admin"], named, ?_⟩, ⟨["dosm", "ssh", "other"], by decide, ?_⟩, ?_, trivial⟩
  · intro other member
    cases member
  · intro path member
    obtain rfl : path = "ssh/admin" := List.mem_singleton.mp member
    refine ⟨iff_of_true (by decide) ⟨_, "admin", named, by decide⟩, fun _ => ⟨"admin", named, ?_⟩⟩
    decide
  · exact fun other member _ => List.mem_singleton.mp member
  · intro other member stands
    obtain rfl : other = "ssh/admin" := List.mem_singleton.mp member
    rw [named] at stands
    exact absurd stands (by decide)
  · exact List.mem_singleton.mpr rfl

theorem oneSecret_alike : (localEncryptedBackend unsealed).component.answers {} oneSecret =
    (vaultBackend dosmMount).component.answers ∅ oneSecret :=
  backends_answer_alike unsealed dosmMount oneSecret oneSecret_careful

/-- Bytes that are not text, a secret that is not there and one that lies deeper: each
time one backend answers and the other does not, or otherwise. -/
theorem backends_part :
    ((localEncryptedBackend unsealed).component.answers {} [.set "ssh/key" ⟨#[0xFF]⟩] = [.ok .nothing] ∧
        (vaultBackend dosmMount).component.answers ∅ [.set "ssh/key" ⟨#[0xFF]⟩] = [.error .undecodable]) ∧
      ((localEncryptedBackend unsealed).component.answers {} [.delete "ssh/key"] = [.error (.notFound "ssh/key")] ∧
        (vaultBackend dosmMount).component.answers ∅ [.delete "ssh/key"] = [.ok .nothing]) ∧
      ((localEncryptedBackend unsealed).component.answers {} [.setStr "ssh/prod/admin" "k", .list ""] =
          [.ok .nothing, .ok (.paths ["ssh/prod/admin"])] ∧
        (vaultBackend dosmMount).component.answers ∅ [.setStr "ssh/prod/admin" "k", .list ""] =
          [.ok .nothing, .ok (.paths ["ssh"])]) := by
  refine ⟨⟨?_, ?_⟩, ⟨?_, ?_⟩, ?_, ?_⟩ <;> decide

end Runs

end Dosm.Secrets.Backends
