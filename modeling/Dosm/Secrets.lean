import Mathlib.Data.List.AList
import Dosm.Models

namespace Dosm.Secrets

open Models Python

/-! The secrets backend: opaque values under slash-delimited paths. -/

abbrev Backend := AList fun _ : String => String

/-- The automatic path of a credential's secret, from a lossy slug of its name. -/
def autoSecretRef (name tenantSlug : String) : String :=
  "t/" ++ tenantSlug ++ "/credentials/" ++ slug (strip (lower name))

/-- Where one user's own material for a per-user credential lives. -/
def userPath (cred : Credential) (userId : Nat) : String :=
  cred.secretRef ++ "/u/" ++ toString userId

def Automatic (secretRef : String) : Prop :=
  ∃ name tenantSlug, secretRef = autoSecretRef name tenantSlug

theorem automatic_auto {name tenantSlug : String} : Automatic (autoSecretRef name tenantSlug) :=
  ⟨name, tenantSlug, rfl⟩

theorem automatic_ne_userPath {cred : Credential} {secretRef : String} {userId : Nat}
    (automatic : Automatic secretRef) : secretRef ≠ userPath cred userId := by
  obtain ⟨name, tenantSlug, rfl⟩ := automatic
  intro same
  have chars := congrArg String.toList same
  simp only [autoSecretRef, userPath, String.toList_append] at chars
  have shared : ("t/".toList ++ tenantSlug.toList ++ "/credentials".toList) ++
        '/' :: (slug (strip (lower name))).toList =
      (cred.secretRef.toList ++ "/u".toList) ++ '/' :: (toString userId).toList := by
    simpa using chars
  have prefixes :=
    (append_separator_inj slash_not_mem_slug slash_not_mem_toString shared).1
  have lastChars := congrArg List.getLast? prefixes
  rw [List.getLast?_append_of_ne_nil _ (by decide), List.getLast?_append_of_ne_nil _ (by decide)]
    at lastChars
  exact absurd lastChars (by decide)

theorem userPath_inj {first second : Credential} {firstUser secondUser : Nat}
    (same : userPath first firstUser = userPath second secondUser) :
    first.secretRef = second.secretRef := by
  have chars := congrArg String.toList same
  simp only [userPath, String.toList_append] at chars
  have shared : (first.secretRef.toList ++ "/u".toList) ++ '/' :: (toString firstUser).toList =
      (second.secretRef.toList ++ "/u".toList) ++ '/' :: (toString secondUser).toList := by
    simpa using chars
  have prefixes :=
    (append_separator_inj slash_not_mem_toString slash_not_mem_toString shared).1
  exact String.toList_inj.mp (List.append_cancel_right prefixes)

end Dosm.Secrets
