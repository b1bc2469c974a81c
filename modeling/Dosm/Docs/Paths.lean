import Dosm.Docs.Vault
import Dosm.Python.Slices
import Mathlib.Data.Bool.AllAny

namespace Dosm.Docs.Store

open Python

/-! The components of normal paths.

A normal path is read back into the components it was made of, so the first ones
tell who a path belongs to.
-/

def components (path : String) : List String := split '/' path

/-- One component that normalisation leaves as it is. -/
structure Clean (part : String) : Prop where
  named : part ≠ "" ∧ part ≠ "."
  plain : ∀ char ∈ part.toList, char ≠ '/' ∧ char ≠ '\\' ∧ isSpace char = false

def tailParts (rest : String) : List String := pathParts (rstrip (replaceChar '\\' '/' rest))

section Components

variable {rel path part rest : String}

theorem components_join {parts : List String} (plain : ∀ part ∈ parts, '/' ∉ part.toList) (some : parts ≠ []) :
    components ("/".intercalate parts) = parts := by
  have joined : ("/".intercalate parts).toList = ['/'].intercalate (parts.map String.toList) :=
    String.toList_intercalate
  have separated : ∀ chars ∈ parts.map String.toList, '/' ∉ chars := by
    intro chars member
    obtain ⟨part, listed, rfl⟩ := List.mem_map.mp member
    exact plain part listed
  have nonempty : parts.map String.toList ≠ [] := by simpa using some
  rw [components, split, joined, List.splitOn_intercalate '/' separated nonempty, List.map_map]
  simp

theorem join_components (path : String) : "/".intercalate (components path) = path := by
  have back : (components path).map String.toList = path.toList.splitOn '/' := by
    rw [components, split, List.map_map]
    exact (List.map_congr_left fun _ _ => String.toList_ofList).trans (List.map_id _)
  apply String.toList_injective
  rw [String.toList_intercalate, back]
  exact List.intercalate_splitOn '/'

theorem normalizeRel_components (valid : normalizeRel rel = .ok path) :
    components path = pathParts (strip (replaceChar '\\' '/' rel)) := by
  unfold normalizeRel at valid
  dsimp only at valid
  split at valid
  · cases valid
  split at valid
  · cases valid
  split at valid
  · cases valid
  next some =>
    rw [← Except.ok.inj valid]
    refine components_join (fun part member => ?_) some
    exact split_plain (List.mem_filter.mp member).1

theorem Clean.replaced (clean : Clean part) : replaceChar '\\' '/' part = part := by
  have kept : part.toList.map (fun char => if char = '\\' then '/' else char) = part.toList := by
    refine (List.map_congr_left fun char member => ?_).trans (List.map_id _)
    rw [if_neg (clean.plain char member).2.1]
    rfl
  rw [replaceChar, kept, String.ofList_toList]

theorem replaceChar_append (old new : Char) (first second : String) :
    replaceChar old new (first ++ second) = replaceChar old new first ++ replaceChar old new second := by
  simp [replaceChar, String.toList_append]

theorem Clean.kept (clean : Clean part) (parts : List String) :
    (part :: parts).filter (fun part => part ≠ "" ∧ part ≠ ".") =
      part :: parts.filter fun part => part ≠ "" ∧ part ≠ "." :=
  List.filter_cons_of_pos (decide_eq_true clean.named)

theorem Clean.slash (clean : Clean part) : '/' ∉ part.toList := fun member => (clean.plain '/' member).1 rfl

theorem rstrip_slash (first second : String) : rstrip (first ++ "/" ++ second) = first ++ "/" ++ rstrip second := by
  have ends : ∀ front back : List Char, (front ++ '/' :: back).rdropWhile isSpace =
      front ++ '/' :: back.rdropWhile isSpace := by
    intro front back
    induction back using List.reverseRecOn with
    | nil =>
        rw [List.rdropWhile_nil]
        exact List.rdropWhile_concat_neg isSpace front '/' (by decide)
    | append_singleton back char ih =>
        rw [← List.cons_append, ← List.append_assoc]
        by_cases space : isSpace char = true
        · rw [List.rdropWhile_concat_pos isSpace _ char space, List.rdropWhile_concat_pos isSpace _ char space, ih]
        · rw [List.rdropWhile_concat_neg isSpace _ char space, List.rdropWhile_concat_neg isSpace _ char space]
          simp
  apply String.toList_injective
  simp only [rstrip, String.toList_ofList, String.toList_append, List.append_assoc]
  exact ends first.toList second.toList

theorem pathParts_slash (clean : Clean part) : pathParts (part ++ "/" ++ rest) = part :: pathParts rest := by
  have chars : (part ++ "/" ++ rest).toList = part.toList ++ '/' :: rest.toList := by
    simp [String.toList_append]
  unfold pathParts split
  rw [chars, List.splitOn_append_cons_self_of_not_mem clean.slash, List.map_cons, String.ofList_toList,
    clean.kept]

theorem tailParts_slash (clean : Clean part) : tailParts (part ++ "/" ++ rest) = part :: tailParts rest := by
  have slash : replaceChar '\\' '/' "/" = "/" := by decide
  rw [tailParts, replaceChar_append, replaceChar_append, clean.replaced, slash, rstrip_slash,
    pathParts_slash clean]
  rfl

theorem headParts_slash (clean : Clean part) :
    pathParts (strip (replaceChar '\\' '/' (part ++ "/" ++ rest))) = part :: tailParts rest := by
  have slash : replaceChar '\\' '/' "/" = "/" := by decide
  rw [tailParts, replaceChar_append, replaceChar_append, clean.replaced, slash]
  generalize replaceChar '\\' '/' rest = tail
  have front : strip (part ++ "/" ++ tail) = rstrip (part ++ "/" ++ tail) := by
    have first : (part ++ "/" ++ tail).toList.dropWhile isSpace = (part ++ "/" ++ tail).toList := by
      rw [String.toList_append, String.toList_append]
      cases chars : part.toList with
      | nil => rfl
      | cons char rest =>
          have visible := (clean.plain char (by rw [chars]; exact List.mem_cons_self)).2.2
          rw [List.cons_append, List.cons_append]
          exact List.dropWhile_cons_of_neg (by simp [visible])
    rw [strip, first, rstrip]
  rw [front, rstrip_slash, pathParts_slash clean]

theorem tailParts_clean (clean : Clean part) : tailParts part = [part] := by
  have visible : rstrip part = part := by
    have kept : part.toList.rdropWhile isSpace = part.toList := by
      rw [List.rdropWhile_eq_self_iff]
      intro nonempty
      simp [(clean.plain _ (List.getLast_mem nonempty)).2.2]
    rw [rstrip, kept, String.ofList_toList]
  rw [tailParts, clean.replaced, visible]
  unfold pathParts split
  rw [List.splitOn_eq_singleton clean.slash, List.map_singleton, String.ofList_toList,
    clean.kept, List.filter_nil]

theorem pathParts_append (first second : String) :
    pathParts (first ++ "/" ++ second) = pathParts first ++ pathParts second := by
  have chars : (first ++ "/" ++ second).toList = first.toList ++ '/' :: second.toList := by
    simp [String.toList_append]
  unfold pathParts split
  rw [chars, List.splitOn_append_cons_self, List.map_append, List.filter_append]

theorem strip_slash (trimmed : strip rel = rel) (some : rel ≠ "") (clean : Clean part) :
    strip (rel ++ "/" ++ part) = rel ++ "/" ++ part := by
  have first : (rel ++ "/" ++ part).toList.dropWhile isSpace = (rel ++ "/" ++ part).toList := by
    have kept : rel.toList.dropWhile isSpace = rel.toList := by
      have back := congrArg String.toList trimmed
      rw [strip, String.toList_ofList] at back
      have bound := (List.rdropWhile_prefix isSpace (rel.toList.dropWhile isSpace)).sublist.length_le
      rw [back] at bound
      exact (List.dropWhile_suffix isSpace).eq_of_length_le bound
    rw [String.toList_append, String.toList_append, List.append_assoc]
    cases chars : rel.toList with
    | nil => exact absurd (String.toList_eq_nil_iff.mp chars) some
    | cons char rest =>
        rw [chars, List.dropWhile_eq_self_iff] at kept
        have visible := kept (by simp)
        rw [List.cons_append]
        exact List.dropWhile_cons_of_neg visible
  have last : rstrip part = part := by
    have kept : part.toList.rdropWhile isSpace = part.toList := by
      rw [List.rdropWhile_eq_self_iff]
      intro nonempty
      simp [(clean.plain _ (List.getLast_mem nonempty)).2.2]
    rw [rstrip, kept, String.ofList_toList]
  have ends : strip (rel ++ "/" ++ part) = rstrip (rel ++ "/" ++ part) := by rw [strip, first, rstrip]
  rw [ends, rstrip_slash, last]

theorem safeRel_normal {store : DocsStore} (safe : store.safeRel rel = .ok path) : normalizeRel rel = .ok path := by
  unfold DocsStore.safeRel at safe
  split at safe
  · exact safe
  · cases normal : normalizeRel rel with
    | error error => rw [normal] at safe; cases safe
    | ok again =>
        rw [normal] at safe
        dsimp only at safe
        split at safe
        · exact safe
        · cases safe

theorem normalizeRel_eq_ok (valid : normalizeRel rel = .ok path) :
    pathParts (strip (replaceChar '\\' '/' rel)) ≠ [] ∧ ".." ∉ pathParts (strip (replaceChar '\\' '/' rel)) ∧
      path = "/".intercalate (pathParts (strip (replaceChar '\\' '/' rel))) := by
  unfold normalizeRel at valid
  dsimp only at valid
  split at valid
  · cases valid
  split at valid
  · cases valid
  split at valid
  · cases valid
  next plain some => exact ⟨some, plain, (Except.ok.inj valid).symm⟩

theorem pathParts_normal (valid : normalizeRel rel = .ok path) :
    pathParts path = pathParts (strip (replaceChar '\\' '/' rel)) := by
  have parts := normalizeRel_components valid
  unfold components at parts
  rw [pathParts, parts, pathParts, List.filter_filter]
  simp

theorem replaceChar_normal (valid : normalizeRel rel = .ok path) : replaceChar '\\' '/' path = path := by
  have plain : ∀ char ∈ path.toList, char ≠ '\\' := by
    rintro char member rfl
    rw [(normalizeRel_eq_ok valid).2.2] at member
    rw [String.toList_intercalate] at member
    rcases mem_intercalate member with slash | ⟨_, shown, inside⟩
    · exact absurd slash (by decide)
    · obtain ⟨part, listed, rfl⟩ := List.mem_map.mp shown
      obtain ⟨piece, cut, rfl⟩ := List.mem_map.mp (List.mem_filter.mp listed).1
      rw [String.toList_ofList] at inside
      have source := mem_of_mem_strip ((splitOn_sublist cut).mem inside)
      rw [replaceChar, String.toList_ofList] at source
      obtain ⟨char, -, changed⟩ := List.mem_map.mp source
      by_cases backslash : char = '\\'
      · rw [if_pos backslash] at changed
        exact absurd changed (by decide)
      · rw [if_neg backslash] at changed
        exact backslash changed
  have kept : path.toList.map (fun char => if char = '\\' then '/' else char) = path.toList :=
    (List.map_congr_left fun char member => if_neg (plain char member)).trans (List.map_id _)
  rw [replaceChar, kept, String.ofList_toList]

theorem normal_backslash (valid : normalizeRel rel = .ok path) : '\\' ∉ path.toList := by
  intro backslash
  have source : '\\' ∈ (replaceChar '\\' '/' path).toList := by rwa [replaceChar_normal valid]
  rw [replaceChar, String.toList_ofList] at source
  obtain ⟨char, -, changed⟩ := List.mem_map.mp source
  by_cases same : char = '\\'
  · rw [if_pos same] at changed
    exact absurd changed (by decide)
  · rw [if_neg same] at changed
    exact same changed

theorem normal_startsWith (valid : normalizeRel rel = .ok path) : startsWith path "/" = false := by
  cases starts : startsWith path "/" with
  | false => rfl
  | true =>
      have named : ∀ part ∈ components path, part ≠ "" := by
        rw [normalizeRel_components valid]
        intro part listed
        exact (of_decide_eq_true (List.mem_filter.mp listed).2).1
      refine absurd rfl (named "" ?_)
      have front : ['/'] <+: path.toList := by simpa [startsWith] using starts
      obtain ⟨rest, whole⟩ := front
      rw [components, split, ← whole, List.singleton_append, List.splitOn_cons_eq_if_modifyHead, if_pos (by simp),
        List.map_cons]
      exact List.mem_cons_self

theorem normalizeRel_again (valid : normalizeRel rel = .ok path) (trimmed : strip path = path) :
    normalizeRel path = .ok path := by
  obtain ⟨some, plain, joined⟩ := normalizeRel_eq_ok valid
  have parts : pathParts path = pathParts (strip (replaceChar '\\' '/' rel)) := pathParts_normal valid
  rw [← parts] at some plain joined
  unfold normalizeRel
  dsimp only
  rw [replaceChar_normal valid, trimmed, normal_startsWith valid, if_neg (by decide), if_neg plain, if_neg some,
    ← joined]

theorem strip_backslash (text : String) : strip (replaceChar '\\' '/' text) = replaceChar '\\' '/' (strip text) := by
  have kind : (isSpace ∘ fun char => if char = '\\' then '/' else char) = isSpace := by
    funext char
    by_cases backslash : char = '\\'
    · subst backslash
      decide
    · simp [backslash]
  have ends : ∀ chars : List Char, (chars.map fun char => if char = '\\' then '/' else char).rdropWhile isSpace =
      (chars.rdropWhile isSpace).map fun char => if char = '\\' then '/' else char := by
    intro chars
    rw [List.rdropWhile, ← List.map_reverse, List.dropWhile_map, kind, ← List.map_reverse]
    rfl
  simp only [strip, replaceChar, String.toList_ofList]
  rw [List.dropWhile_map, kind, ends]

theorem normal_file {folder directory file : String} (folderNormal : normalizeRel folder = .ok directory)
    (trimmed : strip folder = folder) (clean : Clean file) (valid : normalizeRel (folder ++ "/" ++ file) = .ok path) :
    path = directory ++ "/" ++ file ∧ pathParts path = pathParts directory ++ [file] := by
  have slash : replaceChar '\\' '/' "/" = "/" := by decide
  have spaced : strip (replaceChar '\\' '/' folder) = replaceChar '\\' '/' folder := by
    rw [strip_backslash, trimmed]
  have folderParts := pathParts_normal folderNormal
  have some : replaceChar '\\' '/' folder ≠ "" := by
    intro empty
    apply (normalizeRel_eq_ok folderNormal).1
    rw [empty]
    decide
  have single : pathParts file = [file] := by
    unfold pathParts split
    rw [List.splitOn_eq_singleton clean.slash, List.map_singleton, String.ofList_toList, clean.kept, List.filter_nil]
  have parts : pathParts (strip (replaceChar '\\' '/' (folder ++ "/" ++ file))) = pathParts directory ++ [file] := by
    rw [replaceChar_append, replaceChar_append, slash, clean.replaced, strip_slash spaced some clean, pathParts_append,
      single, folderParts, spaced]
  constructor
  · rw [(normalizeRel_eq_ok valid).2.2, parts, String.intercalate_append_of_ne_nil _ (by simp),
      String.intercalate_singleton, folderParts, ← (normalizeRel_eq_ok folderNormal).2.2]
    rw [folderParts]
    exact (normalizeRel_eq_ok folderNormal).1
  · rw [pathParts_normal valid, parts]

end Components

section Slugs

variable {text part : String} {char : Char} {number : Nat} {asciiFold : String → String}

def SlugChar (char : Char) : Prop :=
  char.toNat = 45 ∨ (48 ≤ char.toNat ∧ char.toNat ≤ 57) ∨ char.toNat = 95 ∨
    (97 ≤ char.toNat ∧ char.toNat ≤ 122)

instance : DecidablePred SlugChar := fun char =>
  inferInstanceAs (Decidable (char.toNat = 45 ∨ (48 ≤ char.toNat ∧ char.toNat ≤ 57) ∨ char.toNat = 95 ∨
    (97 ≤ char.toNat ∧ char.toNat ≤ 122)))

theorem SlugChar.plain (slugChar : SlugChar char) : char ≠ '/' ∧ char ≠ '\\' ∧ isSpace char = false := by
  refine ⟨?_, ?_, ?_⟩
  · rintro rfl
    revert slugChar
    unfold SlugChar
    decide
  · rintro rfl
    revert slugChar
    unfold SlugChar
    decide
  · unfold SlugChar at slugChar
    simp only [isSpace, Bool.or_eq_false_iff, Bool.and_eq_false_iff, decide_eq_false_iff_not,
      beq_eq_false_iff_ne]
    omega

theorem clean_of_slugChars (some : part ≠ "") (chars : ∀ char ∈ part.toList, SlugChar char) : Clean part where
  named := by
    refine ⟨some, ?_⟩
    rintro rfl
    have dot := chars '.' (by decide)
    revert dot
    unfold SlugChar
    decide
  plain := fun char member => (chars char member).plain

theorem clean_markdown (chars : ∀ char ∈ part.toList, SlugChar char) : Clean (part ++ ".md") where
  named := by
    constructor
    · intro same
      have size := congrArg (fun text => text.toList.length) same
      simp at size
    · intro same
      have size := congrArg (fun text => text.toList.length) same
      simp at size
  plain := by
    intro char member
    rw [String.toList_append, List.mem_append] at member
    rcases member with inside | ending
    · exact (chars char inside).plain
    · have endings : ∀ char ∈ ".md".toList, char ≠ '/' ∧ char ≠ '\\' ∧ isSpace char = false :=
        List.all_iff_forall_prop.mp (by decide)
      exact endings char ending

theorem slugChar_slug (member : char ∈ (slug text).toList) : SlugChar char := by
  rcases mem_slug member with rfl | chosen
  · exact .inl rfl
  · have bounds : (97 ≤ char.toNat ∧ char.toNat ≤ 122) ∨ (48 ≤ char.toNat ∧ char.toNat ≤ 57) := by
      simpa [isSlugChar, Char.le_def, UInt32.le_iff_toNat_le] using chosen
    unfold SlugChar
    omega

theorem slugChar_toString (member : char ∈ (toString number).toList) : SlugChar char := by
  rw [Nat.toString_eq_ofList_toDigits, String.toList_ofList] at member
  have digit := Nat.isDigit_of_mem_toDigits (by decide) (by decide) member
  have bounds : 48 ≤ char.toNat ∧ char.toNat ≤ 57 := by
    simpa [Char.isDigit, Char.le_def, UInt32.le_iff_toNat_le] using digit
  exact .inr (.inl bounds)

theorem toLower_code (char : Char) : char.toLower.toNat =
    if 65 ≤ char.toNat ∧ char.toNat ≤ 90 then char.toNat + 32 else char.toNat := by
  unfold Char.toLower
  by_cases upper : char.val ≥ 'A'.val ∧ char.val ≤ 'Z'.val
  · have bounds : 65 ≤ char.toNat ∧ char.toNat ≤ 90 := by
      simpa [UInt32.le_iff_toNat_le] using upper
    rw [dif_pos upper, if_pos bounds]
    change (char.val + ('a'.val - 'A'.val)).toNat = char.toNat + 32
    rw [UInt32.toNat_add]
    have small : char.val.toNat + ('a'.val - 'A'.val).toNat < 2 ^ 32 := by
      have code : char.val.toNat = char.toNat := rfl
      have gap : ('a'.val - 'A'.val).toNat = 32 := by decide
      omega
    rw [Nat.mod_eq_of_lt small]
    rfl
  · have bounds : ¬ (65 ≤ char.toNat ∧ char.toNat ≤ 90) := by
      simpa [UInt32.le_iff_toNat_le] using upper
    rw [dif_neg upper, if_neg bounds]

theorem slugChar_lower (kept : (char.isAlphanum || char = '_' || isSpace char || char = '-') = true)
    (single : (char.toLower = '-' || isSpace char.toLower) = false) : SlugChar char.toLower := by
  have code := toLower_code char
  simp only [Bool.or_eq_true, decide_eq_true_eq] at kept
  simp only [Bool.or_eq_false_iff, decide_eq_false_iff_not] at single
  rcases kept with ((alphanum | rfl) | space) | rfl
  · have bounds := alphanum_bounds alphanum
    unfold SlugChar
    rw [code]
    split <;> omega
  · exact .inr (.inr (.inl rfl))
  · have lowered : char.toLower = char := by
      apply Char.toNat_inj.mp
      rw [code, if_neg]
      simp only [isSpace, Bool.or_eq_true, Bool.and_eq_true, decide_eq_true_eq, beq_iff_eq] at space
      omega
    rw [lowered, space] at single
    exact absurd single.2 (by decide)
  · exact absurd rfl single.1

theorem slugChar_slugify (member : char ∈ (Vault.slugify asciiFold text).toList) : SlugChar char := by
  unfold Vault.slugify at member
  dsimp only at member
  split at member
  · have letters : ∀ char ∈ "doc".toList, SlugChar char := List.all_iff_forall_prop.mp (by decide)
    exact letters char member
  · rw [String.toList_ofList] at member
    rcases mem_collapseRuns member with rfl | ⟨mapped, single⟩
    · exact .inl rfl
    · obtain ⟨source, stripped, rfl⟩ := List.mem_map.mp mapped
      rw [strip, String.toList_ofList] at stripped
      have inner := (List.rdropWhile_prefix _ _).sublist.mem stripped
      have kept := (List.dropWhile_sublist _).mem inner
      rw [String.toList_ofList] at kept
      exact slugChar_lower (List.mem_filter.mp kept).2 single

theorem slugify_ne_empty : Vault.slugify asciiFold text ≠ "" := by
  unfold Vault.slugify
  dsimp only
  split
  · decide
  · assumption

theorem clean_slugify : Clean (Vault.slugify asciiFold text) :=
  clean_of_slugChars slugify_ne_empty fun _ => slugChar_slugify

end Slugs

end Dosm.Docs.Store
