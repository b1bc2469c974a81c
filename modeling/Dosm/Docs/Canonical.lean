import Dosm.Docs.Paths
import Mathlib.Algebra.Order.BigOperators.Group.List
import Mathlib.Algebra.Order.Group.Nat

namespace Dosm.Docs.Store

open Python

/-! Normalising a normal path.

Blanks are trimmed before components are dropped, so a component that comes to
stand at an end by that keeps its own blanks, and the next normalisation, which
every store operation performs, takes them off.
-/

/-- A path that names one file below the root, and the same one when it is
normalised again. -/
structure Canonical (path : String) : Prop where
  nonempty : path ≠ ""
  relative : startsWith path "/" = false
  parts : ∀ part ∈ components path, part ≠ "" ∧ part ≠ "." ∧ part ≠ ".."
  slashes : '\\' ∉ path.toList
  again : normalizeRel path = .ok path

def EdgesVisible (text : String) : Prop :=
  (∀ char ∈ text.toList.head?, isSpace char = false) ∧ ∀ char ∈ text.toList.getLast?, isSpace char = false

/-- Of the components that normalisation keeps, the first does not begin with a
blank and the last does not end with one. -/
def EndsVisible (rel : String) : Prop :=
  (∀ first ∈ (pathParts (strip (replaceChar '\\' '/' rel))).head?,
      ∀ char ∈ first.toList.head?, isSpace char = false) ∧
    ∀ last ∈ (pathParts (strip (replaceChar '\\' '/' rel))).getLast?,
      ∀ char ∈ last.toList.getLast?, isSpace char = false

instance (rel : String) : Decidable (EndsVisible rel) :=
  decidable_of_iff
    (((pathParts (strip (replaceChar '\\' '/' rel))).head?.all fun first =>
        first.toList.head?.all fun char => !isSpace char) = true ∧
      ((pathParts (strip (replaceChar '\\' '/' rel))).getLast?.all fun last =>
        last.toList.getLast?.all fun char => !isSpace char) = true)
    (by simp [EndsVisible, Option.all_eq_true])

variable {rel path text : String}

theorem strip_eq_self_iff : strip text = text ↔ EdgesVisible text := by
  constructor
  · intro trimmed
    have back : (text.toList.dropWhile isSpace).rdropWhile isSpace = text.toList := by
      have same := congrArg String.toList trimmed
      rwa [strip, String.toList_ofList] at same
    have front : text.toList.dropWhile isSpace = text.toList := by
      have bound := (List.rdropWhile_prefix isSpace (text.toList.dropWhile isSpace)).sublist.length_le
      rw [back] at bound
      exact (List.dropWhile_suffix isSpace).eq_of_length_le bound
    rw [front] at back
    constructor
    · intro char first
      rw [List.dropWhile_eq_self_iff] at front
      obtain ⟨rest, whole⟩ := List.head?_eq_some_iff.mp first
      have visible := front (by simp [whole])
      simpa [whole] using visible
    · intro char last
      rw [List.rdropWhile_eq_self_iff] at back
      obtain ⟨nonempty, same⟩ := List.mem_getLast?_eq_getLast last
      have visible := back nonempty
      rw [← same] at visible
      simpa using visible
  · rintro ⟨first, last⟩
    have front : text.toList.dropWhile isSpace = text.toList := by
      rw [List.dropWhile_eq_self_iff]
      intro some
      have visible := first _ (List.head?_eq_getElem? .. ▸ List.getElem?_eq_getElem some)
      simp [visible]
    have back : text.toList.rdropWhile isSpace = text.toList := by
      rw [List.rdropWhile_eq_self_iff]
      intro nonempty
      have visible := last _ (List.getLast?_eq_some_getLast nonempty)
      simp [visible]
    rw [strip, front, back, String.ofList_toList]

theorem length_join_le {kept parts : List String} (sub : kept.Sublist parts) :
    ("/".intercalate kept).length ≤ ("/".intercalate parts).length := by
  have size : ∀ pieces : List String, ("/".intercalate pieces).length =
      (pieces.map String.length).sum + (pieces.length - 1) := by
    intro pieces
    induction pieces with
    | nil => rfl
    | cons first rest ih =>
        cases rest with
        | nil => simp
        | cons second rest =>
            rw [String.intercalate_cons_cons, String.length_append, String.length_append, ih]
            have slash : "/".length = 1 := by decide
            simp only [List.map_cons, List.sum_cons, List.length_cons]
            omega
  have sums := (sub.map String.length).sum_le_sum (fun _ _ => Nat.zero_le _)
  have counts := sub.length_le
  rw [size, size]
  omega

theorem length_pathParts_le (text : String) : ("/".intercalate (pathParts text)).length ≤ text.length := by
  calc
    ("/".intercalate (pathParts text)).length ≤ ("/".intercalate (components text)).length :=
      length_join_le List.filter_sublist
    _ = text.length := by rw [join_components]

theorem strip_of_again (again : normalizeRel path = .ok path) : strip path = path := by
  have joined := (normalizeRel_eq_ok again).2.2
  rw [replaceChar_normal again] at joined
  have shortened : path.length ≤ (strip path).length := by
    calc
      path.length = ("/".intercalate (pathParts (strip path))).length := congrArg String.length joined
      _ ≤ (strip path).length := length_pathParts_le (strip path)
  have sub : (strip path).toList.Sublist path.toList := by
    rw [strip, String.toList_ofList]
    exact (List.rdropWhile_prefix _ _).sublist.trans (List.dropWhile_sublist _)
  apply String.toList_injective
  exact sub.eq_of_length_le (by rwa [String.length_toList, String.length_toList])

theorem edgesVisible_join {parts : List String} (some : parts ≠ []) (named : ∀ part ∈ parts, part ≠ "") :
    EdgesVisible ("/".intercalate parts) ↔
      (∀ first ∈ parts.head?, ∀ char ∈ first.toList.head?, isSpace char = false) ∧
        ∀ last ∈ parts.getLast?, ∀ char ∈ last.toList.getLast?, isSpace char = false := by
  have front : ∀ first ∈ parts.head?, ("/".intercalate parts).toList.head? = first.toList.head? := by
    intro first begins
    obtain ⟨rest, rfl⟩ := List.head?_eq_some_iff.mp begins
    have filled : first.toList ≠ [] := by simpa using named first List.mem_cons_self
    cases rest with
    | nil => rw [String.intercalate_singleton]
    | cons second rest =>
        rw [String.intercalate_cons_cons, String.toList_append, String.toList_append, List.append_assoc,
          List.head?_append_of_ne_nil _ filled]
  have back : ∀ last ∈ parts.getLast?, ("/".intercalate parts).toList.getLast? = last.toList.getLast? := by
    intro last ends
    obtain ⟨before, rfl⟩ := List.getLast?_eq_some_iff.mp ends
    have filled : last.toList ≠ [] := by simpa using named last (by simp)
    cases before with
    | nil => rw [List.nil_append, String.intercalate_singleton]
    | cons first before =>
        rw [String.intercalate_append_of_ne_nil (by simp) (by simp), String.intercalate_singleton, String.toList_append,
          List.getLast?_append_of_ne_nil _ filled]
  constructor
  · rintro ⟨visible, trailing⟩
    exact ⟨fun first begins => front first begins ▸ visible, fun last ends => back last ends ▸ trailing⟩
  · rintro ⟨visible, trailing⟩
    obtain ⟨first, begins⟩ : ∃ first, first ∈ parts.head? := ⟨_, List.head?_eq_some_head some⟩
    obtain ⟨last, ends⟩ : ∃ last, last ∈ parts.getLast? := ⟨_, List.getLast?_eq_some_getLast some⟩
    constructor
    · rw [front first begins]
      exact visible first begins
    · rw [back last ends]
      exact trailing last ends

/-- What one normalisation returns names a file below the root. It is canonical
when no blank comes to stand at an end, and only then. -/
theorem normalizeRel_canonical (valid : normalizeRel rel = .ok path) : Canonical path ↔ EndsVisible rel := by
  obtain ⟨some, plain, joined⟩ := normalizeRel_eq_ok valid
  have named : ∀ part ∈ pathParts (strip (replaceChar '\\' '/' rel)), part ≠ "" ∧ part ≠ "." := fun part listed =>
    of_decide_eq_true (List.mem_filter.mp listed).2
  have ends : EdgesVisible path ↔ EndsVisible rel := by
    rw [joined]
    exact edgesVisible_join some fun part listed => (named part listed).1
  constructor
  · intro canonical
    exact ends.mp (strip_eq_self_iff.mp (strip_of_again canonical.again))
  · intro visible
    have trimmed : strip path = path := strip_eq_self_iff.mpr (ends.mpr visible)
    refine {
      nonempty := ?_
      relative := normal_startsWith valid
      parts := ?_
      slashes := normal_backslash valid
      again := normalizeRel_again valid trimmed }
    · rintro rfl
      apply some
      rw [← pathParts_normal valid]
      decide
    · rw [normalizeRel_components valid]
      intro part listed
      refine ⟨(named part listed).1, (named part listed).2, ?_⟩
      rintro rfl
      exact plain listed

theorem normalizeRel_canonical_dotted :
    normalizeRel " .\\ops//./a b.md " = .ok "ops/a b.md" ∧ Canonical "ops/a b.md" := by
  have valid : normalizeRel " .\\ops//./a b.md " = .ok "ops/a b.md" := by decide
  exact ⟨valid, (normalizeRel_canonical valid).mpr (by decide)⟩

/-- A file whose name begins with a blank is named by no path a store accepts. -/
theorem leading_blank_lost :
    normalizeRel "./ a.md" = .ok " a.md" ∧ normalizeRel " a.md" = .ok "a.md" ∧ ¬ Canonical " a.md" := by
  refine ⟨by decide, by decide, fun canonical => ?_⟩
  exact absurd canonical.again (by decide)

example : normalizeRel "./ /b" = .ok " /b" ∧ normalizeRel " /b" = .error (.absolute " /b") := by decide
example : EndsVisible "a / b" ∧ ¬ EndsVisible "a /." := by decide

theorem safeRel_again {store : DocsStore} (safe : store.safeRel rel = .ok path) (again : normalizeRel path = .ok path) :
    store.safeRel path = .ok path := by
  unfold DocsStore.safeRel at safe ⊢
  rcases store with ⟨backend, present, tree⟩
  cases backend with
  | smb fault => exact again
  | localRoot contained =>
      simp only at safe ⊢
      cases normal : normalizeRel rel with
      | error error =>
          rw [normal] at safe
          cases safe
      | ok norm =>
          rw [normal] at safe
          by_cases inside : contained norm = true
          · simp only [inside, if_true, Except.ok.injEq] at safe
            subst safe
            simp [again, inside]
          · simp [inside] at safe

theorem safeRel_canonical {store : DocsStore} (safe : store.safeRel rel = .ok path) :
    Canonical path → store.safeRel path = .ok path := by
  intro canonical
  exact safeRel_again safe canonical.again

end Dosm.Docs.Store
