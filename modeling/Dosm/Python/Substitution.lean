import Mathlib.Data.List.Infix
import Mathlib.Data.List.Count

namespace Dosm.Python.Substitution

/-! Substitution of the matches of a pattern, from the left.

A pattern tells of a place of the subject how many characters after the first one belong to
a match there, so no match is empty.
-/

section Substitution

variable {Symbol : Type}

abbrev Matcher (Symbol : Type) := Symbol → List Symbol → Option Nat

/-- `re.sub`; the first characters of the text may belong to the match before. -/
def sub (matchAt : Matcher Symbol) (new : List Symbol) : Nat → List Symbol → List Symbol
  | _, [] => []
  | skipped + 1, _ :: rest => sub matchAt new skipped rest
  | 0, symbol :: rest =>
      match matchAt symbol rest with
      | some more => new ++ sub matchAt new more rest
      | none => symbol :: sub matchAt new 0 rest

def literal [DecidableEq Symbol] (first : Symbol) (word : List Symbol) : Matcher Symbol := fun symbol rest =>
  if symbol = first ∧ word <+: rest then some word.length else none

/-- `str.replace` of a text that begins with `first` and goes on with `word`. -/
def replace [DecidableEq Symbol] (first : Symbol) (word new text : List Symbol) : List Symbol :=
  sub (literal first word) new 0 text

variable {matchAt : Matcher Symbol} {new text rest : List Symbol} {symbol : Symbol} {more : Nat}

@[simp] theorem sub_nil (skipped : Nat) : sub matchAt new skipped [] = [] := by
  cases skipped <;> rfl

theorem sub_drop (skipped : Nat) : sub matchAt new skipped text = sub matchAt new 0 (text.drop skipped) := by
  induction text generalizing skipped with
  | nil => simp
  | cons symbol rest ih =>
      cases skipped with
      | zero => rfl
      | succ fewer => exact ih fewer

theorem sub_match (found : matchAt symbol rest = some more) :
    sub matchAt new 0 (symbol :: rest) = new ++ sub matchAt new 0 (rest.drop more) := by
  rw [sub, found, ← sub_drop]

theorem sub_pass (missed : matchAt symbol rest = none) :
    sub matchAt new 0 (symbol :: rest) = symbol :: sub matchAt new 0 rest := by
  rw [sub, missed]

theorem sub_same (same : ∀ symbol rest more, symbol :: rest <:+ text → matchAt symbol rest = some more →
    symbol :: rest.take more = new) : sub matchAt new 0 text = text := by
  induction size : text.length using Nat.strong_induction_on generalizing text with
  | _ bound ih =>
      cases text with
      | nil => rfl
      | cons symbol rest =>
          have later : ∀ skipped, sub matchAt new 0 (rest.drop skipped) = rest.drop skipped := by
            intro skipped
            have inside : rest.drop skipped <:+ symbol :: rest :=
              (List.drop_suffix skipped rest).trans (List.suffix_cons symbol rest)
            apply ih (rest.drop skipped).length
            · simp only [List.length_cons] at size
              rw [List.length_drop]
              omega
            · exact fun first others more reached => same first others more (reached.trans inside)
            · rfl
          cases found : matchAt symbol rest with
          | none => rw [sub_pass found, ← List.drop_zero (l := rest), later]
          | some more =>
              rw [sub_match found, later, ← same symbol rest more (List.suffix_refl _) found, List.cons_append,
                List.take_append_drop]

theorem countP_sub_le (counted : Symbol → Bool) (fewer : ∀ symbol rest more, matchAt symbol rest = some more →
    new.countP counted ≤ (symbol :: rest.take more).countP counted) :
    (sub matchAt new 0 text).countP counted ≤ text.countP counted := by
  induction size : text.length using Nat.strong_induction_on generalizing text with
  | _ bound ih =>
      cases text with
      | nil => exact Nat.le_refl _
      | cons symbol rest =>
          simp only [List.length_cons] at size
          cases found : matchAt symbol rest with
          | none =>
              have later := ih rest.length (by omega) rfl
              rw [sub_pass found, List.countP_cons, List.countP_cons]
              omega
          | some more =>
              have later := ih (rest.drop more).length (by rw [List.length_drop]; omega) rfl
              have whole : (symbol :: rest).countP counted =
                  (symbol :: rest.take more).countP counted + (rest.drop more).countP counted := by
                rw [← List.countP_append, List.cons_append, List.take_append_drop]
              have bound := fewer symbol rest more found
              rw [sub_match found, List.countP_append, whole]
              omega

end Substitution

section Replacement

variable {Symbol : Type} [DecidableEq Symbol] {first : Symbol} {word new text rest : List Symbol} {symbol : Symbol}

theorem replace_found (follows : word <+: rest) :
    replace first word new (first :: rest) = new ++ replace first word new (rest.drop word.length) :=
  sub_match (if_pos ⟨rfl, follows⟩)

theorem replace_pass (apart : symbol = first → ¬ word <+: rest) :
    replace first word new (symbol :: rest) = symbol :: replace first word new rest :=
  sub_pass (if_neg fun ⟨same, follows⟩ => apart same follows)

theorem replace_append {other : List Symbol} (absent : first ∉ other) :
    replace first word new (other ++ rest) = other ++ replace first word new rest := by
  induction other with
  | nil => rfl
  | cons symbol others ih =>
      rw [List.cons_append, replace_pass, ih fun member => absent (List.mem_cons_of_mem _ member), List.cons_append]
      rintro rfl
      exact absurd List.mem_cons_self absent

theorem replace_absent (absent : ¬ first :: word <:+: text) : replace first word new text = text := by
  apply sub_same
  intro symbol rest more reached found
  obtain ⟨rfl, follows⟩ : symbol = first ∧ word <+: rest := by
    by_contra missed
    rw [literal, if_neg missed] at found
    cases found
  exact absurd (((List.prefix_cons_inj symbol).mpr follows).isInfix.trans reached.isInfix) absent

theorem countP_replace_lt (counted : Symbol → Bool) (fewer : new.countP counted < (first :: word).countP counted)
    (occurs : first :: word <:+: text) : (replace first word new text).countP counted < text.countP counted := by
  have less : ∀ symbol rest more, literal first word symbol rest = some more →
      new.countP counted < (symbol :: rest.take more).countP counted := by
    intro symbol rest more found
    unfold literal at found
    split at found
    next place =>
      obtain ⟨rfl, after, rfl⟩ := place
      cases found
      rwa [List.take_left]
    next => cases found
  have rests : ∀ text : List Symbol, (replace first word new text).countP counted ≤ text.countP counted := fun text =>
    countP_sub_le counted fun symbol rest more found => (less symbol rest more found).le
  induction text with
  | nil => exact absurd (List.infix_nil.mp occurs) (List.cons_ne_nil _ _)
  | cons symbol rest ih =>
      by_cases place : symbol = first ∧ word <+: rest
      · obtain ⟨rfl, after, rfl⟩ := place
        have later := rests after
        rw [replace_found (List.prefix_append _ _), List.drop_left, List.countP_append, ← List.cons_append,
          List.countP_append]
        omega
      · have inside : first :: word <:+: rest := by
          rcases List.infix_cons_iff.mp occurs with front | inside
          · obtain ⟨rfl, follows⟩ := List.cons_prefix_cons.mp front
            exact absurd ⟨rfl, follows⟩ place
          · exact inside
        have later := ih inside
        rw [replace_pass fun same follows => place ⟨same, follows⟩, List.countP_cons, List.countP_cons]
        omega

end Replacement

section Codes

variable {Symbol : Type} [DecidableEq Symbol] (mark : Symbol)

/-- A word for each symbol of the table; the word is shown after the mark. -/
abbrev CodeTable (Symbol : Type) := List (List Symbol × Symbol)

def codeOf (table : CodeTable Symbol) (symbol : Symbol) : List Symbol :=
  match table.find? fun entry => entry.2 = symbol with
  | some entry => mark :: entry.1
  | none => [symbol]

def encode (table : CodeTable Symbol) (text : List Symbol) : List Symbol := text.flatMap (codeOf mark table)

/-- The codes are replaced one after another, each in the whole text. -/
def decode (table : CodeTable Symbol) (text : List Symbol) : List Symbol :=
  table.foldl (fun text entry => replace mark entry.1 [entry.2] text) text

def Incomparable (first second : List Symbol) : Prop := ¬ first <+: second ∧ ¬ second <+: first

instance (first second : List Symbol) : Decidable (Incomparable first second) := inferInstanceAs (Decidable (_ ∧ _))

structure Separate (table : CodeTable Symbol) : Prop where
  words : ∀ entry ∈ table, mark ∉ entry.1 ∧ ∀ other ∈ table, other.2 ∉ entry.1
  apart : table.Pairwise fun entry other => entry.2 ≠ other.2 ∧ Incomparable entry.1 other.1

variable {mark} {table : CodeTable Symbol} {entry : List Symbol × Symbol} {word text rest : List Symbol}
  {symbol : Symbol}

omit [DecidableEq Symbol] in
theorem Incomparable.unmatched {first second : List Symbol} (incomparable : Incomparable first second) :
    ¬ first <+: second ++ rest := by
  intro longer
  rcases List.prefix_or_prefix_of_prefix longer (List.prefix_append second rest) with before | after
  · exact incomparable.1 before
  · exact incomparable.2 after

theorem Separate.tail (separate : Separate mark (entry :: table)) : Separate mark table where
  words other listed := by
    obtain ⟨unmarked, plain⟩ := separate.words other (List.mem_cons_of_mem _ listed)
    exact ⟨unmarked, fun next member => plain next (List.mem_cons_of_mem _ member)⟩
  apart := (List.pairwise_cons.mp separate.apart).2

theorem codeOf_some (found : table.find? (fun entry => entry.2 = symbol) = some entry) :
    codeOf mark table symbol = mark :: entry.1 := by
  rw [codeOf, found]

theorem codeOf_none (missing : table.find? (fun entry => entry.2 = symbol) = none) :
    codeOf mark table symbol = [symbol] := by
  rw [codeOf, missing]

theorem codeOf_unlisted (unlisted : ∀ entry ∈ table, entry.2 ≠ symbol) : codeOf mark table symbol = [symbol] :=
  codeOf_none (List.find?_eq_none.mpr fun entry listed => by simpa using unlisted entry listed)

theorem prefix_encode (plain : ∀ symbol ∈ word, codeOf mark table symbol = [symbol]) (unmarked : mark ∉ word) :
    word <+: encode mark table rest ↔ word <+: rest := by
  induction word generalizing rest with
  | nil => simp
  | cons first others ih =>
      have later : ∀ rest : List Symbol, others <+: rest.flatMap (codeOf mark table) ↔ others <+: rest := fun rest =>
        ih (fun symbol member => plain symbol (List.mem_cons_of_mem _ member))
          fun member => unmarked (List.mem_cons_of_mem _ member)
      have firstPlain := plain first List.mem_cons_self
      have firstUnmarked : mark ≠ first := fun same => unmarked (same ▸ List.mem_cons_self)
      cases rest with
      | nil => simp [encode]
      | cons symbol rest =>
          rw [encode, List.flatMap_cons]
          cases found : table.find? fun entry => entry.2 = symbol with
          | none =>
              rw [codeOf_none found, List.singleton_append, List.cons_prefix_cons, List.cons_prefix_cons, later]
          | some entry =>
              rw [codeOf_some found, List.cons_append, List.cons_prefix_cons, List.cons_prefix_cons]
              constructor
              · rintro ⟨same, _⟩
                exact absurd same.symm firstUnmarked
              · rintro ⟨rfl, _⟩
                rw [codeOf_some found] at firstPlain
                exact absurd (List.head_eq_of_cons_eq firstPlain) firstUnmarked

theorem drop_encode (plain : ∀ symbol ∈ word, codeOf mark table symbol = [symbol]) (follows : word <+: rest) :
    (encode mark table rest).drop word.length = encode mark table (rest.drop word.length) := by
  obtain ⟨after, rfl⟩ := follows
  have kept : word.flatMap (codeOf mark table) = word := by
    induction word with
    | nil => rfl
    | cons first others ih =>
        rw [List.flatMap_cons, plain first List.mem_cons_self,
          ih fun symbol member => plain symbol (List.mem_cons_of_mem _ member), List.singleton_append]
  rw [encode, List.flatMap_append, kept, List.drop_left, List.drop_left, encode]

theorem encode_cons : encode mark table (symbol :: rest) = codeOf mark table symbol ++ encode mark table rest :=
  List.flatMap_cons

theorem codeOf_cons : codeOf mark (entry :: table) symbol =
    if entry.2 = symbol then mark :: entry.1 else codeOf mark table symbol := by
  by_cases same : entry.2 = symbol <;> simp [codeOf, same]

theorem replace_code {other new : List Symbol} (incomparable : Incomparable word other) (unmarked : mark ∉ other) :
    replace mark word new (mark :: other ++ rest) = mark :: other ++ replace mark word new rest := by
  rw [List.cons_append, replace_pass fun _ => incomparable.unmatched, replace_append unmarked, List.cons_append]

theorem replace_encode_foreign {new : List Symbol} (unmarked : ∀ entry ∈ table, mark ∉ entry.1)
    (foreign : ∀ entry ∈ table, Incomparable word entry.1) (coded : ∃ entry ∈ table, entry.2 = mark) :
    replace mark word new (encode mark table text) = encode mark table text := by
  induction text with
  | nil => rfl
  | cons symbol rest ih =>
      rw [encode_cons]
      cases found : table.find? fun entry => entry.2 = symbol with
      | none =>
          have other : symbol ≠ mark := by
            rintro rfl
            obtain ⟨entry, listed, same⟩ := coded
            have missing := List.find?_eq_none.mp found entry listed
            simp [same] at missing
          rw [codeOf_none found, List.singleton_append, replace_pass fun same => absurd same other, ih]
      | some entry =>
          have listed := List.mem_of_find?_eq_some found
          rw [codeOf_some found, replace_code (foreign entry listed) (unmarked entry listed), ih]

theorem replace_encode_mark (separate : Separate mark (entry :: table)) (shown : entry.2 = mark) :
    replace mark entry.1 [mark] (encode mark (entry :: table) text) = encode mark table text := by
  obtain ⟨apart, -⟩ := List.pairwise_cons.mp separate.apart
  induction text with
  | nil => rfl
  | cons symbol rest ih =>
      rw [encode_cons, encode_cons, codeOf_cons]
      by_cases same : entry.2 = symbol
      · have unlisted : codeOf mark table symbol = [symbol] := codeOf_unlisted fun other listed again =>
          (apart other listed).1 (same.trans again.symm)
        rw [if_pos same, List.cons_append, replace_found (List.prefix_append _ _), List.drop_left, ih, unlisted,
          ← same, shown]
      rw [if_neg same]
      cases found : table.find? fun entry => entry.2 = symbol with
      | none =>
          rw [codeOf_none found, List.singleton_append, replace_pass fun marked => absurd (shown.trans marked.symm) same,
            ih, List.singleton_append]
      | some other =>
          have listed := List.mem_of_find?_eq_some found
          rw [codeOf_some found, replace_code (apart other listed).2
            (separate.words other (List.mem_cons_of_mem _ listed)).1, ih]

/-- Any other code is taken back together with what the text itself shows of it. -/
theorem replace_encode (separate : Separate mark (entry :: table)) (uncoded : ∀ other ∈ entry :: table, other.2 ≠ mark) :
    replace mark entry.1 [entry.2] (encode mark (entry :: table) text) =
      encode mark table (replace mark entry.1 [entry.2] text) := by
  obtain ⟨apart, -⟩ := List.pairwise_cons.mp separate.apart
  obtain ⟨unmarked, plain⟩ := separate.words entry List.mem_cons_self
  have plainWord : ∀ symbol ∈ entry.1, codeOf mark (entry :: table) symbol = [symbol] := fun symbol member =>
    codeOf_unlisted fun other listed same => plain other listed (same ▸ member)
  have shownUnlisted : codeOf mark table entry.2 = [entry.2] := codeOf_unlisted fun other listed same =>
    (apart other listed).1 same.symm
  induction size : text.length using Nat.strong_induction_on generalizing text with
  | _ bound ih =>
      cases text with
      | nil => rfl
      | cons symbol rest =>
          simp only [List.length_cons] at size
          have later := ih rest.length (by omega) rfl
          rw [encode_cons, codeOf_cons]
          by_cases same : entry.2 = symbol
          · rw [if_pos same, List.cons_append, replace_found (List.prefix_append _ _), List.drop_left, later, ← same,
              replace_pass fun marked => absurd marked (uncoded entry List.mem_cons_self), encode_cons, shownUnlisted]
          rw [if_neg same]
          cases found : table.find? fun entry => entry.2 = symbol with
          | none =>
              rw [codeOf_none found, List.singleton_append]
              by_cases place : symbol = mark ∧ entry.1 <+: rest
              · obtain ⟨rfl, follows⟩ := place
                have shorter := ih (rest.drop entry.1.length).length (by rw [List.length_drop]; omega) rfl
                rw [replace_found ((prefix_encode plainWord unmarked).mpr follows), drop_encode plainWord follows,
                  shorter, replace_found follows, List.singleton_append, List.singleton_append, encode_cons,
                  shownUnlisted, List.singleton_append]
              · have apartHere : symbol = mark → ¬ entry.1 <+: rest := fun marked follows => place ⟨marked, follows⟩
                rw [replace_pass fun marked follows =>
                    apartHere marked ((prefix_encode plainWord unmarked).mp follows),
                  replace_pass apartHere, later, encode_cons, codeOf_none found, List.singleton_append]
          | some other =>
              have listed := List.mem_of_find?_eq_some found
              have shown : other.2 = symbol := by simpa using List.find?_some found
              have otherMark : symbol ≠ mark := fun marked =>
                uncoded other (List.mem_cons_of_mem _ listed) (shown.trans marked)
              rw [codeOf_some found, replace_code (apart other listed).2
                (separate.words other (List.mem_cons_of_mem _ listed)).1, later,
                replace_pass fun marked => absurd marked otherMark, encode_cons, codeOf_some found]

theorem decode_encode_uncoded (separate : Separate mark table) (uncoded : ∀ entry ∈ table, entry.2 ≠ mark) :
    decode mark table (encode mark table text) = decode mark table text := by
  induction table generalizing text with
  | nil =>
      have same : encode mark [] text = text := by
        induction text with
        | nil => rfl
        | cons symbol rest ih => rw [encode_cons, ih]; rfl
      rw [same]
  | cons entry table ih =>
      have later := @ih (replace mark entry.1 [entry.2] text) separate.tail fun other listed =>
        uncoded other (List.mem_cons_of_mem _ listed)
      rw [decode, List.foldl_cons, replace_encode separate uncoded]
      exact later

theorem decode_encode (separate : Separate mark (entry :: table)) (shown : entry.2 = mark) :
    decode mark (entry :: table) (encode mark (entry :: table) text) = decode mark table text := by
  have uncoded : ∀ other ∈ table, other.2 ≠ mark := fun other listed marked =>
    ((List.pairwise_cons.mp separate.apart).1 other listed).1 (shown.trans marked.symm)
  rw [decode, List.foldl_cons, shown, replace_encode_mark separate shown]
  exact decode_encode_uncoded separate.tail uncoded

theorem decode_absent (absent : ∀ entry ∈ table, ¬ mark :: entry.1 <:+: text) : decode mark table text = text := by
  induction table with
  | nil => rfl
  | cons entry table ih =>
      rw [decode, List.foldl_cons, replace_absent (absent entry List.mem_cons_self)]
      exact ih fun other listed => absent other (List.mem_cons_of_mem _ listed)

theorem countP_decode_le (counted : Symbol → Bool)
    (fewer : ∀ entry ∈ table, [entry.2].countP counted < (mark :: entry.1).countP counted) :
    (decode mark table text).countP counted ≤ text.countP counted := by
  induction table generalizing text with
  | nil => exact Nat.le_refl _
  | cons entry table ih =>
      have later := @ih (replace mark entry.1 [entry.2] text) fun other listed =>
        fewer other (List.mem_cons_of_mem _ listed)
      refine later.trans ?_
      by_cases occurs : mark :: entry.1 <:+: text
      · exact (countP_replace_lt counted (fewer entry List.mem_cons_self) occurs).le
      · rw [replace_absent occurs]

theorem countP_decode_lt (counted : Symbol → Bool)
    (fewer : ∀ entry ∈ table, [entry.2].countP counted < (mark :: entry.1).countP counted)
    (occurs : ∃ entry ∈ table, mark :: entry.1 <:+: text) :
    (decode mark table text).countP counted < text.countP counted := by
  induction table with
  | nil => simp at occurs
  | cons entry table ih =>
      have fewerLater : ∀ other ∈ table, [other.2].countP counted < (mark :: other.1).countP counted :=
        fun other listed => fewer other (List.mem_cons_of_mem _ listed)
      rw [decode, List.foldl_cons]
      by_cases first : mark :: entry.1 <:+: text
      · exact (countP_decode_le counted fewerLater).trans_lt
          (countP_replace_lt counted (fewer entry List.mem_cons_self) first)
      · rw [replace_absent first]
        obtain ⟨other, listed, found⟩ := occurs
        rcases List.mem_cons.mp listed with rfl | later
        · exact absurd found first
        · exact ih fewerLater ⟨other, later, found⟩

end Codes

end Dosm.Python.Substitution
