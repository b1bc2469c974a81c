import Dosm.Models
import Dosm.Python.Patterns

namespace Dosm.Monitoring

open Models Python.Patterns

/-! The host filter of the coverage page: a pattern and a list of tags.

One text field takes globs and regular expressions, and the characters of the pattern
tell which of them it is.
-/

structure TaggedHost where
  host : Host
  tags : List Tag

def isRegex (pattern : List Char) : Bool := pattern.any fun char => char ∈ ['^', '$', '(', '[', '.']

/-- None where the pattern does not compile. -/
def globToRegex (library : Library) (pattern : String) : Option (String → Bool) :=
  if isRegex pattern.toList then library.compile pattern
  else
    let escaped := replacePair '\\' '?' ['.'] (replacePair '\\' '*' ['.', '*'] (escape pattern.toList))
    library.compile (String.ofList ('^' :: escaped ++ ['$']))

def filterTags (lower : String → String) (tagNames : List String) (hosts : List TaggedHost) : List TaggedHost :=
  if tagNames = [] then hosts
  else hosts.filter fun entry => entry.tags.any fun tag => (tagNames.map lower).contains (lower tag.name)

def filterHosts (library : Library) (lower : String → String) (hosts : List TaggedHost) (pattern : String)
    (tagNames : List String) : Option (List TaggedHost) :=
  if pattern = "" then some (filterTags lower tagNames hosts)
  else (globToRegex library pattern).map fun found =>
    filterTags lower tagNames (hosts.filter fun entry => found entry.host.name || found entry.host.hostname)

section Filtering

variable {library : Library} {lower : String → String} {hosts : List TaggedHost} {entry : TaggedHost}
variable {pattern text : String} {tagNames : List String}

/-- The host wears one of the tags, if any are asked for. -/
def Wears (lower : String → String) (tagNames : List String) (entry : TaggedHost) : Prop :=
  tagNames = [] ∨ ∃ tag ∈ entry.tags, ∃ name ∈ tagNames, lower name = lower tag.name

/-- The text is what the glob stands for, ignoring case. -/
def StandsFor (library : Library) (pattern text : String) : Prop :=
  Glob library.alike (fun _ => True) pattern.toList text.toList

/-- The same as the expression of the glob has it: stars and question marks do not stand for line feeds,
and the text may have a line feed at its end. -/
def StandsForLines (library : Library) (pattern text : String) : Prop :=
  GlobEnds library.alike pattern.toList text.toList

def OneLine (text : String) : Prop := '\n' ∉ text.toList

theorem filterTags_filter :
    ∃ keep : TaggedHost → Bool, filterTags lower tagNames hosts = hosts.filter keep ∧
      ∀ entry, keep entry = true ↔ Wears lower tagNames entry := by
  by_cases all : tagNames = []
  · refine ⟨fun _ => true, ?_, fun entry => ⟨fun _ => .inl all, fun _ => rfl⟩⟩
    rw [filterTags, if_pos all, List.filter_true]
  refine ⟨fun entry => entry.tags.any fun tag => (tagNames.map lower).contains (lower tag.name), ?_, ?_⟩
  · rw [filterTags, if_neg all]
  · intro entry
    simp [Wears, all]

theorem filterHosts_found {found : String → Bool} (given : pattern ≠ "") (compiled : globToRegex library pattern = some found) :
    ∃ keep : TaggedHost → Bool, filterHosts library lower hosts pattern tagNames = some (hosts.filter keep) ∧
      ∀ entry, keep entry = true ↔ Wears lower tagNames entry ∧
        (found entry.host.name = true ∨ found entry.host.hostname = true) := by
  obtain ⟨worn, tags, wears⟩ := @filterTags_filter lower
    (hosts.filter fun entry => found entry.host.name || found entry.host.hostname) tagNames
  refine ⟨fun entry => worn entry && (found entry.host.name || found entry.host.hostname), ?_, ?_⟩
  · rw [filterHosts, if_neg given, compiled, Option.map_some, tags, List.filter_filter]
  · intro entry
    rw [Bool.and_eq_true, wears, Bool.or_eq_true]

theorem standsForLines_line (line : OneLine text) : StandsForLines library pattern text ↔ StandsFor library pattern text :=
  globEnds_line line

theorem globToRegex_glob (plain : isRegex pattern.toList = false) :
    globToRegex library pattern = some fun subject =>
      search library.alike (.start :: pattern.toList.map globPiece ++ [.stop]) subject.toList := by
  have text : ('^' :: replacePair '\\' '?' ['.'] (replacePair '\\' '*' ['.', '*'] (escape pattern.toList)) ++ ['$']) =
      '^' :: pattern.toList.flatMap globText ++ ['$'] := by
    rw [replace_star, replace_question]
  rw [globToRegex, plain, if_neg Bool.false_ne_true]
  dsimp only
  rw [text]
  apply library.simple
  rw [String.toList_ofList]
  exact readPieces_glob

/-- A pattern without any of the expression's own characters is a glob for the whole name or host name. Any
other pattern is an expression to be found in one of them. -/
theorem filterHosts_selects (library : Library) (lower : String → String) (hosts : List TaggedHost) (pattern : String)
    (tagNames : List String) :
    (pattern = "" → ∃ keep : TaggedHost → Bool, filterHosts library lower hosts pattern tagNames = some (hosts.filter keep) ∧
      ∀ entry, keep entry = true ↔ Wears lower tagNames entry) ∧
    (pattern ≠ "" → isRegex pattern.toList = false → ∃ keep : TaggedHost → Bool,
      filterHosts library lower hosts pattern tagNames = some (hosts.filter keep) ∧
      (∀ entry, keep entry = true ↔ Wears lower tagNames entry ∧
        (StandsForLines library pattern entry.host.name ∨ StandsForLines library pattern entry.host.hostname)) ∧
      ∀ entry, OneLine entry.host.name → OneLine entry.host.hostname → (keep entry = true ↔ Wears lower tagNames entry ∧
        (StandsFor library pattern entry.host.name ∨ StandsFor library pattern entry.host.hostname))) ∧
    ∀ found, isRegex pattern.toList = true → library.compile pattern = some found → ∃ keep : TaggedHost → Bool,
      filterHosts library lower hosts pattern tagNames = some (hosts.filter keep) ∧
      ∀ entry, keep entry = true ↔ Wears lower tagNames entry ∧
        (found entry.host.name = true ∨ found entry.host.hostname = true) := by
  refine ⟨?_, ?_, ?_⟩
  · intro empty
    obtain ⟨keep, tags, wears⟩ := @filterTags_filter lower hosts tagNames
    exact ⟨keep, by rw [filterHosts, if_pos empty, tags], wears⟩
  · intro given plain
    obtain ⟨keep, kept, selected⟩ := @filterHosts_found library lower hosts pattern tagNames _ given
      (globToRegex_glob plain)
    have lines : ∀ entry, keep entry = true ↔ Wears lower tagNames entry ∧
        (StandsForLines library pattern entry.host.name ∨ StandsForLines library pattern entry.host.hostname) := by
      intro entry
      rw [selected, search_glob, search_glob]
      rfl
    refine ⟨keep, kept, lines, ?_⟩
    intro entry name hostname
    rw [lines, standsForLines_line name, standsForLines_line hostname]
  · intro found special compiled
    by_cases given : pattern = ""
    · subst given
      exact absurd special (by decide)
    · exact filterHosts_found given (by rw [globToRegex, if_pos special, compiled])

def namedHost (name : String) : TaggedHost :=
  ⟨⟨1, 1, name, name, 22, .ssh, none, none, none, false, none, none, none, none⟩, []⟩

/-- `*.a` does not compile, and `a.c` is found in `xabcx`. -/
theorem dotted_globs_fail :
    filterHosts simpleLibrary id [namedHost "b.a"] "*.a" [] = none ∧
      filterHosts simpleLibrary id [namedHost "xabcx"] "a.c" [] = some [namedHost "xabcx"] ∧
      ¬ StandsFor simpleLibrary "a.c" "xabcx" := by
  refine ⟨by decide, ?_, ?_⟩
  · rfl
  · intro glob
    cases glob with
    | char plain same later => exact absurd same (by decide)

end Filtering

end Dosm.Monitoring
