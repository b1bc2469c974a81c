import Dosm.Models
import Dosm.Python.Casing

namespace Dosm.Docs.Search

open Models Python Like

/-! Search over the indexed chunks: by vectors if there is an embedder and it
answers, by substring otherwise.

What the database leaves open (the order of a join) and what the numeric library
computes (scores and their order) are parameters.
-/

structure SearchHit (Score : Type) where
  docId : Int
  relPath : String
  title : Option String
  ord : Nat
  score : Score
  snippet : String
  mode : String
  deriving DecidableEq

/-- The Unicode tables behind `str.lower` and `\w`; no word has white space in it. -/
structure CharTables extends CaseTables where
  word : Char → Bool
  space : ∀ char, isSpace char = true → ∀ folded ∈ lower char, word folded = false

/-- One order of the rows of a join, as the database happens to deliver them. -/
structure ScanOrder where
  order : List (DocChunk × Document) → List (DocChunk × Document)
  perm : ∀ rows, (order rows).Perm rows

/-- Scores of stored vectors against the query's, and the indices that sort them
in descending order. -/
structure Ranking (Score : Type) where
  one : Score
  dot : List UInt8 → List UInt8 → Score
  argsort : List Score → List Nat
  format : Score → String

/-- `none` from `embedQuery` is an exception. -/
structure QueryEmbedder where
  dim : Nat
  embedQuery : String → Option (List UInt8)

structure Engine (Score : Type) where
  chars : CharTables
  scan : ScanOrder
  ranking : Ranking Score
  embedder : Option QueryEmbedder

structure IndexedDocs where
  documents : Table Document := .empty
  chunks : List DocChunk := []

def highlightWindow : Nat := 240

namespace CharTables

/-- `re.findall(r"\w+", text)`. -/
def words (tables : CharTables) (text : String) : List String :=
  ((text.toList.splitOnP fun char => !tables.word char).filter (· ≠ [])).map String.ofList

end CharTables

def opening (text : String) : String :=
  strip (slice 0 highlightWindow text) ++ (if text.length > highlightWindow then "…" else "")

/-- About 240 characters around the first word of the query that occurs. -/
def snippet (tables : CharTables) (text query : String) : String :=
  let lowered := tables.lowerText (strip query)
  let terms := (tables.words lowered).filter fun term => 2 ≤ term.length
  match terms.findSome? fun term => find term (tables.lowerText text) 0 with
  | none => opening text
  | some index =>
      let half := highlightWindow / 2
      let start := index - half
      let stop := min text.length (index + half)
      (if start > 0 then "…" else "") ++ strip (slice start stop text) ++
        (if stop < text.length then "…" else "")

/-- `org/` documents are hidden from searches by people. -/
def inScope (excludeOrg : Bool) (tid : Option Int) (doc : Document) : Bool :=
  !(excludeOrg && like doc.relPath "org/%") && tid.all fun tenant => doc.tenantId = tenant

def joined (db : IndexedDocs) : List (DocChunk × Document) :=
  db.chunks.filterMap fun chunk => (db.documents.get chunk.docId).map fun doc => (chunk, doc)

section Search

variable {Score : Type} (engine : Engine Score) (db : IndexedDocs) (query : String) (limit : Nat)
  (excludeOrg : Bool) (tid : Option Int)

def hit (row : DocChunk × Document) (score : Score) (mode : String) : SearchHit Score where
  docId := row.2.id
  relPath := row.2.relPath
  title := row.2.title
  ord := row.1.ord
  score
  snippet := snippet engine.chars row.1.text query
  mode

def likeSearch : List (SearchHit Score) :=
  let pattern := "%" ++ query ++ "%"
  let rows := (joined db).filter fun row =>
    (like row.1.text pattern || like row.2.relPath pattern) && inScope excludeOrg tid row.2
  ((engine.scan.order rows).take limit).map fun row => hit engine query row engine.ranking.one "like"

/-- The rows' vectors laid end to end have to fill the matrix. -/
def vectorSearch (embedder : QueryEmbedder) : Option (List (SearchHit Score)) :=
  match embedder.embedQuery query with
  | none => none
  | some queryVector =>
      let rows := engine.scan.order <| (joined db).filter fun row =>
        row.1.embedding.isSome && inScope excludeOrg tid row.2
      if rows = [] then some []
      else
        let bytes := rows.flatMap fun row => row.1.embedding.getD []
        let width := 4 * embedder.dim
        if bytes.length ≠ rows.length * width then none
        else
          let scores := (List.range rows.length).map fun index =>
            engine.ranking.dot ((bytes.drop (index * width)).take width) queryVector
          let top := (engine.ranking.argsort scores).take limit
          some <| top.filterMap fun index => do
            let row ← rows[index]?
            let score ← scores[index]?
            return hit engine query row score "vector"

/-- `tid` absent is the view over every tenant. -/
def search : List (SearchHit Score) :=
  let query := strip query
  if query = "" then []
  else
    match engine.embedder with
    | none => likeSearch engine db query limit excludeOrg tid
    | some embedder =>
        match vectorSearch engine db query limit excludeOrg tid embedder with
        | some (first :: rest) => first :: rest
        | some [] | none => likeSearch engine db query limit excludeOrg tid

end Search

theorem not_isUpper_of_isSpace {char : Char} (space : isSpace char = true) : char.isUpper = false := by
  by_contra capital
  have range := isUpper_iff.mp (Bool.of_not_eq_false capital)
  simp only [isSpace, Bool.or_eq_true, Bool.and_eq_true, decide_eq_true_eq, beq_iff_eq] at space
  omega

def asciiTables : CharTables where
  lower char := [char.toLower]
  cased := Char.isAlpha
  caseIgnorable _ := false
  letter _ alpha := ⟨rfl, alpha, rfl⟩
  slash char := by
    rw [List.mem_singleton]
    constructor
    · intro slashed
      cases capital : char.isUpper with
      | false => rwa [toLower_of_not_capital capital, eq_comm] at slashed
      | true =>
          have lower := isLower_toLower capital
          rw [← slashed] at lower
          cases lower
    · rintro rfl
      decide
  word char := (char.isAlphanum || char = '_') && !isSpace char
  space char space folded member := by
    rw [List.mem_singleton.mp member, toLower_of_not_capital (not_isUpper_of_isSpace space), space, Bool.not_true,
      Bool.and_false]

end Dosm.Docs.Search
