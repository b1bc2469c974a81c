import Dosm.Docs.Search
import Mathlib.Algebra.Order.Field.Rat
import Mathlib.Data.List.Sort

namespace Dosm.Docs.VectorRanking

open Models Python Search

/-! Which rows a search by vectors ranks, and by which scores.

The stored vectors are laid end to end and cut into rows of the embedder's width, so that a
vector of another length moves all that follow it. Scores are exact rationals.
-/

/-- `np.argsort(-scores)`, which leaves the order of equal scores open. -/
structure Argsort where
  indices : List ℚ → List Nat
  perm : ∀ scores, (indices scores).Perm (List.range scores.length)
  descending : ∀ scores, ((indices scores).filterMap (scores[·]?)).Pairwise (· ≥ ·)

/-- An embedder that answers, with an array of its own dimension. -/
structure Encoder where
  dim : Nat
  embedQuery : String → List UInt8
  sized : ∀ query, (embedQuery query).length = 4 * dim

structure Numerics where
  chars : CharTables
  scan : ScanOrder
  argsort : Argsort
  format : ℚ → String
  encoder : Encoder

/-- The number in four bytes, lowest first; infinities and what is no number aside. -/
def float32 (first second third fourth : UInt8) : ℚ :=
  let bits := first.toNat + 2 ^ 8 * second.toNat + 2 ^ 16 * third.toNat + 2 ^ 24 * fourth.toNat
  let fraction : Nat := bits % 2 ^ 23
  let exponent : Nat := bits / 2 ^ 23 % 2 ^ 8
  let magnitude : ℚ :=
    if exponent = 0 then (fraction : ℚ) / 2 ^ 149 else ((2 ^ 23 + fraction : Nat) : ℚ) * 2 ^ exponent / 2 ^ 150
  if bits / 2 ^ 31 = 1 then -magnitude else magnitude

/-- `np.frombuffer(…, dtype=np.float32)`. -/
def vector : List UInt8 → List ℚ
  | first :: second :: third :: fourth :: rest => float32 first second third fourth :: vector rest
  | _ => []

example : vector [0, 0, 128, 63, 0, 0, 0, 192] = [1, -2] := by decide +kernel

def dotProduct (left right : List ℚ) : ℚ := (List.zipWith (· * ·) left right).sum

namespace Numerics

variable (numerics : Numerics)

def width : Nat := 4 * numerics.encoder.dim

def engine : Engine ℚ where
  chars := numerics.chars
  scan := numerics.scan
  ranking :=
    { one := 1
      dot := fun left right => dotProduct (vector left) (vector right)
      argsort := numerics.argsort.indices
      format := numerics.format }
  embedder := some { dim := numerics.encoder.dim, embedQuery := fun query => some (numerics.encoder.embedQuery query) }

end Numerics

abbrev Joined := DocChunk × Document

def stored (row : Joined) : List UInt8 := row.1.embedding.getD []

section Rows

variable (numerics : Numerics) (db : IndexedDocs) (query : String) (limit : Nat) (excludeOrg : Bool) (tid : Option Int)

def embedded : List Joined := (joined db).filter fun row => row.1.embedding.isSome && inScope excludeOrg tid row.2

/-- Those whose vector has the embedder's dimension. -/
def eligible : List Joined := (embedded db excludeOrg tid).filter fun row => (stored row).length = numerics.width

def ownScore (row : Joined) : ℚ :=
  dotProduct (vector (stored row)) (vector (numerics.encoder.embedQuery query))

def ownHit (row : Joined) : SearchHit ℚ := hit numerics.engine query row (ownScore numerics query row) "vector"

/-- The hits are eligible rows with their own scores, best first, and none left out is better. -/
def Ranked (hits : List (SearchHit ℚ)) : Prop :=
  ∃ chosen rest : List Joined, (chosen ++ rest).Perm (eligible numerics db excludeOrg tid) ∧
    hits = chosen.map (ownHit numerics query) ∧
    (chosen.map (ownScore numerics query)).Pairwise (· ≥ ·) ∧
    ∀ inside ∈ chosen, ∀ outside ∈ rest, ownScore numerics query outside ≤ ownScore numerics query inside

/-- Hits in vector mode are ranked, and there are some if there is an eligible row. -/
structure Answers (hits : List (SearchHit ℚ)) : Prop where
  ranked : (∃ hit ∈ hits, hit.mode = "vector") → Ranked numerics db (strip query) excludeOrg tid hits
  found : strip query ≠ "" → eligible numerics db excludeOrg tid ≠ [] → hits ≠ [] ∧ ∀ hit ∈ hits, hit.mode = "vector"

/-- Every vector in scope has the embedder's dimension; or none has, and together they do not fill a matrix. -/
def OneLength : Prop :=
  (∀ row ∈ embedded db excludeOrg tid, (stored row).length = numerics.width) ∨
    (∀ row ∈ embedded db excludeOrg tid, (stored row).length ≠ numerics.width) ∧
      ((embedded db excludeOrg tid).flatMap stored).length ≠ (embedded db excludeOrg tid).length * numerics.width

end Rows

section Lists

variable {Item : Type} {items : List Item} {indices : List Nat}

theorem filterMap_range : (List.range items.length).filterMap (items[·]?) = items := by
  induction items with
  | nil => rfl
  | cons item rest ih =>
      rw [List.length_cons, List.range_succ_eq_map, List.filterMap_cons, List.filterMap_map]
      exact congrArg (item :: ·) ih

theorem filterMap_perm (perm : indices.Perm (List.range items.length)) :
    (indices.filterMap (items[·]?)).Perm items := by
  have permuted := perm.filterMap (items[·]?)
  rwa [filterMap_range] at permuted

theorem take_flatMap {block : Item → List UInt8} {width index : Nat} {item : Item}
    (sized : ∀ item ∈ items, (block item).length = width) (found : items[index]? = some item) :
    ((items.flatMap block).drop (index * width)).take width = block item := by
  induction items generalizing index with
  | nil => cases found
  | cons first rest ih =>
      have size := sized first List.mem_cons_self
      rw [List.flatMap_cons]
      cases index with
      | zero =>
          cases found
          rw [Nat.zero_mul, List.drop_zero, ← size, List.take_left]
      | succ index =>
          have later := ih (fun item member => sized item (List.mem_cons_of_mem _ member)) found
          have position : (index + 1) * width = (block first).length + index * width := by
            rw [size, Nat.succ_mul, Nat.add_comm]
          rw [position, ← List.drop_drop, List.drop_left]
          exact later

theorem length_flatMap {block : Item → List UInt8} {width : Nat}
    (sized : ∀ item ∈ items, (block item).length = width) : (items.flatMap block).length = items.length * width := by
  induction items with
  | nil => simp
  | cons first rest ih =>
      rw [List.flatMap_cons, List.length_append, sized first List.mem_cons_self,
        ih fun item member => sized item (List.mem_cons_of_mem _ member), List.length_cons, Nat.succ_mul, Nat.add_comm]

end Lists

section Claim

variable {numerics : Numerics} {db : IndexedDocs} {query : String} {limit : Nat} {excludeOrg : Bool} {tid : Option Int}

theorem mode_likeSearch {hit : SearchHit ℚ} (member : hit ∈ likeSearch numerics.engine db query limit excludeOrg tid) :
    hit.mode = "like" := by
  obtain ⟨row, _, rfl⟩ := List.mem_map.mp member
  rfl

theorem ranked_of_indices {rows : List Joined} {indices : List Nat}
    (perm : rows.Perm (eligible numerics db excludeOrg tid)) (complete : indices.Perm (List.range rows.length))
    (descending : (indices.filterMap ((rows.map (ownScore numerics query))[·]?)).Pairwise (· ≥ ·)) :
    Ranked numerics db query excludeOrg tid
      (((indices.take limit).filterMap (rows[·]?)).map (ownHit numerics query)) := by
  let chosen := (indices.take limit).filterMap (rows[·]?)
  let rest := (indices.drop limit).filterMap (rows[·]?)
  have split : chosen ++ rest = indices.filterMap (rows[·]?) := by
    rw [← List.filterMap_append, List.take_append_drop]
  have permuted : (chosen ++ rest).Perm rows := split ▸ filterMap_perm complete
  have scores : indices.filterMap ((rows.map (ownScore numerics query))[·]?) =
      chosen.map (ownScore numerics query) ++ rest.map (ownScore numerics query) := by
    rw [← List.map_append, split, List.map_filterMap]
    simp only [List.getElem?_map]
  rw [scores, List.pairwise_append] at descending
  refine ⟨chosen, rest, permuted.trans perm, rfl, descending.1, fun inside member outside left => ?_⟩
  exact descending.2.2 _ (List.mem_map_of_mem member) _ (List.mem_map_of_mem left)

def cutScores (numerics : Numerics) (query : String) (rows : List Joined) : List ℚ :=
  (List.range rows.length).map fun index => numerics.engine.ranking.dot
    (((rows.flatMap stored).drop (index * numerics.width)).take numerics.width) (numerics.encoder.embedQuery query)

def picked (numerics : Numerics) (query : String) (limit : Nat) (rows : List Joined) (scores : List ℚ) :
    List (SearchHit ℚ) :=
  ((numerics.argsort.indices scores).take limit).filterMap fun index => do
    let row ← rows[index]?
    let score ← scores[index]?
    return hit numerics.engine query row score "vector"

theorem scan_perm : (numerics.scan.order (embedded db excludeOrg tid)).Perm (embedded db excludeOrg tid) :=
  numerics.scan.perm _

theorem vectorSearch_matrix {embedder : QueryEmbedder} (isEmbedder : numerics.engine.embedder = some embedder) :
    vectorSearch numerics.engine db query limit excludeOrg tid embedder =
      if ((embedded db excludeOrg tid).flatMap stored).length = (embedded db excludeOrg tid).length * numerics.width then
        some (picked numerics query limit (numerics.scan.order (embedded db excludeOrg tid))
          (cutScores numerics query (numerics.scan.order (embedded db excludeOrg tid))))
      else none := by
  cases isEmbedder
  have perm := @scan_perm numerics db excludeOrg tid
  rw [← (perm.flatMap_right stored).length_eq, ← perm.length_eq]
  generalize order : numerics.scan.order (embedded db excludeOrg tid) = rows
  have unfolded : vectorSearch numerics.engine db query limit excludeOrg tid
      { dim := numerics.encoder.dim, embedQuery := fun query => some (numerics.encoder.embedQuery query) } =
      if rows = [] then some []
      else if (rows.flatMap stored).length ≠ rows.length * numerics.width then none
      else some (picked numerics query limit rows (cutScores numerics query rows)) := by
    rw [← order]
    rfl
  rw [unfolded]
  by_cases empty : rows = []
  · subst empty
    simp [picked, cutScores]
  · rw [if_neg empty, ite_not]

theorem picked_length {rows : List Joined} {scores : List ℚ} (same : scores.length = rows.length) :
    (picked numerics query limit rows scores).length = min limit rows.length := by
  have complete := numerics.argsort.perm scores
  have found (index : Nat) (member : index ∈ (numerics.argsort.indices scores).take limit) :
      (do
        let row ← rows[index]?
        let score ← scores[index]?
        return hit numerics.engine query row score "vector").isSome = true := by
    have inside := List.mem_range.mp (complete.mem_iff.mp (List.mem_of_mem_take member))
    rw [List.getElem?_eq_getElem inside, List.getElem?_eq_getElem (same ▸ inside)]
    rfl
  rw [picked, List.length_filterMap_eq_countP, List.countP_eq_length.mpr found, List.length_take, complete.length_eq,
    List.length_range, same]

theorem mode_picked {rows : List Joined} {scores : List ℚ} {hit : SearchHit ℚ}
    (member : hit ∈ picked numerics query limit rows scores) : hit.mode = "vector" := by
  obtain ⟨index, _, made⟩ := List.mem_filterMap.mp member
  obtain ⟨row, _, scored⟩ := Option.bind_eq_some_iff.mp made
  obtain ⟨score, _, isHit⟩ := Option.bind_eq_some_iff.mp scored
  cases isHit
  rfl

theorem picked_ranked (sized : ∀ row ∈ embedded db excludeOrg tid, (stored row).length = numerics.width) :
    Ranked numerics db query excludeOrg tid
      (picked numerics query limit (numerics.scan.order (embedded db excludeOrg tid))
        (cutScores numerics query (numerics.scan.order (embedded db excludeOrg tid)))) := by
  have all : eligible numerics db excludeOrg tid = embedded db excludeOrg tid :=
    List.filter_eq_self.mpr fun row member => decide_eq_true (sized row member)
  have perm : (numerics.scan.order (embedded db excludeOrg tid)).Perm (eligible numerics db excludeOrg tid) := by
    rw [all]
    exact scan_perm
  have sizedRows : ∀ row ∈ numerics.scan.order (embedded db excludeOrg tid), (stored row).length = numerics.width :=
    fun row member => sized row (scan_perm.mem_iff.mp member)
  generalize numerics.scan.order (embedded db excludeOrg tid) = rows at perm sizedRows
  have scores : cutScores numerics query rows = rows.map (ownScore numerics query) := by
    refine List.ext_getElem (by simp [cutScores]) fun index before after => ?_
    have inside : index < rows.length := by simpa using after
    simp only [cutScores, List.getElem_map, List.getElem_range]
    rw [take_flatMap sizedRows (List.getElem?_eq_getElem inside)]
    rfl
  rw [scores]
  have complete := numerics.argsort.perm (rows.map (ownScore numerics query))
  rw [List.length_map] at complete
  have chosen : picked numerics query limit rows (rows.map (ownScore numerics query)) =
      (((numerics.argsort.indices (rows.map (ownScore numerics query))).take limit).filterMap (rows[·]?)).map
        (ownHit numerics query) := by
    rw [picked, List.map_filterMap]
    refine List.filterMap_congr fun index _ => ?_
    rw [List.getElem?_map]
    cases rows[index]? with
    | none => rfl
    | some row => rfl
  rw [chosen]
  exact ranked_of_indices perm complete (numerics.argsort.descending _)

theorem sized_of_ranked {hits : List (SearchHit ℚ)} (ranked : Ranked numerics db query excludeOrg tid hits)
    (all : (embedded db excludeOrg tid).length ≤ hits.length) :
    ∀ row ∈ embedded db excludeOrg tid, (stored row).length = numerics.width := by
  obtain ⟨chosen, rest, perm, rfl, _⟩ := ranked
  have count := perm.length_eq
  rw [List.length_append] at count
  rw [List.length_map] at all
  have many : (embedded db excludeOrg tid).length ≤ (eligible numerics db excludeOrg tid).length := by omega
  have same : eligible numerics db excludeOrg tid = embedded db excludeOrg tid :=
    List.filter_sublist.eq_of_length_le many
  intro row member
  rw [← same] at member
  exact of_decide_eq_true (List.mem_filter.mp member).2

def vectorHits (numerics : Numerics) (db : IndexedDocs) (query : String) (limit : Nat) (excludeOrg : Bool)
    (tid : Option Int) : List (SearchHit ℚ) :=
  if ((embedded db excludeOrg tid).flatMap stored).length = (embedded db excludeOrg tid).length * numerics.width then
    picked numerics query limit (numerics.scan.order (embedded db excludeOrg tid))
      (cutScores numerics query (numerics.scan.order (embedded db excludeOrg tid)))
  else []

theorem search_vector (asked : strip query ≠ "") :
    search numerics.engine db query limit excludeOrg tid =
      if vectorHits numerics db (strip query) limit excludeOrg tid = [] then
        likeSearch numerics.engine db (strip query) limit excludeOrg tid
      else vectorHits numerics db (strip query) limit excludeOrg tid := by
  obtain ⟨embedder, isEmbedder⟩ : ∃ embedder, numerics.engine.embedder = some embedder := ⟨_, rfl⟩
  have hits : (vectorSearch numerics.engine db (strip query) limit excludeOrg tid embedder).getD [] =
      vectorHits numerics db (strip query) limit excludeOrg tid := by
    rw [vectorSearch_matrix isEmbedder, vectorHits]
    split <;> rfl
  rw [← hits]
  unfold search
  simp only [if_neg asked, isEmbedder]
  cases vectorSearch numerics.engine db (strip query) limit excludeOrg tid embedder with
  | none => rfl
  | some hits => cases hits <;> rfl

/-- For every limit a search ranks the right rows exactly when the vectors in scope have the embedder's dimension, or
none has it and they do not fill a matrix. -/
theorem vector_search_ranks_iff :
    (∀ limit, 1 ≤ limit →
        Answers numerics db query excludeOrg tid (search numerics.engine db query limit excludeOrg tid)) ↔
      strip query = "" ∨ OneLength numerics db excludeOrg tid := by
  by_cases asked : strip query = ""
  · refine iff_of_true (fun limit _ => ⟨?_, absurd asked⟩) (.inl asked)
    rintro ⟨hit, member, _⟩
    have blank : search numerics.engine db query limit excludeOrg tid = [] := if_pos asked
    rw [blank] at member
    cases member
  simp only [search_vector asked, vectorHits, asked, false_or]
  have likes (limit : Nat) : ¬ ∃ hit ∈ likeSearch numerics.engine db (strip query) limit excludeOrg tid,
      hit.mode = "vector" := by
    rintro ⟨hit, member, vector⟩
    exact absurd ((mode_likeSearch member).symm.trans vector) (by decide)
  by_cases filled : ((embedded db excludeOrg tid).flatMap stored).length =
      (embedded db excludeOrg tid).length * numerics.width
  · simp only [if_pos filled]
    have size (limit : Nat) := @picked_length numerics (strip query) limit
      (numerics.scan.order (embedded db excludeOrg tid)) (cutScores numerics (strip query) _)
      (by rw [cutScores, List.length_map, List.length_range])
    have size (limit : Nat) := (@picked_length numerics (strip query) limit
      (numerics.scan.order (embedded db excludeOrg tid)) (cutScores numerics (strip query) _)
      (by rw [cutScores, List.length_map, List.length_range])).trans (by rw [scan_perm.length_eq])
    constructor
    · -- With room for all rows the answer holds all of them.
      intro answers
      left
      by_cases empty : embedded db excludeOrg tid = []
      · rw [empty]
        exact fun row member => absurd member List.not_mem_nil
      · have some := List.length_pos_iff.mpr empty
        have full := size (embedded db excludeOrg tid).length
        rw [Nat.min_self] at full
        have nonempty := List.ne_nil_of_length_pos (full ▸ some)
        have answer := answers _ some
        rw [if_neg nonempty] at answer
        obtain ⟨first, member⟩ := List.exists_mem_of_ne_nil _ nonempty
        exact sized_of_ranked (answer.ranked ⟨first, member, mode_picked member⟩) (Nat.le_of_eq full.symm)
    · intro oneLength limit positive
      have sized : ∀ row ∈ embedded db excludeOrg tid, (stored row).length = numerics.width :=
        oneLength.resolve_right fun unfilled => unfilled.2 filled
      split
      next none =>
        refine ⟨fun vector => absurd vector (likes limit), fun _ some => ?_⟩
        have nothing := size limit
        rw [none, List.length_nil] at nothing
        have empty : embedded db excludeOrg tid = [] := List.eq_nil_of_length_eq_zero (by omega)
        rw [eligible, empty] at some
        exact absurd rfl some
      next some => exact ⟨fun _ => picked_ranked sized, fun _ _ => ⟨some, fun hit member => mode_picked member⟩⟩
  · simp only [if_neg filled, if_true]
    constructor
    · intro answers
      right
      refine ⟨fun row member size => ?_, filled⟩
      have isEligible : row ∈ eligible numerics db excludeOrg tid :=
        List.mem_filter.mpr ⟨member, decide_eq_true size⟩
      obtain ⟨some, vector⟩ := (answers 1 (Nat.le_refl 1)).found asked (List.ne_nil_of_mem isEligible)
      obtain ⟨first, isFirst⟩ := List.exists_mem_of_ne_nil _ some
      exact likes 1 ⟨first, isFirst, vector first isFirst⟩
    · intro oneLength limit positive
      refine ⟨fun vector => absurd vector (likes limit), fun _ some => ?_⟩
      obtain ⟨row, member⟩ := List.exists_mem_of_ne_nil _ some
      obtain ⟨isEmbedded, size⟩ := List.mem_filter.mp member
      rcases oneLength with sized | ⟨unsized, _⟩
      · exact absurd (length_flatMap sized) filled
      · exact absurd (of_decide_eq_true size) (unsized row isEmbedded)

end Claim

def sortedIndices : Argsort where
  indices scores := (List.range scores.length).insertionSort fun left right => scores.getD right 0 ≤ scores.getD left 0
  perm scores := List.perm_insertionSort _ _
  descending scores := by
    have sorted := List.pairwise_insertionSort (fun left right => scores.getD right 0 ≤ scores.getD left 0)
      (List.range scores.length)
    refine sorted.filterMap _ fun left right above score isLeft other isRight => ?_
    rw [List.getD_eq_getElem?_getD, List.getD_eq_getElem?_getD, isLeft, isRight] at above
    exact above

def planeNumerics : Numerics where
  chars := asciiTables
  scan := { order := id, perm := List.Perm.refl }
  argsort := sortedIndices
  format _ := ""
  encoder := { dim := 2, embedQuery := fun _ => [0, 0, 128, 63, 0, 0, 0, 0], sized := fun _ => rfl }

def runbook (id : Int) : Document where
  id
  tenantId := 1
  relPath := "run.md"
  sha256 := ""
  sizeBytes := 3
  modifiedAt := 0
  indexedAt := some 0
  status := .indexed
  error := none
  chunkCount := 2
  title := none
  folderId := none
  frontmatterTitle := none

def mixedDocs : IndexedDocs where
  documents := Table.empty.insert runbook
  chunks := [⟨1, 0, "run", 0, 3, some [0, 0, 128, 63]⟩, ⟨1, 1, "now", 4, 7, some [0, 0, 0, 64, 0, 0, 0, 0, 0, 0, 0, 0]⟩]

/-- Vectors of two wrong lengths fill the matrix, and rows are ranked by parts of other rows. -/
theorem mixed_lengths_ranked :
    (search planeNumerics.engine mixedDocs "run" 2 true none).length = 2 ∧
      (∀ hit ∈ search planeNumerics.engine mixedDocs "run" 2 true none, hit.mode = "vector") ∧
      eligible planeNumerics mixedDocs true none = [] ∧
      ¬ Answers planeNumerics mixedDocs "run" true none (search planeNumerics.engine mixedDocs "run" 2 true none) := by
  have asked : strip "run" ≠ "" := by decide
  have bare : strip "run" = "run" := by decide
  have fills : ((embedded mixedDocs true none).flatMap stored).length =
      (embedded mixedDocs true none).length * planeNumerics.width := by decide
  have count : (vectorHits planeNumerics mixedDocs "run" 2 true none).length = 2 := by
    rw [vectorHits, if_pos fills]
    exact picked_length (by rw [cutScores, List.length_map, List.length_range])
  have hits : search planeNumerics.engine mixedDocs "run" 2 true none =
      vectorHits planeNumerics mixedDocs "run" 2 true none := by
    rw [search_vector asked, bare, if_neg (List.ne_nil_of_length_pos (by rw [count]; decide))]
  have vector (hit : SearchHit ℚ) (member : hit ∈ search planeNumerics.engine mixedDocs "run" 2 true none) :
      hit.mode = "vector" := by
    rw [hits, vectorHits, if_pos fills] at member
    exact mode_picked member
  have two : (search planeNumerics.engine mixedDocs "run" 2 true none).length = 2 := by rw [hits, count]
  refine ⟨two, vector, by decide, fun answers => ?_⟩
  obtain ⟨first, member⟩ := List.exists_mem_of_length_pos (by rw [two]; decide)
  have ranked := answers.ranked ⟨first, member, vector first member⟩
  rw [bare] at ranked
  have sized := sized_of_ranked ranked (by rw [two]; decide)
  exact absurd sized (by decide)

end Dosm.Docs.VectorRanking
