import Dosm.Docs.Frontmatter
import Dosm.Docs.IndexedRows

namespace Dosm.Docs.RawFiles

open Models Python Store Indexer Vault

/-! One file of the docs tree as the indexer meets it: bytes that may be no text, metadata
with values of any type, a name that the store puts into normal form before it looks.

Not every text that Python knows can be stored: a lone surrogate, which stands for a byte of a
name that is no UTF-8 or comes out of an escape, is refused. Which texts can be is a parameter.
-/

/-- A directory may be what a name leads to. -/
inductive Entry where
  | file (bytes : List UInt8) (mtimeMs : Int) (denied : Option String)
  | directory (size : Nat) (mtimeMs : Int)

structure Source where
  backend : Backend
  present : Bool
  entries : AList fun _ : String => Entry

/-- What YAML makes of a scalar or a collection. -/
inductive Loaded where
  | plain (value : Value)
  | date (text : String)
  | bytes (text : String) (empty : Bool)

structure Readers where
  sha256 : List UInt8 → String
  /-- The title and the folder of a mapping. -/
  load : String → Option (Loaded × Loaded)
  stripMarkdown : String → String
  pdf : List UInt8 → Except ParseFailure (String × Option String)
  chunkText : String → List Chunk
  storable : String → Bool

/-- An exception out of `_index_one`. -/
inductive FileFailure where
  | indexer (failure : Failure)
  | date (mtimeMs : Int)
  | overflow
  | unicode
  deriving DecidableEq

namespace Source

def frame (source : Source) : DocsStore where
  backend := source.backend
  present := source.present
  tree := ∅

def listed : Entry → Bool
  | .file .. => true
  | .directory .. => false

def iterFiles (source : Source) : Except StoreError (List String) := do
  source.frame.client
  return (source.entries.entries.filter fun entry => listed entry.2).map (·.1)

def iterDocFiles (source : Source) (config : DocsIndexConfig) : Except StoreError (List String) :=
  match source.frame.exists with
  | .error error => .error error
  | .ok false => .ok []
  | .ok true =>
      match source.iterFiles with
      | .error error => .error error
      | .ok found => .ok ((found.filter (selected config)).insertionSort (· ≤ ·))

def entryAt (source : Source) (rel : String) : Except StoreError Entry :=
  match source.frame.safeRel rel with
  | .error error => .error (.invalid error)
  | .ok norm =>
      match source.entries.lookup norm with
      | none => .error (.notFound norm)
      | some entry => .ok entry

def stat (source : Source) (rel : String) : Except StoreError FileStat := do
  source.frame.client
  match source.entryAt rel with
  | .error error => throw (source.frame.wrap ("stat " ++ rel) error)
  | .ok (.file bytes mtimeMs _) => return { size := bytes.length, mtimeMs }
  | .ok (.directory size mtimeMs) => return { size, mtimeMs }

def readBytes (source : Source) (rel : String) : Except StoreError (List UInt8) := do
  source.frame.client
  match source.entryAt rel with
  | .error error => throw (source.frame.wrap ("open " ++ rel) error)
  | .ok (.file bytes _ none) => return bytes
  | .ok (.file _ _ (some reason)) => throw (source.frame.wrap ("open " ++ rel) (.osError reason))
  | .ok (.directory ..) => throw (source.frame.wrap ("open " ++ rel) (.osError "is a directory"))

end Source

/-- `read_text`: UTF-8, or else one character for each byte, so any bytes are a text. -/
def decodeText (bytes : List UInt8) : String :=
  (String.fromUTF8? ⟨bytes.toArray⟩).getD (String.ofList (bytes.map fun byte => Char.ofNat byte.toNat))

theorem decodeText_utf8 (text : String) : decodeText text.toByteArray.data.toList = text := by
  have valid : text.toByteArray.IsValidUTF8 := text.isValidUTF8
  unfold decodeText String.fromUTF8?
  rw [Array.toArray_toList, dif_pos valid]
  rfl

namespace Loaded

def truthy : Loaded → Bool
  | .plain value => value.truthy
  | .date _ => true
  | .bytes _ empty => !empty

def asText : Loaded → String
  | .plain value => value.asText
  | .date text | .bytes text _ => text

end Loaded

/-! The parsers. -/

def suffixOf (rel : String) : String :=
  let name := pathName (pathParts rel)
  let stem := nameStem name
  if stem = name then "" else String.ofList (name.toList.drop stem.toList.length)

def firstLine (text : String) : Option String := ((splitLines text).map strip).find? fun line => line ≠ ""

def markdownTitle (body : String) : Option String :=
  (firstLine body).map fun line =>
    if startsWith line "# " then strip (slice 2 line.length line) else slice 0 120 line

section Decision

variable (readers : Readers)

/-- What `parse` makes of a file by its suffix: only a PDF can fail. -/
def parse (rel : String) (bytes : List UInt8) : Except ParseFailure (String × Option String) :=
  let suffix := lower (suffixOf rel)
  if suffix = ".md" ∨ suffix = ".markdown" then
    let body := stripFrontmatter (decodeText bytes)
    .ok (readers.stripMarkdown body, markdownTitle body)
  else if suffix = ".pdf" then readers.pdf bytes
  else .ok (decodeText bytes, (firstLine (decodeText bytes)).map (slice 0 120))

def noMetadata : Loaded × Loaded := (.plain .none, .plain .none)

/-- The title and the folder at the start of a markdown file. -/
def metadataOf (rel : String) (bytes : List UInt8) : Loaded × Loaded :=
  let text := decodeText bytes
  if !isMarkdown rel || !startsWith text "---" then noMetadata
  else
    match find "\n---" text 3 with
    | none => noMetadata
    | some stop => (readers.load (strip (slice 3 stop text))).getD noMetadata

def titleOf (title : Loaded) : Option String := if title.truthy then some (slice 0 255 title.asText) else none

/-- A value bound to the slug column; bytes are bound as such and equal no text. -/
def boundSlug : Loaded → Except FileFailure (Option String)
  | .plain (.int value) => if Value.isColumnInt value then .ok (some (toString value)) else .error .overflow
  | .plain (.str text) => if readers.storable text then .ok (some text) else .error .unicode
  | .plain value => value.columnText.mapError fun raised => .indexer (.raised raised)
  | .date text => .ok (some text)
  | .bytes .. => .ok none

/-- The folder of a value, whichever tenant has it. -/
def folderOf (folders : Table Folder) (value : Loaded) : Except FileFailure (Option Int) :=
  if !value.truthy then .ok none
  else
    match boundSlug readers value with
    | .error failure => .error failure
    | .ok slug => (resolveFolder folders slug).mapError fun raised => .indexer (.raised raised)

/-- `datetime` knows the years 1 to 9999. -/
def isDate (mtimeMs : Int) : Bool := -62135596800000 ≤ mtimeMs && mtimeMs < 253402300800000

def factsOf (rel : String) (bytes : List UInt8) (stat : FileStat) (folderId : Option Int) : FileFacts where
  sha256 := readers.sha256 bytes
  sizeBytes := stat.size
  modifiedAt := stat.mtimeMs
  folderId
  frontmatterTitle := titleOf (metadataOf readers rel bytes).1

/-- The part of the work that needs the content. -/
def contentPlan (folders : Table Folder) (embedder : Embedder) (rel : String) (bytes : List UInt8) (stat : FileStat) :
    Except FileFailure Plan :=
  match folderOf readers folders (metadataOf readers rel bytes).2 with
  | .error failure => .error failure
  | .ok folderId =>
      let facts := factsOf readers rel bytes stat folderId
      match parse readers rel bytes with
      | .error (.crash message) => .error (.indexer (.parse message))
      | .error (.parseError message) => .ok (.fail facts message)
      | .ok (text, parsed) =>
          let chunks := readers.chunkText text
          .ok (.index facts ((truthy parsed).orElse fun _ => facts.frontmatterTitle)
            (chunks.zip (vectors embedder chunks)))

def decideFile (folders : Table Folder) (embedder : Embedder) (source : Source) (rel : String) (force : Bool)
    (stat : FileStat) (found : Option Document) : Except FileFailure Plan :=
  if !force && found.any (settled stat) then .ok .unchanged
  else
    match source.readBytes rel with
    | .error error => .error (.indexer (.store error))
    | .ok bytes =>
        if !force && found.any (sameContent (readers.sha256 bytes)) then .ok (.touch stat.size stat.mtimeMs)
        else contentPlan readers folders embedder rel bytes stat

/-- The texts that a plan writes can be stored. -/
def storablePlan : Plan → Bool
  | .unchanged | .touch .. => true
  | .fail facts message => facts.frontmatterTitle.all readers.storable && readers.storable message
  | .index facts title chunks =>
      facts.frontmatterTitle.all readers.storable && title.all readers.storable &&
        chunks.all fun chunk => readers.storable chunk.1.text

def rowsOf (db : IndexDb) (rel : String) : List Document := db.documents.rows.filter fun doc => doc.relPath = rel

def indexFile (around : Surroundings) (source : Source) (force : Bool) (db : IndexDb) (rel : String) :
    Except FileFailure (IndexDb × Outcome) :=
  match source.stat rel with
  | .error error => .error (.indexer (.store error))
  | .ok stat =>
      if !isDate stat.mtimeMs then .error (.date stat.mtimeMs)
      else if !readers.storable rel then .error .unicode
      else
        match scalarOneOrNone (rowsOf db rel) with
        | .error raised => .error (.indexer (.raised raised))
        | .ok found =>
            match decideFile readers db.folders (around.embedder rel) source rel force stat found with
            | .error failure => .error failure
            | .ok plan =>
                if !storablePlan readers plan then .error .unicode
                else
                  match applyPlan db rel (around.clock rel) found plan with
                  | .error failure => .error (.indexer failure)
                  | .ok after => .ok (after, plan.outcome)

/-! What a run finds about a file. -/

/-- The file lies open under its own name and parses to this text. -/
def Readable (source : Source) (rel text : String) : Prop :=
  ∃ bytes mtimeMs title, source.entries.lookup rel = some (.file bytes mtimeMs none) ∧
    parse readers rel bytes = .ok (text, title)

/-- The store knows the name, with a time and a name that can be stored, and one row at most has it. -/
structure Opened (source : Source) (rel : String) (docs : List Document) (stat : FileStat)
    (found : Option Document) : Prop where
  statted : source.stat rel = .ok stat
  dated : isDate stat.mtimeMs = true
  named : readers.storable rel = true
  unique : scalarOneOrNone docs = .ok found

def Skipped (source : Source) (force : Bool) (rel : String) (docs : List Document) : Prop :=
  ∃ stat found, Opened readers source rel docs stat found ∧ force = false ∧
    (found.any (settled stat) = true ∨
      ∃ bytes, source.readBytes rel = .ok bytes ∧ found.any (sameContent (readers.sha256 bytes)) = true)

/-- What the store reads under the name parses, its folder is found or absent, and all can be stored. -/
structure Indexable (source : Source) (folders : Table Folder) (tenant : Option Int) (rel : String)
    (docs : List Document) (text : String) : Prop where
  reached : ∃ stat found, Opened readers source rel docs stat found ∧ (found.isSome = true ∨ tenant.isSome = true)
  content : ∃ bytes folderId title, source.readBytes rel = .ok bytes ∧
    folderOf readers folders (metadataOf readers rel bytes).2 = .ok folderId ∧
    parse readers rel bytes = .ok (text, title) ∧
    (titleOf (metadataOf readers rel bytes).1).all readers.storable = true ∧
    ((truthy title).orElse fun _ => titleOf (metadataOf readers rel bytes).1).all readers.storable = true
  chunks : ∀ chunk ∈ readers.chunkText text, readers.storable chunk.text = true

end Decision

section Outcomes

variable {readers : Readers} {folders : Table Folder} {embedder : Embedder} {source : Source} {rel : String}
variable {force : Bool} {stat : FileStat} {found : Option Document} {decision : Plan} {bytes : List UInt8}

theorem all_zip_vectors {chunks : List Chunk} {condition : Chunk → Bool} :
    (chunks.zip (vectors embedder chunks)).all (fun chunk => condition chunk.1) = chunks.all condition := by
  have firsts : (chunks.zip (vectors embedder chunks)).map Prod.fst = chunks :=
    List.map_fst_zip (Nat.le_of_eq vectors_length.symm)
  have mapped := List.all_map (l := chunks.zip (vectors embedder chunks)) (f := Prod.fst) (p := condition)
  rw [firsts] at mapped
  exact mapped.symm

def indexing (readers : Readers) (embedder : Embedder) (rel : String) (bytes : List UInt8) (stat : FileStat)
    (folderId : Option Int) (text : String) (parsed : Option String) : Plan :=
  let facts := factsOf readers rel bytes stat folderId
  .index facts ((truthy parsed).orElse fun _ => facts.frontmatterTitle)
    ((readers.chunkText text).zip (vectors embedder (readers.chunkText text)))

theorem contentPlan_cases (planned : contentPlan readers folders embedder rel bytes stat = .ok decision) :
    (∃ facts message, decision = .fail facts message ∧ parse readers rel bytes = .error (.parseError message)) ∨
      ∃ folderId text parsed, folderOf readers folders (metadataOf readers rel bytes).2 = .ok folderId ∧
        parse readers rel bytes = .ok (text, parsed) ∧
        decision = indexing readers embedder rel bytes stat folderId text parsed := by
  unfold contentPlan at planned
  dsimp only at planned
  split at planned
  · cases planned
  next folderId resolved =>
    split at planned
    · cases planned
    next message parsed =>
      cases planned
      exact .inl ⟨_, message, rfl, parsed⟩
    next text title parsed =>
      cases planned
      exact .inr ⟨folderId, text, title, resolved, parsed, rfl⟩

theorem contentPlan_index {folderId : Option Int} {text : String} {parsed : Option String}
    (resolved : folderOf readers folders (metadataOf readers rel bytes).2 = .ok folderId)
    (parses : parse readers rel bytes = .ok (text, parsed)) :
    contentPlan readers folders embedder rel bytes stat =
      .ok (indexing readers embedder rel bytes stat folderId text parsed) := by
  unfold contentPlan
  rw [resolved]
  dsimp only
  rw [parses]
  rfl

theorem storablePlan_indexing {folderId : Option Int} {text : String} {parsed : Option String} :
    storablePlan readers (indexing readers embedder rel bytes stat folderId text parsed) = true ↔
      ((titleOf (metadataOf readers rel bytes).1).all readers.storable = true ∧
        ((truthy parsed).orElse fun _ => titleOf (metadataOf readers rel bytes).1).all readers.storable = true) ∧
      ∀ chunk ∈ readers.chunkText text, readers.storable chunk.text = true := by
  have zipped := @all_zip_vectors embedder (readers.chunkText text) fun chunk => readers.storable chunk.text
  rw [indexing, storablePlan, zipped, factsOf]
  simp only [Bool.and_eq_true, List.all_eq_true]

variable {around : Surroundings} {db after : IndexDb} {outcome : Outcome} {docs : List Document} {text : String}

theorem indexFile_ok (indexed : indexFile readers around source force db rel = .ok (after, outcome)) :
    ∃ stat found decision, Opened readers source rel (rowsOf db rel) stat found ∧
      decideFile readers db.folders (around.embedder rel) source rel force stat found = .ok decision ∧
      storablePlan readers decision = true ∧ applyPlan db rel (around.clock rel) found decision = .ok after ∧
      outcome = decision.outcome := by
  unfold indexFile at indexed
  split at indexed
  · cases indexed
  next stat statted =>
    split at indexed
    · cases indexed
    next dated =>
      split at indexed
      · cases indexed
      next named =>
        split at indexed
        · cases indexed
        next found unique =>
          split at indexed
          · cases indexed
          next decision decided =>
            split at indexed
            · cases indexed
            next storable =>
              split at indexed
              · cases indexed
              next applied =>
                cases indexed
                exact ⟨stat, found, decision, ⟨statted, by simpa using dated, by simpa using named, unique⟩,
                  decided, by simpa using storable, applied, rfl⟩

theorem indexFile_of_plan (opened : Opened readers source rel (rowsOf db rel) stat found)
    (decided : decideFile readers db.folders (around.embedder rel) source rel force stat found = .ok decision)
    (storable : storablePlan readers decision = true)
    (applied : applyPlan db rel (around.clock rel) found decision = .ok after) :
    indexFile readers around source force db rel = .ok (after, decision.outcome) := by
  unfold indexFile
  simp only [opened.statted, opened.dated, opened.named, opened.unique, decided, storable, applied, Bool.not_true,
    Bool.false_eq_true, if_false]

theorem decideFile_cases
    (decided : decideFile readers folders embedder source rel force stat found = .ok decision) :
    (decision = .unchanged ∧ force = false ∧ found.any (settled stat) = true) ∨
      ∃ bytes, source.readBytes rel = .ok bytes ∧
        ((decision = .touch stat.size stat.mtimeMs ∧ force = false ∧
            found.any (sameContent (readers.sha256 bytes)) = true) ∨
          (contentPlan readers folders embedder rel bytes stat = .ok decision ∧
            ¬ (force = false ∧ found.any (settled stat) = true) ∧
            ¬ (force = false ∧ found.any (sameContent (readers.sha256 bytes)) = true))) := by
  unfold decideFile at decided
  split at decided
  next quick =>
    cases decided
    exact .inl ⟨rfl, by simpa using quick⟩
  next unsettled =>
    split at decided
    · cases decided
    next bytes read =>
      split at decided
      next touched =>
        cases decided
        exact .inr ⟨bytes, read, .inl ⟨rfl, by simpa using touched⟩⟩
      next changed => exact .inr ⟨bytes, read, .inr ⟨decided, by simpa using unsettled, by simpa using changed⟩⟩

theorem contentPlan_outcome (planned : contentPlan readers folders embedder rel bytes stat = .ok decision) :
    decision.outcome ≠ .unchanged := by
  obtain ⟨facts, message, rfl, _⟩ | ⟨folderId, text, parsed, _, _, rfl⟩ := contentPlan_cases planned
  · nofun
  · nofun

theorem unchanged_iff : (∃ after, indexFile readers around source force db rel = .ok (after, .unchanged)) ↔
    Skipped readers source force rel (rowsOf db rel) := by
  constructor
  · rintro ⟨after, indexed⟩
    obtain ⟨stat, found, decision, opened, decided, _, _, unchanged⟩ := indexFile_ok indexed
    obtain ⟨_, quick, same⟩ | ⟨bytes, read, ⟨_, quick, same⟩ | ⟨planned, _⟩⟩ := decideFile_cases decided
    · exact ⟨stat, found, opened, quick, .inl same⟩
    · exact ⟨stat, found, opened, quick, .inr ⟨bytes, read, same⟩⟩
    · exact absurd unchanged.symm (contentPlan_outcome planned)
  · rintro ⟨stat, found, opened, rfl, same⟩
    have known : ∃ doc, found = some doc := by
      rcases same with same | ⟨_, _, same⟩
      · exact ((Option.any_eq_true ..).mp same).imp fun _ => And.left
      · exact ((Option.any_eq_true ..).mp same).imp fun _ => And.left
    obtain ⟨doc, rfl⟩ := known
    by_cases quick : (some doc).any (settled stat) = true
    · have decided : decideFile readers db.folders (around.embedder rel) source rel false stat (some doc) =
          .ok .unchanged := by
        rw [decideFile, quick]
        rfl
      exact ⟨_, indexFile_of_plan opened decided rfl rfl⟩
    · obtain ⟨bytes, read, digest⟩ := same.resolve_left quick
      have decided : decideFile readers db.folders (around.embedder rel) source rel false stat (some doc) =
          .ok (.touch stat.size stat.mtimeMs) := by
        rw [decideFile, Bool.eq_false_iff.mpr quick, read]
        simp only [digest, Bool.not_false, Bool.and_self, Bool.and_false, Bool.false_eq_true, if_false, if_true]
      exact ⟨_, indexFile_of_plan opened decided rfl rfl⟩

/-- A file is indexed exactly when it is not skipped and everything about it can be stored. -/
theorem indexed_iff : (∃ after, indexFile readers around source force db rel = .ok (after, .indexed)) ↔
    ¬ Skipped readers source force rel (rowsOf db rel) ∧
      ∃ text, Indexable readers source db.folders db.defaultTenant rel (rowsOf db rel) text := by
  constructor
  · rintro ⟨after, indexed⟩
    refine ⟨fun skipped => ?_, ?_⟩
    · obtain ⟨other, unchanged⟩ := unchanged_iff.mpr skipped
      cases indexed.symm.trans unchanged
    obtain ⟨stat, found, decision, opened, decided, storable, applied, written⟩ := indexFile_ok indexed
    obtain ⟨rfl, _⟩ | ⟨bytes, read, ⟨rfl, _⟩ | ⟨planned, _⟩⟩ := decideFile_cases decided
    · cases written
    · cases written
    obtain ⟨_, _, rfl, _⟩ | ⟨folderId, text, parsed, resolved, parses, rfl⟩ := contentPlan_cases planned
    · cases written
    obtain ⟨titles, chunks⟩ := storablePlan_indexing.mp storable
    refine ⟨text, ⟨stat, found, opened, ?_⟩, ⟨bytes, folderId, parsed, read, resolved, parses, titles⟩, chunks⟩
    cases found with
    | some doc => exact .inl rfl
    | none =>
        right
        unfold applyPlan at applied
        dsimp only at applied
        cases tenant : db.defaultTenant with
        | none => rw [tenant] at applied; cases applied
        | some tenant => rfl
  · rintro ⟨unskipped, text, indexable⟩
    obtain ⟨stat, found, opened, rowed⟩ := indexable.reached
    obtain ⟨bytes, folderId, parsed, read, resolved, parses, titles⟩ := indexable.content
    have unsettled : (!force && found.any (settled stat)) = false := by
      by_contra same
      rw [Bool.not_eq_false, Bool.and_eq_true, Bool.not_eq_true'] at same
      exact unskipped ⟨stat, found, opened, same.1, .inl same.2⟩
    have changed : (!force && found.any (sameContent (readers.sha256 bytes))) = false := by
      by_contra same
      rw [Bool.not_eq_false, Bool.and_eq_true, Bool.not_eq_true'] at same
      exact unskipped ⟨stat, found, opened, same.1, .inr ⟨bytes, read, same.2⟩⟩
    have decided : decideFile readers db.folders (around.embedder rel) source rel force stat found =
        .ok (indexing readers (around.embedder rel) rel bytes stat folderId text parsed) := by
      rw [decideFile, unsettled, read]
      simp only [changed, Bool.false_eq_true, if_false]
      exact contentPlan_index resolved parses
    have storable := (@storablePlan_indexing readers (around.embedder rel) rel stat bytes folderId text parsed).mpr
      ⟨titles, indexable.chunks⟩
    have applied : ∃ after, applyPlan db rel (around.clock rel) found
        (indexing readers (around.embedder rel) rel bytes stat folderId text parsed) = .ok after := by
      cases found with
      | some doc => exact ⟨_, rfl⟩
      | none =>
          obtain ⟨tenant, known⟩ := Option.isSome_iff_exists.mp (rowed.resolve_left (by simp))
          unfold applyPlan
          dsimp only
          rw [known]
          exact ⟨_, rfl⟩
    obtain ⟨after, applied⟩ := applied
    exact ⟨after, indexFile_of_plan opened decided storable applied⟩

theorem Indexable.text_unique {tenant : Option Int} {other : String}
    (first : Indexable readers source folders tenant rel docs text)
    (second : Indexable readers source folders tenant rel docs other) : text = other := by
  obtain ⟨bytes, _, _, read, _, parses, _⟩ := first.content
  obtain ⟨_, _, _, readAgain, _, parsesAgain, _⟩ := second.content
  cases read.symm.trans readAgain
  cases parses.symm.trans parsesAgain
  rfl

/-- The chunk of a text that a row was made of. -/
def piece (chunk : DocChunk) : Chunk := ⟨chunk.ord, chunk.text, chunk.startChar, chunk.endChar⟩

theorem pieces_of_zip {chunks : List Chunk} {docId : Int} {embeddings : List (Option (List UInt8))}
    (same : embeddings.length = chunks.length) :
    ((chunks.zip embeddings).map fun (chunk, embedding) =>
      piece ⟨docId, chunk.ord, chunk.text, chunk.startChar, chunk.endChar, embedding⟩) = chunks :=
  List.map_fst_zip (Nat.le_of_eq same.symm)

def Settled (readers : Readers) (outcome : Outcome) (rows : List Row) (text : String) : Prop :=
  ∃ row, rows = [row] ∧ row.1.status = .indexed ∧ (outcome = .indexed → row.2.map piece = readers.chunkText text)

/-- A file concerns the rows of its path only, and leaves one there if it does not fail. -/
theorem indexFile_rows (indexed : indexFile readers around source force db rel = .ok (after, outcome)) :
    (∀ other, other ≠ rel → rowsAt after other = rowsAt db other) ∧ SameAround db after ∧
      (outcome = .unchanged → Settled readers outcome (rowsAt after rel) "") ∧
      (outcome = .indexed → ∀ text, Indexable readers source db.folders db.defaultTenant rel (rowsOf db rel) text →
        Settled readers outcome (rowsAt after rel) text) := by
  obtain ⟨stat, found, decision, opened, decided, _, applied, rfl⟩ := indexFile_ok indexed
  have replaces : found = none → ∃ chunks, decision.chunks db.documents.fresh = some chunks := by
    rintro rfl
    obtain ⟨_, _, settled⟩ | ⟨_, _, ⟨_, _, same⟩ | ⟨planned, _⟩⟩ := decideFile_cases decided
    · cases settled
    · cases same
    obtain ⟨_, _, rfl, _⟩ | ⟨_, _, _, _, _, rfl⟩ := contentPlan_cases planned
    · exact ⟨_, rfl⟩
    · exact ⟨_, rfl⟩
  obtain ⟨⟨start, own, _, here⟩, elsewhere, around⟩ := rowsAt_applyPlan opened.unique replaces applied
  refine ⟨elsewhere, around, fun unchanged => ?_, fun written text indexable => ?_⟩
  · rw [here]
    obtain ⟨rfl, _, same⟩ | ⟨_, _, ⟨rfl, _, same⟩ | ⟨planned, _⟩⟩ := decideFile_cases decided
    · obtain ⟨doc, isDoc, kept⟩ := (Option.any_eq_true ..).mp same
      refine ⟨_, rfl, ?_, nofun⟩
      rw [own doc isDoc]
      simp only [settled, Bool.and_eq_true, decide_eq_true_eq] at kept
      exact kept.1.1
    · obtain ⟨doc, isDoc, kept⟩ := (Option.any_eq_true ..).mp same
      refine ⟨_, rfl, ?_, nofun⟩
      rw [own doc isDoc]
      simp only [sameContent, Bool.and_eq_true, decide_eq_true_eq] at kept
      exact kept.2
    · exact absurd unchanged (contentPlan_outcome planned)
  · rw [here]
    obtain ⟨rfl, _⟩ | ⟨bytes, read, ⟨rfl, _⟩ | ⟨planned, _⟩⟩ := decideFile_cases decided
    · cases written
    · cases written
    obtain ⟨_, _, rfl, _⟩ | ⟨folderId, other, parsed, _, parses, rfl⟩ := contentPlan_cases planned
    · cases written
    obtain ⟨_, _, _, readAgain, _, parsesAgain, _⟩ := indexable.content
    cases read.symm.trans readAgain
    cases parses.symm.trans parsesAgain
    refine ⟨_, rfl, rfl, fun _ => ?_⟩
    rw [Plan.apply, indexing, Plan.chunks, Option.getD_some, List.map_map]
    exact pieces_of_zip vectors_length

end Outcomes

end Dosm.Docs.RawFiles
