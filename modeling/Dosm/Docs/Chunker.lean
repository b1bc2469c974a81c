import Dosm.Python.Slices

namespace Dosm.Docs.Chunker

open Python

/-! Cutting a document into the passages that are embedded.

Windows slide over the stripped text, each ending at a break near its end if there
is one. The two sizes are whatever the configuration says, of any sign.
-/

structure Chunk where
  ord : Nat
  text : String
  startChar : Int
  endChar : Int
  deriving DecidableEq

/-- Paragraph, line, sentence, word. -/
def breakpoints : List String := ["\n\n", "\n", ". ", " "]

def findBreak (text : List Char) (targetEnd minEnd : Int) : Int :=
  (breakpoints.findSome? fun sep =>
    (rfind sep.toList text minEnd targetEnd).map fun index => ((index + sep.toList.length : Nat) : Int)).getD
    targetEnd

def usedOverlap (chunkSize overlap : Int) : Int := if overlap ≥ chunkSize then chunkSize / 5 else overlap

def windowEnd (text : List Char) (chunkSize overlap start : Int) : Int :=
  let targetEnd := min (text.length : Int) (start + chunkSize)
  if targetEnd < text.length then
    findBreak text targetEnd (max (start + (chunkSize - overlap)) (targetEnd - overlap))
  else text.length

/-- The passage of a window, unless the window is blank. -/
def windowChunk (text : List Char) (ord : Nat) (start stop : Int) : List Chunk :=
  let piece := strip (String.ofList (sliceBetween start stop text))
  if piece = "" then [] else [⟨ord, piece, start, stop⟩]

/-- The passages of the windows from `start` on; `none` when the fuel runs out first. -/
def windows (text : List Char) (chunkSize overlap : Int) : Nat → Int → Nat → Option (List Chunk)
  | 0, _, _ => none
  | fuel + 1, start, ord =>
      if start < text.length then
        let stop := windowEnd text chunkSize overlap start
        let out := windowChunk text ord start stop
        if stop ≥ text.length then some out
        else
          (windows text chunkSize overlap fuel (max (start + (chunkSize - overlap)) (stop - overlap))
            (ord + out.length)).map (out ++ ·)
      else some []

def chunkText (fuel : Nat) (text : String) (chunkSize overlap : Int) : Option (List Chunk) :=
  let text := strip text
  if text = "" then some []
  else windows text.toList chunkSize (usedOverlap chunkSize overlap) fuel 0 0

example : chunkText 9 " one two\n" 4 1 = some [⟨0, "one", 0, 4⟩, ⟨1, "two", 3, 7⟩] := by decide

section Windows

variable {text : List Char} {chunkSize overlap start stop targetEnd minEnd : Int} {ord fuel : Nat}
  {chunk : Chunk} {chunks : List Chunk}

theorem findBreak_cases : findBreak text targetEnd minEnd = targetEnd ∨
    ∃ index width : Nat, findBreak text targetEnd minEnd = (index + width : Nat) ∧ 0 < width ∧
      sliceIndex text.length minEnd ≤ index ∧ index + width ≤ sliceIndex text.length targetEnd := by
  unfold findBreak
  cases found : breakpoints.findSome? _ with
  | none => exact .inl rfl
  | some stop =>
      obtain ⟨sep, listed, made⟩ := List.exists_of_findSome?_eq_some found
      obtain ⟨index, last, same⟩ := Option.map_eq_some_iff.mp made
      have wide : 0 < sep.toList.length := by
        have each : ∀ sep ∈ breakpoints, 0 < sep.toList.length := by decide
        exact each sep listed
      exact .inr ⟨index, sep.toList.length, same.symm, wide, rfind_bounds last⟩

theorem windowEnd_bounds (sized : 1 ≤ chunkSize) (below : overlap < chunkSize) (nonneg : 0 ≤ start)
    (inside : start < text.length) :
    windowEnd text chunkSize overlap start ≤ start + chunkSize ∧
      windowEnd text chunkSize overlap start ≤ text.length ∧
      (windowEnd text chunkSize overlap start = text.length ∨
        start + min (chunkSize - overlap) chunkSize ≤ windowEnd text chunkSize overlap start) := by
  rw [windowEnd]
  by_cases short : min (text.length : Int) (start + chunkSize) < text.length
  · simp only [if_pos short]
    have target : min (text.length : Int) (start + chunkSize) = start + chunkSize := by omega
    rw [target] at short ⊢
    rcases @findBreak_cases text (start + chunkSize)
      (max (start + (chunkSize - overlap)) (start + chunkSize - overlap)) with same | ⟨index, width, same, wide, lower, upper⟩
    · omega
    · have last : (sliceIndex text.length (start + chunkSize) : Int) = start + chunkSize :=
        sliceIndex_of_nonneg (by omega) (by omega)
      have first := le_of_sliceIndex_le lower (by omega)
      omega
  · have wide : (text.length : Int) ≤ start + chunkSize := by omega
    rw [if_neg short]
    exact ⟨wide, Int.le_refl _, .inl rfl⟩

theorem mem_windowChunk (member : chunk ∈ windowChunk text ord start stop) :
    chunk = ⟨ord, strip (String.ofList (sliceBetween start stop text)), start, stop⟩ ∧ chunk.text ≠ "" := by
  simp only [windowChunk] at member
  split at member
  · cases member
  · rename_i visible
    obtain rfl := List.mem_singleton.mp member
    exact ⟨rfl, visible⟩

theorem windowChunk_length : (windowChunk text ord start stop).map Chunk.ord =
    List.range' ord (windowChunk text ord start stop).length := by
  simp only [windowChunk]
  split <;> rfl

theorem windowChunk_visible {index : Nat} {char : Char} (placed : text[index]? = some char)
    (visible : isSpace char = false) (lower : sliceIndex text.length start ≤ index)
    (upper : index < sliceIndex text.length stop) :
    ∃ chunk ∈ windowChunk text ord start stop, chunk.startChar = start ∧ chunk.endChar = stop := by
  have shown : strip (String.ofList (sliceBetween start stop text)) ≠ "" := by
    intro blank
    have all := strip_eq_empty_iff.mp blank char (by
      rw [String.toList_ofList]
      exact mem_sliceBetween placed lower upper)
    rw [visible] at all
    cases all
  rw [windowChunk, if_neg shown]
  exact ⟨_, List.mem_singleton_self _, rfl, rfl⟩

structure Cuts (text : List Char) (chunkSize start : Int) (ord : Nat) (chunks : List Chunk) : Prop where
  numbered : chunks.map Chunk.ord = List.range' ord chunks.length
  nonempty : ∀ chunk ∈ chunks, chunk.text ≠ ""
  begins : ∀ chunk ∈ chunks, start ≤ chunk.startChar
  inside : ∀ chunk ∈ chunks, chunk.startChar < chunk.endChar ∧ chunk.endChar ≤ text.length
  narrow : ∀ chunk ∈ chunks, chunk.endChar - chunk.startChar ≤ chunkSize
  exact : ∀ chunk ∈ chunks, chunk.text = strip (String.ofList (sliceBetween chunk.startChar chunk.endChar text))
  increasing : chunks.Pairwise fun first second => first.startChar < second.startChar

theorem Cuts.nil : Cuts text chunkSize start ord [] where
  numbered := rfl
  nonempty := by simp
  begins := by simp
  inside := by simp
  narrow := by simp
  exact := by simp
  increasing := List.Pairwise.nil

theorem Cuts.window {next : Int} (rest : Cuts text chunkSize next (ord + (windowChunk text ord start stop).length) chunks)
    (later : start < next) (ordered : start < stop) (within : stop ≤ text.length) (short : stop ≤ start + chunkSize) :
    Cuts text chunkSize start ord (windowChunk text ord start stop ++ chunks) where
  numbered := by
    rw [List.map_append, windowChunk_length, rest.numbered, List.length_append, List.range'_append_1]
  nonempty chunk member := by
    rcases List.mem_append.mp member with first | other
    · exact (mem_windowChunk first).2
    · exact rest.nonempty chunk other
  begins chunk member := by
    rcases List.mem_append.mp member with first | other
    · simp [(mem_windowChunk first).1]
    · have behind := rest.begins chunk other
      omega
  inside chunk member := by
    rcases List.mem_append.mp member with first | other
    · rw [(mem_windowChunk first).1]
      exact ⟨ordered, within⟩
    · exact rest.inside chunk other
  narrow chunk member := by
    rcases List.mem_append.mp member with first | other
    · rw [(mem_windowChunk first).1]
      simp only
      omega
    · exact rest.narrow chunk other
  exact chunk member := by
    rcases List.mem_append.mp member with first | other
    · rw [(mem_windowChunk first).1]
    · exact rest.exact chunk other
  increasing := by
    rw [List.pairwise_append]
    refine ⟨?_, rest.increasing, fun first firstMember second secondMember => ?_⟩
    · simp only [windowChunk]
      split <;> simp
    · have behind := rest.begins second secondMember
      have here : first.startChar = start := by rw [(mem_windowChunk firstMember).1]
      omega

/-- The character at the index is in what a passage was cut from. -/
def Takes (length index : Nat) (chunk : Chunk) : Prop :=
  sliceIndex length chunk.startChar ≤ index ∧ index < sliceIndex length chunk.endChar

/-- Which of the characters from `start` on are in a passage: those that are not in
the gaps between windows that begin `step` apart. -/
def Covers (text : List Char) (chunkSize step start : Int) (chunks : List Chunk) : Prop :=
  ∀ (index : Nat) (char : Char), start ≤ index → text[index]? = some char → isSpace char = false →
    ((∃ chunk ∈ chunks, Takes text.length index chunk) ↔ (index - start) % step < chunkSize)

theorem Cuts.takes_iff {index : Nat} (cuts : Cuts text chunkSize start ord chunks) (nonneg : 0 ≤ start)
    (member : chunk ∈ chunks) :
    Takes text.length index chunk ↔ chunk.startChar ≤ index ∧ index < chunk.endChar := by
  have begins := cuts.begins chunk member
  have inside := cuts.inside chunk member
  have first : (sliceIndex text.length chunk.startChar : Int) = chunk.startChar :=
    sliceIndex_of_nonneg (by omega) (by omega)
  have last : (sliceIndex text.length chunk.endChar : Int) = chunk.endChar :=
    sliceIndex_of_nonneg (by omega) (by omega)
  unfold Takes
  omega

theorem emod_lt_of_lt {offset step : Int} (positive : 0 < step) (nonneg : 0 ≤ offset) (below : offset < chunkSize) :
    offset % step < chunkSize := by
  by_cases first : offset < step
  · rwa [Int.emod_eq_of_lt nonneg first]
  · have bound := Int.emod_lt_of_pos offset positive
    omega

theorem Covers.window {step : Int} (nonneg : 0 ≤ start) (positive : 0 < step) (within : stop ≤ text.length)
    (ordered : start < stop) (short : stop ≤ start + chunkSize)
    (reach : stop = text.length ∨ start + min step chunkSize ≤ stop)
    (rest : Cuts text chunkSize (start + step) (ord + (windowChunk text ord start stop).length) chunks)
    (later : stop < text.length → Covers text chunkSize step (start + step) chunks) :
    Covers text chunkSize step start (windowChunk text ord start stop ++ chunks) := by
  intro index char lower placed visible
  have bound : index < text.length := (List.getElem?_eq_some_iff.mp placed).1
  have first : (sliceIndex text.length start : Int) = start := sliceIndex_of_nonneg nonneg (by omega)
  have last : (sliceIndex text.length stop : Int) = stop := sliceIndex_of_nonneg (by omega) within
  by_cases near : (index : Int) < stop
  · apply iff_of_true
    · obtain ⟨chunk, member, begins, ends⟩ :=
        @windowChunk_visible text start stop ord index char placed visible (by omega) (by omega)
      refine ⟨chunk, List.mem_append_left _ member, ?_⟩
      rw [Takes, begins, ends]
      omega
    · exact emod_lt_of_lt positive (by omega) (by omega)
  · have past : ∀ chunk ∈ windowChunk text ord start stop, ¬ Takes text.length index chunk := by
      intro chunk member takes
      have ends : chunk.endChar = stop := by rw [(mem_windowChunk member).1]
      rw [Takes, ends] at takes
      omega
    have reached : start + min step chunkSize ≤ stop := by omega
    have onlyLater : (∃ chunk ∈ windowChunk text ord start stop ++ chunks, Takes text.length index chunk) ↔
        ∃ chunk ∈ chunks, Takes text.length index chunk := by
      simp only [List.mem_append, or_and_right, exists_or]
      exact or_iff_right fun ⟨chunk, member, takes⟩ => past chunk member takes
    rw [onlyLater]
    by_cases gap : (index : Int) < start + step
    · apply iff_of_false
      · rintro ⟨chunk, member, takes⟩
        have begins := rest.begins chunk member
        have inside := (rest.takes_iff (by omega) member).mp takes
        omega
      · rw [Int.emod_eq_of_lt (by omega) (by omega)]
        omega
    · have moved : (index : Int) - (start + step) = index - start - step := by omega
      rw [later (by omega) index char (by omega) placed visible, moved, Int.sub_emod_right]

theorem windows_cut (sized : 1 ≤ chunkSize) (below : overlap < chunkSize) (nonneg : 0 ≤ start)
    (enough : (text.length - start).toNat < fuel) :
    ∃ chunks, windows text chunkSize overlap fuel start ord = some chunks ∧
      Cuts text chunkSize start ord chunks ∧ Covers text chunkSize (chunkSize - overlap) start chunks := by
  induction fuel generalizing start ord with
  | zero => omega
  | succ fuel ih =>
      rw [windows]
      by_cases inside : start < text.length
      · obtain ⟨short, within, reach⟩ := windowEnd_bounds sized below nonneg inside
        simp only [if_pos inside]
        generalize windowEnd text chunkSize overlap start = stop at *
        have ordered : start < stop := by omega
        have next : max (start + (chunkSize - overlap)) (stop - overlap) = start + (chunkSize - overlap) := by omega
        by_cases last : stop ≥ text.length
        · have done : Cuts text chunkSize (start + (chunkSize - overlap)) (ord + (windowChunk text ord start stop).length) [] :=
            Cuts.nil
          have cuts := done.window (by omega) ordered within short
          have covers := Covers.window nonneg (by omega) within ordered short reach
            done fun before => by omega
          rw [List.append_nil] at cuts covers
          exact ⟨_, if_pos last, cuts, covers⟩
        · obtain ⟨chunks, rest, cuts, covers⟩ :=
            @ih (start + (chunkSize - overlap)) (ord + (windowChunk text ord start stop).length) (by omega) (by omega)
          rw [if_neg last, next, rest]
          exact ⟨_, rfl, cuts.window (by omega) ordered within short,
            Covers.window nonneg (by omega) within ordered short reach cuts fun _ => covers⟩
      · refine ⟨[], if_neg inside, Cuts.nil, ?_⟩
        intro index char lower placed visible
        have bound := (List.getElem?_eq_some_iff.mp placed).1
        omega

/-! A size that is not positive. -/

theorem windowEnd_short (unsized : chunkSize ≤ 0) (inside : start < text.length) (nonempty : 0 < text.length) :
    sliceIndex text.length (windowEnd text chunkSize overlap start) < text.length ∧
      windowEnd text chunkSize overlap start < text.length := by
  have target : min (text.length : Int) (start + chunkSize) = start + chunkSize := by omega
  have before := sliceIndex_lt nonempty (show start + chunkSize < text.length by omega)
  rw [windowEnd, target, if_pos (by omega)]
  rcases @findBreak_cases text (start + chunkSize)
    (max (start + (chunkSize - overlap)) (start + chunkSize - overlap)) with same | ⟨index, width, same, wide, lower, upper⟩
  · rw [same]
    exact ⟨before, by omega⟩
  · rw [same]
    exact ⟨sliceIndex_lt nonempty (by omega), by omega⟩

theorem windows_miss_last (unsized : chunkSize ≤ 0) (nonempty : 0 < text.length)
    (returned : windows text chunkSize overlap fuel start ord = some chunks) (member : chunk ∈ chunks) :
    sliceIndex text.length chunk.endChar < text.length := by
  induction fuel generalizing start ord chunks with
  | zero => cases returned
  | succ fuel ih =>
      rw [windows] at returned
      by_cases inside : start < text.length
      · obtain ⟨short, open_⟩ := @windowEnd_short text chunkSize overlap start unsized inside nonempty
        simp only [if_pos inside] at returned
        rw [if_neg (by omega)] at returned
        obtain ⟨rest, later, rfl⟩ := Option.map_eq_some_iff.mp returned
        rcases List.mem_append.mp member with here | there
        · rw [(mem_windowChunk here).1]
          exact short
        · exact ih later there
      · rw [if_neg inside] at returned
        cases returned
        cases member

theorem windows_mono {more : Nat} (returned : windows text chunkSize overlap fuel start ord = some chunks)
    (enough : fuel ≤ more) : windows text chunkSize overlap more start ord = some chunks := by
  induction fuel generalizing more start ord chunks with
  | zero => cases returned
  | succ fuel ih =>
      obtain ⟨more, rfl⟩ := Nat.exists_eq_add_of_lt enough
      rw [windows] at returned ⊢
      by_cases inside : start < text.length
      · simp only [if_pos inside] at returned ⊢
        by_cases last : windowEnd text chunkSize overlap start ≥ text.length
        · rwa [if_pos last] at returned ⊢
        · rw [if_neg last] at returned ⊢
          obtain ⟨rest, later, joined⟩ := Option.map_eq_some_iff.mp returned
          rw [ih later (by omega), Option.map_some, joined]
      · rwa [if_neg inside] at returned ⊢

end Windows

section Texts

variable {text : String} {chunkSize overlap : Int} {fuel : Nat} {chunks : List Chunk}

theorem chunkText_mono {more : Nat} (returned : chunkText fuel text chunkSize overlap = some chunks)
    (enough : fuel ≤ more) : chunkText more text chunkSize overlap = some chunks := by
  simp only [chunkText] at returned ⊢
  split
  · rename_i empty
    rwa [if_pos empty] at returned
  · rename_i nonempty
    rw [if_neg nonempty] at returned
    exact windows_mono returned enough

theorem usedOverlap_lt (sized : 1 ≤ chunkSize) : usedOverlap chunkSize overlap < chunkSize := by
  unfold usedOverlap
  split <;> omega

theorem usedOverlap_nonneg (sized : 1 ≤ chunkSize) (overlaps : 0 ≤ overlap) : 0 ≤ usedOverlap chunkSize overlap := by
  unfold usedOverlap
  split <;> omega

theorem usedOverlap_neg (sized : 1 ≤ chunkSize) (gaps : overlap < 0) : usedOverlap chunkSize overlap = overlap :=
  if_neg (by omega)

theorem chunkText_cut (text : String) (overlap : Int) (sized : 1 ≤ chunkSize) :
    ∃ chunks, (∀ fuel > text.length, chunkText fuel text chunkSize overlap = some chunks) ∧
      Cuts (strip text).toList chunkSize 0 0 chunks ∧
      Covers (strip text).toList chunkSize (chunkSize - usedOverlap chunkSize overlap) 0 chunks := by
  by_cases empty : strip text = ""
  · refine ⟨[], fun fuel _ => by simp only [chunkText, if_pos empty], Cuts.nil, ?_⟩
    intro index char _ placed
    simp [empty] at placed
  · have room : ((strip text).toList.length - (0 : Int)).toNat < text.length + 1 := by
      have shorter := @strip_length_le text
      rw [String.length_toList]
      omega
    obtain ⟨chunks, returned, cuts, covers⟩ :=
      @windows_cut _ _ _ 0 0 _ sized (usedOverlap_lt sized) (Int.le_refl 0) room
    refine ⟨chunks, fun fuel enough => ?_, cuts, covers⟩
    simp only [chunkText, if_neg empty]
    exact windows_mono returned enough

/-- The passages of a text: numbered, in order, each the stripped slice of its window,
and together all that is not blank. -/
structure Chunked (text : String) (chunkSize : Int) (chunks : List Chunk) : Prop where
  numbered : chunks.map Chunk.ord = List.range chunks.length
  nonempty : ∀ chunk ∈ chunks, chunk.text ≠ ""
  short : ∀ chunk ∈ chunks, chunk.text.length ≤ chunkSize
  increasing : chunks.Pairwise fun first second => first.startChar < second.startChar
  inside : ∀ chunk ∈ chunks, 0 ≤ chunk.startChar ∧ chunk.startChar < chunk.endChar ∧ chunk.endChar ≤ text.length
  narrow : ∀ chunk ∈ chunks, chunk.endChar - chunk.startChar ≤ chunkSize
  covered : ∀ (index : Nat) (char : Char), text.toList[index]? = some char → isSpace char = false →
    ∃ chunk ∈ chunks, chunk.startChar ≤ index ∧ index < chunk.endChar
  exact : ∀ chunk ∈ chunks,
    chunk.text = strip (String.ofList (sliceBetween chunk.startChar chunk.endChar text.toList))

theorem Cuts.chunked {step : Int} (cuts : Cuts text.toList chunkSize 0 0 chunks) (positive : 0 < step)
    (noGap : step ≤ chunkSize) (covers : Covers text.toList chunkSize step 0 chunks) :
    Chunked text chunkSize chunks where
  numbered := by rw [cuts.numbered, List.range_eq_range']
  nonempty := cuts.nonempty
  short chunk member := by
    have inside := cuts.inside chunk member
    have begins := cuts.begins chunk member
    have narrow := cuts.narrow chunk member
    have whole := sliceBetween_length begins inside.2 (Int.le_of_lt inside.1)
    have shorter := @strip_length_le (String.ofList (sliceBetween chunk.startChar chunk.endChar text.toList))
    rw [String.length_ofList] at shorter
    rw [cuts.exact chunk member]
    omega
  increasing := cuts.increasing
  inside chunk member := by
    rw [← String.length_toList]
    exact ⟨cuts.begins chunk member, cuts.inside chunk member⟩
  narrow := cuts.narrow
  covered index char placed visible := by
    have offset := Int.emod_lt_of_pos (index - 0) positive
    obtain ⟨chunk, member, takes⟩ := (covers index char (by omega) placed visible).mpr (by omega)
    exact ⟨chunk, member, (cuts.takes_iff (Int.le_refl 0) member).mp takes⟩
  exact := cuts.exact

theorem chunking_covers (text : String) {chunkSize overlap : Int} (sized : 1 ≤ chunkSize) (overlaps : 0 ≤ overlap) :
    ∃ chunks, (∀ fuel > text.length, chunkText fuel text chunkSize overlap = some chunks) ∧
      Chunked (strip text) chunkSize chunks := by
  obtain ⟨chunks, returned, cuts, covers⟩ := chunkText_cut text overlap sized
  have below := @usedOverlap_lt _ overlap sized
  have used := usedOverlap_nonneg sized overlaps
  exact ⟨chunks, returned, cuts.chunked (by omega) (by omega) covers⟩

theorem chunking_covers_words :
    ∃ chunks, (∀ fuel > " one two\n".length, chunkText fuel " one two\n" 4 1 = some chunks) ∧
      Chunked (strip " one two\n") 4 chunks :=
  chunking_covers " one two\n" (by decide) (by decide)

end Texts

/-- The settings of the chunker in the configuration, which bounds neither. -/
structure ChunkConfig where
  chunkSizeChars : Int := 1800
  chunkOverlapChars : Int := 200

def ChunkConfig.chunks (config : ChunkConfig) (fuel : Nat) (text : String) : Option (List Chunk) :=
  chunkText fuel text config.chunkSizeChars config.chunkOverlapChars

/-- The loop ends, and each character that is not blank is in what a passage was cut
from. -/
def Complete (config : ChunkConfig) (text : String) : Prop :=
  ∃ chunks, (∃ fuel, config.chunks fuel text = some chunks) ∧
    ∀ (index : Nat) (char : Char), (strip text).toList[index]? = some char → isSpace char = false →
      ∃ chunk ∈ chunks, Takes (strip text).toList.length index chunk

section Configurations

variable {config : ChunkConfig} {text : String}

theorem strip_last (nonempty : strip text ≠ "") :
    ∃ char, (strip text).toList[(strip text).toList.length - 1]? = some char ∧ isSpace char = false := by
  have remains : (strip text).toList ≠ [] := fun empty => nonempty (String.toList_eq_nil_iff.mp empty)
  rw [strip, String.toList_ofList] at remains ⊢
  have visible := List.rdropWhile_last_not isSpace _ remains
  exact ⟨_, by rw [← List.getLast?_eq_getElem?, List.getLast?_eq_some_getLast remains], by simpa using visible⟩

theorem complete_iff : Complete config text ↔ strip text = "" ∨ 1 ≤ config.chunkSizeChars ∧
    (0 ≤ config.chunkOverlapChars ∨ ∀ (index : Nat) (char : Char), (strip text).toList[index]? = some char →
      isSpace char = false → (index : Int) % (config.chunkSizeChars - config.chunkOverlapChars) < config.chunkSizeChars) := by
  constructor
  · rintro ⟨chunks, ⟨fuel, returned⟩, kept⟩
    by_cases empty : strip text = ""
    · exact .inl empty
    obtain ⟨char, placed, visible⟩ := strip_last empty
    have sized : 1 ≤ config.chunkSizeChars := by
      by_contra unsized
      obtain ⟨chunk, member, takes⟩ := kept _ char placed visible
      simp only [ChunkConfig.chunks, chunkText, if_neg empty] at returned
      have nonempty : 0 < (strip text).toList.length := by
        have bound := (List.getElem?_eq_some_iff.mp placed).1
        omega
      have missed := windows_miss_last (by omega) nonempty returned member
      have reached := takes.2
      omega
    by_cases overlaps : 0 ≤ config.chunkOverlapChars
    · exact .inr ⟨sized, .inl overlaps⟩
    refine .inr ⟨sized, .inr fun index char placed visible => ?_⟩
    obtain ⟨canonical, always, cuts, covers⟩ := chunkText_cut text config.chunkOverlapChars sized
    have late := chunkText_mono returned (Nat.le_max_left fuel (text.length + 1))
    rw [always _ (by omega), Option.some.injEq] at late
    rw [usedOverlap_neg sized (by omega), late] at covers
    simpa using (covers index char (by omega) placed visible).mp (kept index char placed visible)
  · rintro (empty | ⟨sized, gaps⟩)
    · refine ⟨[], ⟨0, by simp only [ChunkConfig.chunks, chunkText, if_pos empty]⟩, fun index char placed => ?_⟩
      simp [empty] at placed
    · obtain ⟨chunks, always, cuts, covers⟩ := chunkText_cut text config.chunkOverlapChars sized
      refine ⟨chunks, ⟨text.length + 1, always _ (by omega)⟩, fun index char placed visible => ?_⟩
      apply (covers index char (by omega) placed visible).mpr
      by_cases overlaps : 0 ≤ config.chunkOverlapChars
      · have used := usedOverlap_nonneg sized overlaps
        have below := @usedOverlap_lt _ config.chunkOverlapChars sized
        have offset := Int.emod_lt_of_pos (index - 0)
          (show 0 < config.chunkSizeChars - usedOverlap config.chunkSizeChars config.chunkOverlapChars by omega)
        omega
      · rw [usedOverlap_neg sized (by omega)]
        simpa using gaps.resolve_left overlaps index char placed visible

end Configurations

theorem windows_stuck (fuel : Nat) : windows ['x'] 0 0 fuel 0 0 = none := by
  induction fuel with
  | zero => rfl
  | succ fuel ih =>
      have stays : windowEnd ['x'] 0 0 0 = 0 := by decide
      have blank : windowChunk ['x'] 0 0 0 = [] := by decide
      rw [windows, if_pos (by decide)]
      simp only [stays, blank]
      rw [if_neg (by decide)]
      simpa using ih

theorem unsized_never_returns : (∀ fuel, (ChunkConfig.mk 0 0).chunks fuel "x" = none) ∧ ¬ Complete (ChunkConfig.mk 0 0) "x" := by
  have stuck : ∀ fuel, (ChunkConfig.mk 0 0).chunks fuel "x" = none := by
    intro fuel
    have shown : strip "x" = "x" := by decide
    simp only [ChunkConfig.chunks, chunkText, shown, if_neg (show "x" ≠ "" by decide)]
    exact windows_stuck fuel
  refine ⟨stuck, fun ⟨chunks, ⟨fuel, returned⟩, _⟩ => ?_⟩
  rw [stuck fuel] at returned
  cases returned

end Dosm.Docs.Chunker
