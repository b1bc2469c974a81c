import Dosm.Network.Scanner

namespace Dosm.Network

open Models Python Jumps

/-! What one group of a scan leaves on record.

A group writes the outcome of every check of its own, or there is a row that it never
writes; which of the two is a matter of what it meets.
-/

/-- The outcome of the check for the question, also of one that the source could not make. -/
def Found (trace : List Event) (question : Question) (outcome : Outcome) : Prop :=
  .made question outcome ∈ trace ∨ ∃ error, .refused question.source error ∈ trace ∧ outcome = .failed error

/-- No write after a refusal raises, nor the release of the tunnel before them; no check
and no write of its outcome raises. -/
def Plan.Fits (world : GroupWorld) (params : List CheckParam) (release : Option Exc) : Plan → Prop
  | .refuse _ => release = none ∧ ∀ i < params.length, world.catchUp i = none
  | .check answer => ∀ i param, params[i]? = some param →
      (∃ outcome, answer i param.dstAddress param.port = .ok outcome) ∧ ∃ now, world.commit i = .ok now

def MarksFit (world : GroupWorld) (params : List CheckParam) : Prop := ∀ i < params.length, world.mark i = none

def SourceFits (world : GroupWorld) (params : List CheckParam) (srcHostId : Int) : Prop :=
  match world.jumps.db.hosts.get srcHostId with
  | none => MarksFit world params
  | some host =>
      if world.isLocal then (localPlan world).Fits world params none
      else
        match buildJumpChain world.decode world.jumps host with
        | .error .endless => True
        | .error _ => MarksFit world params
        | .ok (jumpHops, target) =>
            if host.protocol = .rdp then
              (windowsPlan world jumpHops target).1.Fits world params
                (if (windowsPlan world jumpHops target).2 then world.release else none)
            else (sshPlan world jumpHops target).Fits world params none

def GroupFits (world : GroupWorld) (params : List CheckParam) : Source → Prop
  | .dosmServer => (localPlan world).Fits world params none
  | .host id => SourceFits world params id

def Writes (log : List Event) (rid : Int) : Prop := ∃ change, .write change ∈ log ∧ change.rid = rid

def Records (found : Outcome → Prop) : RowWrite → Prop
  | .outcome _ outcome _ => found outcome
  | .mark _ error _ => found (.failed error) ∧ ∀ outcome, found outcome → outcome.latencyMs = none

def Answered (log : List Event) (question : Question) (rid : Int) : Prop :=
  Writes log rid ∧ ∃ found : Outcome → Prop, (∀ outcome, found outcome → Found log question outcome) ∧
    ∀ change, .write change ∈ log → change.rid = rid → Records found change

def questionFor (source : Source) (param : CheckParam) : Question := ⟨source, param.dstAddress, param.port⟩

structure Verdict (log : List Event) (source : Source) (params : List CheckParam) (fits : Prop) : Prop where
  answered : fits → ∀ param ∈ params, Answered log (questionFor source param) param.rid
  unwritten : ¬ fits → ∃ param ∈ params, ¬ Writes log param.rid

section Loops

variable {Item : Type} {items before after : List Item} {item : Item} {index : Nat}

theorem mem_zipIdx {entry : Item × Nat} : entry ∈ items.zipIdx ↔ items[entry.2]? = some entry.1 := by
  rw [List.mem_iff_getElem?]
  constructor
  · rintro ⟨position, found⟩
    rw [List.getElem?_zipIdx, Option.map_eq_some_iff] at found
    obtain ⟨item, listed, rfl⟩ := found
    simpa using listed
  · intro listed
    refine ⟨entry.2, ?_⟩
    rw [List.getElem?_zipIdx, listed]
    simp

theorem zipIdx_earlier {before after : List (Item × Nat)} {entry earlier : Item × Nat}
    (split : items.zipIdx = before ++ entry :: after) (listed : earlier ∈ before) : earlier.2 < entry.2 := by
  have position : ∀ (place : Nat) (found : Item × Nat), items.zipIdx[place]? = some found → found.2 = place := by
    intro place found there
    rw [List.getElem?_zipIdx, Option.map_eq_some_iff] at there
    obtain ⟨item, -, rfl⟩ := there
    simp
  obtain ⟨place, found⟩ := List.mem_iff_getElem?.mp listed
  have short : place < before.length := (List.getElem?_eq_some_iff.mp found).1
  have first : earlier.2 = place := by
    refine position place earlier ?_
    rw [split, List.getElem?_append_left short, found]
  have second : entry.2 = before.length := by
    refine position before.length entry ?_
    rw [split, List.getElem?_append_right (Nat.le_refl _)]
    simp
  omega

end Loops

/-! A loop that writes a row for each item, unless the write raises. -/

section Writing

variable {Item : Type} {items : List Item} {fails : Nat → Option Exc} {change : Item → RowWrite}
  {event : Event} {item : Item}

def writeOne (fails : Nat → Option Exc) (change : Item → RowWrite) (entry : Item × Nat) : Checking Unit :=
  match fails entry.2 with
  | some exc => Logged.raise (.exception exc)
  | none => Logged.record (.write (change entry.1))

theorem writeOne_mem {entry : Item × Nat} (happened : event ∈ (writeOne fails change entry).log) :
    event = .write (change entry.1) := by
  unfold writeOne at happened
  split at happened
  · cases happened
  · exact List.mem_singleton.mp happened

theorem writes_mem (happened : event ∈ (Logged.forEach (writeOne fails change) items.zipIdx).log) :
    ∃ item ∈ items, event = .write (change item) := by
  obtain ⟨entry, listed, inside, -⟩ := Logged.mem_forEach_log happened
  exact ⟨entry.1, List.mem_of_getElem? (mem_zipIdx.mp listed), writeOne_mem inside⟩

theorem writes_all (fine : ∀ i < items.length, fails i = none) (member : item ∈ items) :
    .write (change item) ∈ (Logged.forEach (writeOne fails change) items.zipIdx).log := by
  have written : ∀ entry ∈ items.zipIdx,
      writeOne fails change entry = Logged.record (.write (change entry.1)) := by
    intro entry listed
    have bound : entry.2 < items.length := (List.getElem?_eq_some_iff.mp (mem_zipIdx.mp listed)).1
    rw [writeOne, fine entry.2 bound]
  obtain ⟨-, -, log⟩ | ⟨before, entry, after, failure, split, failed, -, -⟩ :=
    @Logged.forEach_split _ _ _ _ (writeOne fails change) items.zipIdx
  · obtain ⟨place, found⟩ := List.mem_iff_getElem?.mp member
    have listed : (item, place) ∈ items.zipIdx := mem_zipIdx.mpr found
    rw [log]
    refine List.mem_flatMap.mpr ⟨(item, place), listed, ?_⟩
    rw [written _ listed]
    exact List.mem_singleton.mpr rfl
  · have listed : entry ∈ items.zipIdx := split ▸ List.mem_append_right before List.mem_cons_self
    rw [written entry listed] at failed
    cases failed

theorem writes_missing (distinct : (items.map fun item => (change item).rid).Nodup)
    (broken : ¬ ∀ i < items.length, fails i = none) :
    ∃ item ∈ items, ¬ Writes (Logged.forEach (writeOne fails change) items.zipIdx).log (change item).rid := by
  obtain ⟨-, succeed, -⟩ | ⟨before, entry, after, failure, split, failed, -, log⟩ :=
    @Logged.forEach_split _ _ _ _ (writeOne fails change) items.zipIdx
  · refine absurd (fun i bound => ?_) broken
    have listed : (items[i], i) ∈ items.zipIdx := mem_zipIdx.mpr (List.getElem?_eq_getElem bound)
    obtain ⟨value, returned⟩ := Logged.succeeds_iff.mp (succeed _ listed)
    unfold writeOne at returned
    split at returned
    · cases returned
    · assumption
  · have listed : entry ∈ items.zipIdx := split ▸ List.mem_append_right before List.mem_cons_self
    refine ⟨entry.1, List.mem_of_getElem? (mem_zipIdx.mp listed), ?_⟩
    rintro ⟨written, happened, same⟩
    rw [log] at happened
    rcases List.mem_append.mp happened with earlier | own
    · obtain ⟨first, firstListed, inside⟩ := List.mem_flatMap.mp earlier
      have smaller : first.2 < entry.2 := zipIdx_earlier split firstListed
      have firstMember : first ∈ items.zipIdx := split ▸ List.mem_append_left _ firstListed
      cases writeOne_mem inside
      have place := mem_zipIdx.mp firstMember
      have other := mem_zipIdx.mp listed
      have rids : ∀ (i : Nat) (found : Item), items[i]? = some found →
          (items.map fun item => (change item).rid)[i]? = some (change found).rid := by
        intro i found there
        rw [List.getElem?_map, there]
        rfl
      have equal : first.2 = entry.2 := by
        refine (List.getElem?_inj ?_ distinct).mp ?_
        · rw [List.length_map]
          exact (List.getElem?_eq_some_iff.mp place).1
        · rw [rids _ _ place, rids _ _ other, same]
      omega
    · unfold writeOne at own failed
      split at own
      · cases own
      · next fine =>
          rw [fine] at failed
          cases failed

end Writing

/-! The checks of a group, one after the other. -/

section Checks

variable {world : GroupWorld} {source : Source} {params : List CheckParam} {param : CheckParam} {i : Nat}
  {answer : Nat → String → Int → Except Exc Outcome} {event : Event}

def checkLoop (world : GroupWorld) (source : Source) (params : List CheckParam)
    (answer : Nat → String → Int → Except Exc Outcome) : Checking (List Outcome) :=
  Logged.forEach (checkOne source answer (commitResult world params)) (params.map CheckParam.check).zipIdx

theorem checkOne_cases (listed : params[i]? = some param) :
    (∃ exc, checkOne source answer (commitResult world params) (param.check, i) = ⟨[], .error (.exception exc)⟩ ∧
      answer i param.dstAddress param.port = .error exc) ∨
    (∃ found exc, checkOne source answer (commitResult world params) (param.check, i) =
        ⟨[.made (questionFor source param) found, .committed i], .error (.exception exc)⟩ ∧
      answer i param.dstAddress param.port = .ok found ∧ world.commit i = .error exc) ∨
    ∃ found now, checkOne source answer (commitResult world params) (param.check, i) =
        ⟨[.made (questionFor source param) found, .committed i, .write (.outcome param.rid found now)], .ok found⟩ ∧
      answer i param.dstAddress param.port = .ok found ∧ world.commit i = .ok now := by
  have unfolded : checkOne source answer (commitResult world params) (param.check, i) =
      (Logged.call ((answer i param.dstAddress param.port).mapError .exception) >>= fun found =>
        Logged.record (.made (questionFor source param) found) >>= fun _ =>
          commitResult world params i found >>= fun _ => pure found) := rfl
  have committing : ∀ found, commitResult world params i found =
      (Logged.record (.committed i) >>= fun _ =>
        Logged.call ((world.commit i).mapError .exception) >>= fun now =>
          Logged.record (.write (.outcome param.rid found now))) := by
    intro found
    unfold commitResult
    rw [listed]
  cases answered : answer i param.dstAddress param.port with
  | error exc =>
      refine .inl ⟨exc, ?_, rfl⟩
      rw [unfolded, answered]
      rfl
  | ok found =>
      have passed : (Except.mapError Raised.exception (.ok found) : Except Raised Outcome) = .ok found := rfl
      cases committed : world.commit i with
      | error exc =>
          refine .inr (.inl ⟨found, exc, ?_, rfl, rfl⟩)
          rw [unfolded, answered, passed, Logged.call_ok_bind, committing, committed]
          rfl
      | ok now =>
          refine .inr (.inr ⟨found, now, ?_, rfl, rfl⟩)
          rw [unfolded, answered, passed, Logged.call_ok_bind, committing, committed]
          rfl

theorem checks_mem {entry : (String × Int) × Nat} (listed : entry ∈ (params.map CheckParam.check).zipIdx) :
    ∃ param, params[entry.2]? = some param ∧ entry = (param.check, entry.2) := by
  have there := mem_zipIdx.mp listed
  rw [List.getElem?_map, Option.map_eq_some_iff] at there
  obtain ⟨param, found, same⟩ := there
  exact ⟨param, found, Prod.ext same.symm rfl⟩

theorem mem_checks (listed : params[i]? = some param) :
    (param.check, i) ∈ (params.map CheckParam.check).zipIdx := by
  refine mem_zipIdx.mpr ?_
  rw [List.getElem?_map, listed]
  rfl

theorem checkLoop_write {change : RowWrite} (happened : .write change ∈ (checkLoop world source params answer).log) :
    ∃ param ∈ params, ∃ found now, change = .outcome param.rid found now ∧
      .made (questionFor source param) found ∈ (checkLoop world source params answer).log := by
  obtain ⟨entry, listed, inside, within⟩ := Logged.mem_forEach_log happened
  obtain ⟨param, found, same⟩ := checks_mem listed
  rw [same] at inside within
  obtain ⟨exc, log, -⟩ | ⟨outcome, exc, log, -⟩ | ⟨outcome, now, log, -⟩ :=
    @checkOne_cases world source params param entry.2 answer found
  · rw [log] at inside
    cases inside
  · rw [log] at inside
    simp at inside
  · rw [log] at inside within
    have written : change = .outcome param.rid outcome now := by simpa using inside
    exact ⟨param, List.mem_of_getElem? found, outcome, now, written, within List.mem_cons_self⟩

theorem checkLoop_all (fits : Plan.Fits world params none (.check answer)) (listed : params[i]? = some param) :
    Writes (checkLoop world source params answer).log param.rid ∧
      .committed i ∈ (checkLoop world source params answer).log := by
  have written : ∀ (i : Nat) param, params[i]? = some param → ∃ found now,
      checkOne source answer (commitResult world params) (param.check, i) =
        ⟨[.made (questionFor source param) found, .committed i, .write (.outcome param.rid found now)],
          .ok found⟩ := by
    intro i param listed
    obtain ⟨⟨outcome, answered⟩, now, committed⟩ := fits i param listed
    obtain ⟨exc, -, failed⟩ | ⟨outcome', exc, -, -, failed⟩ | ⟨found, now, same, -⟩ :=
      @checkOne_cases world source params param i answer listed
    · rw [answered] at failed
      cases failed
    · rw [committed] at failed
      cases failed
    · exact ⟨found, now, same⟩
  have inside : ∀ event, event ∈ (checkOne source answer (commitResult world params) (param.check, i)).log →
      event ∈ (checkLoop world source params answer).log := by
    intro event happened
    unfold checkLoop
    obtain ⟨-, -, log⟩ | ⟨before, entry, after, failure, split, failed, -, -⟩ :=
      @Logged.forEach_split _ _ _ _ (checkOne source answer (commitResult world params))
        (params.map CheckParam.check).zipIdx
    · rw [log]
      exact List.mem_flatMap.mpr ⟨_, mem_checks listed, happened⟩
    · have member : entry ∈ (params.map CheckParam.check).zipIdx :=
        split ▸ List.mem_append_right before List.mem_cons_self
      obtain ⟨other, found, same⟩ := checks_mem member
      obtain ⟨outcome, now, returned⟩ := written entry.2 other found
      rw [same, returned] at failed
      cases failed
  obtain ⟨outcome, now, same⟩ := written i param listed
  rw [same] at inside
  exact ⟨⟨.outcome param.rid outcome now, inside _ (by simp), rfl⟩, inside _ (by simp)⟩

/-- Otherwise the row of the first check that raises, or whose write does, stays unwritten. -/
theorem checkLoop_missing (distinct : (params.map CheckParam.rid).Nodup)
    (broken : ¬ Plan.Fits world params none (.check answer)) :
    ∃ i param, params[i]? = some param ∧ ¬ Writes (checkLoop world source params answer).log param.rid ∧
      (∃ exc, (checkLoop world source params answer).result = .error (.exception exc)) ∧
      ((∃ outcome, answer i param.dstAddress param.port = .ok outcome) →
        .committed i ∈ (checkLoop world source params answer).log) := by
  unfold checkLoop
  obtain ⟨-, succeed, -⟩ | ⟨before, entry, after, failure, split, failed, result, log⟩ :=
    @Logged.forEach_split _ _ _ _ (checkOne source answer (commitResult world params))
      (params.map CheckParam.check).zipIdx
  · refine absurd (fun i param listed => ?_) broken
    obtain ⟨value, returned⟩ := Logged.succeeds_iff.mp (succeed _ (mem_checks listed))
    obtain ⟨exc, same, -⟩ | ⟨outcome, exc, same, -⟩ | ⟨outcome, now, -, answered, committed⟩ :=
      @checkOne_cases world source params param i answer listed
    · rw [same] at returned
      cases returned
    · rw [same] at returned
      cases returned
    · exact ⟨⟨outcome, answered⟩, now, committed⟩
  · have member : entry ∈ (params.map CheckParam.check).zipIdx :=
      split ▸ List.mem_append_right before List.mem_cons_self
    obtain ⟨param, listed, same⟩ := checks_mem member
    have own : (¬ ∃ change, .write change ∈ (checkOne source answer (commitResult world params) entry).log) ∧
        (∃ exc, failure = .exception exc) ∧ ((∃ outcome, answer entry.2 param.dstAddress param.port = .ok outcome) →
          .committed entry.2 ∈ (checkOne source answer (commitResult world params) entry).log) := by
      obtain ⟨exc, shape, unanswered⟩ | ⟨outcome, exc, shape, -⟩ | ⟨outcome, now, shape, -⟩ :=
        @checkOne_cases world source params param entry.2 answer listed
      · rw [same, shape] at failed ⊢
        cases failed
        refine ⟨by simp, ⟨exc, rfl⟩, ?_⟩
        rintro ⟨outcome, answered⟩
        rw [unanswered] at answered
        cases answered
      · rw [same, shape] at failed ⊢
        cases failed
        exact ⟨by simp, ⟨exc, rfl⟩, fun _ => by simp⟩
      · rw [same, shape] at failed
        cases failed
    obtain ⟨silent, ⟨exc, rfl⟩, seen⟩ := own
    refine ⟨entry.2, param, listed, ?_, ⟨exc, result⟩, fun answered => ?_⟩
    · rintro ⟨change, happened, rid⟩
      rw [log] at happened
      rcases List.mem_append.mp happened with earlier | last
      · obtain ⟨first, firstListed, inside⟩ := List.mem_flatMap.mp earlier
        have smaller : first.2 < entry.2 := zipIdx_earlier split firstListed
        have firstMember : first ∈ (params.map CheckParam.check).zipIdx := split ▸ List.mem_append_left _ firstListed
        obtain ⟨other, found, firstSame⟩ := checks_mem firstMember
        have written : change.rid = other.rid := by
          rw [firstSame] at inside
          obtain ⟨_, shape, -⟩ | ⟨_, _, shape, -⟩ | ⟨outcome, now, shape, -⟩ :=
            @checkOne_cases world source params other first.2 answer found
          · rw [shape] at inside
            cases inside
          · rw [shape] at inside
            simp at inside
          · rw [shape] at inside
            have which : change = .outcome other.rid outcome now := by simpa using inside
            rw [which]
            rfl
        have rids : ∀ (i : Nat) (found : CheckParam), params[i]? = some found →
            (params.map CheckParam.rid)[i]? = some found.rid := by
          intro i found there
          rw [List.getElem?_map, there]
          rfl
        have equal : first.2 = entry.2 := by
          refine (List.getElem?_inj ?_ distinct).mp ?_
          · rw [List.length_map]
            exact (List.getElem?_eq_some_iff.mp found).1
          · rw [rids _ _ found, rids _ _ listed, ← written, rid]
        omega
      · exact silent ⟨change, last⟩
    · rw [log]
      exact List.mem_append_right _ (seen answered)

end Checks

/-! The groups. -/

section Groups

variable {world : GroupWorld} {source : Source} {params : List CheckParam} {param : CheckParam}
  {answer : Nat → String → Int → Except Exc Outcome} {attempt : Checking (List Outcome)} {error : String}
  {event : Event}

theorem settle_error {raised : Raised} (failed : attempt.result = .error raised) :
    (settle world params attempt).log = attempt.log := by
  unfold settle
  rw [Logged.bind_of_error failed]

theorem settle_ok {raw : List Outcome} (returned : attempt.result = .ok raw) :
    (settle world params attempt).log = attempt.log ++
      (Logged.forEach (catchUpOne world (attempt.log.filterMap committedIndex)) (params.zip raw).zipIdx).log := by
  unfold settle
  rw [Logged.bind_of_ok returned]
  dsimp only
  rw [Logged.bind_pure_log]

theorem committed_mem {log : List Event} {i : Nat} :
    i ∈ log.filterMap committedIndex ↔ .committed i ∈ log := by
  rw [List.mem_filterMap]
  constructor
  · rintro ⟨event, listed, same⟩
    cases event with
    | committed index =>
        cases same
        exact listed
    | made question outcome => cases same
    | refused source error => cases same
    | write change => cases same
    | hostDeleted id => cases same
  · exact fun listed => ⟨.committed i, listed, rfl⟩

theorem catchUp_write {committed : List Nat} {raw : List Outcome} {change : RowWrite}
    (happened : .write change ∈ (Logged.forEach (catchUpOne world committed) (params.zip raw).zipIdx).log) :
    ∃ i param outcome, params[i]? = some param ∧ i ∉ committed ∧
      change = .outcome param.rid outcome world.catchUpNow := by
  obtain ⟨entry, listed, inside, -⟩ := Logged.mem_forEach_log happened
  have there := mem_zipIdx.mp listed
  obtain ⟨found, -⟩ := List.getElem?_zip_eq_some.mp there
  unfold catchUpOne at inside
  split at inside
  · cases inside
  · next unseen =>
      split at inside
      · cases inside
      · cases List.mem_singleton.mp inside
        exact ⟨entry.2, entry.1.1, entry.1.2, found, unseen, rfl⟩

/-- The loop of the checks, whatever becomes of its result; only one whose checks all have an
outcome is caught. -/
theorem settle_checked (distinct : (params.map CheckParam.rid).Nodup)
    (loop : attempt.log = (checkLoop world source params answer).log)
    (ends : ∀ exc, (checkLoop world source params answer).result = .error (.exception exc) →
      (∃ raised, attempt.result = .error raised) ∨
        ∀ (i : Nat) param, params[i]? = some param → ∃ outcome, answer i param.dstAddress param.port = .ok outcome) :
    Verdict (settle world params attempt).log source params (Plan.Fits world params none (.check answer)) where
  answered fits param member := by
    obtain ⟨i, listed⟩ := List.mem_iff_getElem?.mp member
    have keeps : ∀ event, event ∈ attempt.log → event ∈ (settle world params attempt).log := by
      intro event happened
      cases result : attempt.result with
      | error raised => rwa [settle_error result]
      | ok raw =>
          rw [settle_ok result]
          exact List.mem_append_left _ happened
    have only : ∀ change, .write change ∈ (settle world params attempt).log → .write change ∈ attempt.log := by
      intro change happened
      cases result : attempt.result with
      | error raised => rwa [settle_error result] at happened
      | ok raw =>
          rw [settle_ok result] at happened
          rcases List.mem_append.mp happened with first | later
          · exact first
          · obtain ⟨j, other, outcome, found, unseen, -⟩ := catchUp_write later
            refine absurd (committed_mem.mpr ?_) unseen
            rw [loop]
            exact (checkLoop_all fits found).2
    have all : Writes (checkLoop world source params answer).log param.rid ∧
        .committed i ∈ (checkLoop world source params answer).log := checkLoop_all fits listed
    obtain ⟨⟨change, written, rid⟩, -⟩ := all
    rw [← loop] at written
    refine ⟨⟨change, keeps _ written, rid⟩, fun outcome =>
      .made (questionFor source param) outcome ∈ (settle world params attempt).log, fun outcome made => .inl made, ?_⟩
    intro other happened same
    have before := only other happened
    rw [loop] at before
    obtain ⟨origin, originMember, found, now, rfl, made⟩ := checkLoop_write before
    have isParam : origin = param := List.inj_on_of_nodup_map distinct originMember member same
    rw [isParam, ← loop] at made
    exact keeps _ made
  unwritten broken := by
    obtain ⟨i, param, listed, missing, ⟨exc, failed⟩, seen⟩ :=
      @checkLoop_missing world source params answer distinct broken
    refine ⟨param, List.mem_of_getElem? listed, ?_⟩
    rintro ⟨change, happened, rid⟩
    have first : ∀ change, .write change ∈ attempt.log → change.rid ≠ param.rid := by
      intro change written same
      rw [loop] at written
      exact missing ⟨change, written, same⟩
    cases result : attempt.result with
    | error raised =>
        rw [settle_error result] at happened
        exact first change happened rid
    | ok raw =>
        rw [settle_ok result] at happened
        rcases List.mem_append.mp happened with before | later
        · exact first change before rid
        · obtain ⟨j, other, outcome, found, unseen, rfl⟩ := catchUp_write later
          rcases ends exc failed with ⟨raised, erred⟩ | complete
          · rw [result] at erred
            cases erred
          · have same : other = param :=
              List.inj_on_of_nodup_map distinct (List.mem_of_getElem? found) (List.mem_of_getElem? listed) rid
            have bound : j < (params.map CheckParam.rid).length := by
              rw [List.length_map]
              exact (List.getElem?_eq_some_iff.mp found).1
            have equal : j = i := by
              refine (List.getElem?_inj bound distinct).mp ?_
              rw [List.getElem?_map, List.getElem?_map, found, listed, same]
            rw [equal, committed_mem, loop] at unseen
            exact unseen (seen (complete i param listed))

/-- A refusal is written to every row afterwards, unless the release of a tunnel raises. -/
theorem settle_refused {release : Option Exc} (nonempty : params ≠ []) (distinct : (params.map CheckParam.rid).Nodup)
    (refused : attempt.log = [.refused source error])
    (result : attempt.result = match release with
      | none => .ok (List.replicate params.length (.failed error))
      | some exc => .error (.exception exc)) :
    Verdict (settle world params attempt).log source params (Plan.Fits world params release (.refuse error)) := by
  cases release with
  | some exc =>
      have log : (settle world params attempt).log = [.refused source error] := by
        rw [settle_error result, refused]
      refine ⟨fun fits => ?_, fun _ => ?_⟩
      · cases fits.1
      · obtain ⟨param, rest, rfl⟩ := List.exists_cons_of_ne_nil nonempty
        refine ⟨param, List.mem_cons_self, ?_⟩
        rintro ⟨change, happened, -⟩
        rw [log] at happened
        simp at happened
  | none =>
      let written : List (CheckParam × Outcome) := params.zip (List.replicate params.length (.failed error))
      let change : CheckParam × Outcome → RowWrite := fun item => .outcome item.1.rid item.2 world.catchUpNow
      have firsts : written.map Prod.fst = params := List.map_fst_zip (by simp)
      have size : written.length = params.length := by
        have sizes := congrArg List.length firsts
        rwa [List.length_map] at sizes
      have fixed : ∀ item ∈ written, item.2 = .failed error := by
        intro item member
        exact List.eq_of_mem_replicate (List.of_mem_zip member).2
      have same : catchUpOne world [] = writeOne world.catchUp change := by
        funext item
        rw [catchUpOne, if_neg List.not_mem_nil]
        rfl
      have log : (settle world params attempt).log = [.refused source error] ++
          (Logged.forEach (writeOne world.catchUp change) written.zipIdx).log := by
        have none : [Event.refused source error].filterMap committedIndex = [] := rfl
        rw [settle_ok result, refused, none, same]
      refine ⟨fun fits param member => ?_, fun broken => ?_⟩
      · have fine : ∀ i < written.length, world.catchUp i = none := by
          rw [size]
          exact fits.2
        rw [← firsts] at member
        obtain ⟨item, listed, rfl⟩ := List.mem_map.mp member
        rw [log]
        refine ⟨⟨change item, List.mem_append_right _ (writes_all fine listed), rfl⟩,
          fun outcome => outcome = .failed error, fun outcome same => ?_, fun other happened _ => ?_⟩
        · exact .inr ⟨error, List.mem_append_left _ List.mem_cons_self, same⟩
        · rcases List.mem_append.mp happened with first | later
          · simp at first
          · obtain ⟨origin, originListed, same⟩ := writes_mem later
            cases same
            exact fixed origin originListed
      · have failing : ¬ ∀ i < written.length, world.catchUp i = none := by
          rw [size]
          exact fun fine => broken ⟨rfl, fine⟩
        have rids : written.map (fun item => (change item).rid) = params.map CheckParam.rid := by
          rw [← firsts, List.map_map]
          rfl
        obtain ⟨item, listed, missing⟩ := writes_missing (rids ▸ distinct) failing
        refine ⟨item.1, firsts ▸ List.mem_map_of_mem listed, ?_⟩
        rintro ⟨other, happened, rid⟩
        rw [log] at happened
        rcases List.mem_append.mp happened with first | later
        · simp at first
        · exact missing ⟨other, later, rid⟩

theorem markAll_verdict {ids : List Int} (distinct : (params.map CheckParam.rid).Nodup)
    (rows : params.map CheckParam.rid = ids) :
    Verdict (markAll world source ids error).log source params (MarksFit world params) := by
  let change : Int → RowWrite := fun rid => .mark rid error world.markNow
  have same : markOne world error = writeOne world.mark change := rfl
  have size : ids.length = params.length := by rw [← rows, List.length_map]
  have log : (markAll world source ids error).log = [.refused source error] ++
      (Logged.forEach (writeOne world.mark change) ids.zipIdx).log := by
    have recorded : (Logged.record (.refused source error) : Checking Unit).result = .ok () := rfl
    unfold markAll
    rw [Logged.bind_of_ok recorded, Logged.bind_pure_log, same]
    rfl
  refine ⟨fun fits param member => ?_, fun broken => ?_⟩
  · have fine : ∀ i < ids.length, world.mark i = none := by
      rw [size]
      exact fits
    have listed : param.rid ∈ ids := rows ▸ List.mem_map_of_mem member
    rw [log]
    refine ⟨⟨change param.rid, List.mem_append_right _ (writes_all fine listed), rfl⟩,
      fun outcome => outcome = .failed error, fun outcome same => ?_, fun other happened _ => ?_⟩
    · exact .inr ⟨error, List.mem_append_left _ List.mem_cons_self, same⟩
    · rcases List.mem_append.mp happened with first | later
      · simp at first
      · obtain ⟨rid, -, same⟩ := writes_mem later
        cases same
        refine ⟨rfl, fun outcome failed => ?_⟩
        rw [failed]
        rfl
  · have failing : ¬ ∀ i < ids.length, world.mark i = none := by
      rw [size]
      exact broken
    have rids : (ids.map fun rid => (change rid).rid).Nodup := by
      have plain : (ids.map fun rid => (change rid).rid) = ids := List.map_id ids
      rw [plain, ← rows]
      exact distinct
    obtain ⟨rid, listed, missing⟩ := writes_missing rids failing
    rw [← rows] at listed
    obtain ⟨param, member, rfl⟩ := List.mem_map.mp listed
    refine ⟨param, member, ?_⟩
    rintro ⟨other, happened, same⟩
    rw [log] at happened
    rcases List.mem_append.mp happened with first | later
    · simp at first
    · exact missing ⟨other, later, same⟩

theorem releasing_log {release : Option Exc} : (releasing release attempt).log = attempt.log := by
  cases release <;> rfl

theorem plan_verdict (release : Option Exc) (plan : Plan) (nonempty : params ≠ [])
    (distinct : (params.map CheckParam.rid).Nodup) :
    Verdict (settle world params (releasing release
      (plan.run source (params.map CheckParam.check) (commitResult world params)))).log source params
      (plan.Fits world params release) := by
  cases plan with
  | refuse error =>
      refine settle_refused nonempty distinct ?_ ?_
      · rw [releasing_log]
        rfl
      · cases release with
        | some exc => rfl
        | none =>
            have size : (params.map CheckParam.check).length = params.length := List.length_map _
            exact congrArg (fun count => Except.ok (List.replicate count (Outcome.failed error))) size
  | check answer =>
      refine settle_checked distinct releasing_log fun exc failed => .inl ?_
      cases release with
      | some other => exact ⟨.exception other, rfl⟩
      | none => exact ⟨.exception exc, failed⟩

theorem localGroup_verdict (nonempty : params ≠ []) (distinct : (params.map CheckParam.rid).Nodup) :
    Verdict (localGroup world source params).log source params ((localPlan world).Fits world params none) :=
  plan_verdict none (localPlan world) nonempty distinct

theorem sshGroupCheck_verdict {jumpHops : List HopCreds} {target : HopCreds} (nonempty : params ≠ [])
    (distinct : (params.map CheckParam.rid).Nodup) :
    Verdict (settle world params (sshGroupCheck world source jumpHops target (params.map CheckParam.check)
      (commitResult world params))).log source params ((sshPlan world jumpHops target).Fits world params none) := by
  unfold sshGroupCheck sshPlan
  cases connected : connectTracked world.connect none jumpHops target with
  | some error =>
      dsimp only
      rw [Logged.handle_of_ok rfl]
      exact plan_verdict none (.refuse error) nonempty distinct
  | none =>
      refine settle_checked distinct ?_ fun exc failed => .inr fun i param _ => ⟨_, rfl⟩
      dsimp only [Plan.run]
      cases result : (checkLoop world source params fun i dstAddress port =>
          .ok (sshOutcome dstAddress port (world.ssh i))).result with
      | ok outcomes => exact congrArg Logged.log (Logged.handle_of_ok result)
      | error raised =>
          cases raised with
          | exception exc =>
              refine (congrArg Logged.log (Logged.handle_of_some result rfl)).trans ?_
              exact List.append_nil _
          | endless => exact congrArg Logged.log (Logged.handle_of_none result rfl)

theorem checkSource_verdict {results : Table NetworkScanResult} {id : Int} {ids : List Int} (nonempty : ids ≠ [])
    (distinct : ids.Nodup) (rows : (checkParams results ids).map CheckParam.rid = ids)
    (ends : (checkSource world results id ids).result ≠ .error .endless) :
    Verdict (checkSource world results id ids).log (.host id) (checkParams results ids)
      (SourceFits world (checkParams results ids) id) := by
  have rids : ((checkParams results ids).map CheckParam.rid).Nodup := rows.symm ▸ distinct
  have nonemptyParams : checkParams results ids ≠ [] := by
    intro empty
    rw [empty] at rows
    exact nonempty rows.symm
  unfold checkSource at ends ⊢
  unfold SourceFits
  cases found : world.jumps.db.hosts.get id with
  | none => exact markAll_verdict rids rows
  | some host =>
      rw [found] at ends
      dsimp only at ends ⊢
      by_cases inProcess : world.isLocal = true
      · rw [if_pos inProcess, if_pos inProcess]
        exact localGroup_verdict nonemptyParams rids
      · rw [if_neg inProcess] at ends
        rw [if_neg inProcess, if_neg inProcess]
        cases chained : buildJumpChain world.decode world.jumps host with
        | error reason =>
            cases reason with
            | endless =>
                rw [chained] at ends
                exact absurd rfl ends
            | dynamicCredential message => exact markAll_verdict rids rows
            | runtime message => exact markAll_verdict rids rows
        | ok chain =>
            obtain ⟨jumpHops, target⟩ := chain
            dsimp only
            by_cases windows : host.protocol = .rdp
            · rw [if_pos windows, if_pos windows]
              exact plan_verdict _ (windowsPlan world jumpHops target).1 nonemptyParams rids
            · rw [if_neg windows, if_neg windows]
              exact sshGroupCheck_verdict nonemptyParams rids

end Groups

/-! A group tells of its own source and writes its own rows. -/

section Belonging

variable {world : GroupWorld} {source : Source} {params : List CheckParam} {ids : List Int} {error : String}

def Belongs (source : Source) (ids : List Int) : Event → Prop
  | .made question _ => question.source = source
  | .refused other _ => other = source
  | .committed _ => True
  | .write change => change.rid ∈ ids
  | .hostDeleted _ => False

theorem commitResult_belongs (rows : ∀ param ∈ params, param.rid ∈ ids) (i : Nat) (outcome : Outcome) :
    Logged.Only (Belongs source ids) (commitResult world params i outcome) := by
  refine Logged.Only.bind (Logged.only_record.mpr trivial) fun _ _ => ?_
  split
  · exact Logged.only_raise
  next param listed =>
    refine Logged.Only.bind Logged.only_call fun now _ => ?_
    exact Logged.only_record.mpr (rows param (List.mem_of_getElem? listed))

theorem plan_belongs (plan : Plan) (rows : ∀ param ∈ params, param.rid ∈ ids) (checks : List (String × Int)) :
    Logged.Only (Belongs source ids) (plan.run source checks (commitResult world params)) := by
  cases plan with
  | refuse error => exact Logged.Only.bind (Logged.only_record.mpr rfl) fun _ _ => Logged.only_pure
  | check answer =>
      refine Logged.Only.forEach fun item _ => ?_
      refine Logged.Only.bind Logged.only_call fun outcome _ => ?_
      refine Logged.Only.bind (Logged.only_record.mpr rfl) fun _ _ => ?_
      exact Logged.Only.bind (commitResult_belongs rows item.2 outcome) fun _ _ => Logged.only_pure

theorem settle_belongs {attempt : Checking (List Outcome)} (rows : ∀ param ∈ params, param.rid ∈ ids)
    (before : Logged.Only (Belongs source ids) attempt) :
    Logged.Only (Belongs source ids) (settle world params attempt) := by
  refine Logged.Only.bind before fun raw _ => ?_
  refine Logged.Only.bind (Logged.Only.forEach fun item listed => ?_) fun _ _ => Logged.only_pure
  have found := (List.getElem?_zip_eq_some.mp (mem_zipIdx.mp listed)).1
  unfold catchUpOne
  split
  · exact Logged.only_pure
  split
  · exact Logged.only_raise
  · exact Logged.only_record.mpr (rows item.1.1 (List.mem_of_getElem? found))

theorem releasing_belongs {release : Option Exc} {attempt : Checking (List Outcome)}
    (before : Logged.Only (Belongs source ids) attempt) :
    Logged.Only (Belongs source ids) (releasing release attempt) := by
  intro event happened
  rw [releasing_log] at happened
  exact before event happened

theorem markAll_belongs : Logged.Only (Belongs source ids) (markAll world source ids error) := by
  refine Logged.Only.bind (Logged.only_record.mpr rfl) fun _ _ => ?_
  refine Logged.Only.bind (Logged.Only.forEach fun item listed => ?_) fun _ _ => Logged.only_pure
  unfold markOne
  split
  · exact Logged.only_raise
  · exact Logged.only_record.mpr (List.mem_of_getElem? (mem_zipIdx.mp listed))

theorem checkSource_belongs {results : Table NetworkScanResult} {id : Int}
    (rows : ∀ param ∈ checkParams results ids, param.rid ∈ ids) :
    Logged.Only (Belongs (.host id) ids) (checkSource world results id ids) := by
  unfold checkSource
  dsimp only
  split
  · exact markAll_belongs
  split
  · exact settle_belongs rows (plan_belongs (localPlan world) rows _)
  split
  · exact Logged.only_raise
  · exact markAll_belongs
  next jumpHops target _ =>
    refine settle_belongs rows ?_
    split
    · exact releasing_belongs (plan_belongs (windowsPlan world jumpHops target).1 rows _)
    · refine Logged.Only.handle (plan_belongs (sshPlan world jumpHops target) rows _) ?_
      intro raised recovery _ handled
      cases raised with
      | exception exc =>
          cases handled
          exact Logged.only_pure
      | endless => cases handled

end Belonging

end Dosm.Network
