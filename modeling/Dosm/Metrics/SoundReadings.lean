import Mathlib.Data.List.Infix
import Dosm.Metrics.Snapshot
import Dosm.Python.Slices

namespace Dosm.Metrics

open Python Binary64
open Ftp (Digits maxDigits)
open Network (words)

/-! Which readings give a sound snapshot.

Every percentage is within its bounds whatever the host prints, and whatever was read
before. What is left are the conversions that nothing guards, and the rows of disks that
begin a block of their own.
-/

/-- A row of `df -B1 -PT`, with the blanks between its columns. -/
structure DfRow where
  device : String
  fstype : String
  size : Nat
  used : Nat
  available : Nat
  capacity : Nat
  mount : String
  gap : Nat → Nat
  named : device ≠ "" ∧ ∀ char ∈ device.toList, isSpace char = false
  typed : fstype ≠ "" ∧ ∀ char ∈ fstype.toList, isSpace char = false
  mounted : mount.toList.head? = some '/'

namespace DfRow

def blanks (row : DfRow) (column : Nat) : List Char := List.replicate (row.gap column + 1) ' '

def columns (row : DfRow) : List (List Char) :=
  [row.device.toList, row.fstype.toList, (toString row.size).toList, (toString row.used).toList,
    (toString row.available).toList, (toString row.capacity).toList ++ ['%']]

def text (row : DfRow) : String :=
  String.ofList (row.columns.zipIdx.foldr (fun column rest => column.1 ++ row.blanks column.2 ++ rest) row.mount.toList)

/-- The rows that the panel shows: not the empty ones, and none of the pseudo file systems. -/
def Shown (row : DfRow) : Prop := row.size ≠ 0 ∧ row.fstype ∉ excludedFilesystems

instance (row : DfRow) : Decidable row.Shown := inferInstanceAs (Decidable (row.size ≠ 0 ∧ row.fstype ∉ excludedFilesystems))

def entry (row : DfRow) : DiskRow :=
  ⟨row.device, row.fstype, row.size, row.used, .ofRat row.capacity, row.mount⟩

/-- Its numbers have no more digits than an integer is read from. -/
def Short (row : DfRow) : Prop := (toString row.size).length ≤ maxDigits ∧ (toString row.used).length ≤ maxDigits

instance (row : DfRow) : Decidable row.Short :=
  inferInstanceAs (Decidable ((toString row.size).length ≤ maxDigits ∧ (toString row.used).length ≤ maxDigits))

end DfRow

/-- The rows stand between their header and the end, and no other block of disks follows. -/
def DfBlock (stdout : String) (rows : List DfRow) : Prop :=
  ∃ before after, splitLines stdout = before ++ "=disk" :: rows.map DfRow.text ++ "=end" :: after ∧
    ∀ line ∈ after, headerOf line ≠ some "disk"

def Percentage (value : Double) : Prop := ∃ number : Finite, value = .finite number ∧ 0 ≤ number.value ∧ number.value ≤ 100

/-- The bounds hold, every number is finite, and the rows of disks are there, each once and in their order. -/
structure SoundSnapshot (stdout : String) (snapshot : Snapshot) : Prop where
  cpu : Percentage snapshot.cpuPercent
  memory : Percentage snapshot.memoryPercent
  load : ∀ load, snapshot.loadAvg1m = some load → load.isFinite = true
  percents : ∀ disk ∈ snapshot.disks, disk.percent.isFinite = true
  rows : ∀ rows, DfBlock stdout rows → disksOf ((rows.filter DfRow.Shown).map DfRow.entry) = .ok snapshot.disks

section Percentages

variable {value : Double} {number : Finite}

theorem percentage_roundTo (percentage : Percentage value) : Percentage (value.roundTo 1) := by
  obtain ⟨number, rfl, lower, upper⟩ := percentage
  refine ⟨number.roundTo 1, rfl, ?_, ?_⟩
  · exact_mod_cast @Finite.le_roundTo 1 0 number (by decide) (by exact_mod_cast lower)
  · exact_mod_cast @Finite.roundTo_le 1 100 number (by decide) (by exact_mod_cast upper)

theorem ofRat_finite {value : ℚ} (bounded : |value| ≤ largest) :
    ∃ number : Finite, Double.ofRat value = .finite number ∧ number.value = nearest value := by
  obtain ⟨number, rounded, same⟩ := toFinite_of_le bounded
  exact ⟨number, by rw [Double.ofRat, rounded], same⟩

theorem hundred_le_largest : (100 : ℚ) ≤ largest := by
  have bound := @intCast_le_largest 100 (by decide)
  rw [abs_of_nonneg (by decide)] at bound
  exact_mod_cast bound

theorem percentage_clamped : Percentage (Double.max (.finite zero) (Double.min (.finite hundred) value)) := by
  have bounds : zero.value = 0 ∧ hundred.value = 100 := ⟨Int.cast_zero, by rw [hundred, Finite.ofInt]; norm_num⟩
  unfold Double.max Double.min
  cases value with
  | nan =>
      refine ⟨hundred, ?_, by rw [bounds.2]; norm_num, bounds.2.le⟩
      simp [Double.less, bounds]
  | infinite negative =>
      cases negative with
      | false =>
          refine ⟨hundred, ?_, by rw [bounds.2]; norm_num, bounds.2.le⟩
          simp [Double.less, bounds]
      | true =>
          refine ⟨zero, ?_, bounds.1.ge, by rw [bounds.1]; norm_num⟩
          simp [Double.less]
  | finite number =>
      by_cases above : number.value < 100
      · by_cases positive : 0 < number.value
        · refine ⟨number, ?_, positive.le, above.le⟩
          simp [Double.less, bounds, above, positive]
        · refine ⟨zero, ?_, bounds.1.ge, by rw [bounds.1]; norm_num⟩
          simp [Double.less, bounds, above, positive]
      · refine ⟨hundred, ?_, by rw [bounds.2]; norm_num, bounds.2.le⟩
        simp [Double.less, bounds, above]

/-- The quotient is no larger than the largest float. -/
def Fits (dividend divisor : Int) : Prop := |nearest ((dividend : ℚ) / divisor)| ≤ largest

instance (dividend divisor : Int) : Decidable (Fits dividend divisor) :=
  inferInstanceAs (Decidable (|nearest ((dividend : ℚ) / divisor)| ≤ largest))

theorem trueDiv_ok {dividend divisor : Int} : (∃ quotient, trueDiv dividend divisor = .ok quotient) ↔ Fits dividend divisor := by
  unfold trueDiv toFinite Fits
  split
  next found =>
    split at found
    next fits => exact iff_of_true ⟨_, rfl⟩ fits
    next => cases found
  next found =>
    split at found
    next => cases found
    next fits =>
      refine iff_of_false ?_ fits
      rintro ⟨quotient, divided⟩
      cases divided

theorem map_ok {Failure : Type} {First Second : Type} {check : Except Failure First} {next : First → Second} :
    (∃ result, check.map next = .ok result) ↔ ∃ first, check = .ok first := by
  cases check <;> simp [Except.map]

theorem toGb_ok {bytes : Int} : (∃ gb, toGb bytes = .ok gb) ↔ Fits bytes (1024 ^ 3) := by
  rw [toGb, map_ok, trueDiv_ok]

theorem fits_of_le {smaller larger : Nat} {divisor : Int} (positive : 0 < divisor) (ordered : smaller ≤ larger)
    (fits : Fits larger divisor) : Fits smaller divisor := by
  have place : (0 : ℚ) < divisor := Int.cast_pos.mpr positive
  have lower : (0 : ℚ) ≤ ((smaller : Int) : ℚ) / divisor := div_nonneg (by exact_mod_cast Nat.zero_le smaller) place.le
  have upper : ((smaller : Int) : ℚ) / divisor ≤ ((larger : Int) : ℚ) / divisor :=
    div_le_div_of_nonneg_right (by exact_mod_cast ordered) place.le
  unfold Fits at fits ⊢
  rw [abs_of_nonneg (nearest_nonneg lower)]
  exact (nearest_mono upper).trans ((le_abs_self _).trans fits)

theorem memPercent_ok (total available : Nat) : ∃ value, memPercent total available = .ok value ∧ Percentage value := by
  unfold memPercent
  split
  next => exact ⟨_, rfl, percentage_roundTo ⟨zero, rfl, Int.cast_zero.ge, by rw [zero, Finite.ofInt]; norm_num⟩⟩
  next nonzero =>
    have place : (0 : ℚ) < ((total : Int) : ℚ) := by exact_mod_cast Nat.pos_of_ne_zero nonzero
    have lower : 0 ≤ (((total - available : Nat) : Int) : ℚ) / (total : Int) :=
      div_nonneg (by exact_mod_cast Nat.zero_le _) place.le
    have upper : (((total - available : Nat) : Int) : ℚ) / (total : Int) ≤ (1 : Int) := by
      rw [div_le_iff₀ place, Int.cast_one, one_mul]
      exact_mod_cast Nat.sub_le total available
    have within : |(((total - available : Nat) : Int) : ℚ) / (total : Int)| ≤ largest := by
      rw [abs_of_nonneg lower]
      have bound := @intCast_le_largest 1 (by decide)
      rw [abs_of_nonneg (by decide)] at bound
      exact upper.trans bound
    obtain ⟨part, rounded, same⟩ := toFinite_of_le within
    have partLower : 0 ≤ part.value := same ▸ nearest_nonneg lower
    have partUpper : part.value ≤ 1 := by
      have mono := nearest_mono upper
      rw [nearest_intCast (by decide), Int.cast_one] at mono
      exact same ▸ mono
    have factor : hundred.value = 100 := by rw [hundred, Finite.ofInt]; norm_num
    have product : 0 ≤ part.value * hundred.value ∧ part.value * hundred.value ≤ (100 : Int) := by
      rw [factor]
      constructor
      · positivity
      · push_cast
        linarith
    obtain ⟨scaled, multiplied, scaledSame⟩ := @ofRat_finite (part.value * hundred.value) (by
      rw [abs_of_nonneg product.1]
      exact product.2.trans (by exact_mod_cast hundred_le_largest))
    refine ⟨_, by rw [trueDiv, rounded]; rfl, percentage_roundTo ⟨scaled, multiplied, ?_, ?_⟩⟩
    · rw [scaledSame]
      exact nearest_nonneg product.1
    · have mono := nearest_mono product.2
      rw [nearest_intCast (by decide)] at mono
      rw [scaledSame]
      exact_mod_cast mono

theorem cpuPercent_percentage {prev cur : Option CPUSample} (computed : cpuPercent prev cur = .ok value) : Percentage value := by
  have none : Percentage (.finite zero) := ⟨zero, rfl, Int.cast_zero.ge, by rw [zero, Finite.ofInt]; norm_num⟩
  unfold cpuPercent at computed
  split at computed
  next prev cur =>
    dsimp only at computed
    split at computed
    next =>
      cases divided : trueDiv (cur.idle - prev.idle) (cur.total - prev.total) with
      | error => rw [divided] at computed; cases computed
      | ok quotient =>
          rw [divided] at computed
          cases computed
          exact percentage_roundTo percentage_clamped
    next =>
      cases computed
      exact none
  next =>
    cases computed
    exact none

theorem cpuPercent_ok {prev : Option CPUSample} {cur : CPUSample} : (∃ value, cpuPercent prev (some cur) = .ok value) ↔
    ∀ before, prev = some before → before.total < cur.total → Fits (cur.idle - before.idle) (cur.total - before.total) := by
  cases prev with
  | none => simp [cpuPercent]
  | some before =>
      rw [cpuPercent]
      split
      next counted =>
        rw [map_ok, trueDiv_ok]
        constructor
        · rintro fits _ ⟨⟩ -
          exact fits
        · exact fun fits => fits before rfl (by omega)
      next still =>
        refine iff_of_true ⟨_, rfl⟩ ?_
        rintro _ ⟨⟩ counted
        omega

theorem cpuPercent_missing {prev : Option CPUSample} : cpuPercent prev none = .ok (.finite zero) := by
  cases prev <;> rfl

end Percentages

section Conversions

variable {digits : Digits} {lines : List String}

theorem valueFrom_isSome {number : Nat} {chars : List Char} (decimal : ∀ char ∈ chars, (digits.decimal char).isSome = true) :
    (digits.valueFrom number chars).isSome = true := by
  induction chars generalizing number with
  | nil => rfl
  | cons char rest ih =>
      obtain ⟨digit, found⟩ := Option.isSome_iff_exists.mp (decimal char List.mem_cons_self)
      rw [Digits.valueFrom, found, Option.bind_some]
      exact ih fun other member => decimal other (List.mem_cons_of_mem _ member)

theorem memLine_decimal {line : String} {found : MemLine} (read : memLine digits line = some found) :
    ∀ char ∈ found.number, (digits.decimal char).isSome = true := by
  unfold memLine at read
  dsimp only at read
  split at read
  · cases read
    intro char member
    dsimp only at member
    have kept := List.mem_takeWhile_imp member
    exact kept
  · cases read

theorem memFields_ok {fields : String → Option Nat} : (∃ read, memFields digits fields lines = .ok read) ↔
    ∀ line ∈ lines, ∀ found, memLine digits line = some found → found.number.length ≤ maxDigits := by
  induction lines generalizing fields with
  | nil => simp [memFields]
  | cons line rest ih =>
      rw [memFields, List.forall_mem_cons]
      cases read : memLine digits line with
      | none => simp [ih]
      | some found =>
          have whole := @valueFrom_isSome digits 0 found.number (memLine_decimal read)
          obtain ⟨value, same⟩ := Option.isSome_iff_exists.mp whole
          by_cases short : found.number.length ≤ maxDigits
          · have int : digits.int found.number = some value := by rw [Digits.int, if_neg (by omega), same]
            simp [int, ih, short]
          · have int : digits.int found.number = none := by rw [Digits.int, if_pos (by omega)]
            simp [int, short]

theorem parseMeminfo_ok : (∃ read, parseMeminfo digits lines = .ok read) ↔
    ∀ line ∈ lines, ∀ found, memLine digits line = some found → found.number.length ≤ maxDigits := by
  rw [← @memFields_ok digits lines fun _ => none, parseMeminfo]
  cases memFields digits (fun _ => none) lines <;> simp [bind, Except.bind, pure, Except.pure]

/-- The bytes that a line of memory shows; kilobytes are meant unless it says otherwise. -/
def MemLine.bytes (digits : Digits) (line : MemLine) : Option Nat :=
  (digits.int line.number).map (· * if lower (line.unit.getD "kB") = "kb" then 1024 else 1)

def lastNamed (digits : Digits) (lines : List String) (name : String) : Option MemLine :=
  ((lines.filterMap (memLine digits)).filter (·.name = name)).getLast?

theorem memFields_last {fields read : String → Option Nat} {name : String} (passed : memFields digits fields lines = .ok read) :
    read name = match lastNamed digits lines name with
      | none => fields name
      | some line => line.bytes digits := by
  induction lines generalizing fields with
  | nil =>
      cases passed
      rfl
  | cons line rest ih =>
      rw [memFields] at passed
      unfold lastNamed at ih ⊢
      rw [List.filterMap_cons]
      cases shown : memLine digits line with
      | none =>
          rw [shown] at passed
          exact ih passed
      | some found =>
          rw [shown] at passed
          dsimp only at passed ⊢
          cases int : digits.int found.number with
          | none => rw [int] at passed; cases passed
          | some value =>
              rw [int] at passed
              rw [ih passed]
              by_cases named : found.name = name
              · rw [List.filter_cons, if_pos (decide_eq_true named), List.getLast?_cons]
                cases ((rest.filterMap (memLine digits)).filter (·.name = name)).getLast? with
                | none =>
                    dsimp only
                    rw [← named, Function.update_self, Option.getD_none, MemLine.bytes, int]
                    rfl
                | some later => rfl
              · rw [List.filter_cons, decide_eq_false named, if_neg Bool.false_ne_true]
                cases ((rest.filterMap (memLine digits)).filter (·.name = name)).getLast? with
                | none => exact Function.update_of_ne (Ne.symm named) _ _
                | some later => rfl

def totalShown (digits : Digits) (lines : List String) : Nat :=
  ((lastNamed digits lines "MemTotal").bind (MemLine.bytes digits)).getD 0

theorem parseMeminfo_total {total available : Nat} (read : parseMeminfo digits lines = .ok (total, available)) :
    total = totalShown digits lines := by
  obtain ⟨fields, passed, made⟩ := Checks.bind_ok read
  cases made
  rw [memFields_last passed, totalShown]
  cases lastNamed digits lines "MemTotal" <;> rfl

theorem intsOf_eq {numbers : List Int} : intsOf digits lines = .ok numbers ↔ lines.map (intOf digits) = numbers.map some := by
  induction lines generalizing numbers with
  | nil => cases numbers <;> simp [intsOf]
  | cons word rest ih =>
      rw [intsOf, List.map_cons]
      cases numbers with
      | nil =>
          cases intOf digits word with
          | none => simp
          | some number => cases intsOf digits rest <;> simp [Except.map]
      | cons first others =>
          rw [List.map_cons, List.cons.injEq, ← ih]
          cases intOf digits word with
          | none => simp
          | some number => cases intsOf digits rest <;> simp [Except.map]

/-- The counters of the processors are integers, and what is divided of them stays finite. -/
def Counters (digits : Digits) (lines : List String) (prev : Option CPUSample) : Prop :=
  ∀ line rest, lines.head? = some line → words line = "cpu" :: rest → 4 ≤ rest.length →
    ∃ numbers : List Int, rest.map (intOf digits) = numbers.map some ∧ ∀ before, prev = some before → before.total < numbers.sum →
      Fits (numbers.getD 3 0 + numbers.getD 4 0 - before.idle) (numbers.sum - before.total)

theorem parseCpuStat_counted {line : String} {rest : List String} (counted : words line = "cpu" :: rest) (enough : 4 ≤ rest.length) :
    parseCpuStat digits line =
      (intsOf digits rest).map fun nums => some { total := nums.sum, idle := nums.getD 3 0 + nums.getD 4 0 } := by
  rw [parseCpuStat, counted]
  exact if_neg (by omega)

theorem parseCpuStat_other {line : String} (other : ¬∃ rest, words line = "cpu" :: rest ∧ 4 ≤ rest.length) :
    parseCpuStat digits line = .ok none := by
  unfold parseCpuStat
  split
  next rest counted => exact if_pos (by by_contra enough; exact other ⟨rest, counted, by omega⟩)
  next => rfl

theorem counters_iff {prev : Option CPUSample} :
    (∃ cur value, cpuSample digits lines = .ok cur ∧ cpuPercent prev cur = .ok value) ↔ Counters digits lines prev := by
  unfold cpuSample Counters
  cases lines.head? with
  | none =>
      refine iff_of_true ⟨none, _, rfl, cpuPercent_missing⟩ ?_
      rintro line rest ⟨⟩
  | some line =>
      by_cases counted : ∃ rest, words line = "cpu" :: rest ∧ 4 ≤ rest.length
      · obtain ⟨rest, counted, enough⟩ := counted
        dsimp only
        rw [parseCpuStat_counted counted enough]
        constructor
        · rintro ⟨cur, value, sampled, divided⟩ _ _ ⟨⟩ again -
          rw [counted, List.cons.injEq] at again
          obtain ⟨-, rfl⟩ := again
          cases read : intsOf digits rest with
          | error => rw [read] at sampled; cases sampled
          | ok numbers =>
              rw [read] at sampled
              cases sampled
              exact ⟨numbers, intsOf_eq.mp read, cpuPercent_ok.mp ⟨value, divided⟩⟩
        · intro fit
          obtain ⟨numbers, read, fits⟩ := fit line rest rfl counted enough
          have busy : ∃ value, cpuPercent prev (some ⟨numbers.sum, numbers.getD 3 0 + numbers.getD 4 0⟩) = .ok value :=
            cpuPercent_ok.mpr fits
          obtain ⟨value, divided⟩ := busy
          exact ⟨_, value, by rw [intsOf_eq.mpr read]; rfl, divided⟩
      · refine iff_of_true ⟨none, _, parseCpuStat_other counted, cpuPercent_missing⟩ ?_
        rintro _ rest ⟨⟩ words enough
        exact absurd ⟨rest, words, enough⟩ counted

theorem uptimeSeconds_ok : (∃ seconds, uptimeSeconds digits lines = .ok seconds) ↔
    ∀ read, (firstWord lines).bind (floatOf digits) = some read → ∀ negative, read ≠ .infinite negative := by
  unfold uptimeSeconds
  cases (firstWord lines).bind (floatOf digits) with
  | none => simp
  | some read => cases read <;> simp [Double.truncate]

theorem disk_ok {row : DiskRow} : (∃ disk, row.disk = .ok disk) ↔ Fits row.total (1024 ^ 3) ∧ Fits row.used (1024 ^ 3) := by
  rw [← toGb_ok, ← toGb_ok, DiskRow.disk]
  cases toGb row.total <;> cases toGb row.used <;> simp [bind, Except.bind, pure, Except.pure]

theorem disk_percent {row : DiskRow} {disk : Disk} (made : row.disk = .ok disk) : disk.percent = row.percent := by
  obtain ⟨total, -, made⟩ := Checks.bind_ok made
  obtain ⟨used, -, made⟩ := Checks.bind_ok made
  cases made
  rfl

theorem disksOf_ok {rows : List DiskRow} : (∃ disks, disksOf rows = .ok disks) ↔
    ∀ row ∈ rows, Fits row.total (1024 ^ 3) ∧ Fits row.used (1024 ^ 3) := by
  induction rows with
  | nil => simp [disksOf]
  | cons row rest ih =>
      rw [disksOf, List.forall_mem_cons, ← ih, ← disk_ok]
      cases row.disk <;> cases disksOf rest <;> simp [bind, Except.bind, pure, Except.pure]

theorem disksOf_percents {rows : List DiskRow} {disks : List Disk} (made : disksOf rows = .ok disks) :
    disks.map Disk.percent = rows.map DiskRow.percent := by
  induction rows generalizing disks with
  | nil =>
      cases made
      rfl
  | cons row rest ih =>
      obtain ⟨disk, first, made⟩ := Checks.bind_ok made
      obtain ⟨later, others, made⟩ := Checks.bind_ok made
      cases made
      rw [List.map_cons, List.map_cons, disk_percent first, ih others]

end Conversions

/-! The rows of a block of disks. -/

section Rows

variable {digits : Digits} {row : DfRow} {rows : List DfRow} {chars rest word : List Char} {count : Nat}

theorem splitMost_blanks {blanks : Nat} : splitMost count (List.replicate blanks ' ' ++ rest) = splitMost count rest := by
  have dropped : (List.replicate blanks ' ' ++ rest).dropWhile isSpace = rest.dropWhile isSpace :=
    List.dropWhile_append_of_pos fun char member => by
      rw [List.eq_of_mem_replicate member]
      rfl
  cases count with
  | zero => rw [splitMost, splitMost, dropped]
  | succ count => rw [splitMost, splitMost, dropped]

theorem splitMost_column {blanks : Nat} (named : word ≠ []) (visible : ∀ char ∈ word, isSpace char = false) :
    splitMost (count + 1) (word ++ (List.replicate (blanks + 1) ' ' ++ rest)) = String.ofList word :: splitMost count rest := by
  have shown : ∀ char ∈ word, (!isSpace char) = true := fun char member => by rw [visible char member]; rfl
  have taken : (word ++ (List.replicate (blanks + 1) ' ' ++ rest)).takeWhile (!isSpace ·) = word := by
    rw [List.takeWhile_append_of_pos shown, List.replicate_succ, List.cons_append,
      @List.takeWhile_cons_of_neg _ (fun char => !isSpace char) ' ' _ (by decide), List.append_nil]
  have left : (word ++ (List.replicate (blanks + 1) ' ' ++ rest)).dropWhile (!isSpace ·) =
      List.replicate (blanks + 1) ' ' ++ rest := by
    rw [List.dropWhile_append_of_pos shown, List.replicate_succ, List.cons_append,
      @List.dropWhile_cons_of_neg _ (fun char => !isSpace char) ' ' _ (by decide)]
  have kept : (word ++ (List.replicate (blanks + 1) ' ' ++ rest)).dropWhile isSpace =
      word ++ (List.replicate (blanks + 1) ' ' ++ rest) := by
    obtain ⟨first, others, rfl⟩ := List.exists_cons_of_ne_nil named
    rw [List.cons_append, List.dropWhile_cons_of_neg]
    rw [visible first List.mem_cons_self]
    exact Bool.false_ne_true
  rw [splitMost, kept]
  split
  next empty => exact absurd (List.append_eq_nil_iff.mp empty).1 named
  next => rw [taken, left, splitMost_blanks]

theorem numeral_visible {number : Nat} : (toString number).toList ≠ [] ∧ ∀ char ∈ (toString number).toList, isSpace char = false := by
  obtain ⟨first, rest, shown, decimal, -⟩ := @numeral_chars number
  rw [shown]
  exact ⟨List.cons_ne_nil _ _, fun char member => isSpace_digit (decimal char member)⟩

theorem capacity_visible : (toString row.capacity).toList ++ ['%'] ≠ [] ∧
    ∀ char ∈ (toString row.capacity).toList ++ ['%'], isSpace char = false := by
  refine ⟨List.append_ne_nil_of_right_ne_nil _ (List.cons_ne_nil _ _), fun char member => ?_⟩
  rcases List.mem_append.mp member with digit | percent
  · exact numeral_visible.2 char digit
  · rw [List.mem_singleton.mp percent]
    decide

theorem splitMost_mount : splitMost 0 row.mount.toList = [row.mount] := by
  have mounted := row.mounted
  rw [splitMost]
  cases same : row.mount.toList with
  | nil => rw [same] at mounted; cases mounted
  | cons first others =>
      rw [same] at mounted
      cases mounted
      rw [List.dropWhile_cons_of_neg (by decide)]
      dsimp only
      rw [← same, String.ofList_toList]

theorem splitMost_row : splitMost 6 row.text.toList = [row.device, row.fstype, toString row.size, toString row.used,
    toString row.available, toString row.capacity ++ "%", row.mount] := by
  have device : row.device.toList ≠ [] := fun empty => row.named.1 (String.toList_eq_nil_iff.mp empty)
  have fstype : row.fstype.toList ≠ [] := fun empty => row.typed.1 (String.toList_eq_nil_iff.mp empty)
  simp only [DfRow.text, DfRow.columns, DfRow.blanks, String.toList_ofList, List.zipIdx_cons, List.zipIdx_nil, List.foldr_cons,
    List.foldr_nil, List.append_assoc]
  rw [splitMost_column device row.named.2, splitMost_column fstype row.typed.2,
    splitMost_column numeral_visible.1 numeral_visible.2, splitMost_column numeral_visible.1 numeral_visible.2,
    splitMost_column numeral_visible.1 numeral_visible.2, ← List.append_assoc _ ['%'], splitMost_column capacity_visible.1 capacity_visible.2,
    splitMost_mount]
  simp only [String.ofList_toList, String.ofList_append]

theorem diskRow_row : diskRow digits row.text = if row.Shown ∧ row.Short then some row.entry else none := by
  have whole : (toString row.capacity ++ "%").toList.rdropWhile (· = '%') = (toString row.capacity).toList := by
    obtain ⟨first, others, shown, decimal, -⟩ := @numeral_chars row.capacity
    rw [String.toList_append, show "%".toList = ['%'] from rfl, 
      @List.rdropWhile_concat_pos _ (fun char => decide (char = '%')) _ _ (decide_eq_true rfl),
      List.rdropWhile_eq_self_iff]
    intro nonempty percent
    have last := List.getLast_mem nonempty
    rw [of_decide_eq_true percent, shown] at last
    have digit := decimal '%' last
    cases digit
  unfold diskRow
  rw [splitMost_row]
  dsimp only
  rw [whole, String.ofList_toList, floatOf_toString, intOf_toString, intOf_toString]
  by_cases excluded : row.fstype ∈ excludedFilesystems
  · rw [if_pos excluded, if_neg fun both => both.1.2 excluded]
  · rw [if_neg excluded]
    by_cases size : (toString row.size).length ≤ maxDigits
    · by_cases used : (toString row.used).length ≤ maxDigits
      · rw [if_pos size, if_pos used]
        by_cases empty : row.size = 0
        · rw [if_neg fun both => both.1.1 empty]
          exact if_pos (by exact_mod_cast empty)
        · rw [if_pos ⟨⟨empty, excluded⟩, size, used⟩]
          exact if_neg (by exact_mod_cast empty)
      · have long : ¬(row.Shown ∧ row.Short) := fun both => used both.2.2
        rw [if_pos size, if_neg used, if_neg long]
    · have long : ¬(row.Shown ∧ row.Short) := fun both => size both.2.1
      rw [if_neg size, if_neg long]

theorem headerOf_percent {line name : String} (inside : '%' ∈ line.toList) (begun : headerOf line = some name) :
    '%' ∈ name.toList := by
  unfold headerOf at begun
  split at begun
  next => cases begun
  next rest _ same =>
    cases begun
    rw [same] at inside
    have later : '%' ∈ rest := by
      rcases List.mem_cons.mp inside with equal | later
      · cases equal
      · exact later
    refine (List.singleton_infix_iff _ _).mp (infix_strip ((List.singleton_infix_iff _ _).mpr ?_) fun char member => ?_)
    · rw [String.toList_ofList]
      exact later
    · rw [List.mem_singleton.mp member]
      decide
  next => cases begun

theorem headerOf_row : headerOf row.text ≠ some "disk" := by
  intro begun
  have inside : '%' ∈ row.text.toList := by
    simp [DfRow.text, DfRow.columns]
  have wrong := headerOf_percent inside begun
  revert wrong
  decide

section Blocks

variable {blocks : Blocks} {name : String} {lines : List String}

theorem readLine_other (other : blocks.current ≠ some name) (closed : ∀ line ∈ lines, headerOf line ≠ some name) :
    (lines.foldl readLine blocks).lines name = blocks.lines name := by
  induction lines generalizing blocks with
  | nil => rfl
  | cons line rest ih =>
      have later : ∀ line ∈ rest, headerOf line ≠ some name := fun line member => closed line (List.mem_cons_of_mem _ member)
      rw [List.foldl_cons]
      cases begun : headerOf line with
      | some found =>
          have distinct : name ≠ found := fun same => closed line List.mem_cons_self (same ▸ begun)
          rw [readLine, begun]
          dsimp only
          rw [ih (fun same => distinct (Option.some.inj same).symm) later]
          exact Function.update_of_ne distinct _ _
      | none =>
          rw [readLine, begun]
          dsimp only
          cases current : blocks.current with
          | none => exact ih other later
          | some found =>
              have distinct : name ≠ found := fun same => other (same ▸ current)
              dsimp only
              rw [ih (fun same => distinct (Option.some.inj same).symm) later]
              exact Function.update_of_ne distinct _ _

theorem readLine_block (current : blocks.current = some name) (closed : ∀ line ∈ lines, headerOf line ≠ some name) :
    (lines.foldl readLine blocks).lines name = blocks.lines name ++ lines.takeWhile (headerOf · = none) := by
  induction lines generalizing blocks with
  | nil => exact (List.append_nil _).symm
  | cons line rest ih =>
      have later : ∀ line ∈ rest, headerOf line ≠ some name := fun line member => closed line (List.mem_cons_of_mem _ member)
      rw [List.foldl_cons]
      cases begun : headerOf line with
      | some found =>
          have distinct : name ≠ found := fun same => closed line List.mem_cons_self (same ▸ begun)
          rw [readLine, begun, List.takeWhile_cons_of_neg (by simp [begun]), List.append_nil]
          dsimp only
          rw [readLine_other (fun same => distinct (Option.some.inj same).symm) later]
          exact Function.update_of_ne distinct _ _
      | none =>
          rw [readLine, begun, List.takeWhile_cons_of_pos (by simp [begun]), current]
          dsimp only
          rw [ih rfl later]
          dsimp only
          rw [Function.update_self, List.append_assoc, List.singleton_append]

end Blocks

theorem parseBlocks_df {stdout : String} (block : DfBlock stdout rows) :
    parseBlocks stdout "disk" = (rows.takeWhile fun row => headerOf row.text = none).map DfRow.text := by
  obtain ⟨before, after, lines, closed⟩ := block
  have opened : headerOf "=disk" = some "disk" := by decide
  have ended : headerOf "=end" = some "end" := by decide
  have others : ∀ line ∈ rows.map DfRow.text ++ "=end" :: after, headerOf line ≠ some "disk" := by
    intro line member
    rcases List.mem_append.mp member with shown | rest
    · obtain ⟨row, -, rfl⟩ := List.mem_map.mp shown
      exact headerOf_row
    · rcases List.mem_cons.mp rest with rfl | later
      · rw [ended]
        decide
      · exact closed line later
  rw [parseBlocks, lines, List.append_assoc, List.foldl_append, List.cons_append, List.foldl_cons, readLine, opened]
  dsimp only
  rw [readLine_block rfl others]
  dsimp only
  have upToEnd : (rows.map DfRow.text ++ "=end" :: after).takeWhile (headerOf · = none) =
      (rows.map DfRow.text).takeWhile (headerOf · = none) := by
    rw [List.takeWhile_append, @List.takeWhile_cons_of_neg _ _ "=end" _ (by decide), List.append_nil]
    split
    next whole => exact ((List.takeWhile_prefix _).eq_of_length whole).symm
    next => rfl
  rw [Function.update_self, List.nil_append, upToEnd, List.takeWhile_map]
  rfl

theorem filterMap_rows : (rows.map DfRow.text).filterMap (diskRow digits) =
    (rows.filter fun row => row.Shown ∧ row.Short).map DfRow.entry := by
  induction rows with
  | nil => rfl
  | cons row rest ih =>
      rw [List.map_cons, List.filterMap_cons, diskRow_row, List.filter_cons]
      by_cases kept : row.Shown ∧ row.Short
      · rw [if_pos kept, if_pos (decide_eq_true kept), List.map_cons, ← ih]
      · rw [if_neg kept, if_neg (by simpa using kept)]
        exact ih

/-- A row is lost when a number of it is too long, and where it stands behind one that is taken for a header. -/
def Kept (rows : List DfRow) : Prop :=
  (∀ row ∈ rows, row.Shown → row.Short) ∧ ∀ row ∈ rows.dropWhile fun row => headerOf row.text = none, ¬row.Shown

theorem kept_iff : ((rows.takeWhile fun row => headerOf row.text = none).filter fun row => row.Shown ∧ row.Short).length =
    (rows.filter DfRow.Shown).length ↔ Kept rows := by
  let plain : DfRow → Bool := fun row => headerOf row.text = none
  have parts : rows.filter DfRow.Shown =
      (rows.takeWhile plain).filter DfRow.Shown ++ (rows.dropWhile plain).filter DfRow.Shown := by
    rw [← List.filter_append, List.takeWhile_append_dropWhile]
  have both : (rows.takeWhile plain).filter (fun row => row.Shown ∧ row.Short) =
      ((rows.takeWhile plain).filter DfRow.Shown).filter fun row => row.Short := by
    rw [List.filter_filter]
    exact List.filter_congr fun row _ => by simp [and_comm]
  have fewer := @List.length_filter_le _ (fun row : DfRow => decide row.Short) ((rows.takeWhile plain).filter DfRow.Shown)
  change ((rows.takeWhile plain).filter fun row => row.Shown ∧ row.Short).length = _ ↔ _
  rw [parts, both, List.length_append]
  constructor
  · intro same
    have hidden : (rows.dropWhile plain).filter DfRow.Shown = [] := List.eq_nil_of_length_eq_zero (by omega)
    have short := List.length_filter_eq_length_iff.mp
      (show (((rows.takeWhile plain).filter DfRow.Shown).filter fun row => row.Short).length = _ by omega)
    have behind : ∀ row ∈ rows.dropWhile plain, ¬row.Shown := fun row member shown =>
      List.filter_eq_nil_iff.mp hidden row member (decide_eq_true shown)
    refine ⟨fun row member shown => ?_, behind⟩
    rw [← @List.takeWhile_append_dropWhile _ plain rows] at member
    rcases List.mem_append.mp member with front | back
    · exact of_decide_eq_true (short row (List.mem_filter.mpr ⟨front, decide_eq_true shown⟩))
    · exact absurd shown (behind row back)
  · rintro ⟨short, behind⟩
    have hidden : (rows.dropWhile plain).filter DfRow.Shown = [] :=
      List.filter_eq_nil_iff.mpr fun row member shown => behind row member (of_decide_eq_true shown)
    have all : ∀ row ∈ (rows.takeWhile plain).filter DfRow.Shown, decide row.Short = true := by
      intro row member
      obtain ⟨front, shown⟩ := List.mem_filter.mp member
      exact decide_eq_true (short row ((List.takeWhile_sublist _).subset front) (of_decide_eq_true shown))
    rw [List.length_filter_eq_length_iff.mpr all, hidden, List.length_nil, Nat.add_zero]

theorem rows_shown_iff {stdout : String} {disks : List Disk} (block : DfBlock stdout rows)
    (made : parseDisks digits (parseBlocks stdout "disk") = .ok disks) :
    disksOf ((rows.filter DfRow.Shown).map DfRow.entry) = .ok disks ↔ Kept rows := by
  rw [parseDisks, parseBlocks_df block, filterMap_rows] at made
  have count : ∀ {read : List DiskRow}, disksOf read = .ok disks → disks.length = read.length := fun made => by
    have percents := congrArg List.length (disksOf_percents made)
    rwa [List.length_map, List.length_map] at percents
  rw [← kept_iff]
  constructor
  · intro shown
    have same := (count made).symm.trans (count shown)
    rwa [List.length_map, List.length_map] at same
  · intro same
    have fewer : ((rows.takeWhile fun row => headerOf row.text = none).filter fun row => row.Shown ∧ row.Short).Sublist
        (rows.filter DfRow.Shown) := by
      have narrower := List.monotone_filter_right (rows.takeWhile fun row => headerOf row.text = none)
        fun (row : DfRow) (kept : decide (row.Shown ∧ row.Short) = true) => decide_eq_true (of_decide_eq_true kept).1
      exact narrower.trans ((List.takeWhile_sublist _).filter _)
    rw [← fewer.eq_of_length same]
    exact made

end Rows

/-! Readings. -/

section Readings

variable {digits : Digits} {stdout : String} {prev cur : Option CPUSample} {snapshot : Snapshot} {stream : Stream}
  {readings : List String}

structure Handled (digits : Digits) (stdout : String) (prev : Option CPUSample) : Prop where
  uptime : ∀ read, (firstWord (parseBlocks stdout "uptime")).bind (floatOf digits) = some read →
    ∀ negative, read ≠ .infinite negative
  load : ∀ read, (firstWord (parseBlocks stdout "load")).bind (floatOf digits) = some read → read.isFinite = true
  counters : Counters digits (parseBlocks stdout "cpu_stat") prev
  memory : ∀ line ∈ parseBlocks stdout "mem", ∀ found, memLine digits line = some found → found.number.length ≤ maxDigits
  total : Fits (totalShown digits (parseBlocks stdout "mem")) (1024 ^ 3)
  disks : ∀ line ∈ parseBlocks stdout "disk", ∀ row, diskRow digits line = some row →
    (Fits row.total (1024 ^ 3) ∧ Fits row.used (1024 ^ 3)) ∧ row.percent.isFinite = true
  rows : ∀ rows, DfBlock stdout rows → Kept rows

theorem isFinite_roundTo {decimals : Nat} {value : Double} : (value.roundTo decimals).isFinite = value.isFinite := by
  cases value <;> rfl

theorem load_finite_iff {read : Option Double} :
    (∀ load, read.map (Double.roundTo 2) = some load → load.isFinite = true) ↔ ∀ load, read = some load → load.isFinite = true := by
  cases read <;> simp [isFinite_roundTo]

theorem parseDisks_ok {lines : List String} :
    (∃ disks, parseDisks digits lines = .ok disks ∧ ∀ disk ∈ disks, disk.percent.isFinite = true) ↔
      ∀ line ∈ lines, ∀ row, diskRow digits line = some row →
        (Fits row.total (1024 ^ 3) ∧ Fits row.used (1024 ^ 3)) ∧ row.percent.isFinite = true := by
  have percents : ∀ {disks}, parseDisks digits lines = .ok disks → ((∀ disk ∈ disks, disk.percent.isFinite = true) ↔
      ∀ row ∈ lines.filterMap (diskRow digits), row.percent.isFinite = true) := by
    intro disks made
    have named : (∀ percent ∈ disks.map Disk.percent, percent.isFinite = true) ↔ ∀ disk ∈ disks, disk.percent.isFinite = true :=
      List.forall_mem_map
    rw [← named, disksOf_percents made]
    exact List.forall_mem_map
  have spread : (∀ line ∈ lines, ∀ row, diskRow digits line = some row →
      (Fits row.total (1024 ^ 3) ∧ Fits row.used (1024 ^ 3)) ∧ row.percent.isFinite = true) ↔
      (∀ row ∈ lines.filterMap (diskRow digits), Fits row.total (1024 ^ 3) ∧ Fits row.used (1024 ^ 3)) ∧
        ∀ row ∈ lines.filterMap (diskRow digits), row.percent.isFinite = true := by
    simp only [List.mem_filterMap]
    constructor
    · intro all
      exact ⟨fun row ⟨line, member, read⟩ => (all line member row read).1, fun row ⟨line, member, read⟩ => (all line member row read).2⟩
    · exact fun both line member row read => ⟨both.1 row ⟨line, member, read⟩, both.2 row ⟨line, member, read⟩⟩
  rw [spread, ← disksOf_ok]
  constructor
  · rintro ⟨disks, made, finite⟩
    exact ⟨⟨disks, made⟩, (percents made).mp finite⟩
  · rintro ⟨⟨disks, made⟩, finite⟩
    exact ⟨disks, made, (percents made).mpr finite⟩

theorem handled_of_sound (parsed : parseSnapshot digits stdout prev = .ok (snapshot, cur)) (sound : SoundSnapshot stdout snapshot) :
    Handled digits stdout prev := by
  obtain ⟨uptime, lasted, parsed⟩ := Checks.bind_ok parsed
  obtain ⟨sample, sampled, parsed⟩ := Checks.bind_ok parsed
  obtain ⟨cpu, divided, parsed⟩ := Checks.bind_ok parsed
  obtain ⟨⟨total, available⟩, memory, parsed⟩ := Checks.bind_ok parsed
  obtain ⟨part, shared, parsed⟩ := Checks.bind_ok parsed
  obtain ⟨disks, made, parsed⟩ := Checks.bind_ok parsed
  obtain ⟨totalGb, scaled, parsed⟩ := Checks.bind_ok parsed
  obtain ⟨usedGb, -, parsed⟩ := Checks.bind_ok parsed
  obtain ⟨rfl, rfl⟩ := Prod.mk.inj (Except.ok.inj parsed)
  exact {
    uptime := uptimeSeconds_ok.mp ⟨uptime, lasted⟩
    load := load_finite_iff.mp sound.load
    counters := counters_iff.mp ⟨sample, cpu, sampled, divided⟩
    memory := parseMeminfo_ok.mp ⟨_, memory⟩
    total := parseMeminfo_total memory ▸ toGb_ok.mp ⟨totalGb, scaled⟩
    disks := parseDisks_ok.mp ⟨disks, made, sound.percents⟩
    rows := fun rows block => (rows_shown_iff block made).mp (sound.rows rows block) }

theorem sound_of_handled (handled : Handled digits stdout prev) :
    ∃ snapshot cur, parseSnapshot digits stdout prev = .ok (snapshot, cur) ∧ SoundSnapshot stdout snapshot := by
  obtain ⟨uptime, lasted⟩ := uptimeSeconds_ok.mpr handled.uptime
  obtain ⟨sample, cpu, sampled, divided⟩ := counters_iff.mpr handled.counters
  obtain ⟨⟨total, available⟩, memory⟩ := parseMeminfo_ok.mpr handled.memory
  obtain ⟨part, shared, percentage⟩ := memPercent_ok total available
  obtain ⟨disks, made, percents⟩ := parseDisks_ok.mpr handled.disks
  have fits : Fits total (1024 ^ 3) := parseMeminfo_total memory ▸ handled.total
  obtain ⟨totalGb, scaled⟩ := toGb_ok.mpr fits
  obtain ⟨usedGb, used⟩ := toGb_ok.mpr (fits_of_le (by decide) (Nat.sub_le total available) fits)
  have parsed : ∃ snapshot, parseSnapshot digits stdout prev = .ok (snapshot, sample) ∧ snapshot.cpuPercent = cpu ∧
      snapshot.memoryPercent = part ∧ snapshot.disks = disks ∧
      snapshot.loadAvg1m = ((firstWord (parseBlocks stdout "load")).bind (floatOf digits)).map (Double.roundTo 2) := by
    rw [parseSnapshot, lasted, sampled]
    simp only [bind, Except.bind, divided, memory, shared, made, scaled, used, pure, Except.pure]
    exact ⟨_, rfl, rfl, rfl, rfl, rfl⟩
  obtain ⟨snapshot, parsed, rfl, rfl, rfl, load⟩ := parsed
  exact ⟨snapshot, sample, parsed, {
      cpu := cpuPercent_percentage divided
      memory := percentage
      load := load ▸ load_finite_iff.mpr handled.load
      percents := percents
      rows := fun rows block => (rows_shown_iff block made).mpr (handled.rows rows block) }⟩

theorem parseSnapshot_sound :
    (∃ snapshot cur, parseSnapshot digits stdout prev = .ok (snapshot, cur) ∧ SoundSnapshot stdout snapshot) ↔
      Handled digits stdout prev := by
  constructor
  · rintro ⟨snapshot, cur, parsed, sound⟩
    exact handled_of_sound parsed sound
  · exact sound_of_handled

/-- Each reading is handled where it is read. -/
def Steady (digits : Digits) : Stream → List String → Prop
  | _, [] => True
  | stream, stdout :: rest => Handled digits stdout stream.prevCpu ∧ Steady digits (stream.tick digits stdout) rest

theorem ended_stays (ended : stream.ended = true) : readings.foldl (Stream.tick digits) stream = stream := by
  induction readings with
  | nil => rfl
  | cons stdout rest ih =>
      have same : stream.tick digits stdout = stream := by rw [Stream.tick, if_pos ended]
      rw [List.foldl_cons, same, ih]

theorem sent_grows : ∃ later, (readings.foldl (Stream.tick digits) stream).sent = stream.sent ++ later := by
  induction readings generalizing stream with
  | nil => exact ⟨[], (List.append_nil _).symm⟩
  | cons stdout rest ih =>
      obtain ⟨later, same⟩ := @ih (stream.tick digits stdout)
      have grown : ∃ next, (stream.tick digits stdout).sent = stream.sent ++ next := by
        unfold Stream.tick
        split
        next => exact ⟨[], (List.append_nil _).symm⟩
        next =>
          split
          next => exact ⟨[], (List.append_nil _).symm⟩
          next snapshot _ _ => exact ⟨[snapshot], rfl⟩
      obtain ⟨next, grown⟩ := grown
      exact ⟨next ++ later, by rw [List.foldl_cons, same, grown, List.append_assoc]⟩

/-- The stream goes on with one sound snapshot for each reading exactly when each is handled. -/
theorem ticks_sound (going : stream.ended = false) :
    ((readings.foldl (Stream.tick digits) stream).ended = false ∧ ∃ snapshots,
      (readings.foldl (Stream.tick digits) stream).sent = stream.sent ++ snapshots ∧
        List.Forall₂ SoundSnapshot readings snapshots) ↔ Steady digits stream readings := by
  induction readings generalizing stream with
  | nil => exact iff_of_true ⟨going, [], (List.append_nil _).symm, .nil⟩ trivial
  | cons stdout rest ih =>
      rw [List.foldl_cons, Steady]
      cases parsed : parseSnapshot digits stdout stream.prevCpu with
      | error failure =>
          have ended : stream.tick digits stdout = { stream with ended := true } := by
            rw [Stream.tick, going, if_neg Bool.false_ne_true, parsed]
          rw [ended, ended_stays rfl]
          refine iff_of_false (fun both => Bool.false_ne_true both.1.symm) fun both => ?_
          obtain ⟨_, _, again, -⟩ := sound_of_handled both.1
          rw [parsed] at again
          cases again
      | ok read =>
          obtain ⟨snapshot, cur⟩ := read
          have next : stream.tick digits stdout = { stream with prevCpu := cur, sent := stream.sent ++ [snapshot] } := by
            rw [Stream.tick, going, if_neg Bool.false_ne_true, parsed]
          have one : Handled digits stdout stream.prevCpu ↔ SoundSnapshot stdout snapshot := by
            rw [← parseSnapshot_sound, parsed]
            constructor
            · rintro ⟨_, _, ⟨⟩, sound⟩
              exact sound
            · exact fun sound => ⟨snapshot, cur, rfl, sound⟩
          rw [next, one, ← @ih { stream with prevCpu := cur, sent := stream.sent ++ [snapshot] } going]
          constructor
          · rintro ⟨still, snapshots, sent, sound⟩
            cases sound with
            | cons first others =>
                obtain ⟨later, grown⟩ := @sent_grows digits { stream with prevCpu := cur, sent := stream.sent ++ [snapshot] } rest
                rw [grown] at sent
                dsimp only at sent
                rw [List.append_assoc] at sent
                have same := List.append_cancel_left sent
                cases same
                exact ⟨first, still, later, grown, others⟩
          · rintro ⟨first, still, snapshots, sent, sound⟩
            refine ⟨still, snapshot :: snapshots, ?_, .cons first sound⟩
            rw [sent]
            exact List.append_assoc _ _ _

/-- From every sample, and along every run of a stream. -/
theorem readings_sound_iff (digits : Digits) :
    (∀ stdout prev, (∃ snapshot cur, parseSnapshot digits stdout prev = .ok (snapshot, cur) ∧ SoundSnapshot stdout snapshot) ↔
      Handled digits stdout prev) ∧
    ∀ readings : List String, (readings.foldl (Stream.tick digits) .start).ended = false ∧
      List.Forall₂ SoundSnapshot readings (readings.foldl (Stream.tick digits) .start).sent ↔ Steady digits .start readings := by
  refine ⟨fun stdout prev => parseSnapshot_sound, fun readings => ?_⟩
  rw [← ticks_sound rfl]
  simp only [Stream.start, List.nil_append, exists_eq_left']

theorem numeral_length_le {row : DfRow} :
    (toString row.size).length ≤ row.text.length ∧ (toString row.used).length ≤ row.text.length := by
  simp only [← String.length_toList, DfRow.text, DfRow.columns, List.zipIdx_cons, List.zipIdx_nil, List.foldr_cons, List.foldr_nil,
    String.toList_ofList, List.length_append]
  omega

def plainReading : String :=
  "=uptime\n81.5 90.1\n=load\n0.25 0.5 0.75\n=cpu_stat\ncpu 10 0 20 30 5\n=mem\nMemTotal: 2048 kB\n=disk\n" ++
    "/dev/sda1 ext4 1048576 524288 524288 50% /\n=end"

theorem plain_rows {rows : List DfRow} (block : DfBlock plainReading rows) : Kept rows := by
  obtain ⟨before, after, lines, -⟩ := block
  have inside : ∀ row ∈ rows, row.text ∈ splitLines plainReading := by
    intro row member
    rw [lines]
    exact List.mem_append_left _ (List.mem_append_right _ (List.mem_cons_of_mem _ (List.mem_map_of_mem member)))
  have bounds : ∀ line ∈ splitLines plainReading, line.length ≤ 100 ∧ ('%' ∈ line.toList → headerOf line = none) := by
    decide +kernel
  constructor
  · intro row member _
    have within := (bounds _ (inside row member)).1
    have narrow := @numeral_length_le row
    exact ⟨by unfold maxDigits; omega, by unfold maxDigits; omega⟩
  · have all : ∀ row ∈ rows, decide (headerOf row.text = none) = true := by
      intro row member
      refine decide_eq_true ((bounds _ (inside row member)).2 ?_)
      simp [DfRow.text, DfRow.columns]
    rw [List.dropWhile_eq_nil_iff.mpr all]
    exact fun row member => absurd member List.not_mem_nil

theorem plain_reading_sound : ∃ snapshot cur,
    parseSnapshot Ftp.asciiDigits plainReading none = .ok (snapshot, cur) ∧ SoundSnapshot plainReading snapshot := by
  have finite : ∀ name ∈ ["uptime", "load"], ∀ read ∈ (firstWord (parseBlocks plainReading name)).bind (floatOf Ftp.asciiDigits),
      read.isFinite = true := by
    decide +kernel
  have counted : parseBlocks plainReading "cpu_stat" = ["cpu 10 0 20 30 5"] := by decide +kernel
  refine ((readings_sound_iff Ftp.asciiDigits).1 plainReading none).mpr {
    uptime := ?_
    load := finite "load" (by decide)
    counters := ?_
    memory := ?_
    total := by decide +kernel
    disks := ?_
    rows := fun rows => plain_rows }
  · rintro read shown negative rfl
    exact Bool.false_ne_true (finite "uptime" (by decide) _ shown)
  · intro line rest first split _
    rw [counted] at first
    cases first
    have columns : words "cpu 10 0 20 30 5" = ["cpu", "10", "0", "20", "30", "5"] := by decide +kernel
    rw [columns] at split
    cases split
    refine ⟨[10, 0, 20, 30, 5], by decide +kernel, ?_⟩
    rintro before ⟨⟩
  · have short : ∀ line ∈ parseBlocks plainReading "mem", ∀ found ∈ memLine Ftp.asciiDigits line, found.number.length ≤ maxDigits := by
      decide +kernel
    exact short
  · have fits : ∀ line ∈ parseBlocks plainReading "disk", ∀ row ∈ diskRow Ftp.asciiDigits line,
        (Fits row.total (1024 ^ 3) ∧ Fits row.used (1024 ^ 3)) ∧ row.percent.isFinite = true := by
      decide +kernel
    exact fits

/-- An infinite uptime ends the stream with nothing sent, a load that is no number is sent on, and a device whose name
begins with a sign of equality takes the rows behind it along. -/
theorem infinite_uptime_ends_stream :
    (["=uptime\ninf 0"].foldl (Stream.tick Ftp.asciiDigits) .start).ended = true ∧
      (["=uptime\ninf 0"].foldl (Stream.tick Ftp.asciiDigits) .start).sent.length = 0 ∧
      ((parseSnapshot Ftp.asciiDigits "=load\nnan 0" none).toOption.bind fun read => read.1.loadAvg1m.map Double.isFinite) = some false ∧
      (parseSnapshot Ftp.asciiDigits "=disk\n=x ext4 9 5 4 56% /a\n/b ext4 9 5 4 56% /b\n=end" none).toOption.map
        (·.1.disks.length) = some 0 := by
  decide +kernel

end Readings

end Dosm.Metrics
