import Dosm.Network.Outcomes
import Dosm.Python.Numbers

namespace Dosm.Metrics

open Python Binary64
open Ftp (Digits)
open Network (words)

/-! What a remote host prints about itself, and the snapshot that is made of it.

The text comes in blocks, each read by itself. A conversion that is not guarded raises, and
the stream of snapshots ends there.
-/

structure CPUSample where
  total : Int
  idle : Int
  deriving DecidableEq

structure Disk where
  mountpoint : String
  device : String
  fstype : String
  totalGb : Finite
  usedGb : Finite
  percent : Double

structure Snapshot where
  hostname : String
  osRelease : String
  uptimeSeconds : Int
  cpuCountLogical : Int
  cpuPercent : Double
  loadAvg1m : Option Double
  memoryTotalGb : Finite
  memoryUsedGb : Finite
  memoryPercent : Double
  disks : List Disk

def zero : Finite := .ofInt 0 (by decide)

def one : Finite := .ofInt 1 (by decide)

def hundred : Finite := .ofInt 100 (by decide)

def toGb (bytes : Int) : Except NumberError Finite := (trueDiv bytes (1024 ^ 3)).map (Finite.roundTo 2)

/-! Blocks. -/

/-- The name of a block, when the line begins one. -/
def headerOf (line : String) : Option String :=
  match line.toList with
  | '=' :: '=' :: _ => none
  | '=' :: rest => some (strip (String.ofList rest))
  | _ => none

/-- The lines of each block so far; a block that is not there has none. -/
structure Blocks where
  current : Option String
  lines : String → List String

def readLine (blocks : Blocks) (line : String) : Blocks :=
  match headerOf line with
  | some name => ⟨some name, Function.update blocks.lines name []⟩
  | none =>
      match blocks.current with
      | none => blocks
      | some name => ⟨some name, Function.update blocks.lines name (blocks.lines name ++ [line])⟩

def parseBlocks (stdout : String) : String → List String := ((splitLines stdout).foldl readLine ⟨none, fun _ => []⟩).lines

/-- `str.split` without a separator, so many times at most. -/
def splitMost : Nat → List Char → List String
  | 0, chars =>
      match chars.dropWhile isSpace with
      | [] => []
      | rest => [String.ofList rest]
  | count + 1, chars =>
      match chars.dropWhile isSpace with
      | [] => []
      | rest => String.ofList (rest.takeWhile (!isSpace ·)) :: splitMost count (rest.dropWhile (!isSpace ·))

def firstWord (lines : List String) : Option String := lines.head?.bind fun line => (words line).head?

section Parsers

variable (digits : Digits)

/-! Memory. -/

structure MemLine where
  name : String
  number : List Char
  unit : Option String

/-- `^(\S+):\s+(\d+)(?:\s+(\S+))?`: the name ends with the last colon before the blanks. -/
def memLine (line : String) : Option MemLine :=
  let chars := line.toList
  let name := chars.takeWhile (!isSpace ·)
  let blanks := chars.dropWhile (!isSpace ·)
  let rest := blanks.dropWhile isSpace
  let number := rest.takeWhile fun char => (digits.decimal char).isSome
  let after := rest.dropWhile fun char => (digits.decimal char).isSome
  let unit := (after.dropWhile isSpace).takeWhile (!isSpace ·)
  if name.getLast? = some ':' ∧ 2 ≤ name.length ∧ blanks ≠ [] ∧ number ≠ [] then
    some ⟨String.ofList name.dropLast, number, if after.takeWhile isSpace = [] ∨ unit = [] then none else some (String.ofList unit)⟩
  else none

/-- Of two lines of one name the later counts. -/
def memFields : (String → Option Nat) → List String → Except NumberError (String → Option Nat)
  | fields, [] => .ok fields
  | fields, line :: rest =>
      match memLine digits line with
      | none => memFields fields rest
      | some found =>
          match digits.int found.number with
          | none => .error .value
          | some value =>
              let scale := if lower (found.unit.getD "kB") = "kb" then 1024 else 1
              memFields (Function.update fields found.name (some (value * scale))) rest

def parseMeminfo (lines : List String) : Except NumberError (Nat × Nat) := do
  let fields ← memFields digits (fun _ => none) lines
  let free := (fields "MemFree").getD 0 + (fields "Buffers").getD 0 + (fields "Cached").getD 0
  let available := match fields "MemAvailable" with
    | some (value + 1) => value + 1
    | _ => free
  return ((fields "MemTotal").getD 0, available)

def memPercent (total available : Nat) : Except NumberError Double :=
  if total = 0 then .ok (.finite (zero.roundTo 1))
  else (trueDiv ((total - available : Nat) : Int) total).map fun part =>
    ((Double.finite part).scaled hundred).roundTo 1

/-! Processors. -/

def intsOf : List String → Except NumberError (List Int)
  | [] => .ok []
  | word :: rest =>
      match intOf digits word with
      | none => .error .value
      | some number => (intsOf rest).map (number :: ·)

def parseCpuStat (line : String) : Except NumberError (Option CPUSample) :=
  match words line with
  | "cpu" :: rest =>
      if rest.length < 4 then .ok none
      else (intsOf digits rest).map fun nums => some { total := nums.sum, idle := nums.getD 3 0 + nums.getD 4 0 }
  | _ => .ok none

def cpuSample (lines : List String) : Except NumberError (Option CPUSample) :=
  match lines.head? with
  | none => .ok none
  | some line => parseCpuStat digits line

/-- The busy part between two samples; the quotient is taken before the bounds. -/
def cpuPercent (prev cur : Option CPUSample) : Except NumberError Double :=
  match prev, cur with
  | some prev, some cur =>
      let dt := cur.total - prev.total
      let di := cur.idle - prev.idle
      if 0 < dt then
        (trueDiv di dt).map fun quotient =>
          (Double.max (.finite zero) (Double.min (.finite hundred) ((Double.sub one quotient).scaled hundred))).roundTo 1
      else .ok (.finite zero)
  | _, _ => .ok (.finite zero)

/-! Disks. -/

def excludedFilesystems : List String := ["tmpfs", "devtmpfs", "squashfs", "overlay", "proc", "sysfs"]

/-- A row of `df` that is kept: its size, what is used, and the percentage. -/
structure DiskRow where
  device : String
  fstype : String
  total : Int
  used : Int
  percent : Double
  mount : String

/-- What cannot be read is passed over. -/
def diskRow (line : String) : Option DiskRow :=
  match splitMost 6 line.toList with
  | [device, fstype, total, used, _, percent, mount] =>
      if fstype ∈ excludedFilesystems then none
      else
        match intOf digits total, intOf digits used, floatOf digits (String.ofList (percent.toList.rdropWhile (· = '%'))) with
        | some total, some used, some percent => if total = 0 then none else some { device, fstype, total, used, percent, mount }
        | _, _, _ => none
  | _ => none

def DiskRow.disk (row : DiskRow) : Except NumberError Disk := do
  let totalGb ← toGb row.total
  let usedGb ← toGb row.used
  return { mountpoint := row.mount, device := row.device, fstype := row.fstype, totalGb, usedGb, percent := row.percent }

def disksOf : List DiskRow → Except NumberError (List Disk)
  | [] => .ok []
  | row :: rest => do
      let disk ← row.disk
      return disk :: (← disksOf rest)

def parseDisks (lines : List String) : Except NumberError (List Disk) := disksOf (lines.filterMap (diskRow digits))

/-! The snapshot. -/

/-- A number that is none is no uptime; an infinite one is not caught. -/
def uptimeSeconds (lines : List String) : Except NumberError Int :=
  match (firstWord lines).bind (floatOf digits) with
  | none => .ok 0
  | some read =>
      match read.truncate with
      | .ok seconds => .ok seconds
      | .error .value => .ok 0
      | .error .overflow => .error .overflow

def orElse (text fallback : String) : String := if text = "" then fallback else text

def parseSnapshot (stdout : String) (prev : Option CPUSample) : Except NumberError (Snapshot × Option CPUSample) := do
  let blocks := parseBlocks stdout
  let uptime ← uptimeSeconds digits (blocks "uptime")
  let cur ← cpuSample digits (blocks "cpu_stat")
  let cpu ← cpuPercent prev cur
  let (total, available) ← parseMeminfo digits (blocks "mem")
  let memory ← memPercent total available
  let disks ← parseDisks digits (blocks "disk")
  let totalGb ← toGb total
  let usedGb ← toGb ((total - available : Nat) : Int)
  return ({
    hostname := orElse (strip ((blocks "hostname").headD "")) "remote"
    osRelease := strip ((blocks "os").headD "")
    uptimeSeconds := uptime
    cpuCountLogical := ((blocks "cpus").head?.bind (intOf digits)).getD 1
    cpuPercent := cpu
    loadAvg1m := ((firstWord (blocks "load")).bind (floatOf digits)).map (Double.roundTo 2)
    memoryTotalGb := totalGb
    memoryUsedGb := usedGb
    memoryPercent := memory
    disks }, cur)

/-- The stream of a host: the sample that is kept between two readings, what has been sent, and whether an exception
has ended it. -/
structure Stream where
  prevCpu : Option CPUSample
  sent : List Snapshot
  ended : Bool

def Stream.start : Stream := ⟨none, [], false⟩

def Stream.tick (stream : Stream) (stdout : String) : Stream :=
  if stream.ended then stream
  else
    match parseSnapshot digits stdout stream.prevCpu with
    | .error _ => { stream with ended := true }
    | .ok (snapshot, cur) => { stream with prevCpu := cur, sent := stream.sent ++ [snapshot] }

end Parsers

end Dosm.Metrics
