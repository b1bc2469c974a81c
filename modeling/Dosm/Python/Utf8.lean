import Mathlib.Data.List.Basic

namespace Dosm.Python.Utf8

/-! Decoding UTF-8, with U+FFFD in place of errors.

The decoder goes byte by byte. A sequence that cannot go on, or does not get to, is
one error, whatever it has read; the byte that does not belong to it starts anew.
-/

def replacement : Char := '\uFFFD'

/-- A sequence that has begun: its value so far, how many bytes follow the next one,
and the bounds of the next one. -/
structure Partial where
  value : Nat
  later : Nat
  low : UInt8
  high : UInt8
  continuation : 0x80 ≤ low ∧ high ≤ 0xBF

namespace Partial

def accepts (begun : Partial) (byte : UInt8) : Bool := begun.low ≤ byte && byte ≤ begun.high

def extend (begun : Partial) (byte : UInt8) : Nat := begun.value * 64 + (byte.toNat - 0x80)

def ongoing (value later : Nat) : Partial := ⟨value, later, 0x80, 0xBF, by decide⟩

end Partial

/-- What is decoded so far, and the sequence that has begun. -/
abbrev Step := List Char × Option Partial

def lead (byte : UInt8) : Step :=
  if byte < 0x80 then ([Char.ofNat byte.toNat], none)
  else if byte < 0xC2 then ([replacement], none)
  else if byte < 0xE0 then ([], some ⟨byte.toNat - 0xC0, 0, 0x80, 0xBF, by decide⟩)
  -- Overlong forms and surrogates are shut out by the second byte.
  else if byte = 0xE0 then ([], some ⟨0, 1, 0xA0, 0xBF, by decide⟩)
  else if byte = 0xED then ([], some ⟨0xD, 1, 0x80, 0x9F, by decide⟩)
  else if byte < 0xF0 then ([], some ⟨byte.toNat - 0xE0, 1, 0x80, 0xBF, by decide⟩)
  else if byte = 0xF0 then ([], some ⟨0, 2, 0x90, 0xBF, by decide⟩)
  else if byte < 0xF4 then ([], some ⟨byte.toNat - 0xF0, 2, 0x80, 0xBF, by decide⟩)
  else if byte = 0xF4 then ([], some ⟨4, 2, 0x80, 0x8F, by decide⟩)
  else ([replacement], none)

def step : Option Partial → UInt8 → Step
  | none, byte => lead byte
  | some begun, byte =>
      if begun.accepts byte then
        match begun.later with
        | 0 => ([Char.ofNat (begun.extend byte)], none)
        | later + 1 => ([], some ⟨begun.extend byte, later, 0x80, 0xBF, by decide⟩)
      else (replacement :: (lead byte).1, (lead byte).2)

def flush : Option Partial → List Char
  | none => []
  | some _ => [replacement]

def decodeFrom (state : Option Partial) : List UInt8 → List Char
  | [] => flush state
  | byte :: rest => (step state byte).1 ++ decodeFrom (step state byte).2 rest

/-- The sequence that the bytes leave open. -/
def after (state : Option Partial) : List UInt8 → Option Partial
  | [] => state
  | byte :: rest => after (step state byte).2 rest

def decode (bytes : List UInt8) : List Char := decodeFrom none bytes

/-- `bytes.decode("utf-8", errors="replace")`. -/
def text (bytes : List UInt8) : String := String.ofList (decode bytes)

/-- The second part goes on with a sequence that the first leaves open. -/
def cut (first second : List UInt8) : Bool :=
  match after none first, second with
  | some begun, byte :: _ => begun.accepts byte
  | _, _ => false

section Decoding

variable {state : Option Partial} {begun : Partial} {byte : UInt8} {bytes first second : List UInt8}

@[simp] theorem decodeFrom_nil : decodeFrom state [] = flush state := rfl

theorem decodeFrom_cons : decodeFrom state (byte :: bytes) =
    (step state byte).1 ++ decodeFrom (step state byte).2 bytes := rfl

theorem decodeFrom_append : ∃ emitted, decodeFrom state first = emitted ++ flush (after state first) ∧
    decodeFrom state (first ++ second) = emitted ++ decodeFrom (after state first) second := by
  induction first generalizing state with
  | nil => exact ⟨[], rfl, rfl⟩
  | cons byte rest ih =>
      obtain ⟨emitted, alone, together⟩ := @ih (step state byte).2
      refine ⟨(step state byte).1 ++ emitted, ?_, ?_⟩
      · rw [decodeFrom_cons, alone, List.append_assoc]
        rfl
      · rw [List.cons_append, decodeFrom_cons, together, List.append_assoc]
        rfl

theorem lead_continuation (accepted : begun.accepts byte = true) : lead byte = ([replacement], none) := by
  obtain ⟨low, high⟩ := begun.continuation
  simp only [Partial.accepts, Bool.and_eq_true, decide_eq_true_eq] at accepted
  have lower : 0x80 ≤ byte := UInt8.le_trans low accepted.1
  have upper : byte ≤ 0xBF := UInt8.le_trans accepted.2 high
  have notAscii : ¬ byte < 0x80 := UInt8.not_lt.mpr lower
  have notLead : byte < 0xC2 := UInt8.lt_of_le_of_lt upper (by decide)
  rw [lead, if_neg notAscii, if_pos notLead]

theorem decodeFrom_rejected (rejected : begun.accepts byte = false) :
    decodeFrom (some begun) (byte :: bytes) = replacement :: decodeFrom none (byte :: bytes) := by
  simp [decodeFrom_cons, step, rejected]

theorem step_accepted (accepted : begun.accepts byte = true) :
    (∃ char, step (some begun) byte = ([char], none)) ∨ ∃ next, step (some begun) byte = ([], some next) := by
  simp only [step, if_pos accepted]
  split
  · exact .inl ⟨_, rfl⟩
  · exact .inr ⟨_, rfl⟩

theorem length_continuation (accepted : begun.accepts byte = true) :
    (decodeFrom none (byte :: bytes)).length = (decodeFrom none bytes).length + 1 := by
  rw [decodeFrom_cons, step, lead_continuation accepted, List.length_append, List.length_singleton, Nat.add_comm]

theorem length_open : (decodeFrom (some begun) bytes).length ≤ (decodeFrom none bytes).length + 1 := by
  induction bytes generalizing begun with
  | nil => simp [flush]
  | cons byte rest ih =>
      cases accepted : begun.accepts byte with
      | false =>
          rw [decodeFrom_rejected accepted]
          exact Nat.le_refl _
      | true =>
          rw [length_continuation accepted, decodeFrom_cons]
          rcases step_accepted accepted with ⟨char, done⟩ | ⟨next, further⟩
          · simp only [done, List.length_append, List.length_singleton]
            omega
          · simp only [further, List.nil_append]
            have shorter := @ih next
            omega

theorem length_accepted (accepted : begun.accepts byte = true) :
    (decodeFrom (some begun) (byte :: bytes)).length < (decodeFrom none (byte :: bytes)).length + 1 := by
  rw [length_continuation accepted, decodeFrom_cons]
  rcases step_accepted accepted with ⟨char, done⟩ | ⟨next, further⟩
  · simp only [done, List.length_append, List.length_singleton]
    omega
  · simp only [further, List.nil_append]
    have shorter := @length_open next bytes
    omega

theorem decode_append (uncut : cut first second = false) : decode (first ++ second) = decode first ++ decode second := by
  obtain ⟨emitted, alone, together⟩ := @decodeFrom_append none first second
  rw [decode, decode, decode, together, alone, List.append_assoc]
  simp only [cut] at uncut
  cases state : after none first with
  | none => rfl
  | some begun =>
      cases second with
      | nil => rfl
      | cons byte rest =>
          rw [state] at uncut
          rw [decodeFrom_rejected uncut]
          rfl

theorem length_decode_append : (decode (first ++ second)).length ≤ (decode first).length + (decode second).length := by
  obtain ⟨emitted, alone, together⟩ := @decodeFrom_append none first second
  rw [decode, decode, decode, together, alone, List.length_append, List.length_append]
  cases state : after none first with
  | none => simp [flush]
  | some begun =>
      have shorter := @length_open begun second
      simp only [flush, List.length_singleton]
      omega

theorem length_decode_cut (parted : cut first second = true) :
    (decode (first ++ second)).length < (decode first).length + (decode second).length := by
  obtain ⟨emitted, alone, together⟩ := @decodeFrom_append none first second
  rw [decode, decode, decode, together, alone, List.length_append, List.length_append]
  simp only [cut] at parted
  cases state : after none first with
  | none => simp [state] at parted
  | some begun =>
      cases second with
      | nil => simp [state] at parted
      | cons byte rest =>
          rw [state] at parted
          have shorter := @length_accepted begun byte rest parted
          simp only [flush, List.length_singleton]
          omega

end Decoding

def uncut : List (List UInt8) → Bool
  | [] => true
  | chunk :: rest => !cut chunk rest.flatten && uncut rest

theorem length_decode_chunks (chunks : List (List UInt8)) :
    (decode chunks.flatten).length ≤ (chunks.flatMap decode).length := by
  induction chunks with
  | nil => simp [decode, flush]
  | cons chunk rest ih =>
      rw [List.flatten_cons, List.flatMap_cons, List.length_append]
      exact Nat.le_trans length_decode_append (Nat.add_le_add_left ih _)

theorem decode_chunks_iff (chunks : List (List UInt8)) :
    chunks.flatMap decode = decode chunks.flatten ↔ uncut chunks = true := by
  induction chunks with
  | nil => simp [uncut, decode, flush]
  | cons chunk rest ih =>
      rw [List.flatten_cons, List.flatMap_cons, uncut, Bool.and_eq_true, Bool.not_eq_true', ← ih]
      constructor
      · intro same
        have whole := congrArg List.length same
        rw [List.length_append] at whole
        have parts := length_decode_chunks rest
        have clean : cut chunk rest.flatten = false := by
          by_contra parted
          have shorter := length_decode_cut (by simpa using parted)
          omega
        rw [decode_append clean] at same
        exact ⟨clean, List.append_cancel_left same⟩
      · rintro ⟨clean, same⟩
        rw [decode_append clean, same]

example : text [0xE2, 0x82, 0xAC] = "€" ∧ text [0xE2, 0x82] ++ text [0xAC] = "\uFFFD\uFFFD" := by decide

end Dosm.Python.Utf8
