import Dosm.Python.Utf8
import Mathlib.Algebra.Group.Nat.Defs

namespace Dosm.Python.Utf8

/-! Texts in UTF-8, and what decoding makes of them.

Decoding gives an encoded text back. Of any other bytes it makes a control character only
where there is its byte.
-/

def encode (chars : List Char) : List UInt8 := chars.flatMap String.utf8EncodeChar

def encodeText (text : String) : List UInt8 := encode text.toList

variable {first second chars : List Char} {char : Char} {bytes : List UInt8} {byte : UInt8} {state : Option Partial}
  {begun : Partial}

@[simp] theorem encode_append : encode (first ++ second) = encode first ++ encode second := List.flatMap_append

section RoundTrip

variable {code later value : Nat}

theorem toNat_byte (small : code < 256) : (UInt8.ofNat code).toNat = code := by
  simp only [UInt8.toNat_ofNat']
  omega

theorem high_le (begun : Partial) : begun.high.toNat ≤ 0xBF := by
  have top := begun.continuation.2
  rw [UInt8.le_iff_toNat_le] at top
  exact top

theorem le_low (begun : Partial) : 0x80 ≤ begun.low.toNat := by
  have bottom := begun.continuation.1
  rw [UInt8.le_iff_toNat_le] at bottom
  exact bottom

theorem accepts_byte (low : begun.low.toNat ≤ code) (high : code ≤ begun.high.toNat) :
    begun.accepts (UInt8.ofNat code) = true := by
  have top := high_le begun
  have same := @toNat_byte code (by omega)
  simp only [Partial.accepts, Bool.and_eq_true, decide_eq_true_eq, UInt8.le_iff_toNat_le, same]
  exact ⟨low, high⟩

theorem extend_byte (high : code ≤ begun.high.toNat) :
    begun.extend (UInt8.ofNat code) = begun.value * 64 + (code - 0x80) := by
  have top := high_le begun
  have same := @toNat_byte code (by omega)
  unfold Partial.extend
  rw [same]

theorem decodeFrom_last (low : begun.low.toNat ≤ code) (high : code ≤ begun.high.toNat) (done : begun.later = 0) :
    decodeFrom (some begun) (UInt8.ofNat code :: bytes) =
      Char.ofNat (begun.value * 64 + (code - 0x80)) :: decodeFrom none bytes := by
  rw [decodeFrom_cons, step, if_pos (accepts_byte low high), done, extend_byte high]
  rfl

theorem decodeFrom_next (low : begun.low.toNat ≤ code) (high : code ≤ begun.high.toNat)
    (more : begun.later = later + 1) :
    decodeFrom (some begun) (UInt8.ofNat code :: bytes) =
      decodeFrom (some (.ongoing (begun.value * 64 + (code - 0x80)) later)) bytes := by
  rw [decodeFrom_cons, step, if_pos (accepts_byte low high), more, ← extend_byte high]
  rfl

theorem ongoing_last (small : code < 64) : decodeFrom (some (.ongoing value 0)) (UInt8.ofNat (code + 0x80) :: bytes) =
    Char.ofNat (value * 64 + code) :: decodeFrom none bytes := by
  have low : (Partial.ongoing value 0).low.toNat = 128 := rfl
  have high : (Partial.ongoing value 0).high.toNat = 191 := rfl
  have last := @decodeFrom_last bytes (.ongoing value 0) (code + 0x80) (by omega) (by omega) rfl
  rwa [Nat.add_sub_cancel] at last

theorem ongoing_next (small : code < 64) :
    decodeFrom (some (.ongoing value (later + 1))) (UInt8.ofNat (code + 0x80) :: bytes) =
      decodeFrom (some (.ongoing (value * 64 + code) later)) bytes := by
  have low : (Partial.ongoing value (later + 1)).low.toNat = 128 := rfl
  have high : (Partial.ongoing value (later + 1)).high.toNat = 191 := rfl
  have next := @decodeFrom_next bytes (.ongoing value (later + 1)) (code + 0x80) later (by omega) (by omega) rfl
  rwa [Nat.add_sub_cancel] at next

structure Begins (code : Nat) (begun : Partial) (mark later low high : Nat) : Prop where
  leads : lead (UInt8.ofNat code) = ([], some begun)
  value : begun.value = code - mark
  later : begun.later = later
  low : begun.low.toNat = low
  high : begun.high.toNat = high

theorem lead_two (low : 0xC2 ≤ code) (high : code < 0xE0) :
    ∃ begun, Begins code begun 0xC0 0 0x80 0xBF := by
  have same := @toNat_byte code (by omega)
  refine ⟨⟨(UInt8.ofNat code).toNat - 0xC0, 0, 0x80, 0xBF, by decide⟩, ?_, by rw [same], rfl, rfl, rfl⟩
  rw [lead, if_neg, if_neg, if_pos]
  all_goals
    simp only [UInt8.lt_iff_toNat_lt, same, UInt8.toNat_ofNat]
    omega

theorem lead_three (low : 0xE0 ≤ code) (high : code < 0xF0) :
    ∃ begun, Begins code begun 0xE0 1 (if code = 0xE0 then 0xA0 else 0x80) (if code = 0xED then 0x9F else 0xBF) := by
  have same := @toNat_byte code (by omega)
  have ascii : ¬ UInt8.ofNat code < 0x80 := by simp only [UInt8.lt_iff_toNat_lt, same, UInt8.toNat_ofNat]; omega
  have tail : ¬ UInt8.ofNat code < 0xC2 := by simp only [UInt8.lt_iff_toNat_lt, same, UInt8.toNat_ofNat]; omega
  have two : ¬ UInt8.ofNat code < 0xE0 := by simp only [UInt8.lt_iff_toNat_lt, same, UInt8.toNat_ofNat]; omega
  have three : UInt8.ofNat code < 0xF0 := by simp only [UInt8.lt_iff_toNat_lt, same, UInt8.toNat_ofNat]; omega
  by_cases first : code = 0xE0
  · subst first
    exact ⟨_, rfl, rfl, rfl, rfl, rfl⟩
  by_cases surrogate : code = 0xED
  · subst surrogate
    exact ⟨_, rfl, rfl, rfl, rfl, rfl⟩
  refine ⟨⟨(UInt8.ofNat code).toNat - 0xE0, 1, 0x80, 0xBF, by decide⟩, ?_, by rw [same], rfl, ?_, ?_⟩
  · rw [lead, if_neg ascii, if_neg tail, if_neg two, if_neg, if_neg, if_pos three]
    all_goals
      rw [← UInt8.toNat_inj, same]
      assumption
  · rw [if_neg first]
    rfl
  · rw [if_neg surrogate]
    rfl

theorem lead_four (low : 0xF0 ≤ code) (high : code < 0xF5) :
    ∃ begun, Begins code begun 0xF0 2 (if code = 0xF0 then 0x90 else 0x80) (if code = 0xF4 then 0x8F else 0xBF) := by
  have cases : code = 0xF0 ∨ code = 0xF1 ∨ code = 0xF2 ∨ code = 0xF3 ∨ code = 0xF4 := by omega
  rcases cases with rfl | rfl | rfl | rfl | rfl <;> exact ⟨_, rfl, rfl, rfl, rfl, rfl⟩

theorem decodeFrom_lead {mark low high : Nat} (begins : Begins code begun mark later low high) :
    decodeFrom none (UInt8.ofNat code :: bytes) = decodeFrom (some begun) bytes := by
  rw [decodeFrom_cons, step, begins.leads, List.nil_append]

theorem decode_char : decodeFrom none (String.utf8EncodeChar char ++ bytes) = char :: decodeFrom none bytes := by
  have valid : char.toNat < 0xD800 ∨ 0xDFFF < char.toNat ∧ char.toNat < 0x110000 := char.valid
  have back : Char.ofNat char.toNat = char := Char.ofNat_toNat char
  have same : char.val.toNat = char.toNat := rfl
  unfold String.utf8EncodeChar
  simp only [same]
  generalize char.toNat = code at *
  subst back
  split
  next small =>
    have value := @toNat_byte code (by omega)
    have ascii : UInt8.ofNat code < 0x80 := by
      rw [UInt8.lt_iff_toNat_lt, value]
      change code < 128
      omega
    rw [List.cons_append, List.nil_append, decodeFrom_cons, step, lead, if_pos ascii, value, List.cons_append,
      List.nil_append]
  split
  next =>
    obtain ⟨begun, begins⟩ := @lead_two (code / 64 % 0x20 + 0xC0) (by omega) (by omega)
    simp only [List.cons_append, List.nil_append]
    rw [decodeFrom_lead begins, decodeFrom_last (by rw [begins.low]; omega) (by rw [begins.high]; omega) begins.later,
      begins.value]
    have whole : (code / 64 % 0x20 + 0xC0 - 0xC0) * 64 + (code % 0x40 + 0x80 - 0x80) = code := by omega
    rw [whole]
  split
  next =>
    obtain ⟨begun, begins⟩ := @lead_three (code / 4096 % 0x10 + 0xE0) (by omega) (by omega)
    simp only [List.cons_append, List.nil_append]
    rw [decodeFrom_lead begins,
      decodeFrom_next (by rw [begins.low]; split <;> omega) (by rw [begins.high]; split <;> omega) begins.later,
      ongoing_last (by omega), begins.value]
    have whole : ((code / 4096 % 0x10 + 0xE0 - 0xE0) * 64 + (code / 64 % 0x40 + 0x80 - 0x80)) * 64 + code % 0x40 = code := by omega
    rw [whole]
  next =>
    obtain ⟨begun, begins⟩ := @lead_four (code / 262144 % 0x08 + 0xF0) (by omega) (by omega)
    simp only [List.cons_append, List.nil_append]
    rw [decodeFrom_lead begins,
      decodeFrom_next (by rw [begins.low]; split <;> omega) (by rw [begins.high]; split <;> omega) begins.later,
      ongoing_next (by omega), ongoing_last (by omega), begins.value]
    have whole : (((code / 262144 % 0x08 + 0xF0 - 0xF0) * 64 + (code / 4096 % 0x40 + 0x80 - 0x80)) * 64 + code / 64 % 0x40) * 64 +
        code % 0x40 = code := by omega
    rw [whole]

theorem decode_encode_append : decodeFrom none (encode chars ++ bytes) = chars ++ decodeFrom none bytes := by
  induction chars with
  | nil => rfl
  | cons char rest ih =>
      rw [encode, List.flatMap_cons, List.append_assoc, decode_char, ← encode, ih, List.cons_append]

@[simp] theorem decode_encode : decode (encode chars) = chars := by
  have whole := @decode_encode_append chars []
  rwa [List.append_nil, decodeFrom_nil, flush, List.append_nil] at whole

end RoundTrip

/-! A byte outside ASCII stands for no ASCII character but, at most, NUL. -/

def Foreign (char : Char) : Prop := char.toNat = 0 ∨ 128 ≤ char.toNat

instance (char : Char) : Decidable (Foreign char) := inferInstanceAs (Decidable (_ ∨ _))

section Foreign

theorem foreign_replacement : Foreign replacement := .inr (by decide)

theorem foreign_ofNat {code : Nat} (large : 128 ≤ code) : Foreign (Char.ofNat code) := by
  unfold Char.ofNat
  by_cases valid : code.isValidChar
  · rw [dif_pos valid]
    exact .inr large
  · rw [dif_neg valid]
    exact .inl rfl

def Partial.Wide (begun : Partial) : Prop := 128 ≤ (begun.value * 64 + (begun.low.toNat - 128)) * 64 ^ begun.later

theorem wide_ongoing {value later : Nat} (wide : 128 ≤ value * 64 * 64 ^ later) : (Partial.ongoing value later).Wide := by
  have low : (Partial.ongoing value later).low.toNat = 128 := rfl
  unfold Partial.Wide
  rw [low, Nat.sub_self, Nat.add_zero]
  exact wide

theorem wide_lead (begins : lead byte = (chars, some begun)) : begun.Wide := by
  unfold lead at begins
  split at begins
  · cases begins
  split at begins
  · cases begins
  next _ two =>
  rw [UInt8.not_lt, UInt8.le_iff_toNat_le] at two
  change 194 ≤ byte.toNat at two
  split at begins
  · have wide : 128 ≤ (byte.toNat - 0xC0) * 64 * 64 ^ 0 := by omega
    rw [← Option.some.inj (congrArg Prod.snd begins)]
    exact wide_ongoing wide
  next three =>
  rw [UInt8.not_lt, UInt8.le_iff_toNat_le] at three
  change 224 ≤ byte.toNat at three
  split at begins
  · cases begins
    exact Nat.le_of_ble_eq_true rfl
  next first =>
  rw [← UInt8.toNat_inj] at first
  change byte.toNat ≠ 224 at first
  split at begins
  · cases begins
    exact Nat.le_of_ble_eq_true rfl
  split at begins
  · have wide : 128 ≤ (byte.toNat - 0xE0) * 64 * 64 ^ 1 := by omega
    rw [← Option.some.inj (congrArg Prod.snd begins)]
    exact wide_ongoing wide
  next four =>
  rw [UInt8.not_lt, UInt8.le_iff_toNat_le] at four
  change 240 ≤ byte.toNat at four
  split at begins
  · cases begins
    exact Nat.le_of_ble_eq_true rfl
  next first =>
  rw [← UInt8.toNat_inj] at first
  change byte.toNat ≠ 240 at first
  split at begins
  · have wide : 128 ≤ (byte.toNat - 0xF0) * 64 * 64 ^ 2 := by omega
    rw [← Option.some.inj (congrArg Prod.snd begins)]
    exact wide_ongoing wide
  split at begins
  · cases begins
    exact Nat.le_of_ble_eq_true rfl
  · cases begins

theorem foreign_complete (wide : begun.Wide) (done : begun.later = 0) (accepted : begun.accepts byte = true) :
    Foreign (Char.ofNat (begun.extend byte)) := by
  simp only [Partial.accepts, Bool.and_eq_true, decide_eq_true_eq, UInt8.le_iff_toNat_le] at accepted
  rw [Partial.Wide, done, Nat.pow_zero, Nat.mul_one] at wide
  apply foreign_ofNat
  unfold Partial.extend
  omega

theorem wide_extend {later : Nat} (wide : begun.Wide) (more : begun.later = later + 1)
    (accepted : begun.accepts byte = true) : (Partial.ongoing (begun.extend byte) later).Wide := by
  simp only [Partial.accepts, Bool.and_eq_true, decide_eq_true_eq, UInt8.le_iff_toNat_le] at accepted
  rw [Partial.Wide, more, Nat.pow_succ, Nat.mul_comm (64 ^ later), ← Nat.mul_assoc] at wide
  apply wide_ongoing
  refine Nat.le_trans wide (Nat.mul_le_mul_right _ (Nat.mul_le_mul_right _ ?_))
  change _ ≤ begun.value * 64 + (byte.toNat - 128)
  omega

theorem lead_foreign (high : 128 ≤ byte.toNat) : lead byte = ([replacement], none) ∨
    ∃ begun, lead byte = ([], some begun) ∧ begun.Wide := by
  have ascii : ¬ byte < 0x80 := by
    rw [UInt8.not_lt, UInt8.le_iff_toNat_le]
    exact high
  have shape : lead byte = ([replacement], none) ∨ ∃ begun, lead byte = ([], some begun) := by
    unfold lead
    rw [if_neg ascii]
    repeat' split
    all_goals first | exact .inl rfl | exact .inr ⟨_, rfl⟩
  rcases shape with lost | ⟨begun, leads⟩
  · exact .inl lost
  · exact .inr ⟨begun, leads, wide_lead leads⟩

theorem decodeFrom_open (wide : begun.Wide) :
    ∃ first rest, decodeFrom (some begun) bytes = first :: rest ∧ Foreign first := by
  induction bytes generalizing begun with
  | nil => exact ⟨_, [], rfl, foreign_replacement⟩
  | cons byte bytes ih =>
      cases accepted : begun.accepts byte with
      | false => exact ⟨_, _, decodeFrom_rejected accepted, foreign_replacement⟩
      | true =>
          cases later : begun.later with
          | zero =>
              rw [decodeFrom_cons, step, if_pos accepted, later]
              exact ⟨_, _, rfl, foreign_complete wide later accepted⟩
          | succ later' =>
              rw [decodeFrom_cons, step, if_pos accepted, later]
              exact ih (wide_extend wide later accepted)

theorem decode_cons_ascii (low : byte.toNat < 128) :
    decode (byte :: bytes) = Char.ofNat byte.toNat :: decode bytes := by
  have ascii : byte < 0x80 := by
    rw [UInt8.lt_iff_toNat_lt]
    exact low
  rw [decode, decodeFrom_cons, step, lead, if_pos ascii, List.cons_append, List.nil_append, decode]

theorem decode_head {rest : List Char} (decoded : decode bytes = char :: rest) (ascii : ¬ Foreign char) :
    ∃ byte tail, bytes = byte :: tail ∧ byte.toNat = char.toNat ∧ decode tail = rest := by
  cases bytes with
  | nil => cases decoded
  | cons byte tail =>
      by_cases low : byte.toNat < 128
      · rw [decode_cons_ascii low] at decoded
        obtain ⟨rfl, same⟩ := List.cons.inj decoded
        have code : (Char.ofNat byte.toNat).toNat = byte.toNat := by
          unfold Char.ofNat
          rw [dif_pos (.inl (by omega))]
          rfl
        exact ⟨byte, tail, rfl, code.symm, same⟩
      · rw [decode, decodeFrom_cons, step] at decoded
        rcases lead_foreign (Nat.le_of_not_lt low) with wrong | ⟨begun, leads, wide⟩
        · rw [wrong] at decoded
          exact absurd ((List.cons.inj decoded).1 ▸ foreign_replacement) ascii
        · obtain ⟨first, later, opened, foreign⟩ := @decodeFrom_open tail begun wide
          rw [leads, List.nil_append, opened] at decoded
          exact absurd ((List.cons.inj decoded).1 ▸ foreign) ascii

theorem wide_after (wide : ∀ begun, state = some begun → begun.Wide) :
    ∀ begun, after state bytes = some begun → begun.Wide := by
  induction bytes generalizing state with
  | nil => exact wide
  | cons byte bytes ih =>
      apply ih
      intro next continues
      cases state with
      | none => exact wide_lead (Prod.ext rfl continues)
      | some begun =>
          cases accepted : begun.accepts byte with
          | false =>
              rw [step, accepted, if_neg Bool.false_ne_true] at continues
              exact wide_lead (Prod.ext rfl continues)
          | true =>
              rw [step, if_pos accepted] at continues
              cases later : begun.later with
              | zero =>
                  rw [later] at continues
                  cases continues
              | succ later' =>
                  rw [later] at continues
                  cases Option.some.inj continues
                  exact wide_extend (wide begun rfl) later accepted

theorem decodeFrom_single (high : 128 ≤ byte.toNat) (wide : ∀ begun, state = some begun → begun.Wide) :
    ∃ start last, decodeFrom state [byte] = start ++ [last] ∧ Foreign last := by
  have fresh : ∃ start last, decodeFrom none [byte] = start ++ [last] ∧ Foreign last := by
    rcases lead_foreign high with wrong | ⟨begun, leads, -⟩
    · exact ⟨[], replacement, by rw [decodeFrom_cons, step, wrong]; rfl, foreign_replacement⟩
    · exact ⟨[], replacement, by rw [decodeFrom_cons, step, leads]; rfl, foreign_replacement⟩
  cases state with
  | none => exact fresh
  | some begun =>
      cases accepted : begun.accepts byte with
      | false =>
          obtain ⟨start, last, decoded, foreign⟩ := fresh
          exact ⟨replacement :: start, last, by rw [decodeFrom_rejected accepted, decoded]; rfl, foreign⟩
      | true =>
          cases later : begun.later with
          | zero =>
              refine ⟨[], _, ?_, foreign_complete (wide begun rfl) later accepted⟩
              rw [decodeFrom_cons, step, if_pos accepted, later]
              rfl
          | succ later' =>
              refine ⟨[], replacement, ?_, foreign_replacement⟩
              rw [decodeFrom_cons, step, if_pos accepted, later]
              rfl

theorem decode_snoc_foreign (high : 128 ≤ byte.toNat) :
    ∃ start last, decode (bytes ++ [byte]) = start ++ [last] ∧ Foreign last := by
  obtain ⟨emitted, -, together⟩ := @decodeFrom_append none bytes [byte]
  obtain ⟨start, last, decoded, foreign⟩ := @decodeFrom_single byte (after none bytes) high (wide_after nofun)
  exact ⟨emitted ++ start, last, by rw [decode, together, decoded, List.append_assoc], foreign⟩

theorem cut_ascii (low : byte.toNat < 128) {tail : List UInt8} : cut bytes (byte :: tail) = false := by
  unfold cut
  split
  next begun other bytes' opened same =>
    cases same
    have bottom := le_low begun
    simp only [Partial.accepts, Bool.and_eq_false_iff, decide_eq_false_iff_not, UInt8.le_iff_toNat_le]
    left
    change 128 ≤ begun.low.toNat at bottom
    omega
  · rfl

theorem decode_snoc_ascii (low : byte.toNat < 128) :
    decode (bytes ++ [byte]) = decode bytes ++ [Char.ofNat byte.toNat] := by
  rw [decode_append (cut_ascii low), decode_cons_ascii low]
  rfl

theorem decode_last (decoded : (decode bytes).getLast? = some char) (ascii : ¬ Foreign char) :
    ∃ byte, bytes.getLast? = some byte ∧ byte.toNat = char.toNat := by
  rcases List.eq_nil_or_concat bytes with rfl | ⟨start, byte, rfl⟩
  · cases decoded
  rw [List.concat_eq_append] at decoded ⊢
  refine ⟨byte, List.getLast?_concat, ?_⟩
  by_cases low : byte.toNat < 128
  · rw [decode_snoc_ascii low, List.getLast?_concat] at decoded
    cases Option.some.inj decoded
    unfold Char.ofNat
    rw [dif_pos (.inl (by omega))]
    rfl
  · obtain ⟨before, last, whole, foreign⟩ := @decode_snoc_foreign start byte (Nat.le_of_not_lt low)
    rw [whole, List.getLast?_concat] at decoded
    cases Option.some.inj decoded
    exact absurd foreign ascii

theorem decode_start {start : List Char} (decoded : start <+: decode bytes) (ascii : ∀ char ∈ start, ¬ Foreign char) :
    ∃ front tail, bytes = front ++ tail ∧ front.map UInt8.toNat = start.map Char.toNat := by
  induction start generalizing bytes with
  | nil => exact ⟨[], bytes, rfl, rfl⟩
  | cons char start ih =>
      obtain ⟨rest, whole⟩ := decoded
      obtain ⟨byte, tail, rfl, code, later⟩ := decode_head whole.symm (ascii char List.mem_cons_self)
      obtain ⟨front, left, split, codes⟩ := ih ⟨rest, later.symm⟩ fun other member =>
        ascii other (List.mem_cons_of_mem _ member)
      refine ⟨byte :: front, left, congrArg (List.cons byte) split, ?_⟩
      rw [List.map_cons, List.map_cons, code, codes]

end Foreign

end Dosm.Python.Utf8
