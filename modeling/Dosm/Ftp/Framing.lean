import Dosm.Ftp.Replies
import Mathlib.Algebra.GroupWithZero.Nat

namespace Dosm.Ftp

open Python

/-! Which replies are read off the control connection as they were written.

A well-formed reply is read whole and nothing after it is. What begins no such reply is
refused by its first line or not at all.
-/

/-- A line as it is written: its text, carriage returns (by the protocol one) and a line feed. -/
structure ReplyLine where
  text : List UInt8
  returns : Nat
  plain : lineFeed ∉ text
  ends : text.getLast? ≠ some carriageReturn

def ReplyLine.bytes (line : ReplyLine) : List UInt8 :=
  line.text ++ List.replicate line.returns carriageReturn ++ [lineFeed]

abbrev Code := Fin 1000

instance code_neZero : NeZero 1000 := ⟨by decide⟩

namespace Code

def digits (code : Code) : List Nat := [code.val / 100, code.val / 10 % 10, code.val % 10]

def bytes (code : Code) : List UInt8 := code.digits.map fun digit => UInt8.ofNat (48 + digit)

def chars (code : Code) : List Char := code.digits.map Nat.digitChar

end Code

def hyphen : UInt8 := 45

def blank : UInt8 := 32

/-- A reply of one line, or of several of which the last has the code and a blank. -/
inductive Reply where
  | single (code : Code) (line : ReplyLine)
  | multi (code : Code) (first : ReplyLine) (middle : List ReplyLine) (last : ReplyLine)
      (inside : ∀ line ∈ middle, ¬ code.bytes ++ [blank] <+: line.text)

namespace Reply

def render : Reply → List UInt8
  | .single code line => code.bytes ++ blank :: line.bytes
  | .multi code first middle last _ =>
      code.bytes ++ hyphen :: first.bytes ++ middle.flatMap ReplyLine.bytes ++ (code.bytes ++ blank :: last.bytes)

/-- The code and the text after it; of several lines the later ones with all they have. -/
def value : Reply → Nat × String
  | .single code line => (code, Utf8.text line.text)
  | .multi code first middle last _ =>
      (code, String.ofList (joinLines (Utf8.decode first.text ::
        (middle.map fun line => Utf8.decode line.text) ++ [code.chars ++ ' ' :: Utf8.decode last.text])))

end Reply

section Lines

variable {bytes rest line : List UInt8} {failing : Option String} {count : Nat}

theorem readline_line (plain : lineFeed ∉ line) :
    readline ⟨line ++ lineFeed :: rest, failing⟩ = (.ok (line ++ [lineFeed]), ⟨rest, failing⟩) := by
  have other : ∀ byte ∈ line, decide (byte ≠ lineFeed) = true := by
    intro byte member
    exact decide_eq_true fun same => plain (same ▸ member)
  unfold readline
  rw [List.dropWhile_append_of_pos other, List.takeWhile_append_of_pos other]
  simp

theorem decode_returns : Utf8.decode (line ++ List.replicate count carriageReturn ++ [lineFeed]) =
    Utf8.decode line ++ List.replicate count '\r' ++ ['\n'] := by
  rw [Utf8.decode_snoc_ascii (by decide)]
  congr 1
  induction count with
  | zero => simp
  | succ count ih =>
      rw [List.replicate_succ', List.replicate_succ', ← List.append_assoc, ← List.append_assoc,
        Utf8.decode_snoc_ascii (by decide), ih]
      rfl

theorem lineText_line (plain : lineFeed ∉ line) (ends : line.getLast? ≠ some carriageReturn) :
    lineText (line ++ List.replicate count carriageReturn ++ [lineFeed]) = Utf8.decode line := by
  have returns : ∀ char ∈ List.replicate count '\r' ++ ['\n'], (char = '\r' || char = '\n') = true := by
    intro char member
    rcases List.mem_append.mp member with turned | fed
    · rw [List.eq_of_mem_replicate turned]
      rfl
    · rw [List.mem_singleton.mp fed]
      rfl
  have dropped : ∀ text : List Char, (text ++ (List.replicate count '\r' ++ ['\n'])).rdropWhile
      (fun char => char = '\r' || char = '\n') = text.rdropWhile fun char => char = '\r' || char = '\n' := by
    intro text
    rw [List.rdropWhile, List.reverse_append, List.dropWhile_append_of_pos]
    · rfl
    · intro char member
      exact returns char (List.mem_reverse.mp member)
  rw [lineText, decode_returns, List.append_assoc, dropped, List.rdropWhile_eq_self_iff]
  intro nonempty
  have found : (Utf8.decode line).getLast? = some ((Utf8.decode line).getLast nonempty) :=
    List.getLast?_eq_some_getLast nonempty
  simp only [Bool.or_eq_true, decide_eq_true_eq, not_or]
  constructor
  · intro same
    rw [same] at found
    obtain ⟨byte, last, code⟩ := Utf8.decode_last found (by decide)
    exact ends (last.trans (congrArg some (UInt8.toNat_inj.mp code)))
  · intro same
    rw [same] at found
    obtain ⟨byte, last, code⟩ := Utf8.decode_last found (by decide)
    have fed : byte = lineFeed := UInt8.toNat_inj.mp code
    exact plain (fed ▸ List.mem_of_getLast? last)

end Lines

section Codes

variable {code : Code} {bytes : List UInt8} {digits : Digits}

theorem digit_lt {digit : Nat} (member : digit ∈ code.digits) : digit < 10 := by
  have below := code.isLt
  simp only [Code.digits, List.mem_cons, List.not_mem_nil, or_false] at member
  omega

theorem digitChar_code : ∀ digit < 10, (Nat.digitChar digit).toNat = 48 + digit ∧
    digitValue (Nat.digitChar digit) = some digit ∧ isAsciiDigit (Nat.digitChar digit) = true := by
  decide

theorem decode_digit {digit : Nat} (small : digit < 10) :
    Utf8.decode (UInt8.ofNat (48 + digit) :: bytes) = Nat.digitChar digit :: Utf8.decode bytes := by
  have code : (UInt8.ofNat (48 + digit)).toNat = 48 + digit := Utf8.toNat_byte (by omega)
  rw [Utf8.decode_cons_ascii (by omega), code, ← (digitChar_code digit small).1, Char.ofNat_toNat]

theorem decode_code : Utf8.decode (code.bytes ++ bytes) = code.chars ++ Utf8.decode bytes := by
  have small : ∀ digit ∈ code.digits, digit < 10 := fun _ => digit_lt
  unfold Code.bytes Code.chars
  generalize code.digits = listed at small
  induction listed with
  | nil => rfl
  | cons digit rest ih =>
      rw [List.map_cons, List.cons_append, decode_digit (small digit List.mem_cons_self), List.map_cons, List.cons_append,
        ih fun other member => small other (List.mem_cons_of_mem _ member)]

theorem code_plain : lineFeed ∉ code.bytes ∧ carriageReturn ∉ code.bytes := by
  have apart : ∀ byte ∈ code.bytes, 48 ≤ byte.toNat := by
    intro byte member
    obtain ⟨digit, listed, rfl⟩ := List.mem_map.mp member
    have small := digit_lt listed
    have code : (UInt8.ofNat (48 + digit)).toNat = 48 + digit := Utf8.toNat_byte (by omega)
    omega
  exact ⟨fun member => absurd (apart _ member) (by decide), fun member => absurd (apart _ member) (by decide)⟩

theorem digits_code : (∀ char ∈ code.chars, digits.isDigit char = true) ∧ digits.int code.chars = some code.val := by
  have known : ∀ digit ∈ code.digits, digits.decimal (Nat.digitChar digit) = some digit := by
    intro digit member
    obtain ⟨number, value, -⟩ := digitChar_code digit (digit_lt member)
    have small := digit_lt member
    rw [(digits.ascii _ (by omega)).1, value]
  constructor
  · intro char member
    obtain ⟨digit, listed, rfl⟩ := List.mem_map.mp member
    exact digits.isDigit_of_decimal _ _ (known digit listed)
  · have below := code.isLt
    have hundreds := known (code.val / 100) (by simp [Code.digits])
    have tens := known (code.val / 10 % 10) (by simp [Code.digits])
    have units := known (code.val % 10) (by simp [Code.digits])
    simp only [Digits.int, Code.chars, Code.digits, List.map_cons, List.map_nil, List.length_cons, List.length_nil,
      maxDigits, Digits.valueFrom, hundreds, tens, units, Option.bind_some]
    rw [if_neg (by omega)]
    exact congrArg some (by omega)

end Codes

section Reading

variable {digits : Digits} {code : Code} {line last : ReplyLine} {middle : List ReplyLine} {reply : Reply}
  {bytes rest front : List UInt8} {failing : Option String} {fuel : Nat} {mark : UInt8}

theorem readline_front (plain : lineFeed ∉ front) :
    readline ⟨front ++ line.bytes ++ rest, failing⟩ =
      (.ok (front ++ line.text ++ List.replicate line.returns carriageReturn ++ [lineFeed]), ⟨rest, failing⟩) := by
  have whole : lineFeed ∉ front ++ line.text ++ List.replicate line.returns carriageReturn := by
    simp only [List.mem_append, not_or]
    exact ⟨⟨plain, line.plain⟩, fun member => absurd (List.eq_of_mem_replicate member) (by decide)⟩
  have read := @readline_line rest _ failing whole
  simpa only [ReplyLine.bytes, List.append_assoc, List.singleton_append] using read

theorem lineText_front (plain : lineFeed ∉ front) (turned : front.getLast? ≠ some carriageReturn) :
    lineText (front ++ line.text ++ List.replicate line.returns carriageReturn ++ [lineFeed]) =
      Utf8.decode (front ++ line.text) := by
  apply lineText_line
  · simp only [List.mem_append, not_or]
    exact ⟨plain, line.plain⟩
  · rw [List.getLast?_append]
    cases text : line.text.getLast? with
    | none => exact turned
    | some byte =>
        have ends := line.ends
        rw [text] at ends
        exact ends

theorem header_plain (feed : mark ≠ lineFeed) : lineFeed ∉ code.bytes ++ [mark] := by
  simp only [List.mem_append, List.mem_singleton, not_or]
  exact ⟨code_plain.1, feed.symm⟩

theorem header_turned (turn : mark ≠ carriageReturn) : (code.bytes ++ [mark]).getLast? ≠ some carriageReturn := by
  rw [List.getLast?_concat]
  exact fun same => turn (Option.some.inj same)

theorem decode_header (ascii : mark.toNat < 128) {text : List UInt8} :
    Utf8.decode (code.bytes ++ [mark] ++ text) = code.chars ++ Char.ofNat mark.toNat :: Utf8.decode text := by
  rw [List.append_assoc, List.singleton_append, decode_code, Utf8.decode_cons_ascii ascii]

theorem not_terminator {text : List UInt8} (inside : ¬ code.bytes ++ [blank] <+: text) :
    (code.chars ++ [' ']).isPrefixOf (Utf8.decode text) = false := by
  rw [Bool.eq_false_iff, Ne, List.isPrefixOf_iff_prefix]
  intro begins
  have ascii : ∀ char ∈ code.chars ++ [' '], ¬ Utf8.Foreign char := by
    intro char member
    rcases List.mem_append.mp member with inCode | only
    · obtain ⟨digit, listed, rfl⟩ := List.mem_map.mp inCode
      have small := digit_lt listed
      have number := (digitChar_code digit small).1
      unfold Utf8.Foreign
      omega
    · rw [List.mem_singleton.mp only]
      decide
  obtain ⟨start, tail, rfl, codes⟩ := Utf8.decode_start begins ascii
  have same : (code.bytes ++ [blank]).map UInt8.toNat = (code.chars ++ [' ']).map Char.toNat := by
    rw [List.map_append, List.map_append, Code.bytes, Code.chars, List.map_map, List.map_map]
    congr 1
    apply List.map_congr_left
    intro digit member
    have small := digit_lt member
    rw [Function.comp_apply, Function.comp_apply, (digitChar_code digit small).1, Utf8.toNat_byte (by omega)]
  have equal : code.bytes ++ [blank] = start :=
    List.map_injective_iff.mpr (fun _ _ => UInt8.toNat_inj.mp) (same.trans codes.symm)
  exact inside ⟨tail, by rw [equal]⟩

theorem moreLines_line {terminator : List Char} {incoming after : Incoming} {line : List UInt8}
    (read : readline incoming = (.ok (line ++ [lineFeed]), after)) :
    moreLines terminator (fuel + 1) incoming =
      if terminator.isPrefixOf (lineText (line ++ [lineFeed])) then (.ok [lineText (line ++ [lineFeed])], after)
      else
        match moreLines terminator fuel after with
        | (.error failure, rest) => (.error failure, rest)
        | (.ok lines, rest) => (.ok (lineText (line ++ [lineFeed]) :: lines), rest) := by
  rw [moreLines, read]
  cases line <;> rfl

theorem lineText_header {char : Char} (feed : mark ≠ lineFeed) (turn : mark ≠ carriageReturn)
    (ascii : mark.toNat < 128) (shown : Char.ofNat mark.toNat = char) :
    lineText (code.bytes ++ [mark] ++ line.text ++ List.replicate line.returns carriageReturn ++ [lineFeed]) =
      code.chars ++ char :: Utf8.decode line.text := by
  rw [lineText_front (header_plain feed) (header_turned turn), decode_header ascii, shown]

theorem moreLines_render (inside : ∀ line ∈ middle, ¬ code.bytes ++ [blank] <+: line.text)
    (enough : middle.length < fuel) :
    moreLines (code.chars ++ [' ']) fuel
        ⟨middle.flatMap ReplyLine.bytes ++ (code.bytes ++ [blank] ++ last.bytes) ++ rest, failing⟩ =
      (.ok (middle.map (fun line => Utf8.decode line.text) ++ [code.chars ++ ' ' :: Utf8.decode last.text]),
        ⟨rest, failing⟩) := by
  induction middle generalizing fuel with
  | nil =>
      cases fuel with
      | zero => cases enough
      | succ fuel =>
          have read := @readline_front last rest (code.bytes ++ [blank]) failing (header_plain (by decide))
          have text := @lineText_header code last blank ' ' (by decide) (by decide) (by decide) rfl
          have found : (code.chars ++ [' ']).isPrefixOf (code.chars ++ ' ' :: Utf8.decode last.text) = true :=
            List.isPrefixOf_iff_prefix.mpr ⟨Utf8.decode last.text, by simp⟩
          rw [List.flatMap_nil, List.nil_append, moreLines_line read, text, if_pos found]
          rfl
  | cons line middle ih =>
      cases fuel with
      | zero => cases enough
      | succ fuel =>
          have later := ih (fun other member => inside other (List.mem_cons_of_mem _ member)) (Nat.lt_of_succ_lt_succ enough)
          have read := @readline_front line (middle.flatMap ReplyLine.bytes ++ (code.bytes ++ [blank] ++ last.bytes) ++ rest)
            [] failing List.not_mem_nil
          have text := @lineText_front line [] List.not_mem_nil nofun
          have apart := not_terminator (inside line List.mem_cons_self)
          rw [List.nil_append] at text
          simp only [List.nil_append] at read
          rw [List.flatMap_cons, List.append_assoc line.bytes, List.append_assoc line.bytes, moreLines_line read, text,
            if_neg (by simp [apart]), later]
          rfl

theorem readReply_header {incoming after : Incoming} {line : List UInt8} {mark : Char} {text : List Char}
    (read : readline incoming = (.ok (line ++ [lineFeed]), after))
    (header : lineText (line ++ [lineFeed]) = code.chars ++ mark :: text) :
    readReply digits incoming =
      if mark = '-' then
        match moreLines (code.chars ++ [' ']) (after.bytes.length + 1) after with
        | (.error failure, rest) => (.error failure, rest)
        | (.ok lines, rest) => (.ok (code.val, String.ofList (joinLines (text :: lines))), rest)
      else (.ok (code.val, String.ofList text), after) := by
  obtain ⟨recognised, number⟩ := @digits_code code digits
  have first := recognised (Nat.digitChar (code.val / 100)) (by simp [Code.chars, Code.digits])
  have second := recognised (Nat.digitChar (code.val / 10 % 10)) (by simp [Code.chars, Code.digits])
  have third := recognised (Nat.digitChar (code.val % 10)) (by simp [Code.chars, Code.digits])
  have shape : code.chars = [Nat.digitChar (code.val / 100), Nat.digitChar (code.val / 10 % 10),
      Nat.digitChar (code.val % 10)] := rfl
  rw [shape] at number header ⊢
  rw [readReply, read]
  cases line with
  | nil =>
      simp only [List.nil_append] at header ⊢
      rw [header]
      simp only [List.cons_append, List.nil_append, first, second, third, Bool.and_true, if_true, number] <;>
        rfl
  | cons byte line =>
      simp only [List.cons_append] at header ⊢
      rw [header]
      simp only [List.nil_append, first, second, third, Bool.and_true, if_true, number] <;>
        rfl

theorem readReply_render : readReply digits ⟨reply.render ++ rest, failing⟩ = (.ok reply.value, ⟨rest, failing⟩) := by
  cases reply with
  | single code line =>
      have read := @readline_front line rest (code.bytes ++ [blank]) failing (header_plain (by decide))
      have text := @lineText_header code line blank ' ' (by decide) (by decide) (by decide) rfl
      have split : (Reply.single code line).render ++ rest = code.bytes ++ [blank] ++ line.bytes ++ rest := by
        simp [Reply.render]
      rw [split, readReply_header read text]
      rfl
  | multi code first middle last inside =>
      have read := @readline_front first (middle.flatMap ReplyLine.bytes ++ (code.bytes ++ [blank] ++ last.bytes) ++ rest)
        (code.bytes ++ [hyphen]) failing (header_plain (by decide))
      have text := @lineText_header code first hyphen '-' (by decide) (by decide) (by decide) rfl
      have split : (Reply.multi code first middle last inside).render ++ rest = code.bytes ++ [hyphen] ++ first.bytes ++
          (middle.flatMap ReplyLine.bytes ++ (code.bytes ++ [blank] ++ last.bytes) ++ rest) := by
        simp [Reply.render]
      have enough : middle.length <
          (middle.flatMap ReplyLine.bytes ++ (code.bytes ++ [blank] ++ last.bytes) ++ rest).length + 1 := by
        have each : middle.length ≤ (middle.flatMap ReplyLine.bytes).length := by
          clear inside split read
          induction middle with
          | nil => exact Nat.le_refl _
          | cons line middle ih =>
              simp only [List.flatMap_cons, List.length_append, List.length_cons, ReplyLine.bytes, List.length_replicate,
                List.length_nil] at ih ⊢
              omega
        simp only [List.length_append]
        omega
      rw [split, readReply_header read text, if_pos (by decide), moreLines_render inside enough]
      rfl

theorem readReplies_render {replies : List Reply} :
    readReplies digits replies.length ⟨replies.flatMap Reply.render ++ rest, failing⟩ =
      (.ok (replies.map Reply.value), ⟨rest, failing⟩) := by
  induction replies with
  | nil => rfl
  | cons reply replies ih =>
      rw [List.length_cons, List.flatMap_cons, List.append_assoc, readReplies, readReply_render]
      dsimp only
      rw [ih]
      rfl

end Reading

section Refusals

variable {digits : Digits} {bytes line : List UInt8} {incoming : Incoming} {terminator : List Char} {fuel : Nat}

def firstLine (bytes : List UInt8) : List UInt8 := bytes.takeWhile (· ≠ lineFeed)

/-- Four characters of which the first three are digits. -/
def recognised (digits : Digits) (line : List UInt8) : Bool :=
  match lineText line with
  | first :: second :: third :: _ :: _ => digits.isDigit first && digits.isDigit second && digits.isDigit third
  | _ => false

theorem lineText_feed : lineText (line ++ [lineFeed]) = lineText line := by
  rw [lineText, Utf8.decode_snoc_ascii (by decide), List.rdropWhile_concat_pos _ _ _ (by decide)]
  rfl

theorem readline_closed : ∃ after, (readline ⟨bytes, none⟩ = (.ok (firstLine bytes), after) ∧ bytes = firstLine bytes) ∨
    readline ⟨bytes, none⟩ = (.ok (firstLine bytes ++ [lineFeed]), after) := by
  unfold readline firstLine
  cases found : bytes.dropWhile (· ≠ lineFeed) with
  | nil =>
      have whole := List.takeWhile_append_dropWhile (p := (· ≠ lineFeed)) (l := bytes)
      rw [found, List.append_nil] at whole
      exact ⟨_, .inl ⟨by rw [whole], whole.symm⟩⟩
  | cons byte rest => exact ⟨_, .inr rfl⟩

theorem moreLines_failure {failure : Failure} {after : Incoming}
    (raised : moreLines terminator fuel incoming = (.error failure, after)) : ∃ text, failure = .os text := by
  induction fuel generalizing incoming after with
  | zero => cases raised
  | succ fuel ih =>
      rw [moreLines] at raised
      split at raised
      next failed =>
        cases raised
        unfold readline at failed
        split at failed <;> cases failed
        exact ⟨_, rfl⟩
      · cases raised
      next =>
        split at raised
        · cases raised
        split at raised
        next later => exact ih (by rw [later]; exact raised)
        · cases raised

theorem readReply_line_refuses_iff {after : Incoming} (read : readline incoming = (.ok line, after)) (nonempty : line ≠ []) :
    (∃ code message, (readReply digits incoming).1 = .error (.ftp code message)) ↔ recognised digits line = false := by
  obtain ⟨byte, rest, rfl⟩ := List.exists_cons_of_ne_nil nonempty
  unfold readReply recognised
  rw [read]
  dsimp only
  generalize lineText (byte :: rest) = text
  match text with
  | [] | [_] | [_, _] | [_, _, _] => exact iff_of_true ⟨_, _, rfl⟩ rfl
  | first :: second :: third :: mark :: text =>
      dsimp only
      cases digits.isDigit first && digits.isDigit second && digits.isDigit third with
      | false =>
          rw [if_neg Bool.false_ne_true]
          exact iff_of_true ⟨_, _, rfl⟩ rfl
      | true =>
          rw [if_pos rfl]
          refine iff_of_false ?_ Bool.true_eq_false.mp
          rintro ⟨code, message, refused⟩
          split at refused
          · cases refused
          split at refused
          · split at refused
            next failed =>
              cases refused
              obtain ⟨text, same⟩ := moreLines_failure failed
              cases same
            · cases refused
          · cases refused

theorem readReply_refuses_iff : (∃ code message, (readReply digits ⟨bytes, none⟩).1 = .error (.ftp code message)) ↔
    recognised digits (firstLine bytes) = false := by
  obtain ⟨after, ⟨read, whole⟩ | read⟩ := @readline_closed bytes
  · by_cases empty : firstLine bytes = []
    · rw [empty] at read ⊢
      refine iff_of_true ⟨none, "control connection closed by server", ?_⟩ rfl
      rw [readReply, read]
    · exact readReply_line_refuses_iff read empty
  · have same : recognised digits (firstLine bytes ++ [lineFeed]) = recognised digits (firstLine bytes) := by
      unfold recognised
      rw [lineText_feed]
    rw [readReply_line_refuses_iff read (List.concat_ne_nil _ _), same]

def BeginsReply (bytes : List UInt8) : Prop := ∃ (reply : Reply) (rest : List UInt8), bytes = reply.render ++ rest

/-- Replies are read as they were written, and what follows them, if it begins no reply,
is refused. -/
def Framed (digits : Digits) (replies : List Reply) (bytes : List UInt8) : Prop :=
  readReplies digits replies.length ⟨replies.flatMap Reply.render ++ bytes, none⟩ =
      (.ok (replies.map Reply.value), ⟨bytes, none⟩) ∧
    (¬ BeginsReply bytes → ∃ code message, (readReply digits ⟨bytes, none⟩).1 = .error (.ftp code message))

/-- What follows the replies is refused by its first line, or begins a reply. -/
theorem replies_framed_iff (digits : Digits) (replies : List Reply) (bytes : List UInt8) :
    Framed digits replies bytes ↔ BeginsReply bytes ∨ recognised digits (firstLine bytes) = false := by
  rw [Framed, readReply_refuses_iff, and_iff_right readReplies_render, or_iff_not_imp_left]

theorem begins_cases (begins : BeginsReply bytes) : ∃ code : Code, ∃ rest,
    bytes = code.bytes ++ blank :: rest ∨ bytes = code.bytes ++ hyphen :: rest ∧ 2 ≤ bytes.count lineFeed := by
  obtain ⟨reply, rest, rfl⟩ := begins
  cases reply with
  | single code line =>
      refine ⟨code, line.bytes ++ rest, .inl ?_⟩
      rw [Reply.render, List.append_assoc, List.cons_append]
  | multi code first middle last inside =>
      refine ⟨code, first.bytes ++ middle.flatMap ReplyLine.bytes ++ (code.bytes ++ blank :: last.bytes) ++ rest, .inr ⟨?_, ?_⟩⟩
      · simp [Reply.render]
      · have feeds (line : ReplyLine) : 1 ≤ line.bytes.count lineFeed := by
          simp only [ReplyLine.bytes, List.count_append, List.count_singleton_self]
          omega
        have head := feeds first
        have tail := feeds last
        simp only [Reply.render, List.count_append, List.count_cons]
        omega

end Refusals

def cutGreeting : List UInt8 := [50, 50, 48, 45, 72, 105, 13, 10]

/-- A greeting cut off after its first line is read as a whole one, and so is one without a blank. -/
theorem cut_greeting_read :
    (readReply asciiDigits ⟨cutGreeting, none⟩).1 = .ok (220, "Hi") ∧ ¬ Framed asciiDigits [] cutGreeting ∧
      (readReply asciiDigits ⟨[50, 50, 48, 120, 72, 105, 13, 10], none⟩).1 = .ok (220, "Hi") := by
  have read : (readReply asciiDigits ⟨cutGreeting, none⟩).1 = .ok (220, "Hi") := rfl
  refine ⟨read, fun framed => ?_, rfl⟩
  have cut : ¬ BeginsReply cutGreeting := by
    intro begins
    obtain ⟨code, rest, same | ⟨-, feeds⟩⟩ := begins_cases begins
    · have mark := congrArg (·[3]?) same
      simp [cutGreeting, Code.bytes, Code.digits, blank] at mark
    · exact absurd feeds (by decide)
  obtain ⟨code, message, refused⟩ := framed.2 cut
  cases read.symm.trans refused

end Dosm.Ftp
