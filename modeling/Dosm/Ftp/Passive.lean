import Dosm.Ftp.Client
import Dosm.Ftp.Framing

namespace Dosm.Ftp

open Python Program

/-! Where the data connections of the passive modes go.

The reply to `EPSV` has its port between marks in parentheses, the reply to `PASV` six
numbers with commas between them. The client takes the last two numbers of the whole text
for the port and the first four for the address.
-/

/-- A number in decimal digits, up to a bound. -/
structure Number (chars : List Char) (bound : Nat) : Prop where
  nonempty : chars ≠ []
  digits : ∀ char ∈ chars, char.isDigit = true
  bounded : Nat.ofDigitChars 10 chars 0 ≤ bound

def portBound : Nat := 65535

def octetBound : Nat := 255

/-- The port between three marks and a fourth. -/
def extendedGroup (mark : Char) (port : List Char) : List Char :=
  '(' :: mark :: mark :: mark :: (port ++ [mark, ')'])

/-- A reply to `EPSV` whose text has a port in it. -/
def ExtendedReply (reply : Nat × String) (port : Nat) : Prop :=
  reply.1 = 229 ∧ ∃ before mark chars after, reply.2.toList = before ++ extendedGroup mark chars ++ after ∧
    ('!' ≤ mark ∧ mark ≤ '~') ∧ Number chars portBound ∧ Nat.ofDigitChars 10 chars 0 = port

structure Endpoint where
  (h1 h2 h3 h4 p1 p2 : List Char)
  octets : ∀ chars ∈ [h1, h2, h3, h4, p1, p2], Number chars octetBound

namespace Endpoint

variable (endpoint : Endpoint)

def host : List (List Char) := [endpoint.h1, endpoint.h2, endpoint.h3, endpoint.h4]

def numbers : List (List Char) := endpoint.host ++ [endpoint.p1, endpoint.p2]

def text : List Char := [','].intercalate endpoint.numbers

def port : Nat := Nat.ofDigitChars 10 endpoint.p1 0 * 256 + Nat.ofDigitChars 10 endpoint.p2 0

end Endpoint

namespace Endpoint

variable {endpoint : Endpoint}

theorem port_le : endpoint.port ≤ portBound := by
  have high := (endpoint.octets endpoint.p1 (by simp)).bounded
  have low := (endpoint.octets endpoint.p2 (by simp)).bounded
  unfold octetBound at high low
  unfold port portBound
  omega

end Endpoint

def addressOf (numbers : List (List Char)) : String := ".".intercalate ((numbers.take 4).map String.ofList)

section Texts

variable (tables : CharTables)

/-- The endpoint stands in the text, apart from other digits. -/
structure Stands (before : List Char) (endpoint : Endpoint) (after text : List Char) : Prop where
  within : text = before ++ endpoint.text ++ after
  begins : ∀ char, before.getLast? = some char → isDecimal tables char = false
  ends : ∀ char, after.head? = some char → isDecimal tables char = false

/-- A reply to `PASV` whose text has an endpoint in it. -/
def PassiveReply (reply : Nat × String) (address : String) (port : Nat) : Prop :=
  reply.1 = 227 ∧ ∃ before endpoint after, Stands tables before endpoint after reply.2.toList ∧
    addressOf endpoint.host = address ∧ endpoint.port = port

/-- The client goes where the replies say, and raises its own error when they do not say where. -/
structure EndpointRead (client : FtpClient) (asked : List (List UInt8)) (first second : Nat × String)
    (ended : Except Failure (String × Nat) × Wire) : Prop where
  extended : (∃ port, ExtendedReply first port) → ∃ port, ExtendedReply first port ∧ ended.1 = .ok (client.host, port)
  asks : (¬ ∃ port, ExtendedReply first port) →
    ended.2.sent = asked ++ [controlLine "EPSV", controlLine "PASV"]
  passive : (¬ ∃ port, ExtendedReply first port) → (∃ address port, PassiveReply tables second address port) →
    ∃ address port, PassiveReply tables second address port ∧
      ended.1 = .ok (if client.trustPasvIp then address else client.host, port)
  refused : (¬ ∃ port, ExtendedReply first port) → (¬ ∃ address port, PassiveReply tables second address port) →
    ∃ code message, ended.1 = .error (.ftp code message)

/-! What the pattern for the port finds. -/

/-- A group of the pattern begins the text. -/
def GroupAt (text chars : List Char) : Prop :=
  ∃ mark after, text = extendedGroup mark chars ++ after ∧ ('!' ≤ mark ∧ mark ≤ '~') ∧ chars ≠ [] ∧
    ∀ char ∈ chars, isDecimal tables char = true

inductive FirstGroup (chars : List Char) : List Char → Prop
  | here {text : List Char} (group : GroupAt tables text chars) : FirstGroup chars text
  | later {char : Char} {text : List Char} (other : ∀ group, ¬ GroupAt tables (char :: text) group)
      (rest : FirstGroup chars text) : FirstGroup chars (char :: text)

variable {tables} {mark : Char} {text chars : List Char}

theorem closing_not_decimal : isDecimal tables ')' = false := by
  rw [isDecimal, (tables.digits.ascii ')' (by decide)).1]
  rfl

theorem isDecimal_of_isDigit {char : Char} (digit : char.isDigit = true) : isDecimal tables char = true := by
  have small : char.toNat < 128 := by
    have bounds : '0' ≤ char ∧ char ≤ '9' := by
      simpa [Char.isDigit, Char.le_def, UInt32.le_iff_toNat_le] using digit
    have upper : char.toNat ≤ '9'.toNat := bounds.2
    exact upper.trans_lt (by decide)
  rw [isDecimal, (tables.digits.ascii char small).1, digitValue_isDigit digit]
  rfl

theorem closingDigits_iff : closingDigits tables mark text = some chars ↔
    (∀ char ∈ chars, isDecimal tables char = true) ∧ ∃ after, text = chars ++ mark :: ')' :: after := by
  induction text generalizing chars with
  | nil => simp [closingDigits]
  | cons char rest ih =>
      rw [closingDigits]
      by_cases ended : char = mark ∧ rest.head? = some ')'
      · rw [if_pos ended]
        obtain ⟨rfl, closes⟩ := ended
        obtain ⟨after, rfl⟩ : ∃ after, rest = ')' :: after := by
          cases rest with
          | nil => cases closes
          | cons other after => exact ⟨after, by cases closes; rfl⟩
        constructor
        · intro same
          cases same
          exact ⟨nofun, after, rfl⟩
        · rintro ⟨decimal, other, same⟩
          cases chars with
          | nil => rfl
          | cons first more =>
              obtain ⟨rfl, follows⟩ := List.cons.inj same
              have closing : isDecimal tables ')' = true := by
                cases more with
                | nil =>
                    have equal : ')' = char := (List.cons.inj follows).1
                    rw [equal]
                    exact decimal char List.mem_cons_self
                | cons second more =>
                    have equal : ')' = second := (List.cons.inj follows).1
                    rw [equal]
                    exact decimal second (List.mem_cons_of_mem _ List.mem_cons_self)
              cases closing.symm.trans closing_not_decimal
      · rw [if_neg ended]
        have unfinished : ∀ after, char :: rest ≠ mark :: ')' :: after := by
          rintro after same
          cases same
          exact ended ⟨rfl, rfl⟩
        cases decimal : isDecimal tables char with
        | false =>
            rw [if_neg Bool.false_ne_true]
            refine iff_of_false nofun ?_
            rintro ⟨digits, after, same⟩
            cases chars with
            | nil => exact unfinished after same
            | cons first more =>
                obtain ⟨rfl, -⟩ := List.cons.inj same
                cases (digits char List.mem_cons_self).symm.trans decimal
        | true =>
            rw [if_pos rfl, Option.map_eq_some_iff]
            constructor
            · rintro ⟨more, found, rfl⟩
              obtain ⟨digits, after, rfl⟩ := ih.mp found
              exact ⟨List.forall_mem_cons.mpr ⟨decimal, digits⟩, after, rfl⟩
            · rintro ⟨digits, after, same⟩
              cases chars with
              | nil => exact absurd same (unfinished after)
              | cons first more =>
                  obtain ⟨rfl, follows⟩ := List.cons.inj same
                  exact ⟨more, ih.mpr ⟨(List.forall_mem_cons.mp digits).2, after, follows⟩, rfl⟩

theorem epsvGroup_iff : epsvGroup tables text = some chars ↔ GroupAt tables text chars := by
  constructor
  · intro found
    unfold epsvGroup at found
    split at found
    next first second third rest =>
      split at found
      next marks =>
        obtain ⟨lower, upper, rfl, rfl⟩ := marks
        obtain ⟨closed, nonempty⟩ := Option.filter_eq_some_iff.mp found
        obtain ⟨digits, after, rfl⟩ := closingDigits_iff.mp closed
        exact ⟨_, after, by simp [extendedGroup], ⟨lower, upper⟩, of_decide_eq_true nonempty, digits⟩
      · cases found
    · cases found
  · rintro ⟨mark, after, rfl, marks, nonempty, digits⟩
    have closed : closingDigits tables mark (chars ++ [mark, ')'] ++ after) = some chars :=
      closingDigits_iff.mpr ⟨digits, after, by simp⟩
    simp only [extendedGroup, epsvGroup, List.cons_append]
    rw [if_pos ⟨marks.1, marks.2, trivial, trivial⟩]
    exact Option.filter_eq_some_iff.mpr ⟨closed, decide_eq_true nonempty⟩

theorem findEpsv_iff : findEpsv tables text = some chars ↔ FirstGroup tables chars text := by
  induction text with
  | nil =>
      refine iff_of_false nofun fun first => ?_
      cases first with
      | here group =>
          obtain ⟨mark, after, same, -⟩ := group
          cases same
  | cons char rest ih =>
      rw [findEpsv]
      cases found : epsvGroup tables (char :: rest) with
      | some group =>
          dsimp only
          constructor
          · intro same
            cases same
            exact .here (epsvGroup_iff.mp found)
          · intro first
            cases first with
            | here other => exact found.symm.trans (epsvGroup_iff.mpr other)
            | later other => exact absurd (epsvGroup_iff.mp found) (other group)
      | none =>
          have other : ∀ group, ¬ GroupAt tables (char :: rest) group := by
            intro group there
            cases found.symm.trans (epsvGroup_iff.mpr there)
          dsimp only
          rw [ih]
          constructor
          · exact .later other
          · intro first
            cases first with
            | here group => exact absurd group (other chars)
            | later _ rest => exact rest

theorem findEpsv_isSome {before : List Char} (group : GroupAt tables text chars) :
    (findEpsv tables (before ++ text)).isSome := by
  induction before with
  | nil =>
      cases text with
      | nil =>
          obtain ⟨mark, after, same, -⟩ := group
          cases same
      | cons char rest =>
          rw [List.nil_append, findEpsv, epsvGroup_iff.mpr group]
          rfl
  | cons char before ih =>
      rw [List.cons_append, findEpsv]
      split
      · rfl
      · exact ih

/-! What the numbers of a text are. -/

theorem numbersAfter_run {run rest begun : List Char} (digits : ∀ char ∈ run, isDecimal tables char = true) :
    numbersAfter tables begun (run ++ rest) = numbersAfter tables (run.reverse ++ begun) rest := by
  induction run generalizing begun with
  | nil => rfl
  | cons char run ih =>
      obtain ⟨first, others⟩ := List.forall_mem_cons.mp digits
      rw [List.cons_append, numbersAfter, if_pos first, ih others]
      simp

theorem numbersAfter_apart {left right begun : List Char} {char : Char} (other : isDecimal tables char = false) :
    numbersAfter tables begun (left ++ char :: right) =
      numbersAfter tables begun left ++ numbersAfter tables [] right := by
  induction left generalizing begun with
  | nil =>
      have after : numbersAfter tables begun (char :: right) = if begun = [] then numbersAfter tables [] right
          else begun.reverse :: numbersAfter tables [] right := by
        rw [numbersAfter, if_neg (by simp [other])]
      rw [List.nil_append, after, numbersAfter]
      split
      · rw [List.nil_append]
      · rfl
  | cons first left ih =>
      rw [List.cons_append, numbersAfter, numbersAfter]
      split
      · exact ih
      · split
        · exact ih
        · rw [ih, List.cons_append]

theorem numbersAfter_append {left right : List Char}
    (boundary : (∀ char, left.getLast? = some char → isDecimal tables char = false) ∨
      ∀ char, right.head? = some char → isDecimal tables char = false) :
    numbersAfter tables [] (left ++ right) = numbersAfter tables [] left ++ numbersAfter tables [] right := by
  rcases boundary with ends | begins
  · rcases left.eq_nil_or_concat with rfl | ⟨front, char, rfl⟩
    · rfl
    · have other := ends char (by simp)
      rw [List.concat_eq_append, List.append_assoc, List.singleton_append, numbersAfter_apart other,
        numbersAfter_apart other]
      simp [numbersAfter]
  · cases right with
    | nil => simp [numbersAfter]
    | cons char rest =>
        have other := begins char rfl
        have alone := @numbersAfter_apart tables [] rest [] char other
        rw [List.nil_append] at alone
        rw [numbersAfter_apart other, alone]
        rfl

theorem numbersAfter_digits {run : List Char} (nonempty : run ≠ [])
    (digits : ∀ char ∈ run, isDecimal tables char = true) : numbersAfter tables [] run = [run] := by
  have whole := @numbersAfter_run tables run [] [] digits
  rw [List.append_nil] at whole
  rw [whole, numbersAfter, List.append_nil, if_neg (by simpa using nonempty), List.reverse_reverse]

theorem comma_not_decimal : isDecimal tables ',' = false := by
  rw [isDecimal, (tables.digits.ascii ',' (by decide)).1]
  rfl

theorem numbersAfter_commas {runs : List (List Char)} (nonempty : ∀ run ∈ runs, run ≠ [])
    (digits : ∀ run ∈ runs, ∀ char ∈ run, isDecimal tables char = true) :
    numbersAfter tables [] ([','].intercalate runs) = runs := by
  induction runs with
  | nil => rfl
  | cons run runs ih =>
      obtain ⟨filled, othersFilled⟩ := List.forall_mem_cons.mp nonempty
      obtain ⟨decimal, othersDecimal⟩ := List.forall_mem_cons.mp digits
      cases runs with
      | nil =>
          rw [List.intercalate_singleton]
          exact numbersAfter_digits filled decimal
      | cons second runs =>
          rw [List.intercalate_cons_cons, List.append_assoc, List.singleton_append,
            numbersAfter_apart comma_not_decimal, numbersAfter_digits filled decimal, ih othersFilled othersDecimal]
          rfl

theorem Endpoint.numbersAfter_text (endpoint : Endpoint) : numbersAfter tables [] endpoint.text = endpoint.numbers :=
  numbersAfter_commas (fun run member => (endpoint.octets run member).nonempty) fun run member char inside =>
    isDecimal_of_isDigit ((endpoint.octets run member).digits char inside)

theorem Stands.numbers {before after : List Char} {endpoint : Endpoint} (stands : Stands tables before endpoint after text) :
    numbersAfter tables [] text =
      numbersAfter tables [] before ++ endpoint.numbers ++ numbersAfter tables [] after := by
  rw [stands.within, numbersAfter_append (.inr stands.ends), numbersAfter_append (.inl stands.begins),
    endpoint.numbersAfter_text]

def portOf (tables : CharTables) (numbers : List (List Char)) : Option Nat := do
  let p1 ← tables.digits.int (numbers.reverse.getD 1 [])
  let p2 ← tables.digits.int (numbers.reverse.getD 0 [])
  return p1 * 256 + p2

theorem portOf_append {front back : List (List Char)} {p1 p2 : List Char} :
    portOf tables (front ++ ([p1, p2] ++ back)) = portOf tables ([p1, p2] ++ back) := by
  have last : ∀ index, index < 2 → (front ++ ([p1, p2] ++ back)).reverse.getD index [] =
      ([p1, p2] ++ back).reverse.getD index [] := by
    intro index below
    have enough : index < ([p1, p2] ++ back).reverse.length := by
      simp
      omega
    rw [List.reverse_append, List.getD_eq_getElem?_getD, List.getD_eq_getElem?_getD, List.getElem?_append_left enough]
  rw [portOf, portOf, last 1 (by omega), last 0 (by omega)]

theorem addressOf_append {front back : List (List Char)} (enough : 4 ≤ front.length) :
    addressOf (front ++ back) = addressOf front := by
  rw [addressOf, addressOf, List.take_append_of_le_length enough]

/-- The numbers around an endpoint of the text do not take the place of its own. -/
def Undisturbed (tables : CharTables) (client : FtpClient) (text : List Char) : Prop :=
  ∃ before endpoint after, Stands tables before endpoint after text ∧
    portOf tables ([endpoint.p1, endpoint.p2] ++ numbersAfter tables [] after) = some endpoint.port ∧
    (client.trustPasvIp = true →
      addressOf (numbersAfter tables [] before ++ endpoint.host) = addressOf endpoint.host)

variable {client : FtpClient} {reply : String}

theorem pasvEndpoint_short (short : (numbersOf tables reply).length < 6) :
    ∃ message, pasvEndpoint tables client reply = .error (.ftp (some 227) message) := by
  rw [pasvEndpoint, if_pos short]
  exact ⟨_, rfl⟩

theorem pasvEndpoint_long (long : ¬ (numbersOf tables reply).length < 6) : pasvEndpoint tables client reply =
    match portOf tables (numbersOf tables reply) with
    | some port => .ok (if client.trustPasvIp then addressOf (numbersOf tables reply) else client.host, port)
    | none => .error (.value "invalid literal for int()") := by
  rw [pasvEndpoint, if_neg long]
  unfold intOf portOf
  simp only [String.toList_ofList]
  cases tables.digits.int ((numbersOf tables reply).reverse.getD 1 []) with
  | none => rfl
  | some p1 =>
      cases tables.digits.int ((numbersOf tables reply).reverse.getD 0 []) with
      | none => rfl
      | some p2 => rfl

section Standing

variable {before after : List Char} {endpoint : Endpoint} (stands : Stands tables before endpoint after reply.toList)

include stands

theorem Stands.long : ¬ (numbersOf tables reply).length < 6 := by
  rw [numbersOf, stands.numbers, List.length_append, List.length_append]
  simp [Endpoint.numbers, Endpoint.host]
  omega

theorem Stands.portOf : portOf tables (numbersOf tables reply) =
    Ftp.portOf tables ([endpoint.p1, endpoint.p2] ++ numbersAfter tables [] after) := by
  have split : numbersAfter tables [] before ++ endpoint.numbers ++ numbersAfter tables [] after =
      (numbersAfter tables [] before ++ endpoint.host) ++
        ([endpoint.p1, endpoint.p2] ++ numbersAfter tables [] after) := by
    simp [Endpoint.numbers]
  rw [numbersOf, stands.numbers, split, portOf_append]

theorem Stands.addressOf : addressOf (numbersOf tables reply) =
    Ftp.addressOf (numbersAfter tables [] before ++ endpoint.host) := by
  have split : numbersAfter tables [] before ++ endpoint.numbers ++ numbersAfter tables [] after =
      (numbersAfter tables [] before ++ endpoint.host) ++
        ([endpoint.p1, endpoint.p2] ++ numbersAfter tables [] after) := by
    simp [Endpoint.numbers]
  rw [numbersOf, stands.numbers, split, addressOf_append (by simp [Endpoint.host])]

theorem Stands.pasvEndpoint_iff : pasvEndpoint tables client reply =
      .ok (if client.trustPasvIp then Ftp.addressOf endpoint.host else client.host, endpoint.port) ↔
    Ftp.portOf tables ([endpoint.p1, endpoint.p2] ++ numbersAfter tables [] after) = some endpoint.port ∧
      (client.trustPasvIp = true →
        Ftp.addressOf (numbersAfter tables [] before ++ endpoint.host) = Ftp.addressOf endpoint.host) := by
  rw [pasvEndpoint_long stands.long, stands.portOf, stands.addressOf]
  cases Ftp.portOf tables ([endpoint.p1, endpoint.p2] ++ numbersAfter tables [] after) with
  | none => simp
  | some port =>
      cases client.trustPasvIp with
      | false => simp
      | true => simp [and_comm]

theorem Stands.undisturbed (last : numbersAfter tables [] after = [])
    (alone : client.trustPasvIp = true → numbersAfter tables [] before = [])
    (short : ∀ chars ∈ endpoint.numbers, chars.length ≤ maxDigits) : Undisturbed tables client reply.toList := by
  have value : ∀ chars ∈ endpoint.numbers, tables.digits.int chars = some (Nat.ofDigitChars 10 chars 0) :=
    fun chars member => tables.digits.int_digits (endpoint.octets chars member).digits (short chars member)
  refine ⟨before, endpoint, after, stands, ?_, fun trusted => ?_⟩
  · have high := value endpoint.p1 (by simp [Endpoint.numbers])
    have low := value endpoint.p2 (by simp [Endpoint.numbers])
    rw [last, Ftp.portOf]
    change (tables.digits.int endpoint.p1).bind (fun p1 => (tables.digits.int endpoint.p2).bind fun p2 =>
      some (p1 * 256 + p2)) = _
    rw [high, low]
    rfl
  · rw [alone trusted, List.nil_append]

end Standing

end Texts

/-! What the replies come to. -/

section Exchange

variable {tables : CharTables} {client : FtpClient} {wire : Wire} {channel : Channel}
  {reply : Nat × String} {rest : Incoming} {command : String} {Value : Type}

def Wire.exchanged (wire : Wire) (channel : Channel) (command : String) (rest : Incoming) : Wire :=
  { wire with
    sent := wire.sent ++ [controlLine command]
    channel := some { incoming := rest, fails := fun count => channel.fails (count + 1) } }

theorem exchange {next : Nat × String → Session Value} (found : wire.channel = some channel)
    (lasts : channel.fails 0 = none) (read : readReply tables.digits channel.incoming = (.ok reply, rest)) :
    (send command >>= fun _ => answer tables >>= next) wire = next reply (wire.exchanged channel command rest) := by
  rw [bind_of_ok (send_succeeds found lasts)]
  refine bind_of_ok ?_
  unfold answer
  dsimp only
  rw [read]
  rfl

theorem exchange_expect {next : Nat × String → Session Value} {codes : List Nat} (found : wire.channel = some channel)
    (lasts : channel.fails 0 = none) (read : readReply tables.digits channel.incoming = (.ok reply, rest)) :
    (send command >>= fun _ => expect tables codes >>= next) wire =
      match checkReply codes reply with
      | .ok reply => next reply (wire.exchanged channel command rest)
      | .error failure => (.error failure, wire.exchanged channel command rest) := by
  unfold expect
  simp only [bind_assoc]
  rw [exchange found lasts read]
  cases checked : checkReply codes reply with
  | ok reply => exact bind_of_ok rfl
  | error failure => exact bind_of_error rfl

variable {first second : Nat × String}

/-- The server answers `EPSV` with the first reply and, unless that has a port, `PASV` with the second. -/
def Answers (tables : CharTables) (wire : Wire) (first second : Nat × String) : Prop :=
  ∃ channel rest, wire.channel = some channel ∧ (∀ count, channel.fails count = none) ∧
    readReply tables.digits channel.incoming = (.ok first, rest) ∧
    ((¬ ∃ port, ExtendedReply first port) → ∃ last, readReply tables.digits rest = (.ok second, last))

theorem passive_found {chars : List Char} (found : wire.channel = some channel) (lasts : channel.fails 0 = none)
    (read : readReply tables.digits channel.incoming = (.ok reply, rest))
    (group : (if reply.1 = 229 then findEpsv tables reply.2.toList else none) = some chars) :
    passive tables client wire =
      match tables.digits.int chars with
      | some port => (.ok (client.host, port), wire.exchanged channel "EPSV" rest)
      | none => (.error (.value "invalid literal for int()"), wire.exchanged channel "EPSV" rest) := by
  unfold passive
  rw [exchange found lasts read]
  dsimp only
  rw [group]
  dsimp only
  unfold intOf
  rw [String.toList_ofList]
  cases tables.digits.int chars with
  | none => rfl
  | some port => rfl

theorem passive_not_found {last : Incoming} (found : wire.channel = some channel)
    (lasts : ∀ count, channel.fails count = none)
    (read : readReply tables.digits channel.incoming = (.ok first, rest))
    (again : readReply tables.digits rest = (.ok second, last))
    (none : (if first.1 = 229 then findEpsv tables first.2.toList else none) = none) :
    (passive tables client wire).1 = (checkReply [227] second).bind (fun reply => pasvEndpoint tables client reply.2) ∧
      (passive tables client wire).2.sent = wire.sent ++ [controlLine "EPSV", controlLine "PASV"] := by
  unfold passive
  rw [exchange found (lasts 0) read]
  dsimp only
  rw [none]
  dsimp only
  have kept : (wire.exchanged channel "EPSV" rest).channel = some
      { incoming := rest, fails := fun count => channel.fails (count + 1) } := rfl
  rw [exchange_expect kept (lasts 1) again]
  cases checked : checkReply [227] second with
  | ok reply => exact ⟨rfl, List.append_assoc ..⟩
  | error failure => exact ⟨rfl, List.append_assoc ..⟩

theorem checkReply_one {code : Nat} {reply : Nat × String} :
    (reply.1 = code ∧ checkReply [code] reply = .ok reply) ∨
      reply.1 ≠ code ∧ ∃ message, checkReply [code] reply = .error (.ftp (some reply.1) message) := by
  unfold checkReply
  by_cases same : reply.1 = code
  · exact .inl ⟨same, if_pos (List.mem_singleton.mpr same)⟩
  · exact .inr ⟨same, _, if_neg fun member => same (List.mem_singleton.mp member)⟩

theorem extendedReply_found {reply : Nat × String} (extended : ∃ port, ExtendedReply reply port) :
    reply.1 = 229 ∧ (findEpsv tables reply.2.toList).isSome := by
  obtain ⟨port, code, before, mark, chars, after, same, marks, number, -⟩ := extended
  refine ⟨code, ?_⟩
  rw [same, List.append_assoc]
  exact findEpsv_isSome ⟨mark, after, rfl, marks, number.nonempty, fun char member =>
    isDecimal_of_isDigit (number.digits char member)⟩

theorem endpoint_read_found {chars : List Char} (found : wire.channel = some channel) (lasts : channel.fails 0 = none)
    (read : readReply tables.digits channel.incoming = (.ok first, rest)) (code : first.1 = 229)
    (group : findEpsv tables first.2.toList = some chars) :
    EndpointRead tables client wire.sent first second (passive tables client wire) ↔
      ∃ port, ExtendedReply first port ∧ tables.digits.int chars = some port := by
  have run := @passive_found tables client wire channel first rest chars found lasts read (by rw [if_pos code, group])
  have sent : (passive tables client wire).2.sent = wire.sent ++ [controlLine "EPSV"] := by
    rw [run]
    split <;> rfl
  constructor
  · intro read
    by_cases extended : ∃ port, ExtendedReply first port
    · obtain ⟨port, encodes, outcome⟩ := read.extended extended
      refine ⟨port, encodes, ?_⟩
      rw [run] at outcome
      cases value : tables.digits.int chars with
      | none =>
          rw [value] at outcome
          cases outcome
      | some other =>
          rw [value] at outcome
          cases outcome
          rfl
    · have lines := List.append_cancel_left (sent.symm.trans (read.asks extended))
      cases congrArg List.length lines
  · rintro ⟨port, encodes, value⟩
    refine ⟨fun _ => ⟨port, encodes, ?_⟩, fun none => absurd ⟨port, encodes⟩ none, fun none => absurd ⟨port, encodes⟩ none,
      fun none => absurd ⟨port, encodes⟩ none⟩
    rw [run, value]

theorem endpoint_read_fallback {last : Incoming} (found : wire.channel = some channel)
    (lasts : ∀ count, channel.fails count = none)
    (read : readReply tables.digits channel.incoming = (.ok first, rest))
    (again : readReply tables.digits rest = (.ok second, last))
    (none : (if first.1 = 229 then findEpsv tables first.2.toList else none) = none)
    (plain : ¬ ∃ port, ExtendedReply first port) :
    EndpointRead tables client wire.sent first second (passive tables client wire) ↔
      (second.1 = 227 →
        (numbersOf tables second.2).length < 6 ∨ Undisturbed tables client second.2.toList) := by
  obtain ⟨outcome, sent⟩ := @passive_not_found tables client wire channel rest first second last found lasts read again none
  have vacuous : (∃ port, ExtendedReply first port) →
      ∃ port, ExtendedReply first port ∧ (passive tables client wire).1 = .ok (client.host, port) :=
    fun extended => absurd extended plain
  rcases @checkReply_one 227 second with ⟨code, checked⟩ | ⟨other, message, checked⟩
  · rw [checked] at outcome
    change _ = pasvEndpoint tables client second.2 at outcome
    by_cases short : (numbersOf tables second.2).length < 6
    · obtain ⟨message, refused⟩ := @pasvEndpoint_short tables client second.2 short
      refine iff_of_true ⟨vacuous, fun _ => sent, fun _ encodes => ?_, fun _ _ => ?_⟩ fun _ => .inl short
      · obtain ⟨address, port, -, before, endpoint, after, stands, -⟩ := encodes
        exact absurd short stands.long
      · exact ⟨_, message, outcome.trans refused⟩
    · constructor
      · intro read _
        by_cases encodes : ∃ address port, PassiveReply tables second address port
        · obtain ⟨address, port, ⟨-, before, endpoint, after, stands, rfl, rfl⟩, same⟩ := read.passive plain encodes
          exact .inr ⟨before, endpoint, after, stands, stands.pasvEndpoint_iff.mp (outcome.symm.trans same)⟩
        · obtain ⟨code, message, refused⟩ := read.refused plain encodes
          rw [outcome, pasvEndpoint_long short] at refused
          split at refused <;> cases refused
      · intro clean
        obtain ⟨before, endpoint, after, stands, own⟩ := (clean code).resolve_left short
        have encodes : PassiveReply tables second (addressOf endpoint.host) endpoint.port :=
          ⟨code, before, endpoint, after, stands, rfl, rfl⟩
        exact ⟨vacuous, fun _ => sent, fun _ _ => ⟨_, _, encodes, outcome.trans (stands.pasvEndpoint_iff.mpr own)⟩,
          fun _ no => absurd ⟨_, _, encodes⟩ no⟩
  · rw [checked] at outcome
    refine iff_of_true ⟨vacuous, fun _ => sent, fun _ encodes => ?_, fun _ _ => ⟨_, message, outcome⟩⟩
      fun code => absurd code other
    obtain ⟨address, port, code, -⟩ := encodes
    exact absurd code other

/-- Where data connections go is right exactly when the first port that the pattern finds is one by
the protocol, and no numbers around the endpoint take the place of its own. -/
theorem endpoint_read_iff (answers : Answers tables wire first second) :
    EndpointRead tables client wire.sent first second (passive tables client wire) ↔
      (first.1 = 229 → ∀ chars, FirstGroup tables chars first.2.toList →
        ∃ port, ExtendedReply first port ∧ tables.digits.int chars = some port) ∧
      ((¬ ∃ port, ExtendedReply first port) → second.1 = 227 →
        (numbersOf tables second.2).length < 6 ∨ Undisturbed tables client second.2.toList) := by
  obtain ⟨channel, rest, found, lasts, read, follows⟩ := answers
  cases group : (if first.1 = 229 then findEpsv tables first.2.toList else none) with
  | some chars =>
      have code : first.1 = 229 := by
        by_contra other
        rw [if_neg other] at group
        cases group
      rw [if_pos code] at group
      rw [endpoint_read_found found (lasts 0) read code group]
      constructor
      · intro read
        refine ⟨fun _ other there => ?_, fun plain => absurd (read.imp fun _ both => both.1) plain⟩
        cases group.symm.trans (findEpsv_iff.mpr there)
        exact read
      · rintro ⟨read, -⟩
        exact read code chars (findEpsv_iff.mp group)
  | none =>
      have plain : ¬ ∃ port, ExtendedReply first port := by
        intro extended
        obtain ⟨code, there⟩ := @extendedReply_found tables _ extended
        rw [if_pos code] at group
        rw [group] at there
        cases there
      obtain ⟨last, again⟩ := follows plain
      rw [endpoint_read_fallback found lasts read again group plain]
      constructor
      · intro clean
        refine ⟨fun code chars there => ?_, fun _ => clean⟩
        rw [if_pos code] at group
        cases group.symm.trans (findEpsv_iff.mpr there)
      · rintro ⟨-, clean⟩
        exact clean plain

end Exchange

/-! A server without `EPSV` that has more to say than its endpoint. -/

def plainLine (text : String) (plain : lineFeed ∉ Utf8.encodeText text)
    (ends : (Utf8.encodeText text).getLast? ≠ some carriageReturn) : ReplyLine where
  text := Utf8.encodeText text
  returns := 1
  plain := plain
  ends := ends

def refusal : Reply := .single 500 (plainLine "No" (by decide) (by decide))

def talkative : Reply :=
  .single 227 (plainLine "At your service (10,0,0,1,19,136). 40000 bytes free" (by decide) (by decide))

def terse : Reply := .single 227 (plainLine "At your service (10,0,0,1,19,136)" (by decide) (by decide))

def answeringChannel (replies : List Reply) : Channel where
  incoming := { bytes := replies.flatMap Reply.render, failing := none }
  fails := fun _ => none

def answeringServer (replies : List Reply) : Wire where
  dial := .error (.os "")
  handshake := .error ""
  connections := []
  channel := some (answeringChannel replies)
  sent := []
  dialled := []
  saved := []

theorem answers_refusal {reply : Reply} :
    Answers plainTables (answeringServer [refusal, reply]) refusal.value reply.value :=
  ⟨_, _, rfl, fun _ => rfl, readReply_render, fun _ => ⟨_, readReply_render⟩⟩

def homeEndpoint : Endpoint where
  h1 := ['1', '0']
  h2 := ['0']
  h3 := ['0']
  h4 := ['1']
  p1 := ['1', '9']
  p2 := ['1', '3', '6']
  octets := by
    intro chars member
    simp only [List.mem_cons, List.not_mem_nil, or_false] at member
    rcases member with rfl | rfl | rfl | rfl | rfl | rfl <;>
      exact ⟨List.cons_ne_nil _ _, List.all_eq_true.mp rfl, by decide⟩

theorem talkative_stands : Stands plainTables "At your service (".toList homeEndpoint
    "). 40000 bytes free".toList talkative.value.2.toList := by
  refine ⟨rfl, ?_, ?_⟩
  · intro char last
    cases last
    rfl
  · intro char first
    cases first
    rfl

theorem not_extended {reply : Nat × String} (code : reply.1 ≠ 229) : ¬ ∃ port, ExtendedReply reply port :=
  fun ⟨_, encodes⟩ => code encodes.1

/-- The number after the endpoint makes a port that there is not. -/
theorem talkative_misread :
    (passive plainTables plainClient (answeringServer [refusal, talkative])).1 = .ok ("ftp.example", 74816) ∧
      homeEndpoint.port = 5000 ∧
      ¬ EndpointRead plainTables plainClient [] refusal.value talkative.value
        (passive plainTables plainClient (answeringServer [refusal, talkative])) := by
  have misread : (passive plainTables plainClient (answeringServer [refusal, talkative])).1 =
    .ok ("ftp.example", 74816) := rfl
  refine ⟨misread, rfl, fun read => ?_⟩
  obtain ⟨address, port, ⟨-, -, endpoint, -, -, -, rfl⟩, outcome⟩ := read.passive (not_extended (by decide))
    ⟨_, _, rfl, _, _, _, talkative_stands, rfl, rfl⟩
  have port : 74816 = endpoint.port := congrArg Prod.snd (Except.ok.inj (misread.symm.trans outcome))
  have bounded := @Endpoint.port_le endpoint
  unfold portBound at bounded
  omega

theorem terse_stands : Stands plainTables "At your service (".toList homeEndpoint [')'] terse.value.2.toList := by
  refine ⟨rfl, ?_, ?_⟩
  · intro char last
    cases last
    rfl
  · intro char first
    cases first
    rfl

theorem terse_read : EndpointRead plainTables plainClient [] refusal.value terse.value
    (passive plainTables plainClient (answeringServer [refusal, terse])) := by
  have plain : terse.value.1 = 227 → (numbersOf plainTables terse.value.2).length < 6 ∨
      Undisturbed plainTables plainClient terse.value.2.toList := by
    intro _
    refine .inr (terse_stands.undisturbed rfl (fun trusted => nomatch trusted) ?_)
    decide
  exact (endpoint_read_iff (@answers_refusal terse)).mpr ⟨(nomatch ·), fun _ => plain⟩

end Dosm.Ftp
