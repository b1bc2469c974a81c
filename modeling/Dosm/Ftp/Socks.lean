import Dosm.Base.Program
import Dosm.Ftp.Replies

namespace Dosm.Ftp.Socks

open Python Program

/-! The SOCKS5 client that the connections of a jumped target go through.

What the proxy writes arrives in pieces of any size. The client reads exactly the bytes of
each field, so that what is left begins with the tunnelled data.
-/

/-- A socket: what arrives, whether the proxy then closes or the connection fails, how large
the pieces are, which calls of `sendall` fail, and what has been sent. -/
structure Socket where
  bytes : List UInt8
  failing : Option String
  pieces : Nat → Nat
  refuses : Nat → Option String
  sent : List UInt8
  closed : Bool

abbrev Negotiation := Program Socket Failure

def sendAll (bytes : List UInt8) : Negotiation Unit := fun socket =>
  let refuses := fun count => socket.refuses (count + 1)
  match socket.refuses 0 with
  | some message => (.error (.os message), { socket with refuses })
  | none => (.ok (), { socket with refuses, sent := socket.sent ++ bytes })

/-- `recv`: at least a byte and at most the limit, and nothing after a close. -/
def recv (limit : Nat) : Negotiation (List UInt8) := fun socket =>
  match socket.bytes, socket.failing with
  | [], none => (.ok [], socket)
  | [], some message => (.error (.os message), socket)
  | bytes, _ =>
      let size := min limit (socket.pieces 0 + 1)
      (.ok (bytes.take size),
        { socket with bytes := bytes.drop size, pieces := fun count => socket.pieces (count + 1) })

def closedEarly : Failure := .socks "SOCKS proxy closed the connection mid-handshake"

/-- The loop of `_recv_exactly`; each piece has a byte, so that the fuel lasts. -/
def recvRemaining : Nat → Nat → Negotiation (List UInt8)
  | 0, _ => pure []
  | fuel + 1, remaining =>
      if remaining = 0 then pure []
      else do
        let chunk ← recv remaining
        if chunk = [] then raise closedEarly
        else do
          let chunks ← recvRemaining fuel (remaining - chunk.length)
          return chunk ++ chunks

def recvExactly (count : Nat) : Negotiation (List UInt8) := recvRemaining count count

/-- What `inet_aton` takes for an address (an embedded NUL is a `ValueError`), and the IDNA
codec on names beyond ASCII. -/
structure Names where
  inetAton : String → Option Bool
  toAscii : String → Except Failure (List UInt8)
  toUnicode : List UInt8 → Option String
  prepared : String → String
  toUnicode_toAscii : ∀ name bytes, toAscii name = .ok bytes → toUnicode bytes = some (prepared name)

def isAscii (text : String) : Bool := text.toList.all fun char => char.toNat < 128

/-- `str.encode("idna")`; of a name in ASCII only the lengths of its labels are checked. -/
def encodeIdna (names : Names) (host : String) : Except Failure (List UInt8) :=
  if host = "" then .ok []
  else if isAscii host then
    let labels := host.toList.splitOn '.'
    if labels.dropLast.all (fun label => 0 < label.length && label.length < 64) then
      if 64 ≤ (labels.getLastD []).length then .error (.unicode "label too long")
      else .ok (Utf8.encodeText host)
    else .error (.unicode "label empty or too long")
  else names.toAscii host

def isHostname (names : Names) (addr : String) : Except Failure Bool :=
  match names.inetAton addr with
  | none => .error (.value "embedded null character")
  | some true => .ok false
  | some false => .ok (decide (':' ∉ addr.toList))

/-- `to_bytes(2, "big")`. -/
def portBytes (port : Int) : Except Failure (List UInt8) :=
  if port < 0 then .error (.overflow "can't convert negative int to unsigned")
  else if 65536 ≤ port then .error (.overflow "int too big to convert")
  else .ok [UInt8.ofNat (port.toNat / 256), UInt8.ofNat (port.toNat % 256)]

def hostBytes (names : Names) (host : String) : Except Failure (List UInt8) := do
  if ← isHostname names host then encodeIdna names host
  else return Utf8.encodeText host

def connectRequest (names : Names) (host : String) (port : Int) : Except Failure (List UInt8) := do
  let bytes ← hostBytes names host
  if 255 < bytes.length then .error (.socks ("destination host name too long: " ++ Python.repr host))
  else do
    let port ← portBytes port
    return [5, 1, 0, 3] ++ [UInt8.ofNat bytes.length] ++ bytes ++ port

def replyMessages : List (UInt8 × String) :=
  [(1, "general SOCKS server failure"), (2, "connection not allowed by ruleset"), (3, "network unreachable"),
    (4, "host unreachable"), (5, "connection refused by destination"), (6, "TTL expired"),
    (7, "command not supported"), (8, "address type not supported")]

def replyMessage (code : UInt8) : String :=
  (replyMessages.lookup code).getD ("SOCKS error 0x" ++ String.ofList (hexDigits code.toNat))

def drainAddress (atyp : UInt8) : Negotiation Unit :=
  if atyp = 1 then do
    let _ ← recvExactly 4
  else if atyp = 3 then do
    let length ← recvExactly 1
    let _ ← recvExactly (length.getD 0 0).toNat
  else if atyp = 4 then do
    let _ ← recvExactly 16
  else raise (.socks ("proxy returned unknown address type " ++ toString atyp.toNat))

variable (names : Names) (destHost : String) (destPort : Int)

def readReply : Negotiation Unit := do
  let reply ← recvExactly 4
  if reply.getD 1 0 ≠ 0 then
    raise (.socks ("jump could not reach " ++ destHost ++ ":" ++ toString destPort ++ " - " ++
      replyMessage (reply.getD 1 0)))
  else do
    drainAddress (reply.getD 3 0)
    let _ ← recvExactly 2

def negotiate : Negotiation Unit := do
  sendAll [5, 1, 0]
  let greeting ← recvExactly 2
  if greeting.getD 0 0 ≠ 5 then
    raise (.socks ("proxy is not SOCKS5 (got version byte " ++ toString (greeting.getD 0 0).toNat ++ ")"))
  else if greeting.getD 1 0 ≠ 0 then
    raise (.socks "proxy demanded authentication; only no-auth is supported")
  else do
    let request ← ofExcept (connectRequest names destHost destPort)
    sendAll request
    readReply destHost destPort

def close : Negotiation Unit := modify fun socket => { socket with closed := true }

/-- How the call ends and what becomes of the socket, if one could be opened. -/
def socks5Connect (dial : Except Failure Socket) : Except Failure Unit × Option Socket :=
  match dial with
  | .error failure => (.error failure, none)
  | .ok socket =>
      let ended := handle (negotiate names destHost destPort)
        (fun failure => some (do
          close
          raise failure)) socket
      (ended.1, some ended.2)

/-! What a call is meant to do. -/

/-- The bound address of a reply: of one version of IP or a name. -/
inductive BoundAddress : List UInt8 → Prop
  | ipv4 {octets : List UInt8} (size : octets.length = 4) : BoundAddress (1 :: octets)
  | name {length : UInt8} {name : List UInt8} (size : name.length = length.toNat) : BoundAddress (3 :: length :: name)
  | ipv6 {octets : List UInt8} (size : octets.length = 16) : BoundAddress (4 :: octets)

/-- A complete reply that reports success. -/
def ReplyShape (version : UInt8) (reply : List UInt8) : Prop :=
  ∃ reserved address port, reply = version :: 0 :: reserved :: (address ++ port) ∧ BoundAddress address ∧
    port.length = 2

/-- The name and the port of a request to connect. -/
def decodeRequest : List UInt8 → Option (List UInt8 × Nat)
  | 5 :: 1 :: 0 :: 3 :: length :: rest =>
      match rest.drop length.toNat with
      | [high, low] => some (rest.take length.toNat, high.toNat * 256 + low.toNat)
      | _ => none
  | _ => none

/-- The bytes are the name itself or, beyond ASCII, decode to it. -/
def Denotes (names : Names) (bytes : List UInt8) (host : String) : Prop :=
  bytes = Utf8.encodeText host ∨ isAscii host = false ∧ names.toUnicode bytes = some (names.prepared host)

/-- A socket that is returned is at the beginning of the tunnelled data, and any other is closed. -/
structure Tunnelled (names : Names) (destHost : String) (destPort : Int) (dial : Except Failure Socket)
    (ended : Except Failure Unit × Option Socket) : Prop where
  returned : ended.1 = .ok () → ∃ socket after reply request name port, dial = .ok socket ∧ ended.2 = some after ∧
    ReplyShape 5 reply ∧ socket.bytes = [5, 0] ++ reply ++ after.bytes ∧
    after.sent = socket.sent ++ [5, 1, 0] ++ request ∧ after.closed = socket.closed ∧
    decodeRequest request = some (name, port) ∧ Denotes names name destHost ∧ (port : Int) = destPort
  raised : ∀ failure, ended.1 = .error failure → ∀ socket, ended.2 = some socket → socket.closed = true

section Reading

variable {socket after : Socket} {bytes rest : List UInt8} {count limit fuel remaining : Nat}

structure Frame (socket after : Socket) : Prop where
  sent : after.sent = socket.sent
  closed : after.closed = socket.closed
  refuses : after.refuses = socket.refuses

theorem Frame.refl : Frame socket socket := ⟨rfl, rfl, rfl⟩

theorem Frame.trans {middle : Socket} (first : Frame socket middle) (second : Frame middle after) : Frame socket after :=
  ⟨second.sent.trans first.sent, second.closed.trans first.closed, second.refuses.trans first.refuses⟩

theorem recv_piece (some : socket.bytes ≠ []) (wanted : 0 < limit) :
    ∃ size after, 0 < size ∧ size ≤ limit ∧ recv limit socket = (.ok (socket.bytes.take size), after) ∧
      after.bytes = socket.bytes.drop size ∧ after.failing = socket.failing ∧ Frame socket after := by
  refine ⟨min limit (socket.pieces 0 + 1), { socket with
    bytes := socket.bytes.drop (min limit (socket.pieces 0 + 1))
    pieces := fun count => socket.pieces (count + 1) }, by omega, by omega, ?_, rfl, rfl, ⟨rfl, rfl, rfl⟩⟩
  unfold recv
  split
  next empty _ => exact absurd empty some
  next empty _ => exact absurd empty some
  · rfl

theorem recvRemaining_reads (lasts : remaining ≤ fuel) (written : socket.bytes = bytes ++ rest)
    (size : bytes.length = remaining) : ∃ after, recvRemaining fuel remaining socket = (.ok bytes, after) ∧
      after.bytes = rest ∧ Frame socket after := by
  induction fuel generalizing socket bytes remaining with
  | zero =>
      have empty : bytes = [] := List.length_eq_zero_iff.mp (by omega)
      subst empty
      exact ⟨socket, rfl, written, .refl⟩
  | succ fuel ih =>
      rw [recvRemaining]
      by_cases done : remaining = 0
      · have empty : bytes = [] := List.length_eq_zero_iff.mp (by omega)
        subst empty
        rw [if_pos done]
        exact ⟨socket, rfl, written, .refl⟩
      · have filled : bytes ≠ [] := by
          rintro rfl
          exact done size.symm
        obtain ⟨count, middle, positive, within, received, left, -, frame⟩ :=
          @recv_piece socket remaining (by simp [written, filled]) (by omega)
        have chunk : socket.bytes.take count = bytes.take count := by
          rw [written, List.take_append_of_le_length (by omega)]
        have nonempty : bytes.take count ≠ [] := by
          intro empty
          have length := congrArg List.length empty
          rw [List.length_take, List.length_nil] at length
          omega
        have later : middle.bytes = bytes.drop count ++ rest := by
          rw [left, written, List.drop_append_of_le_length (by omega)]
        have length : (bytes.take count).length = count := by
          rw [List.length_take]
          omega
        rw [chunk] at received
        obtain ⟨after, read, ended, rested⟩ := @ih middle (bytes.drop count) (remaining - (bytes.take count).length)
          (by omega) later (by rw [List.length_drop]; omega)
        refine ⟨after, ?_, ended, frame.trans rested⟩
        rw [if_neg done, bind_of_ok received, if_neg nonempty, bind_of_ok read]
        change (Except.ok (bytes.take count ++ bytes.drop count), after) = _
        rw [List.take_append_drop]

theorem recvRemaining_short (lasts : remaining ≤ fuel) (short : socket.bytes.length < remaining) :
    ∃ failure after, recvRemaining fuel remaining socket = (.error failure, after) := by
  induction fuel generalizing socket remaining with
  | zero => omega
  | succ fuel ih =>
      rw [recvRemaining, if_neg (by omega)]
      by_cases empty : socket.bytes = []
      · cases failing : socket.failing with
        | none =>
            have received : recv remaining socket = (.ok [], socket) := by
              unfold recv
              rw [empty, failing]
            rw [bind_of_ok received]
            exact ⟨_, _, rfl⟩
        | some message =>
            have received : recv remaining socket = (.error (.os message), socket) := by
              unfold recv
              rw [empty, failing]
            rw [bind_of_error received]
            exact ⟨_, _, rfl⟩
      · obtain ⟨count, middle, positive, within, received, left, -, -⟩ := @recv_piece socket remaining empty (by omega)
        have some := List.length_pos_of_ne_nil empty
        have length : (socket.bytes.take count).length = min count socket.bytes.length := List.length_take
        have nonempty : socket.bytes.take count ≠ [] := by
          intro none
          rw [none, List.length_nil] at length
          omega
        obtain ⟨failure, after, failed⟩ := @ih middle (remaining - (socket.bytes.take count).length) (by omega)
          (by rw [left, List.length_drop]; omega)
        refine ⟨failure, after, ?_⟩
        rw [bind_of_ok received, if_neg nonempty, bind_of_error failed]

structure Parses {Value : Type} (shape : List UInt8 → Value → Prop) (program : Negotiation Value) : Prop where
  sound : ∀ socket value after, program socket = (.ok value, after) →
    ∃ front, shape front value ∧ socket.bytes = front ++ after.bytes ∧ Frame socket after
  complete : ∀ socket front value rest, shape front value → socket.bytes = front ++ rest →
    ∃ after, program socket = (.ok value, after) ∧ after.bytes = rest ∧ Frame socket after

theorem parses_exactly : Parses (fun front value => value = front ∧ front.length = count) (recvExactly count) := by
  constructor
  · intro socket value after returned
    by_cases short : socket.bytes.length < count
    · obtain ⟨failure, last, failed⟩ := recvRemaining_short (Nat.le_refl count) short
      cases returned.symm.trans failed
    · have size : (socket.bytes.take count).length = count := by
        rw [List.length_take]
        omega
      obtain ⟨last, read, left, frame⟩ :=
        recvRemaining_reads (Nat.le_refl count) (List.take_append_drop count socket.bytes).symm size
      cases returned.symm.trans read
      exact ⟨_, ⟨rfl, size⟩, by rw [left, List.take_append_drop], frame⟩
  · rintro socket front value rest ⟨rfl, size⟩ written
    exact recvRemaining_reads (Nat.le_refl count) written size

variable {Value Next : Type} {shape other : List UInt8 → Value → Prop} {program first : Negotiation Value}
  {shapes : Value → List UInt8 → Next → Prop} {next : Value → Negotiation Next}

theorem parses_raise {failure : Failure} : Parses (fun _ _ => False) (raise failure : Negotiation Value) :=
  ⟨nofun, nofun⟩

theorem parses_pure {value : Value} : Parses (fun front result => front = [] ∧ result = value)
    (pure value : Negotiation Value) := by
  constructor
  · intro socket result after returned
    cases returned
    exact ⟨[], ⟨rfl, rfl⟩, rfl, .refl⟩
  · rintro socket front result rest ⟨rfl, rfl⟩ written
    exact ⟨socket, rfl, written, .refl⟩

theorem parses_bind (begins : Parses shape first) (goes : ∀ value, Parses (shapes value) (next value)) :
    Parses (fun front result => ∃ start value back, front = start ++ back ∧ shape start value ∧
      shapes value back result) (first >>= next) := by
  constructor
  · intro socket result last returned
    obtain ⟨value, after, ran, ended⟩ := bind_eq_ok.mp returned
    obtain ⟨start, shaped, written, frame⟩ := begins.sound socket value after ran
    obtain ⟨back, shapedBack, writtenBack, frameBack⟩ := (goes value).sound after result last ended
    exact ⟨start ++ back, ⟨start, value, back, rfl, shaped, shapedBack⟩,
      by rw [written, writtenBack, List.append_assoc], frame.trans frameBack⟩
  · rintro socket front result rest ⟨start, value, back, rfl, shaped, shapedBack⟩ written
    rw [List.append_assoc] at written
    obtain ⟨after, ran, left, frame⟩ := begins.complete socket start value (back ++ rest) shaped written
    obtain ⟨last, ended, leftLast, frameLast⟩ := (goes value).complete after back result rest shapedBack left
    exact ⟨last, bind_eq_ok.mpr ⟨value, after, ran, ended⟩, leftLast, frame.trans frameLast⟩

theorem Parses.congr (parses : Parses shape program) (same : ∀ front value, shape front value ↔ other front value) :
    Parses other program := by
  have equal : shape = other := funext fun front => funext fun value => propext (same front value)
  exact equal ▸ parses

theorem parses_skip : Parses (fun front _ => front.length = count) (recvExactly count >>= fun _ => pure ()) := by
  refine (parses_bind parses_exactly fun _ => parses_pure).congr fun front _ => ?_
  constructor
  · rintro ⟨start, value, back, rfl, ⟨rfl, size⟩, rfl, -⟩
    rwa [List.append_nil]
  · intro size
    exact ⟨front, front, [], (List.append_nil front).symm, ⟨rfl, size⟩, rfl, rfl⟩

theorem parses_address {atyp : UInt8} : Parses (fun front _ => BoundAddress (atyp :: front)) (drainAddress atyp) := by
  unfold drainAddress
  by_cases four : atyp = 1
  · rw [if_pos four]
    subst four
    refine parses_skip.congr fun front _ => ⟨.ipv4, fun bound => ?_⟩
    cases bound with
    | ipv4 size => exact size
  rw [if_neg four]
  by_cases name : atyp = 3
  · rw [if_pos name]
    subst name
    refine (parses_bind parses_exactly fun length => parses_skip).congr fun front _ => ?_
    constructor
    · rintro ⟨start, value, back, rfl, ⟨rfl, size⟩, length⟩
      obtain ⟨byte, rfl⟩ := List.length_eq_one_iff.mp size
      exact .name length
    · intro bound
      cases bound with
      | @name length name size => exact ⟨[length], [length], name, rfl, ⟨rfl, rfl⟩, size⟩
  rw [if_neg name]
  by_cases six : atyp = 4
  · rw [if_pos six]
    subst six
    refine parses_skip.congr fun front _ => ⟨.ipv6, fun bound => ?_⟩
    cases bound with
    | ipv6 size => exact size
  · rw [if_neg six]
    refine parses_raise.congr fun front _ => iff_of_false not_false fun bound => ?_
    cases bound with
    | ipv4 => exact four rfl
    | name => exact name rfl
    | ipv6 => exact six rfl

theorem parses_reply {destHost : String} {destPort : Int} :
    Parses (fun front _ => ∃ version, ReplyShape version front) (readReply destHost destPort) := by
  have body : ∀ reply : List UInt8, Parses (fun back (_ : Unit) => reply.getD 1 0 = 0 ∧ ∃ address port,
      back = address ++ port ∧ BoundAddress (reply.getD 3 0 :: address) ∧ port.length = 2)
      (if reply.getD 1 0 ≠ 0 then
        raise (.socks ("jump could not reach " ++ destHost ++ ":" ++ toString destPort ++ " - " ++
          replyMessage (reply.getD 1 0)))
      else do
        drainAddress (reply.getD 3 0)
        let _ ← recvExactly 2) := by
    intro reply
    by_cases refused : reply.getD 1 0 ≠ 0
    · rw [if_pos refused]
      exact parses_raise.congr fun front _ => iff_of_false not_false fun accepted => refused accepted.1
    · rw [if_neg refused]
      refine (parses_bind parses_address fun _ => parses_skip).congr fun front _ => ?_
      constructor
      · rintro ⟨address, -, port, rfl, bound, size⟩
        exact ⟨not_not.mp refused, address, port, rfl, bound, size⟩
      · rintro ⟨-, address, port, rfl, bound, size⟩
        exact ⟨address, (), port, rfl, bound, size⟩
  refine (parses_bind parses_exactly body).congr fun front _ => ?_
  constructor
  · rintro ⟨start, value, back, rfl, ⟨rfl, size⟩, accepted, address, port, rfl, bound, width⟩
    match value, size with
    | [version, code, reserved, atyp], _ =>
        change code = 0 at accepted
        subst accepted
        exact ⟨version, reserved, atyp :: address, port, rfl, bound, width⟩
  · rintro ⟨version, reserved, address, port, rfl, bound, width⟩
    cases address with
    | nil => cases bound
    | cons atyp address =>
        exact ⟨[version, 0, reserved, atyp], _, address ++ port, rfl, ⟨rfl, rfl⟩, rfl, address, port, rfl, bound, width⟩

end Reading

section Negotiating

variable {names : Names} {destHost : String} {destPort : Int} {socket after : Socket} {request : List UInt8}

theorem hostBytes_denotes {bytes : List UInt8} (encoded : hostBytes names destHost = .ok bytes) :
    Denotes names bytes destHost := by
  unfold hostBytes at encoded
  cases hostname : isHostname names destHost with
  | error failure =>
      rw [hostname] at encoded
      cases encoded
  | ok hostname' =>
      rw [hostname] at encoded
      cases hostname' with
      | false =>
          cases encoded
          exact .inl rfl
      | true =>
          change encodeIdna names destHost = .ok bytes at encoded
          unfold encodeIdna at encoded
          split at encoded
          next empty =>
            cases encoded
            subst empty
            exact .inl rfl
          · split at encoded
            · dsimp only at encoded
              split at encoded
              · split at encoded
                · cases encoded
                · cases encoded
                  exact .inl rfl
              · cases encoded
            next other => exact .inr ⟨by simpa using other, names.toUnicode_toAscii _ _ encoded⟩

theorem portBytes_decode {bytes : List UInt8} (encoded : portBytes destPort = .ok bytes) :
    ∃ high low : UInt8, bytes = [high, low] ∧ ((high.toNat * 256 + low.toNat : Nat) : Int) = destPort := by
  unfold portBytes at encoded
  split at encoded
  · cases encoded
  split at encoded
  · cases encoded
  · cases encoded
    refine ⟨_, _, rfl, ?_⟩
    rw [UInt8.toNat_ofNat', UInt8.toNat_ofNat']
    omega

theorem connectRequest_decodes (made : connectRequest names destHost destPort = .ok request) :
    ∃ name port, decodeRequest request = some (name, port) ∧ Denotes names name destHost ∧ (port : Int) = destPort := by
  unfold connectRequest at made
  cases encoded : hostBytes names destHost with
  | error failure =>
      rw [encoded] at made
      cases made
  | ok bytes =>
      rw [encoded] at made
      change (if 255 < bytes.length then _ else _ : Except Failure (List UInt8)) = _ at made
      split at made
      · cases made
      next small =>
        cases portEncoded : portBytes destPort with
        | error failure =>
            rw [portEncoded] at made
            cases made
        | ok port =>
            rw [portEncoded] at made
            cases made
            obtain ⟨high, low, rfl, value⟩ := portBytes_decode portEncoded
            refine ⟨bytes, _, ?_, hostBytes_denotes encoded, value⟩
            have length : (UInt8.ofNat bytes.length).toNat = bytes.length := by
              rw [UInt8.toNat_ofNat']
              omega
            simp only [List.cons_append, List.nil_append]
            rw [decodeRequest, length, List.drop_left, List.take_left]

def Socket.spoken (socket : Socket) (bytes : List UInt8) : Socket :=
  { socket with refuses := fun count => socket.refuses (count + 1), sent := socket.sent ++ bytes }

theorem sendAll_ok {bytes : List UInt8} : sendAll bytes socket = (.ok (), after) ↔ socket.refuses 0 = none ∧
    after = socket.spoken bytes := by
  unfold sendAll
  dsimp only
  cases socket.refuses 0 with
  | some message => exact iff_of_false nofun nofun
  | none =>
      constructor
      · intro same
        cases same
        exact ⟨rfl, rfl⟩
      · rintro ⟨-, rfl⟩
        rfl

structure Negotiated (names : Names) (destHost : String) (destPort : Int) (socket after : Socket) (request : List UInt8)
    (version : UInt8) (reply : List UInt8) : Prop where
  requested : connectRequest names destHost destPort = .ok request
  greets : socket.refuses 0 = none
  asks : socket.refuses 1 = none
  shape : ReplyShape version reply
  arrived : socket.bytes = [5, 0] ++ reply ++ after.bytes
  sent : after.sent = socket.sent ++ [5, 1, 0] ++ request
  kept : after.closed = socket.closed

theorem negotiate_sound (returned : negotiate names destHost destPort socket = (.ok (), after)) :
    ∃ request version reply, Negotiated names destHost destPort socket after request version reply := by
  unfold negotiate at returned
  obtain ⟨_, greeted, ran, returned⟩ := bind_eq_ok.mp returned
  obtain ⟨greets, rfl⟩ := sendAll_ok.mp ran
  obtain ⟨greeting, middle, ran, returned⟩ := bind_eq_ok.mp returned
  obtain ⟨front, ⟨rfl, size⟩, arrived, frame⟩ := parses_exactly.sound _ _ _ ran
  split at returned
  · cases returned
  next version =>
    split at returned
    · cases returned
    next method =>
      obtain ⟨request, same, ran, returned⟩ := bind_eq_ok.mp returned
      obtain ⟨made, rfl⟩ := Prod.mk.inj ran
      obtain ⟨_, asked, ran, returned⟩ := bind_eq_ok.mp returned
      obtain ⟨asks, rfl⟩ := sendAll_ok.mp ran
      obtain ⟨reply, ⟨number, shape⟩, rest, last⟩ := parses_reply.sound _ _ _ returned
      have greeted : greeting = [5, 0] := by
        match greeting, size, not_not.mp version, not_not.mp method with
        | [_, _], _, rfl, rfl => rfl
      subst greeted
      refine ⟨request, number, reply, made, greets, ?_, shape, ?_, ?_, ?_⟩
      · rw [frame.refuses] at asks
        exact asks
      · change socket.bytes = [5, 0] ++ middle.bytes at arrived
        change middle.bytes = reply ++ after.bytes at rest
        rw [arrived, rest, List.append_assoc]
      · rw [last.sent]
        change middle.sent ++ request = _
        rw [frame.sent]
        rfl
      · exact last.closed.trans frame.closed

theorem negotiate_complete {version : UInt8} {reply rest : List UInt8}
    (made : connectRequest names destHost destPort = .ok request) (greets : socket.refuses 0 = none)
    (asks : socket.refuses 1 = none) (shape : ReplyShape version reply)
    (arrived : socket.bytes = [5, 0] ++ reply ++ rest) :
    ∃ after, negotiate names destHost destPort socket = (.ok (), after) := by
  rw [List.append_assoc] at arrived
  have greeted : sendAll [5, 1, 0] socket = (.ok (), socket.spoken [5, 1, 0]) := sendAll_ok.mpr ⟨greets, rfl⟩
  obtain ⟨middle, read, left, frame⟩ :=
    (@parses_exactly 2).complete (socket.spoken [5, 1, 0]) [5, 0] [5, 0] (reply ++ rest) ⟨rfl, rfl⟩ arrived
  have spoken : middle.refuses 0 = none := (congrFun frame.refuses 0).trans asks
  have asked : sendAll request middle = (.ok (), middle.spoken request) := sendAll_ok.mpr ⟨spoken, rfl⟩
  obtain ⟨after, accepted, -, -⟩ :=
    (@parses_reply destHost destPort).complete (middle.spoken request) reply () rest ⟨version, shape⟩ left
  refine ⟨after, ?_⟩
  unfold negotiate
  rw [bind_of_ok greeted, bind_of_ok read]
  change ((ofExcept (connectRequest names destHost destPort) : Negotiation (List UInt8)) >>= fun request =>
    sendAll request >>= fun _ => readReply destHost destPort) middle = _
  rw [made, bind_of_ok ofExcept_apply, bind_of_ok asked, accepted]

/-- What the call returns is a tunnel to the destination exactly when no reply that it accepts is of
another version. -/
theorem tunnelled_iff (dial : Except Failure Socket) :
    Tunnelled names destHost destPort dial (socks5Connect names destHost destPort dial) ↔
      ∀ socket request version reply rest, dial = .ok socket → connectRequest names destHost destPort = .ok request →
        socket.refuses 0 = none → socket.refuses 1 = none → ReplyShape version reply →
        socket.bytes = [5, 0] ++ reply ++ rest → version = 5 := by
  cases dial with
  | error failure => exact iff_of_true ⟨nofun, nofun⟩ nofun
  | ok socket =>
      cases ran : negotiate names destHost destPort socket with
      | mk outcome after =>
          cases outcome with
          | error failure =>
              have failed : socks5Connect names destHost destPort (.ok socket) =
                  (.error failure, some { after with closed := true }) := by
                unfold socks5Connect handle
                dsimp only
                rw [ran]
                rfl
              rw [failed]
              refine iff_of_true ⟨nofun, fun _ _ closed same => ?_⟩ ?_
              · cases same
                rfl
              · intro opened request version reply rest same made greets asks shape arrived
                cases same
                obtain ⟨last, returned⟩ := negotiate_complete made greets asks shape arrived
                cases ran.symm.trans returned
          | ok done =>
              have returned : socks5Connect names destHost destPort (.ok socket) = (.ok (), some after) := by
                unfold socks5Connect handle
                dsimp only
                rw [ran]
              rw [returned]
              constructor
              · intro tunnelled opened request version reply rest same _ _ _ shape arrived
                cases same
                obtain ⟨_, _, own, _, _, _, same, _, ownShape, ownArrived, -⟩ := tunnelled.returned rfl
                cases same
                obtain ⟨_, _, _, rfl, -⟩ := shape
                obtain ⟨_, _, _, rfl, -⟩ := ownShape
                have third : some version = some 5 := congrArg (·[2]?) (arrived.symm.trans ownArrived)
                exact Option.some.inj third
              · intro checked
                obtain ⟨request, version, reply, done⟩ := negotiate_sound ran
                have five := checked socket request version reply after.bytes rfl done.requested done.greets done.asks
                  done.shape done.arrived
                subst five
                obtain ⟨name, port, decoded, denotes, value⟩ := connectRequest_decodes done.requested
                exact ⟨fun _ => ⟨socket, after, reply, request, name, port, rfl, rfl, done.shape, done.arrived, done.sent,
                  done.kept, decoded, denotes, value⟩, nofun⟩

end Negotiating

def plainNames : Names where
  inetAton _ := some false
  toAscii _ := .error (.unicode "")
  toUnicode _ := none
  prepared := id
  toUnicode_toAscii _ _ encoded := nomatch encoded

def versionFourReply : Socket where
  bytes := [5, 0, 4, 0, 0, 1, 10, 0, 0, 1, 0, 21, 50, 50, 48]
  failing := none
  pieces := fun _ => 0
  refuses := fun _ => none
  sent := []
  closed := false

theorem versionFour_returned {request : List UInt8} (made : connectRequest plainNames "ftp.example" 21 = .ok request) :
    (socks5Connect plainNames "ftp.example" 21 (.ok versionFourReply)).1 = .ok () := by
  have shape : ReplyShape 4 [4, 0, 0, 1, 10, 0, 0, 1, 0, 21] := ⟨0, [1, 10, 0, 0, 1], [0, 21], rfl, .ipv4 rfl, rfl⟩
  obtain ⟨after, returned⟩ := @negotiate_complete plainNames "ftp.example" 21 versionFourReply request 4
    [4, 0, 0, 1, 10, 0, 0, 1, 0, 21] [50, 50, 48] made rfl rfl shape rfl
  unfold socks5Connect handle
  dsimp only
  rw [returned]

theorem version_four_accepted :
    (socks5Connect plainNames "ftp.example" 21 (.ok versionFourReply)).1 = .ok () ∧
      ¬ Tunnelled plainNames "ftp.example" 21 (.ok versionFourReply)
        (socks5Connect plainNames "ftp.example" 21 (.ok versionFourReply)) := by
  have returned := @versionFour_returned _ rfl
  refine ⟨returned, fun tunnelled => ?_⟩
  obtain ⟨_, _, _, _, _, _, same, _, ⟨_, _, _, rfl, -⟩, arrived, -⟩ := tunnelled.returned returned
  cases same
  have third : some (4 : UInt8) = some 5 := congrArg (·[2]?) arrived
  exact absurd (Option.some.inj third) (by decide)

end Dosm.Ftp.Socks
