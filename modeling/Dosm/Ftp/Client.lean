import Dosm.Base.Program
import Dosm.Ftp.Replies

namespace Dosm.Ftp

open Python Program

/-! The FTP client, as far as the server and the network let it get.

How they behave is given in advance: what the server writes on the control connection and
where sending on it fails, how TLS is negotiated, and what becomes of the data connections
in turn.
-/

structure FtpClient where
  host : String
  port : Int
  useTls : Bool
  trustPasvIp : Bool

/-- The characters beyond ASCII that patterns know. -/
structure CharTables where
  digits : Digits
  word : Char → Bool

/-- A control connection: what can be read from it, and whether the calls of `sendall` fail. -/
structure Channel where
  incoming : Incoming
  fails : Nat → Option String

inductive DataEnding where
  | closed
  | tls (message : String)
  | failed (failure : Failure)

structure DataConnection where
  bytes : List UInt8
  ending : DataEnding
  upload : Option Failure

/-- The connections to come, the control connection while there is one, what has been sent
on it, where data connections were opened and what a download has written. -/
structure Wire where
  dial : Except Failure Channel
  handshake : Except String Channel
  connections : List (Except Failure DataConnection)
  channel : Option Channel
  sent : List (List UInt8)
  dialled : List (String × Nat)
  saved : List UInt8

abbrev Session := Program Wire Failure

def crlf : List UInt8 := [carriageReturn, lineFeed]

def controlLine (command : String) : List UInt8 := Utf8.encodeText command ++ crlf

def send (command : String) : Session Unit := fun wire =>
  match wire.channel with
  | none => (.error (.ftp none "control connection is not open"), wire)
  | some channel =>
      let after := { wire with
        sent := wire.sent ++ [controlLine command]
        channel := some { channel with fails := fun count => channel.fails (count + 1) } }
      match channel.fails 0 with
      | some message => (.error (.os message), after)
      | none => (.ok (), after)

section Send

variable {command message : String} {wire : Wire} {channel : Channel}

theorem send_fails (found : wire.channel = some channel) (fails : channel.fails 0 = some message) :
    ∃ after, send command wire = (.error (.os message), after) := by
  unfold send
  rw [found]
  dsimp only
  rw [fails]
  exact ⟨_, rfl⟩

theorem send_succeeds (found : wire.channel = some channel) (lasts : channel.fails 0 = none) :
    send command wire = (.ok (), { wire with
      sent := wire.sent ++ [controlLine command]
      channel := some { channel with fails := fun count => channel.fails (count + 1) } }) := by
  unfold send
  rw [found]
  dsimp only
  rw [lasts]

end Send

variable (tables : CharTables) (client : FtpClient)

/-- `_read_reply` on the control connection. -/
def answer : Session (Nat × String) := fun wire =>
  match wire.channel with
  | none => (.error (.other "AssertionError"), wire)
  | some channel =>
      let read := readReply tables.digits channel.incoming
      (read.1, { wire with channel := some { channel with incoming := read.2 } })

def expect (codes : List Nat) : Session (Nat × String) := do
  let reply ← answer tables
  ofExcept (checkReply codes reply)

def bindControl (channel : Channel) : Session Unit := modify fun wire => { wire with channel := some channel }

def closeControl : Session Unit := modify fun wire => { wire with channel := none }

/-- A socket whose TLS handshake failed is closed. -/
def deadChannel : Channel where
  incoming := { bytes := [], failing := some "Bad file descriptor" }
  fails := fun _ => some "Bad file descriptor"

def wrapControl : Session Unit := do
  let wire ← get
  match wire.handshake with
  | .ok channel => bindControl channel
  | .error message =>
      bindControl deadChannel
      raise (.os message)

def connect : Session Unit := do
  let wire ← get
  let raw ← ofExcept wire.dial
  bindControl raw
  let _ ← expect tables [220]
  if client.useTls then
    send "AUTH TLS"
    let _ ← expect tables [234]
    wrapControl
  else return ()

def login (username password : String) : Session Unit := do
  send ("USER " ++ username)
  let (code, _) ← answer tables
  if code = 331 then
    send ("PASS " ++ password)
    let _ ← expect tables [230]
  else if code ≠ 230 then raise (.ftp (some code) "login rejected")
  if client.useTls then
    send "PBSZ 0"
    let _ ← answer tables
    send "PROT P"
    let _ ← expect tables [200]
  send "TYPE I"
  let _ ← expect tables [200]

/-- Only the errors of sockets are swallowed. -/
def swallowed : Failure → Option (Session Unit)
  | .os _ => some (pure ())
  | _ => none

def farewell : Session Unit := do
  let wire ← get
  if wire.channel.isSome then
    send "QUIT"
    let _ ← answer tables
  else return ()

def quit : Session Unit := ensure (handle (farewell tables) swallowed) closeControl

/-! Where data connections go. -/

section Passive

def isDecimal (char : Char) : Bool := (tables.digits.decimal char).isSome

/-- The digits up to the mark before the closing parenthesis. -/
def closingDigits (mark : Char) : List Char → Option (List Char)
  | [] => none
  | char :: rest =>
      if char = mark ∧ rest.head? = some ')' then some []
      else if isDecimal tables char then (closingDigits mark rest).map (char :: ·)
      else none

/-- `\(([!-~])\1\1(\d+)\1\)` at one place. -/
def epsvGroup : List Char → Option (List Char)
  | '(' :: first :: second :: third :: rest =>
      if '!' ≤ first ∧ first ≤ '~' ∧ second = first ∧ third = first then
        (closingDigits tables first rest).filter (· ≠ [])
      else none
  | _ => none

def findEpsv : List Char → Option (List Char)
  | [] => none
  | char :: rest =>
      match epsvGroup tables (char :: rest) with
      | some port => some port
      | none => findEpsv rest

/-- `re.findall(r"\d+", text)`, after the reversed beginning of a number. -/
def numbersAfter (begun : List Char) : List Char → List (List Char)
  | [] => if begun = [] then [] else [begun.reverse]
  | char :: rest =>
      if isDecimal tables char then numbersAfter (char :: begun) rest
      else if begun = [] then numbersAfter [] rest
      else begun.reverse :: numbersAfter [] rest

def numbersOf (text : String) : List (List Char) := numbersAfter tables [] text.toList

def pasvEndpoint (text : String) : Except Failure (String × Nat) :=
  let numbers := numbersOf tables text
  if numbers.length < 6 then .error (.ftp (some 227) ("could not parse PASV reply: " ++ Python.repr text))
  else do
    let p1 ← intOf tables.digits (String.ofList (numbers.reverse.getD 1 []))
    let p2 ← intOf tables.digits (String.ofList (numbers.reverse.getD 0 []))
    let address := ".".intercalate ((numbers.take 4).map String.ofList)
    return (if client.trustPasvIp then address else client.host, p1 * 256 + p2)

def passive : Session (String × Nat) := do
  send "EPSV"
  let (code, text) ← answer tables
  match if code = 229 then findEpsv tables text.toList else none with
  | some port => do
      let port ← ofExcept (intOf tables.digits (String.ofList port))
      return (client.host, port)
  | none => do
      send "PASV"
      let (_, text) ← expect tables [227]
      ofExcept (pasvEndpoint tables client text)

end Passive

def nextConnection (endpoint : String × Nat) : Session DataConnection := fun wire =>
  let dialled := wire.dialled ++ [endpoint]
  match wire.connections with
  | [] => (.error (.os "Connection refused"), { wire with dialled })
  | outcome :: rest => (outcome, { wire with dialled, connections := rest })

def openData : Session DataConnection := do
  let endpoint ← passive tables client
  nextConnection endpoint

namespace DataConnection

/-- A broken TLS connection counts as its end. -/
def drain (data : DataConnection) : Except Failure (List UInt8) :=
  match data.ending with
  | .closed | .tls _ => .ok data.bytes
  | .failed failure => .error failure

def receive (data : DataConnection) : Except Failure (List UInt8) :=
  match data.ending with
  | .closed => .ok data.bytes
  | .tls message => .error (.os message)
  | .failed failure => .error failure

end DataConnection

/-! The operations of a client that is logged in. -/

namespace FtpClient

def withPath (command path : String) : String := command ++ " " ++ path

/-- The quoted part after its first quote, to the last quote it can end at. -/
def quotedPart : List Char → Option (List Char)
  | [] => none
  | '"' :: '"' :: rest => some (((quotedPart rest).map fun part => '"' :: '"' :: part).getD [])
  | '"' :: _ => some []
  | char :: rest => (quotedPart rest).map (char :: ·)

def unquoted : List Char → List Char
  | '"' :: '"' :: rest => '"' :: unquoted rest
  | char :: rest => char :: unquoted rest
  | [] => []

def pwd : Session String := do
  send "PWD"
  let (_, text) ← expect tables [257]
  match quotedPart ((text.toList.dropWhile (· ≠ '"')).drop 1) with
  | some part => return String.ofList (unquoted part)
  | none => return strip text

def simpleCommand (command path : String) (codes : List Nat) : Session Unit := do
  send (withPath command path)
  let _ ← expect tables codes

def cwd (path : String) : Session Unit := simpleCommand tables "CWD" path [250]

def mkd (path : String) : Session Unit := simpleCommand tables "MKD" path [257]

def rmd (path : String) : Session Unit := simpleCommand tables "RMD" path [250]

def delete (path : String) : Session Unit := simpleCommand tables "DELE" path [250]

def size (path : String) : Session (Option Int) := do
  send (withPath "SIZE" path)
  let (code, text) ← answer tables
  return if code = 213 then parseInt text else none

def rename (src dst : String) : Session Unit := do
  simpleCommand tables "RNFR" src [350]
  simpleCommand tables "RNTO" dst [250]

/-- What the replies of the server refuse makes way for another form of listing. -/
def refused {Value : Type} : Failure → Option (Session (Option Value))
  | .ftp .. => some (pure none)
  | _ => none

def listDir (path : String) : Session (List RemoteEntry) := do
  let suffix := if path = "" then "" else " " ++ path
  let data ← openData tables client
  let machine ← handle
    (do
      send ("MLSD" ++ suffix)
      let (code, _) ← answer tables
      if code ∈ [125, 150] then
        let raw ← ofExcept data.drain
        let _ ← expect tables [226, 250]
        let entries ← ofExcept (parseMlsd tables.digits raw)
        return some entries
      else return none)
    refused
  match machine with
  | some entries => return entries
  | none => do
      let data ← openData tables client
      send ("LIST" ++ suffix)
      let _ ← expect tables [125, 150]
      let raw ← ofExcept data.drain
      let _ ← expect tables [226, 250]
      ofExcept (parseList tables.digits tables.word raw)

def retrieve (path : String) : Session Nat := do
  let data ← openData tables client
  send (withPath "RETR" path)
  let _ ← expect tables [125, 150]
  modify fun wire => { wire with saved := wire.saved ++ data.bytes }
  let written ← ofExcept data.receive
  let _ ← expect tables [226, 250]
  return written.length

def store (path : String) (src : List UInt8) : Session Nat := do
  let data ← openData tables client
  send (withPath "STOR" path)
  let _ ← expect tables [125, 150]
  ofExcept (match data.upload with
    | some failure => .error failure
    | none => .ok ())
  let _ ← expect tables [226, 250]
  return src.length

end FtpClient

/-! A session: a login, an operation and the farewell. -/

/-- `str` of an FTP error. -/
def ftpText (code : Option Nat) (message : String) : String :=
  match code with
  | none | some 0 => message
  | some code => toString code ++ " " ++ message

/-- The errors that a session reports as its own. -/
def translated : Failure → Option Failure
  | .ftp code message => some (.fileTransfer (ftpText code message))
  | .os message => some (.fileTransfer (client.host ++ ":" ++ toString client.port ++ " - " ++ message))
  | _ => none

def runSession {Value : Type} (username password : String) (operation : Session Value) : Session Value :=
  ensure
    (handle
      (do
        connect tables client
        login tables client username password
        operation)
      fun failure => (translated client failure).map raise)
    (quit tables)

/-! A client without TLS that knows ASCII. -/

def plainTables : CharTables where
  digits := asciiDigits
  word := fun _ => false

def plainClient : FtpClient where
  host := "ftp.example"
  port := 21
  useTls := false
  trustPasvIp := false

end Dosm.Ftp
