import Dosm.Python.Regex
import Dosm.Python.Utf8Text
import Dosm.Python.Value

namespace Dosm.Ftp

open Python

/-! Reading the replies of an FTP server.

What the server writes until it closes, or until the connection fails, is given as
bytes; a reader takes a line at a time. A reply ends with its first line or, after a
hyphen, with the first later line that has its code and a blank.
-/

/-- The exceptions of the client, the proxy, the sockets and the conversions. -/
inductive Failure where
  | ftp (code : Option Nat) (message : String)
  | socks (message : String)
  | os (message : String)
  | unicode (message : String)
  | value (message : String)
  | overflow (message : String)
  | fileTransfer (message : String)
  | other (message : String)
  deriving DecidableEq

/-- `str.isdigit` and the decimal digits that `int` reads, beyond ASCII as the Unicode tables have it. -/
structure Digits where
  isDigit : Char → Bool
  decimal : Char → Option Nat
  isDigit_of_decimal : ∀ char value, decimal char = some value → isDigit char = true
  ascii : ∀ char, char.toNat < 128 → decimal char = digitValue char ∧ isDigit char = isAsciiDigit char

def asciiDigits : Digits where
  isDigit := isAsciiDigit
  decimal := digitValue
  isDigit_of_decimal char value found := by
    unfold digitValue at found
    split at found
    next bounds => simpa [isAsciiDigit] using bounds
    · cases found
  ascii _ _ := ⟨rfl, rfl⟩

/-- The digits that `int` takes of one text. -/
def maxDigits : Nat := 4300

namespace Digits

def valueFrom (digits : Digits) (value : Nat) : List Char → Option Nat
  | [] => some value
  | char :: rest => (digits.decimal char).bind fun digit => digits.valueFrom (value * 10 + digit) rest

theorem valueFrom_digits (digits : Digits) {chars : List Char} (number : Nat) (decimal : ∀ char ∈ chars, char.isDigit = true) :
    digits.valueFrom number chars = some (Nat.ofDigitChars 10 chars number) := by
  induction chars generalizing number with
  | nil => rw [valueFrom, Nat.ofDigitChars_nil]
  | cons char rest ih =>
      have digit := decimal char List.mem_cons_self
      have bounds : 48 ≤ char.toNat ∧ char.toNat ≤ 57 := by
        simpa [Char.isDigit, Char.le_def, UInt32.le_iff_toNat_le] using digit
      rw [valueFrom, (digits.ascii char (by omega)).1, digitValue_isDigit digit, Option.bind_some,
        ih _ fun other member => decimal other (List.mem_cons_of_mem _ member), Nat.ofDigitChars_cons, Nat.mul_comm 10 number]

/-- `int` of a text of digits. -/
def int (digits : Digits) (chars : List Char) : Option Nat :=
  if maxDigits < chars.length then none else digits.valueFrom 0 chars

theorem int_digits (digits : Digits) {chars : List Char} (decimal : ∀ char ∈ chars, char.isDigit = true)
    (short : chars.length ≤ maxDigits) : digits.int chars = some (Nat.ofDigitChars 10 chars 0) := by
  rw [int, if_neg (Nat.not_lt.mpr short), digits.valueFrom_digits 0 decimal]

end Digits

/-- What the reader of a connection has still to deliver, and whether the server then
closes or the connection fails. -/
structure Incoming where
  bytes : List UInt8
  failing : Option String
  deriving DecidableEq

def lineFeed : UInt8 := 10

def carriageReturn : UInt8 := 13

/-- `readline`: the bytes up to and with the next line feed; after a close, those that are left. -/
def readline (incoming : Incoming) : Except Failure (List UInt8) × Incoming :=
  match incoming.bytes.dropWhile (· ≠ lineFeed), incoming.failing with
  | _ :: rest, _ =>
      (.ok (incoming.bytes.takeWhile (· ≠ lineFeed) ++ [lineFeed]), { incoming with bytes := rest })
  | [], none => (.ok incoming.bytes, { incoming with bytes := [] })
  | [], some text => (.error (.os text), incoming)

/-- `line.decode("utf-8", "replace").rstrip("\r\n")`. -/
def lineText (line : List UInt8) : List Char :=
  (Utf8.decode line).rdropWhile fun char => char = '\r' || char = '\n'

/-- The lines after the first one, to the terminator or the end; each has a byte, so that
the fuel lasts. -/
def moreLines (terminator : List Char) : Nat → Incoming → Except Failure (List (List Char)) × Incoming
  | 0, incoming => (.ok [], incoming)
  | fuel + 1, incoming =>
      match readline incoming with
      | (.error failure, rest) => (.error failure, rest)
      | (.ok [], rest) => (.ok [], rest)
      | (.ok line, rest) =>
          if terminator.isPrefixOf (lineText line) then (.ok [lineText line], rest)
          else
            match moreLines terminator fuel rest with
            | (.error failure, rest) => (.error failure, rest)
            | (.ok lines, rest) => (.ok (lineText line :: lines), rest)

/-- `"\n".join(lines)`. -/
def joinLines (lines : List (List Char)) : List Char := ['\n'].intercalate lines

def readReply (digits : Digits) (incoming : Incoming) : Except Failure (Nat × String) × Incoming :=
  match readline incoming with
  | (.error failure, rest) => (.error failure, rest)
  | (.ok [], rest) => (.error (.ftp none "control connection closed by server"), rest)
  | (.ok line, rest) =>
      match lineText line with
      | first :: second :: third :: mark :: text =>
          if digits.isDigit first && digits.isDigit second && digits.isDigit third then
            match digits.int [first, second, third] with
            | none => (.error (.value "invalid literal for int()"), rest)
            | some code =>
                if mark = '-' then
                  match moreLines [first, second, third, ' '] (rest.bytes.length + 1) rest with
                  | (.error failure, rest) => (.error failure, rest)
                  | (.ok lines, rest) => (.ok (code, String.ofList (joinLines (text :: lines))), rest)
                else (.ok (code, String.ofList text), rest)
          else (.error (.ftp none ("malformed reply: " ++ Python.repr (String.ofList (lineText line)))), rest)
      | _ => (.error (.ftp none ("malformed reply: " ++ Python.repr (String.ofList (lineText line)))), rest)

/-- `f"expected one of {codes}"`, with the tuple as it is printed. -/
def expectedText (codes : List Nat) : String :=
  match codes with
  | [code] => "expected one of (" ++ toString code ++ ",)"
  | _ => "expected one of (" ++ ", ".intercalate (codes.map toString) ++ ")"

def checkReply (codes : List Nat) (reply : Nat × String) : Except Failure (Nat × String) :=
  if reply.1 ∈ codes then .ok reply
  else .error (.ftp (some reply.1) (if strip reply.2 = "" then expectedText codes else strip reply.2))

/-- Replies one after the other, as successive reads give them. -/
def readReplies (digits : Digits) : Nat → Incoming → Except Failure (List (Nat × String)) × Incoming
  | 0, incoming => (.ok [], incoming)
  | count + 1, incoming =>
      match readReply digits incoming with
      | (.error failure, rest) => (.error failure, rest)
      | (.ok reply, rest) =>
          match readReplies digits count rest with
          | (.error failure, rest) => (.error failure, rest)
          | (.ok replies, rest) => (.ok (reply :: replies), rest)

/-! The listings of a directory, in the two forms in which a server gives them.

A machine listing has a line for each entry: facts that each end with a semicolon, a blank
and the name. The text is split where the source language ends a line, not only where the
protocol does.
-/

structure RemoteEntry where
  name : String
  isDir : Bool
  size : Option Nat
  modify : Option String
  deriving DecidableEq

def isDigitText (digits : Digits) (text : String) : Bool := text ≠ "" && text.toList.all digits.isDigit

/-- `int` of a text that is made of digits. -/
def intOf (digits : Digits) (text : String) : Except Failure Nat :=
  match digits.int text.toList with
  | none => .error (.value "invalid literal for int()")
  | some value => .ok value

/-- The facts of a line under their names in lower case. -/
def factsOf (part : String) : List (String × String) :=
  (split ';' part).filterMap fun fact =>
    if '=' ∈ fact.toList then some (lower (partition '=' fact).1, (partition '=' fact).2) else none

/-- Of two facts of one name the later counts. -/
def factOf (facts : List (String × String)) (name : String) : Option String := facts.reverse.lookup name

def mlsdEntry (digits : Digits) (line : String) : Except Failure (Option RemoteEntry) :=
  if strip line = "" then .ok none
  else
    let (factsPart, name) := partition ' ' line
    if name = "" then .ok none
    else
      let facts := factsOf factsPart
      let typ := lower ((factOf facts "type").getD "")
      if typ = "cdir" ∨ typ = "pdir" then .ok none
      else
        let sizeText := (factOf facts "size").getD ""
        if typ ≠ "dir" ∧ isDigitText digits sizeText then
          (intOf digits sizeText).map fun size =>
            some { name, isDir := false, size := some size, modify := factOf facts "modify" }
        else .ok (some { name, isDir := typ = "dir", size := none, modify := factOf facts "modify" })

/-- A run of other characters, the blanks after it and what follows. -/
def listField (chars : List Char) : Option (List Char × List Char × List Char) :=
  let rest := chars.dropWhile (!isSpace ·)
  if chars.takeWhile (!isSpace ·) = [] ∨ rest.takeWhile isSpace = [] then none
  else some (chars.takeWhile (!isSpace ·), rest.takeWhile isSpace, rest.dropWhile isSpace)

def fieldOf (chosen : Char → Bool) (chars : List Char) : Option (List Char × List Char × List Char) :=
  (listField chars).filter fun field => field.1.all chosen

/-- `_LIST_RE`, each of whose fields ends at a blank: the kind, the size, the time and the name. -/
def matchList (digits : Digits) (word : Char → Bool) (chars : List Char) :
    Option (Char × List Char × List Char × List Char) := do
  let decimal := fun char => (digits.decimal char).isSome
  let (mode, _, rest) ← listField chars
  let kind ← mode.head?.filter (· ∈ ['-', 'd', 'l'])
  let (_, _, rest) ← fieldOf decimal rest
  let (_, _, rest) ← listField rest
  let (_, _, rest) ← listField rest
  let (size, _, rest) ← fieldOf decimal rest
  let (month, first, rest) ← fieldOf word rest
  let (day, second, rest) ← fieldOf decimal rest
  let (time, _, name) ← fieldOf (fun char => decimal char || char = ':') rest
  if name = [] then none else return (kind, size, month ++ first ++ day ++ second ++ time, name)

def listEntry (digits : Digits) (word : Char → Bool) (line : String) : Except Failure (Option RemoteEntry) :=
  match matchList digits word (strip line).toList with
  | none => .ok none
  | some (kind, size, modify, name) =>
      let whole := String.ofList name
      let name := if kind = 'l' then ((find " -> " whole 0).map fun index => slice 0 index whole).getD whole else whole
      if name = "." ∨ name = ".." then .ok none
      else if kind = 'd' then .ok (some { name, isDir := true, size := none, modify := some (String.ofList modify) })
      else
        (intOf digits (String.ofList size)).map fun size =>
          some { name, isDir := false, size := some size, modify := some (String.ofList modify) }

/-- The entries of the lines that have one, unless a line raises. -/
def entriesOf (entry : String → Except Failure (Option RemoteEntry)) : List String → Except Failure (List RemoteEntry)
  | [] => .ok []
  | line :: rest =>
      match entry line with
      | .error failure => .error failure
      | .ok found => (entriesOf entry rest).map (found.toList ++ ·)

def parseMlsd (digits : Digits) (raw : List UInt8) : Except Failure (List RemoteEntry) :=
  entriesOf (mlsdEntry digits) (splitLines (Utf8.text raw))

def parseList (digits : Digits) (word : Char → Bool) (raw : List UInt8) : Except Failure (List RemoteEntry) :=
  entriesOf (listEntry digits word) (splitLines (Utf8.text raw))

end Dosm.Ftp
