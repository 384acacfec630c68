/-
**JSON tokens.** The signs and literals of a JSON text, spelled and scanned.

* `Token` — brackets, commas, colons, and the values that are spelled in one piece.
* `Token.spelled` — how a token is written.
* `scan` — the tokens of a row of symbols, white space between them dropped.
* `isNumber` — the grammar of numbers.
-/
import TaskLedger.Json.Value
import TaskLedger.Text.Symbol

namespace TaskLedger.Json

open Text (Symbol)

/-- A token; `value` carries `null`, a truth value, a number or a text. -/
inductive Token where
  | listStart
  | listEnd
  | objectStart
  | objectEnd
  | comma
  | colon
  | value (v : Json)
deriving Inhabited, BEq, Repr

/-! ### Spelling -/

/-- The escape of a character below U+0020. -/
def escapedControl (c : Char) : List Char :=
  if c = '\x08' then ['\\', 'b']
  else if c = '\t' then ['\\', 't']
  else if c = '\n' then ['\\', 'n']
  else if c = '\x0c' then ['\\', 'f']
  else if c = '\r' then ['\\', 'r']
  else '\\' :: 'u' :: '0' :: '0' :: (Nat.toDigits 16 c.toNat).leftpad 2 '0'

/-- A character inside a text literal: quotes, backslashes and controls are escaped. -/
def spelledChar (c : Char) : List Char :=
  if c = '"' then ['\\', '"']
  else if c = '\\' then ['\\', '\\']
  else if c.toNat < 0x20 then escapedControl c
  else [c]

/-- A text literal. A content that is no text is spelled as half of a surrogate pair. -/
def spelledContent : Content → List Char
  | some s => '"' :: s.toList.flatMap spelledChar ++ ['"']
  | none => ['"', '\\', 'u', 'd', '8', '0', '0', '"']

/-- How a token is written; a list or an object is no single token. -/
def Token.spelled : Token → List Char
  | .listStart => ['[']
  | .listEnd => [']']
  | .objectStart => ['\x7b']
  | .objectEnd => ['\x7d']
  | .comma => [',']
  | .colon => [':']
  | .value .null => ['n', 'u', 'l', 'l']
  | .value (.bool true) => ['t', 'r', 'u', 'e']
  | .value (.bool false) => ['f', 'a', 'l', 's', 'e']
  | .value (.number literal) => literal.toList
  | .value (.text content) => spelledContent content
  | .value (.list _) => []
  | .value (.object _) => []

/-! ### Words -/

/-- What follows the digits of a number: nothing, or an exponent. -/
def isExponent : List Char → Bool
  | [] => true
  | mark :: rest =>
    let digits :=
      match rest with
      | '+' :: digits => digits
      | '-' :: digits => digits
      | digits => digits
    (mark == 'e' || mark == 'E') && !digits.isEmpty && digits.all Char.isDigit

/-- What follows the whole part of a number: decimals, an exponent, both or nothing. -/
def isNumberTail : List Char → Bool
  | '.' :: rest => (rest.head?.any Char.isDigit) && isExponent (rest.dropWhile Char.isDigit)
  | rest => isExponent rest

/-- A number without sign: its whole part has no needless zero in front. -/
def isUnsigned : List Char → Bool
  | '0' :: rest => isNumberTail rest
  | c :: rest => c.isDigit && isNumberTail (rest.dropWhile Char.isDigit)
  | [] => false

/-- The grammar of numbers. -/
def isNumber : List Char → Bool
  | '-' :: rest => isUnsigned rest
  | unsigned => isUnsigned unsigned

/-- The value of a word that stands outside quotes. -/
def ofWord? (word : List Char) : Option Json :=
  if word = ['n', 'u', 'l', 'l'] then some .null
  else if word = ['t', 'r', 'u', 'e'] then some (.bool true)
  else if word = ['f', 'a', 'l', 's', 'e'] then some (.bool false)
  else if isNumber word then some (.number (String.ofList word))
  else none

/-! ### Text literals -/

/-- A piece of a text literal. -/
inductive Piece where
  | char (c : Char)
  /-- One half of a surrogate pair, from an escape. -/
  | half (code : Nat)
  /-- A byte that belongs to no character. -/
  | stray
deriving DecidableEq, Repr

/-- The value of a hexadecimal digit. -/
def hexDigit? : Symbol → Option Nat
  | some c =>
    if '0' ≤ c ∧ c ≤ '9' then some (c.toNat - '0'.toNat)
    else if 'a' ≤ c ∧ c ≤ 'f' then some (c.toNat - 'a'.toNat + 10)
    else if 'A' ≤ c ∧ c ≤ 'F' then some (c.toNat - 'A'.toNat + 10)
    else none
  | none => none

/-- The number that four hexadecimal digits count. -/
def hexNumber? (a b c d : Symbol) : Option Nat := do
  let a ← hexDigit? a
  let b ← hexDigit? b
  let c ← hexDigit? c
  let d ← hexDigit? d
  some (((a * 16 + b) * 16 + c) * 16 + d)

/-- The piece that an escaped number names. -/
def Piece.ofCode (code : Nat) : Piece :=
  if 0xD800 ≤ code ∧ code ≤ 0xDFFF then .half code else .char (.ofNat code)

/-- The character that a letter after a backslash names. -/
def shortEscape? (c : Char) : Option Char :=
  if c = '"' then some '"'
  else if c = '\\' then some '\\'
  else if c = '/' then some '/'
  else if c = 'b' then some '\x08'
  else if c = 'f' then some '\x0c'
  else if c = 'n' then some '\n'
  else if c = 'r' then some '\r'
  else if c = 't' then some '\t'
  else none

/-- The characters of a literal's pieces: two halves that make a pair are one character, and a half
or a stray byte left over makes the literal no text. -/
def joinPieces : List Piece → Option (List Char)
  | [] => some []
  | .char c :: rest => (joinPieces rest).map (c :: ·)
  | .half high :: .half low :: rest =>
    if high < 0xDC00 ∧ 0xDC00 ≤ low then
      (joinPieces rest).map (.ofNat (0x10000 + (high - 0xD800) * 0x400 + (low - 0xDC00)) :: ·)
    else none
  | .half _ :: _ => none
  | .stray :: _ => none

/-- The token of a text literal whose pieces were collected last first. -/
def Token.ofPieces (pieces : List Piece) : Token :=
  .value (.text ((joinPieces pieces.reverse).map String.ofList))

/-! ### Scanning -/

/-- The white space of JSON. -/
def isSpace (c : Char) : Bool :=
  c == ' ' || c == '\t' || c == '\n' || c == '\r'

/-- The token that a sign stands for. -/
def Token.ofSign? (c : Char) : Option Token :=
  if c = '[' then some .listStart
  else if c = ']' then some .listEnd
  else if c = '\x7b' then some .objectStart
  else if c = '\x7d' then some .objectEnd
  else if c = ',' then some .comma
  else if c = ':' then some .colon
  else none

mutual

/-- Scans between tokens; `done` holds the tokens found, last first. -/
def scanFrom (done : List Token) : List Symbol → Option (List Token)
  | [] => some done.reverse
  | none :: _ => none
  | some c :: rest =>
    if isSpace c then scanFrom done rest
    else if c = '"' then scanText done [] rest
    else
      match Token.ofSign? c with
      | some token => scanFrom (token :: done) rest
      | none => scanWord done [c] rest

/-- Scans inside a word, its characters collected last first. -/
def scanWord (done : List Token) (word : List Char) : List Symbol → Option (List Token)
  | [] => (ofWord? word.reverse).map fun v => (.value v :: done).reverse
  | none :: _ => none
  | some c :: rest =>
    if isSpace c then
      match ofWord? word.reverse with
      | some v => scanFrom (.value v :: done) rest
      | none => none
    else if c = '"' then none
    else
      match Token.ofSign? c with
      | some token =>
        match ofWord? word.reverse with
        | some v => scanFrom (token :: .value v :: done) rest
        | none => none
      | none => scanWord done (c :: word) rest

/-- Scans inside a text literal, its pieces collected last first. -/
def scanText (done : List Token) (pieces : List Piece) : List Symbol → Option (List Token)
  | [] => none
  | some '\\' :: some 'u' :: a :: b :: c :: d :: rest =>
    match hexNumber? a b c d with
    | some code => scanText done (.ofCode code :: pieces) rest
    | none => none
  | some '\\' :: some c :: rest =>
    match shortEscape? c with
    | some named => scanText done (.char named :: pieces) rest
    | none => none
  | none :: rest => scanText done (.stray :: pieces) rest
  | some c :: rest =>
    if c = '"' then scanFrom (.ofPieces pieces :: done) rest
    else if c.toNat < 0x20 ∨ c = '\\' then none
    else scanText done (.char c :: pieces) rest

end

/-- The tokens of a row of symbols. -/
def scan (row : List Symbol) : Option (List Token) :=
  scanFrom [] row

end TaskLedger.Json
