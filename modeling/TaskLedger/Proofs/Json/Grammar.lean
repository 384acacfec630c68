/-
**The grammar of JSON.** Which texts spell a value, said without scanner and machine.

* `IsNumeral` — numbers, put together from their parts.
* `Piece.SpelledBy`, `Content.SpelledBy` — text literals: characters that stand for themselves, short
  escapes and escapes by number.
* `Phrase.SpelledBy` — a value, or the items or members between two brackets; white space may stand
  before and after each of them, and around keys.
* `Json.SpelledBy` — the text spells the value.
-/
import TaskLedger.Json.Reader
import TaskLedger.Proofs.Decimal.Digits
import Mathlib.Data.List.Forall2

namespace TaskLedger.Json

open Decimal (IsDigits)

/-! ### Numbers -/

/-- The whole part of a number: `0`, or digits of which the first is another. -/
inductive IsWhole : List Char → Prop where
  | zero : IsWhole ['0']
  | digits {digits : List Char} : IsDigits digits → digits.head? ≠ some '0' → IsWhole digits

/-- The decimals of a number, with the point. -/
inductive IsDecimals : List Char → Prop where
  | absent : IsDecimals []
  | point {digits : List Char} : IsDigits digits → IsDecimals ('.' :: digits)

/-- The exponent of a number, with its mark. -/
inductive IsPower : List Char → Prop where
  | absent : IsPower []
  | mark {mark : Char} {sign digits : List Char} : mark = 'e' ∨ mark = 'E' →
      sign ∈ [[], ['+'], ['-']] → IsDigits digits → IsPower (mark :: sign ++ digits)

/-- A number. -/
inductive IsNumeral : List Char → Prop where
  | parts {minus whole decimals power : List Char} : minus ∈ [[], ['-']] → IsWhole whole →
      IsDecimals decimals → IsPower power → IsNumeral (minus ++ (whole ++ (decimals ++ power)))

/-! ### Texts -/

/-- How a piece of a text literal is written. -/
inductive Piece.SpelledBy : Piece → List Char → Prop where
  | plain {c : Char} : 0x20 ≤ c.toNat → c ≠ '"' → c ≠ '\\' → Piece.SpelledBy (.char c) [c]
  | short {letter named : Char} : shortEscape? letter = some named →
      Piece.SpelledBy (.char named) ['\\', letter]
  | number {a b c d : Char} {code : Nat} : hexNumber? a b c d = some code →
      Piece.SpelledBy (.ofCode code) ['\\', 'u', a, b, c, d]

/-- A text literal with a content: its pieces between quotes. -/
inductive Content.SpelledBy : Content → List Char → Prop where
  | pieces {pieces : List Piece} {texts : List (List Char)} :
      List.Forall₂ Piece.SpelledBy pieces texts →
      Content.SpelledBy ((joinPieces pieces).map String.ofList) ('"' :: texts.flatten ++ ['"'])

/-! ### Values -/

/-- White space of JSON. -/
def IsBlank (text : List Char) : Prop :=
  ∀ c ∈ text, isSpace c = true

/-- What stands at one place of a text: a value, or what is between the brackets of a list or an
object that holds something. -/
inductive Phrase where
  | value (v : Json)
  | items (items : List Json)
  | members (members : List Member)

/-- The text spells the phrase. -/
inductive Phrase.SpelledBy : Phrase → List Char → Prop where
  | null : SpelledBy (.value .null) ['n', 'u', 'l', 'l']
  | true : SpelledBy (.value (.bool true)) ['t', 'r', 'u', 'e']
  | false : SpelledBy (.value (.bool false)) ['f', 'a', 'l', 's', 'e']
  | number {literal : List Char} : IsNumeral literal →
      SpelledBy (.value (.number (String.ofList literal))) literal
  | text {content : Content} {literal : List Char} : Content.SpelledBy content literal →
      SpelledBy (.value (.text content)) literal
  | emptyList {blank : List Char} : IsBlank blank →
      SpelledBy (.value (.list [])) ('[' :: blank ++ [']'])
  | list {items : List Json} {text : List Char} : SpelledBy (.items items) text →
      SpelledBy (.value (.list items)) ('[' :: text ++ [']'])
  | emptyObject {blank : List Char} : IsBlank blank →
      SpelledBy (.value (.object [])) ('\x7b' :: blank ++ ['\x7d'])
  | object {members : List Member} {text : List Char} : SpelledBy (.members members) text →
      SpelledBy (.value (.object members)) ('\x7b' :: text ++ ['\x7d'])
  | lastItem {v : Json} {text : List Char} : SpelledBy (.value v) text → SpelledBy (.items [v]) text
  | item {v : Json} {rest : List Json} {text others : List Char} : SpelledBy (.value v) text →
      SpelledBy (.items rest) others → SpelledBy (.items (v :: rest)) (text ++ ',' :: others)
  | lastMember {key : Content} {v : Json} {name blank text : List Char} :
      Content.SpelledBy key name → IsBlank blank → SpelledBy (.value v) text →
      SpelledBy (.members [(key, v)]) (name ++ (blank ++ ':' :: text))
  | member {member : Member} {rest : List Member} {text others : List Char} :
      SpelledBy (.members [member]) text → SpelledBy (.members rest) others →
      SpelledBy (.members (member :: rest)) (text ++ ',' :: others)
  | padded {phrase : Phrase} {before text after : List Char} : IsBlank before →
      SpelledBy phrase text → IsBlank after → SpelledBy phrase (before ++ (text ++ after))

/-- The text spells the value. -/
def SpelledBy (v : Json) (text : List Char) : Prop :=
  (Phrase.value v).SpelledBy text

end TaskLedger.Json
