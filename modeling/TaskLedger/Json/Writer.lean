/-
**Writing JSON.** From a value to its tokens, and from tokens to text in one of two layouts.

* `Json.tokens` — the tokens of a value, in order.
* `Layout.gap` — the white space between two tokens: none in the compact layout, line breaks with two
  spaces a level in the indented one.
* `Json.compact`, `Json.indented` — the texts.
-/
import TaskLedger.Json.Token

namespace TaskLedger.Json

mutual

/-- The tokens of a value. -/
def tokens : Json → List Token
  | .list [] => [.listStart, .listEnd]
  | .list (item :: rest) => .listStart :: item.tokens ++ moreItems rest ++ [.listEnd]
  | .object [] => [.objectStart, .objectEnd]
  | .object (member :: rest) =>
    .objectStart :: memberTokens member ++ moreMembers rest ++ [.objectEnd]
  | .null => [.value .null]
  | .bool b => [.value (.bool b)]
  | .number literal => [.value (.number literal)]
  | .text content => [.value (.text content)]
termination_by structural v => v

/-- The tokens of the items after the first. -/
def moreItems : List Json → List Token
  | [] => []
  | item :: rest => .comma :: item.tokens ++ moreItems rest
termination_by structural items => items

/-- The tokens of the members after the first. -/
def moreMembers : List (Content × Json) → List Token
  | [] => []
  | member :: rest => .comma :: memberTokens member ++ moreMembers rest
termination_by structural members => members

/-- The tokens of a member. -/
def memberTokens : Content × Json → List Token
  | (key, v) => .value (.text key) :: .colon :: v.tokens
termination_by structural member => member

end

/-- How tokens are set apart. -/
inductive Layout where
  | compact
  | indented
deriving DecidableEq

/-- The token opens a bracket. -/
def Token.opens : Token → Bool
  | .listStart | .objectStart => true
  | _ => false

/-- The token closes a bracket. -/
def Token.closes : Token → Bool
  | .listEnd | .objectEnd => true
  | _ => false

/-- A line break and the indentation of a level. -/
def lineBreak (level : Nat) : List Char :=
  '\n' :: List.replicate (2 * level) ' '

/-- The white space between two tokens with `level` brackets open between them. -/
def Layout.gap : Layout → (level : Nat) → (before after : Token) → List Char
  | .compact, _, _, _ => []
  | .indented, level, before, after =>
    if before.opens && after.closes then []
    else if after.closes then lineBreak (level - 1)
    else if before.opens || before == .comma then lineBreak level
    else if before == .colon then [' ']
    else []

/-- The brackets open after a token. -/
def Token.level (level : Nat) (token : Token) : Nat :=
  if token.opens then level + 1 else if token.closes then level - 1 else level

/-- The text of the tokens that follow a token, with `level` brackets open after it. -/
def Layout.following (layout : Layout) (level : Nat) (before : Token) : List Token → List Char
  | [] => []
  | token :: rest =>
    layout.gap level before token ++ token.spelled ++ layout.following (token.level level) token rest

/-- The text of a row of tokens. -/
def Layout.spelled (layout : Layout) : List Token → List Char
  | [] => []
  | token :: rest => token.spelled ++ layout.following (token.level 0) token rest

/-- The text without any white space between tokens. -/
def compact (v : Json) : List Char :=
  Layout.compact.spelled v.tokens

/-- The text with a line for each item and each member. -/
def indented (v : Json) : List Char :=
  Layout.indented.spelled v.tokens

end TaskLedger.Json
