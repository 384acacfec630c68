/-
**Writing what the grammar spells.** Both layouts write a value as a text that spells it.

* `spelledBy_spelledChar`, `spelledBy_spelledContent` — an escaped character is that character, and a
  written text literal has its content.
* `Json.IsWellFormed` — the numbers in the value are spelled as numbers.
* `following_append` — the text of a row of tokens is that of its two parts, one after the other.
* `Layout.Prints`, `prints_items`, `prints_members`, `prints_value` — wherever the tokens of a phrase
  are written, they spell it.
* `spelledBy_spelled` — the text of a value spells it.
-/
import TaskLedger.Proofs.Json.Scanning

namespace TaskLedger.Json

/-! ### Text literals -/

/-- A control is escaped by two hexadecimal digits after two zeros. -/
theorem hexNumber?_control : ∀ code < 0x20,
    (Nat.toDigits 16 code).leftpad 2 '0' = [Nat.digitChar (code / 16), Nat.digitChar (code % 16)] ∧
      hexNumber? '0' '0' (Nat.digitChar (code / 16)) (Nat.digitChar (code % 16)) = some code := by
  decide

theorem spelledBy_escapedControl {c : Char} (control : c.toNat < 0x20) :
    Piece.SpelledBy (.char c) (escapedControl c) := by
  obtain ⟨digits, number⟩ := hexNumber?_control c.toNat control
  have named : Piece.ofCode c.toNat = .char c := by
    rw [Piece.ofCode, if_neg (by omega), Char.ofNat_toNat]
  unfold escapedControl
  split_ifs with backspace tab line form back
  · subst backspace
    exact .short rfl
  · subst tab
    exact .short rfl
  · subst line
    exact .short rfl
  · subst form
    exact .short rfl
  · subst back
    exact .short rfl
  · rw [digits, ← named]
    exact .number number

/-- **An escaped character is that character.** -/
theorem spelledBy_spelledChar (c : Char) : Piece.SpelledBy (.char c) (spelledChar c) := by
  unfold spelledChar
  split_ifs with quote escape control
  · subst quote
    exact .short rfl
  · subst escape
    exact .short rfl
  · exact spelledBy_escapedControl control
  · exact .plain (by omega) quote escape

theorem joinPieces_chars (text : List Char) : joinPieces (text.map .char) = some text := by
  induction text with
  | nil => rfl
  | cons c rest ih => rw [List.map_cons, joinPieces, ih, Option.map_some]

/-- **A written text literal has its content.** -/
theorem spelledBy_spelledContent (content : Content) :
    Content.SpelledBy content (spelledContent content) := by
  cases content with
  | none =>
    have half : Piece.SpelledBy (.ofCode 0xD800) ['\\', 'u', 'd', '8', '0', '0'] := .number rfl
    exact .pieces (.cons half .nil)
  | some s =>
    have each : List.Forall₂ Piece.SpelledBy (s.toList.map .char) (s.toList.map spelledChar) := by
      rw [List.forall₂_map_left_iff, List.forall₂_map_right_iff, List.forall₂_same]
      exact fun c _ => spelledBy_spelledChar c
    have literal := Content.SpelledBy.pieces each
    rw [joinPieces_chars, Option.map_some, String.ofList_toList, ← List.flatMap_def] at literal
    exact literal

/-! ### Values -/

/-- The numbers in the value are spelled as numbers. -/
inductive IsWellFormed : Json → Prop where
  | null : IsWellFormed .null
  | bool (b : Bool) : IsWellFormed (.bool b)
  | number {literal : String} : IsNumeral literal.toList → IsWellFormed (.number literal)
  | text (content : Content) : IsWellFormed (.text content)
  | list {items : List Json} : (∀ item ∈ items, IsWellFormed item) → IsWellFormed (.list items)
  | object {members : List Member} : (∀ member ∈ members, IsWellFormed member.2) →
      IsWellFormed (.object members)

theorem isBlank_nil : IsBlank [] :=
  fun _ mem => nomatch mem

theorem isBlank_gap (layout : Layout) (level : Nat) (before after : Token) :
    IsBlank (layout.gap level before after) := by
  have lineBreaks (depth : Nat) : IsBlank (lineBreak depth) := by
    rintro c mem
    rcases List.mem_cons.1 mem with rfl | space
    · rfl
    · rw [List.eq_of_mem_replicate space]
      rfl
  cases layout with
  | compact => exact isBlank_nil
  | indented =>
    unfold Layout.gap
    dsimp only
    split_ifs
    · exact isBlank_nil
    · exact lineBreaks _
    · exact lineBreaks _
    · exact fun c mem => List.mem_singleton.1 mem ▸ rfl
    · exact isBlank_nil

/-- **The text of a row of tokens** is that of its two parts, one after the other. -/
theorem following_append (layout : Layout) (level : Nat) (before : Token) (tokens : List Token) :
    ∃ reached last, ∀ rest, layout.following level before (tokens ++ rest) =
      layout.following level before tokens ++ layout.following reached last rest := by
  induction tokens generalizing level before with
  | nil => exact ⟨level, before, fun _ => rfl⟩
  | cons token tokens ih =>
    obtain ⟨reached, last, append⟩ := ih (token.level level) token
    refine ⟨reached, last, fun rest => ?_⟩
    rw [List.cons_append, Layout.following, append, Layout.following]
    simp only [List.append_assoc]

section Following

variable {layout : Layout}

/-- Wherever the tokens of a phrase are written, they spell it. -/
def Layout.Prints (layout : Layout) (phrase : Phrase) : Prop :=
  ∀ level before, phrase.SpelledBy (layout.following level before phrase.tokens)

theorem Phrase.SpelledBy.indent {phrase : Phrase} {before text : List Char} (blank : IsBlank before)
    (spelled : phrase.SpelledBy text) : phrase.SpelledBy (before ++ text) := by
  have padded := Phrase.SpelledBy.padded blank spelled isBlank_nil
  rwa [List.append_nil] at padded

theorem Phrase.SpelledBy.trail {phrase : Phrase} {text after : List Char} (blank : IsBlank after)
    (spelled : phrase.SpelledBy text) : phrase.SpelledBy (text ++ after) :=
  .padded isBlank_nil spelled blank

theorem prints_token {v : Json} {token : Token} (alone : v.tokens = [token])
    (spelled : v.SpelledBy token.spelled) : layout.Prints (.value v) := by
  intro level before
  rw [Phrase.tokens, alone, Layout.following, Layout.following, List.append_nil]
  exact spelled.indent (isBlank_gap _ _ _ _)

theorem prints_items {items : List Json} (full : items ≠ [])
    (each : ∀ item ∈ items, layout.Prints (.value item)) : layout.Prints (.items items) := by
  induction items with
  | nil => exact absurd rfl full
  | cons item rest ih =>
    obtain ⟨first, others⟩ := List.forall_mem_cons.1 each
    intro level before
    obtain ⟨reached, last, append⟩ := following_append layout level before item.tokens
    rw [Phrase.tokens, append]
    by_cases more : rest = []
    · subst more
      rw [moreItems, Layout.following, List.append_nil]
      exact .lastItem (first level before)
    · rw [moreItems_eq more, Layout.following, List.append_assoc, ← List.append_assoc]
      exact .item ((first level before).trail (isBlank_gap _ _ _ _)) (ih more others _ _)

theorem prints_member {member : Member} (value : layout.Prints (.value member.2)) :
    layout.Prints (.members [member]) := by
  intro level before
  rw [Phrase.tokens, moreMembers, List.append_nil, memberTokens, Layout.following, Layout.following,
    List.append_assoc, List.append_assoc]
  exact (Phrase.SpelledBy.lastMember (spelledBy_spelledContent _) (isBlank_gap _ _ _ _)
    (value _ _)).indent (isBlank_gap _ _ _ _)

theorem prints_members {members : List Member} (full : members ≠ [])
    (each : ∀ member ∈ members, layout.Prints (.value member.2)) :
    layout.Prints (.members members) := by
  induction members with
  | nil => exact absurd rfl full
  | cons member rest ih =>
    obtain ⟨first, others⟩ := List.forall_mem_cons.1 each
    intro level before
    obtain ⟨reached, last, append⟩ := following_append layout level before (memberTokens member)
    have alone := prints_member first level before
    rw [Phrase.tokens, moreMembers, List.append_nil] at alone
    rw [Phrase.tokens, append]
    by_cases more : rest = []
    · subst more
      rw [moreMembers, Layout.following, List.append_nil]
      exact alone
    · rw [moreMembers_eq more, Layout.following, List.append_assoc, ← List.append_assoc]
      exact .member (alone.trail (isBlank_gap _ _ _ _)) (ih more others _ _)

/-- What stands between two brackets is written between their signs. -/
theorem following_bracketed (layout : Layout) (level : Nat) (before first last : Token)
    (tokens : List Token) : ∃ lead reached trail, IsBlank lead ∧ IsBlank trail ∧
      layout.following level before (first :: tokens ++ [last]) =
        lead ++
          (first.spelled ++ (layout.following reached first tokens ++ trail) ++ last.spelled) := by
  obtain ⟨reached, inner, append⟩ := following_append layout (first.level level) first tokens
  refine ⟨layout.gap level before first, first.level level, layout.gap reached inner last,
    isBlank_gap _ _ _ _, isBlank_gap _ _ _ _, ?_⟩
  rw [List.cons_append, Layout.following, append, Layout.following, Layout.following]
  simp only [List.append_assoc, List.append_nil]

/-- **Wherever a value is written, its text spells it.** -/
theorem prints_value {v : Json} (wellFormed : v.IsWellFormed) : layout.Prints (.value v) := by
  induction wellFormed with
  | null => exact prints_token rfl .null
  | bool b => cases b with
    | true => exact prints_token rfl .true
    | false => exact prints_token rfl .false
  | @number literal numeral =>
    have spelled := Phrase.SpelledBy.number numeral
    rw [String.ofList_toList] at spelled
    exact prints_token rfl spelled
  | text content => exact prints_token rfl (.text (spelledBy_spelledContent content))
  | @list items _ ih =>
    intro level before
    obtain ⟨lead, reached, trail, leads, trails, written⟩ :=
      following_bracketed layout level before .listStart .listEnd (Phrase.items items).tokens
    rw [Phrase.tokens, tokens_list, written]
    by_cases empty : items = []
    · subst empty
      exact (Phrase.SpelledBy.emptyList trails).indent leads
    · exact (Phrase.SpelledBy.list ((prints_items empty ih _ _).trail trails)).indent leads
  | @object members _ ih =>
    intro level before
    obtain ⟨lead, reached, trail, leads, trails, written⟩ :=
      following_bracketed layout level before .objectStart .objectEnd (Phrase.members members).tokens
    rw [Phrase.tokens, tokens_object, written]
    by_cases empty : members = []
    · subst empty
      exact (Phrase.SpelledBy.emptyObject trails).indent leads
    · exact (Phrase.SpelledBy.object ((prints_members empty ih _ _).trail trails)).indent leads

/-- No white space is written before the first token of a value. -/
theorem spelled_tokens (layout : Layout) (v : Json) :
    layout.spelled v.tokens = layout.following 0 .listEnd v.tokens := by
  have start {token : Token} (opens : token.closes = false) (rest : List Token) :
      layout.spelled (token :: rest) = layout.following 0 .listEnd (token :: rest) := by
    have nothing : layout.gap 0 .listEnd token = [] := by
      cases layout with
      | compact => rfl
      | indented =>
        rw [Layout.gap, opens]
        rfl
    rw [Layout.spelled, Layout.following, nothing, List.nil_append]
  cases v with
  | list items =>
    rw [tokens_list]
    exact start rfl _
  | object members =>
    rw [tokens_object]
    exact start rfl _
  | _ => exact start rfl _

/-- **The text of a value spells it**, in each layout. -/
theorem spelledBy_spelled (layout : Layout) {v : Json} (wellFormed : v.IsWellFormed) :
    v.SpelledBy (layout.spelled v.tokens) := by
  rw [spelled_tokens]
  exact prints_value wellFormed _ _

end Following

end TaskLedger.Json
