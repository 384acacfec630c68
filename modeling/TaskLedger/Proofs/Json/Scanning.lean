/-
**Scanning what the grammar spells.** The tokens of a phrase's text are the tokens of the phrase.

* `isNumber_of_isNumeral` — the test for numbers accepts every number of the grammar.
* `IsDelimited`, `scanFrom_word` — a word outside quotes ends where white space or a sign follows.
* `scanText_pieces` — the pieces of a text literal are collected one by one.
* `scanFrom_spelledBy`, `scan_spelledBy` — a spelled phrase is scanned to its tokens.
-/
import TaskLedger.Json.Writer
import TaskLedger.Proofs.Json.Grammar

namespace TaskLedger.Json

open Decimal (IsDigits StartsPlain dropWhile_isDigit_append ne_of_isDigit)
open Text (Symbol)

/-! ### Numbers -/

section Numbers

variable {text : List Char}

theorem IsPower.startsPlain (power : IsPower text) : StartsPlain text := by
  cases power with
  | absent => exact .nil
  | mark mark _ _ => rcases mark with rfl | rfl <;> exact .cons rfl

theorem IsPower.isExponent (power : IsPower text) : isExponent text = true := by
  cases power with
  | absent => rfl
  | @mark mark sign digits isMark isSign isDigits =>
    have marked : (mark == 'e' || mark == 'E') = true := by
      rcases isMark with rfl | rfl <;> rfl
    have every : (!digits.isEmpty && digits.all Char.isDigit) = true := by
      simpa [isDigits.ne_nil] using isDigits.all
    simp only [List.mem_cons, List.not_mem_nil, or_false] at isSign
    rcases isSign with rfl | rfl | rfl
    · -- Without a sign the first digit must not pass for one.
      obtain ⟨first, rest, rfl, digit⟩ := isDigits.exists_cons
      simp only [List.cons_append, List.nil_append, Json.isExponent, marked, Bool.true_and]
      split
      · rename_i same
        exact absurd (List.cons.inj same).1 (ne_of_isDigit digit rfl)
      · rename_i same
        exact absurd (List.cons.inj same).1 (ne_of_isDigit digit rfl)
      · exact every
    · simpa [Json.isExponent, marked] using every
    · simpa [Json.isExponent, marked] using every

theorem IsDecimals.isNumberTail {decimals power : List Char} (isDecimals : IsDecimals decimals)
    (isPower : IsPower power) : isNumberTail (decimals ++ power) = true := by
  cases isDecimals with
  | absent =>
    have exponent := isPower.isExponent
    rw [List.nil_append]
    unfold Json.isNumberTail
    split
    · cases isPower with
      | mark mark _ _ => rcases mark with mark | mark <;> exact absurd mark (by decide)
    · exact exponent
  | @point digits isDigits =>
    obtain ⟨first, rest, rfl, digit⟩ := isDigits.exists_cons
    have tail := dropWhile_isDigit_append isDigits.all isPower.startsPlain
    simp only [List.cons_append] at tail ⊢
    simp only [Json.isNumberTail, tail, isPower.isExponent, List.head?_cons, Option.any_some, digit,
      Bool.and_true]

theorem IsDecimals.startsPlain {decimals power : List Char} (isDecimals : IsDecimals decimals)
    (isPower : IsPower power) : StartsPlain (decimals ++ power) := by
  cases isDecimals with
  | absent => exact isPower.startsPlain
  | point _ => exact .cons rfl

theorem IsWhole.isUnsigned {whole tail : List Char} (isWhole : IsWhole whole)
    (plain : StartsPlain tail) (isTail : isNumberTail tail = true) :
    isUnsigned (whole ++ tail) = true := by
  cases isWhole with
  | zero => exact isTail
  | digits isDigits notZero =>
    obtain ⟨first, rest, rfl, digit⟩ := isDigits.exists_cons
    have after := dropWhile_isDigit_append (fun c mem => isDigits.all c (List.mem_cons_of_mem _ mem))
      plain
    rw [List.cons_append]
    unfold Json.isUnsigned
    split
    · rename_i same
      exact absurd (congrArg some (List.cons.inj same).1) notZero
    · rename_i same
      obtain ⟨rfl, rfl⟩ := List.cons.inj same
      rw [after, digit, isTail, Bool.and_true]
    · rename_i same
      cases same

/-- **The test for numbers** accepts every number. -/
theorem isNumber_of_isNumeral (numeral : IsNumeral text) : isNumber text = true := by
  cases numeral with
  | @parts minus whole decimals power isMinus isWhole isDecimals isPower =>
    have unsigned := isWhole.isUnsigned (isDecimals.startsPlain isPower)
      (isDecimals.isNumberTail isPower)
    simp only [List.mem_cons, List.not_mem_nil, or_false] at isMinus
    rcases isMinus with rfl | rfl
    · rw [List.nil_append]
      unfold Json.isNumber
      split
      · rename_i rest same
        rw [same] at unsigned
        exact absurd unsigned (by simp [Json.isUnsigned])
      · exact unsigned
    · exact unsigned

end Numbers

/-! ### Words -/

/-- A character that can stand in a word outside quotes. -/
def isWordChar (c : Char) : Bool :=
  !isSpace c && c != '"' && (Token.ofSign? c).isNone

/-- After the text a word has come to its end. -/
inductive IsDelimited : List Symbol → Prop where
  | nil : IsDelimited []
  | space {c : Char} {rest : List Symbol} : isSpace c = true → IsDelimited (some c :: rest)
  | sign {c : Char} {token : Token} {rest : List Symbol} : Token.ofSign? c = some token →
      IsDelimited (some c :: rest)

/-- A word outside quotes and its value. -/
structure IsWord (word : List Char) (v : Json) : Prop where
  ne_nil : word ≠ []
  all : word.all isWordChar = true
  value : ofWord? word = some v

theorem isWordChar_of_isDigit {c : Char} (digit : c.isDigit = true) : isWordChar c = true := by
  have differs (other : Char) (plain : other.isDigit = false) : c ≠ other :=
    ne_of_isDigit digit plain
  simp [isWordChar, isSpace, Token.ofSign?, differs]

theorem all_isWordChar_of_isDigits {digits : List Char} (isDigits : IsDigits digits) :
    digits.all isWordChar = true :=
  List.all_eq_true.2 fun c mem => isWordChar_of_isDigit (isDigits.all c mem)

theorem IsWhole.all_isWordChar {whole : List Char} (isWhole : IsWhole whole) :
    whole.all isWordChar = true := by
  cases isWhole with
  | zero => rfl
  | digits isDigits _ => exact all_isWordChar_of_isDigits isDigits

theorem IsDecimals.all_isWordChar {decimals : List Char} (isDecimals : IsDecimals decimals) :
    decimals.all isWordChar = true := by
  cases isDecimals with
  | absent => rfl
  | point isDigits =>
    rw [List.all_cons, all_isWordChar_of_isDigits isDigits]
    rfl

theorem IsPower.all_isWordChar {power : List Char} (isPower : IsPower power) :
    power.all isWordChar = true := by
  cases isPower with
  | absent => rfl
  | mark isMark isSign isDigits =>
    rw [List.all_append, all_isWordChar_of_isDigits isDigits]
    simp only [List.mem_cons, List.not_mem_nil, or_false] at isSign
    rcases isMark with rfl | rfl <;> rcases isSign with rfl | rfl | rfl <;> rfl

/-- A number has neither white space nor signs nor quotes in it. -/
theorem all_isWordChar_of_isNumeral {text : List Char} (numeral : IsNumeral text) :
    text.all isWordChar = true := by
  cases numeral with
  | parts isMinus isWhole isDecimals isPower =>
    rw [List.all_append, List.all_append, List.all_append, isWhole.all_isWordChar,
      isDecimals.all_isWordChar, isPower.all_isWordChar]
    simp only [List.mem_cons, List.not_mem_nil, or_false] at isMinus
    rcases isMinus with rfl | rfl <;> rfl

theorem isWord_of_isNumeral {text : List Char} (numeral : IsNumeral text) :
    IsWord text (.number (String.ofList text)) := by
  have number := isNumber_of_isNumeral numeral
  refine ⟨?_, all_isWordChar_of_isNumeral numeral, ?_⟩
  · rintro rfl
    exact absurd number (by decide)
  · have differs {word : List Char} (no : isNumber word = false) : text ≠ word := by
      rintro rfl
      exact absurd number (by simp [no])
    rw [ofWord?, if_neg (differs rfl), if_neg (differs rfl), if_neg (differs rfl), if_pos number]

section Words

variable {c : Char} {token : Token} {v : Json} {word : List Char} {rest : List Symbol}

/-- A sign is neither white space nor a quote. -/
theorem plain_of_sign (sign : Token.ofSign? c = some token) : isSpace c = false ∧ c ≠ '"' := by
  unfold Token.ofSign? at sign
  split_ifs at sign <;> subst_vars <;> decide

theorem scanFrom_space (space : isSpace c = true) (done : List Token) :
    scanFrom done (some c :: rest) = scanFrom done rest := by
  rw [scanFrom, if_pos space]

theorem scanFrom_sign (sign : Token.ofSign? c = some token) (done : List Token) :
    scanFrom done (some c :: rest) = scanFrom (token :: done) rest := by
  obtain ⟨noSpace, noQuote⟩ := plain_of_sign sign
  rw [scanFrom, if_neg (by simp [noSpace]), if_neg noQuote, sign]

theorem plain_of_isWordChar (inWord : isWordChar c = true) :
    isSpace c = false ∧ c ≠ '"' ∧ Token.ofSign? c = none := by
  simp only [isWordChar, Bool.and_eq_true, Bool.not_eq_true', bne_iff_ne, ne_eq,
    Option.isNone_iff_eq_none] at inWord
  exact ⟨inWord.1.1, inWord.1.2, inWord.2⟩

theorem scanWord_chars (all : word.all isWordChar = true) (done : List Token)
    (before : List Char) :
    scanWord done before (word.map some ++ rest) = scanWord done (word.reverse ++ before) rest := by
  induction word generalizing before with
  | nil => rfl
  | cons c word ih =>
    rw [List.all_cons, Bool.and_eq_true] at all
    obtain ⟨noSpace, noQuote, noSign⟩ := plain_of_isWordChar all.1
    rw [List.map_cons, List.cons_append, scanWord, if_neg (by simp [noSpace]), if_neg noQuote, noSign]
    dsimp only
    rw [ih all.2, List.reverse_cons, List.append_assoc, List.singleton_append]

/-- A word ends at a delimiter, which is then scanned as if it stood alone. -/
theorem scanWord_end (value : ofWord? word.reverse = some v) (delimited : IsDelimited rest)
    (done : List Token) : scanWord done word rest = scanFrom (.value v :: done) rest := by
  cases delimited with
  | nil => rw [scanWord, value, scanFrom, Option.map_some]
  | space space => rw [scanFrom_space space, scanWord, if_pos space, value]
  | sign sign =>
    obtain ⟨noSpace, noQuote⟩ := plain_of_sign sign
    rw [scanFrom_sign sign, scanWord, if_neg (by simp [noSpace]), if_neg noQuote, sign, value]

/-- **A word is one token**, up to a delimiter. -/
theorem scanFrom_word (isWord : IsWord word v) (delimited : IsDelimited rest) (done : List Token) :
    scanFrom done (word.map some ++ rest) = scanFrom (.value v :: done) rest := by
  obtain ⟨c, others, rfl⟩ := List.exists_cons_of_ne_nil isWord.ne_nil
  have all := isWord.all
  rw [List.all_cons, Bool.and_eq_true] at all
  obtain ⟨noSpace, noQuote, noSign⟩ := plain_of_isWordChar all.1
  rw [List.map_cons, List.cons_append, scanFrom, if_neg (by simp [noSpace]), if_neg noQuote, noSign]
  dsimp only
  rw [scanWord_chars all.2]
  exact scanWord_end (by simpa using isWord.value) delimited done

theorem scanFrom_blank {blank : List Char} (isBlank : IsBlank blank) (done : List Token) :
    scanFrom done (blank.map some ++ rest) = scanFrom done rest := by
  induction blank with
  | nil => rfl
  | cons c blank ih =>
    obtain ⟨first, others⟩ := List.forall_mem_cons.1 isBlank
    rw [List.map_cons, List.cons_append, scanFrom_space first]
    exact ih others

end Words

/-! ### Text literals -/

section Texts

variable {rest : List Symbol}

theorem scanText_piece {piece : Piece} {text : List Char} (spelled : piece.SpelledBy text)
    (done : List Token) (got : List Piece) :
    scanText done got (text.map some ++ rest) = scanText done (piece :: got) rest := by
  cases spelled with
  | @plain c visible noQuote noEscape =>
    have noControl : ¬ (c.toNat < 0x20 ∨ c = '\\') := by
      rintro (low | escape)
      · omega
      · exact noEscape escape
    rw [List.map_singleton, List.singleton_append, scanText, if_neg noQuote, if_neg noControl]
    · exact fun _ _ _ _ _ _ escape => noEscape escape
    · exact fun _ _ _ escape => noEscape escape
  | @short letter named isNamed =>
    simp only [List.map_cons, List.map_nil, List.cons_append, List.nil_append]
    rw [scanText, isNamed]
    rintro _ _ _ _ _ _ rfl
    cases isNamed
  | number digits =>
    simp only [List.map_cons, List.map_nil, List.cons_append, List.nil_append]
    rw [scanText, digits]

/-- **The pieces of a literal** are collected one by one. -/
theorem scanText_pieces {pieces : List Piece} {texts : List (List Char)}
    (spelled : List.Forall₂ Piece.SpelledBy pieces texts) (done : List Token) (got : List Piece) :
    scanText done got (texts.flatten.map some ++ rest) =
      scanText done (pieces.reverse ++ got) rest := by
  induction spelled generalizing got with
  | nil => rfl
  | cons first _ ih =>
    rw [List.flatten_cons, List.map_append, List.append_assoc, scanText_piece first, ih,
      List.reverse_cons, List.append_assoc, List.singleton_append]

theorem scanFrom_literal {content : Content} {literal : List Char}
    (spelled : Content.SpelledBy content literal) (done : List Token) :
    scanFrom done (literal.map some ++ rest) = scanFrom (.value (.text content) :: done) rest := by
  cases spelled with
  | @pieces pieces texts each =>
    have noSpace : isSpace '"' = false := rfl
    simp only [List.map_cons, List.map_append, List.map_nil, List.cons_append, List.append_assoc,
      List.nil_append]
    rw [scanFrom, if_neg (by simp [noSpace]), if_pos rfl, scanText_pieces each, scanText, if_pos rfl,
      Token.ofPieces, List.append_nil, List.reverse_reverse]
    · exact fun _ _ _ _ _ _ quote => absurd quote (by decide)
    · exact fun _ _ _ quote => absurd quote (by decide)

end Texts

/-! ### Phrases -/

/-- The tokens of a phrase. -/
def Phrase.tokens : Phrase → List Token
  | .value v => v.tokens
  | .items [] => []
  | .items (item :: rest) => item.tokens ++ moreItems rest
  | .members [] => []
  | .members (member :: rest) => memberTokens member ++ moreMembers rest

/-- Between brackets that hold nothing there is no phrase. -/
def Phrase.IsFull : Phrase → Prop
  | .value _ => True
  | .items inside => inside ≠ []
  | .members inside => inside ≠ []

theorem Phrase.SpelledBy.isFull {phrase : Phrase} {text : List Char} (spelled : phrase.SpelledBy text) :
    phrase.IsFull := by
  induction spelled with
  | padded _ _ _ ih => exact ih
  | lastItem _ _ | item _ _ _ _ | lastMember _ _ _ _ | member _ _ _ _ => exact List.cons_ne_nil _ _
  | _ => trivial

theorem tokens_list (items : List Json) :
    (Json.list items).tokens = .listStart :: (Phrase.items items).tokens ++ [.listEnd] := by
  cases items <;> rfl

theorem tokens_object (members : List Member) :
    (Json.object members).tokens =
      .objectStart :: (Phrase.members members).tokens ++ [.objectEnd] := by
  cases members <;> rfl

theorem moreItems_eq {items : List Json} (full : items ≠ []) :
    moreItems items = .comma :: (Phrase.items items).tokens := by
  cases items with
  | nil => exact absurd rfl full
  | cons _ _ => rfl

theorem moreMembers_eq {members : List Member} (full : members ≠ []) :
    moreMembers members = .comma :: (Phrase.members members).tokens := by
  cases members with
  | nil => exact absurd rfl full
  | cons _ _ => rfl

/-- White space before a delimiter does not hide it. -/
theorem IsDelimited.blank {blank : List Char} {rest : List Symbol} (isBlank : IsBlank blank)
    (delimited : IsDelimited rest) : IsDelimited (blank.map some ++ rest) := by
  cases blank with
  | nil => exact delimited
  | cons c blank => exact .space (isBlank c List.mem_cons_self)

/-- **A phrase is scanned to its tokens**, whatever was scanned before and, up to a delimiter,
whatever follows. -/
theorem scanFrom_spelledBy {phrase : Phrase} {text : List Char} (spelled : phrase.SpelledBy text)
    {rest : List Symbol} (delimited : IsDelimited rest) (done : List Token) :
    scanFrom done (text.map some ++ rest) = scanFrom (phrase.tokens.reverse ++ done) rest := by
  induction spelled generalizing rest done with
  | null => exact scanFrom_word ⟨List.cons_ne_nil _ _, rfl, rfl⟩ delimited done
  | true => exact scanFrom_word ⟨List.cons_ne_nil _ _, rfl, rfl⟩ delimited done
  | false => exact scanFrom_word ⟨List.cons_ne_nil _ _, rfl, rfl⟩ delimited done
  | number numeral => exact scanFrom_word (isWord_of_isNumeral numeral) delimited done
  | text literal => exact scanFrom_literal literal done
  | emptyList blank =>
    simp only [List.map_cons, List.map_append, List.map_nil, List.cons_append, List.append_assoc,
      List.nil_append]
    rw [scanFrom_sign rfl, scanFrom_blank blank, scanFrom_sign rfl]
    rfl
  | list _ ih =>
    simp only [List.map_cons, List.map_append, List.map_nil, List.cons_append, List.append_assoc,
      List.nil_append]
    rw [scanFrom_sign rfl, ih (.sign rfl), scanFrom_sign rfl, Phrase.tokens, tokens_list]
    simp
  | emptyObject blank =>
    simp only [List.map_cons, List.map_append, List.map_nil, List.cons_append, List.append_assoc,
      List.nil_append]
    rw [scanFrom_sign rfl, scanFrom_blank blank, scanFrom_sign rfl]
    rfl
  | object _ ih =>
    simp only [List.map_cons, List.map_append, List.map_nil, List.cons_append, List.append_assoc,
      List.nil_append]
    rw [scanFrom_sign rfl, ih (.sign rfl), scanFrom_sign rfl, Phrase.tokens, tokens_object]
    simp
  | lastItem _ ih =>
    rw [ih delimited, Phrase.tokens, Phrase.tokens, moreItems, List.append_nil]
  | item _ others ih ihOthers =>
    simp only [List.map_cons, List.map_append, List.cons_append, List.append_assoc]
    rw [ih (.sign rfl), scanFrom_sign rfl, ihOthers delimited, Phrase.tokens, Phrase.tokens,
      moreItems_eq others.isFull]
    simp
  | lastMember key blank _ ih =>
    simp only [List.map_cons, List.map_append, List.cons_append, List.append_assoc]
    rw [scanFrom_literal key, scanFrom_blank blank, scanFrom_sign rfl, ih delimited, Phrase.tokens,
      Phrase.tokens, moreMembers, memberTokens]
    simp
  | member _ others ih ihOthers =>
    simp only [List.map_cons, List.map_append, List.cons_append, List.append_assoc]
    rw [ih (.sign rfl), scanFrom_sign rfl, ihOthers delimited, Phrase.tokens, Phrase.tokens,
      moreMembers_eq others.isFull, moreMembers]
    simp
  | padded before _ after ih =>
    simp only [List.map_append, List.append_assoc]
    rw [scanFrom_blank before, ih (delimited.blank after), scanFrom_blank after]

/-- **A spelled value is scanned to its tokens.** -/
theorem scan_spelledBy {v : Json} {text : List Char} (spelled : v.SpelledBy text) :
    scan (text.map some) = some v.tokens := by
  have scanned := scanFrom_spelledBy spelled .nil []
  rw [List.append_nil, List.append_nil, scanFrom, List.reverse_reverse] at scanned
  exact scanned

end TaskLedger.Json
