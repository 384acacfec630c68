/-
**Symbols.** What a block of bytes says, read as UTF-8 one character at a time.

* `Symbol` — a character, or `none` for a byte that belongs to no well-formed sequence.
* `symbols` — the symbols of a block; a stray byte costs that byte alone.
* `bytes` — the block that a text is stored as.
-/
namespace TaskLedger.Text

/-- A character of a block, or the mark of a byte that belongs to none. -/
abbrev Symbol := Option Char

/-- The symbols of a block from a position on. -/
def symbolsFrom (block : ByteArray) (position : Nat) : List Symbol :=
  if position < block.size then
    match block.utf8DecodeChar? position with
    | some c => some c :: symbolsFrom block (position + c.utf8Size)
    | none => none :: symbolsFrom block (position + 1)
  else []
termination_by block.size - position
decreasing_by
  · have := c.utf8Size_pos
    omega
  · omega

/-- The symbols of a block. -/
def symbols (block : ByteArray) : List Symbol :=
  symbolsFrom block 0

/-- The block that a text is stored as. -/
def bytes (text : List Char) : ByteArray :=
  (String.ofList text).toUTF8

end TaskLedger.Text
