/-
**Blocks of text.** A text that is stored as bytes is read back as its characters.

* `utf8DecodeChar?_after` — after other bytes, the character that was encoded is the one decoded.
* `symbols_bytes` — the symbols of a stored text are its characters.
-/
import TaskLedger.Text.Symbol

namespace TaskLedger.Text

/-- Bytes in front do not change how a character is decoded. -/
theorem utf8DecodeChar?_after (before : ByteArray) (c : Char) (rest : List Char) :
    (before ++ (c :: rest).utf8Encode).utf8DecodeChar? before.size = some c := by
  rw [ByteArray.utf8DecodeChar?_eq_utf8DecodeChar?_extract,
    ByteArray.extract_append_eq_right rfl ByteArray.size_append]
  exact List.utf8DecodeChar?_utf8Encode_cons

theorem symbolsFrom_utf8Encode (text : List Char) (before : ByteArray) :
    symbolsFrom (before ++ text.utf8Encode) before.size = text.map some := by
  induction text generalizing before with
  | nil =>
    rw [symbolsFrom, if_neg (by simp)]
    rfl
  | cons c rest ih =>
    have width : ([c].utf8Encode).size = c.utf8Size := by
      simp [List.utf8Encode_singleton]
    have position : (before ++ [c].utf8Encode).size = before.size + c.utf8Size := by
      rw [ByteArray.size_append, width]
    have inside : before.size < (before ++ (c :: rest).utf8Encode).size := by
      have := c.utf8Size_pos
      rw [ByteArray.size_append, List.utf8Encode_cons, ByteArray.size_append, width]
      omega
    have tail := ih (before ++ [c].utf8Encode)
    rw [position] at tail
    rw [symbolsFrom, if_pos inside, utf8DecodeChar?_after, List.utf8Encode_cons,
      ← ByteArray.append_assoc]
    exact congrArg (some c :: ·) tail

/-- **A stored text is read back.** -/
@[simp] theorem symbols_bytes (text : List Char) : symbols (bytes text) = text.map some := by
  have stored : bytes text = ByteArray.empty ++ text.utf8Encode := by
    rw [bytes, String.toUTF8_eq_toByteArray, String.toByteArray_ofList, ByteArray.empty_append]
  rw [symbols, stored]
  exact symbolsFrom_utf8Encode text ByteArray.empty

end TaskLedger.Text
