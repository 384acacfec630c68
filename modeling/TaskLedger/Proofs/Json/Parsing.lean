/-
**Reading what the grammar spells.** The machine makes of a value's tokens the value.

* `run_tokens` — where a value is wanted, its tokens put it in place. The proof is by recursion on the
  value, together with the rows of further items and members.
* `ofText?_spelledBy`, `ofBytes?_spelledBy` — a spelled value is read.
* `SpelledBy.unique` — so a text spells one value at most.
-/
import TaskLedger.Json.Reader
import TaskLedger.Proofs.Json.Scanning
import TaskLedger.Proofs.Text.Symbol

namespace TaskLedger.Json

namespace Reader

theorem run_cons {reader next : Reader} {token : Token} (taken : reader.step token = some next)
    (rest : List Token) : reader.run (token :: rest) = next.run rest := by
  rw [run, taken, Option.bind_some]

/-- What starts a value where one is wanted also starts it in a list that was just opened. -/
theorem run_wantItem (v : Json) (frames : List Frame) (rest : List Token) :
    (wantItem (.list [] :: frames)).run (v.tokens ++ rest) =
      (wantValue (.list [] :: frames)).run (v.tokens ++ rest) := by
  cases v with
  | list items => cases items <;> rfl
  | object members => cases members <;> rfl
  | _ => rfl

/-- What starts a member after a comma also starts it in an object that was just opened. -/
theorem run_wantMember (member : Member) (frames : List Frame) (rest : List Token) :
    (wantMember frames).run (memberTokens member ++ rest) =
      (wantKey [] frames).run (memberTokens member ++ rest) := by
  cases member
  rfl

mutual

/-- **The tokens of a value put it in place.** -/
theorem run_tokens (v : Json) (frames : List Frame) (rest : List Token) :
    (wantValue frames).run (v.tokens ++ rest) = (give v frames).run rest := by
  match v with
  | .null => rfl
  | .bool _ => rfl
  | .number _ => rfl
  | .text _ => rfl
  | .list [] => rfl
  | .list (item :: items) =>
    have closed : (wantMore (.list (items.reverse ++ [item]) :: frames)).step .listEnd =
        some (give (.list (item :: items)) frames) := by
      simp [step]
    rw [tokens]
    simp only [List.cons_append, List.append_assoc]
    rw [run_cons rfl, run_wantItem, run_tokens item, give, run_moreItems items]
    exact run_cons closed rest
  | .object [] => rfl
  | .object (member :: members) =>
    have closed : (wantMore (.object (members.reverse ++ [member]) :: frames)).step .objectEnd =
        some (give (.object (member :: members)) frames) := by
      simp [step]
    rw [tokens]
    simp only [List.cons_append, List.append_assoc]
    rw [run_cons rfl, run_wantMember, run_memberTokens member, run_moreMembers members]
    exact run_cons closed rest
termination_by structural v

/-- Further items are put behind those read. -/
theorem run_moreItems (items : List Json) (got : List Json) (frames : List Frame)
    (rest : List Token) :
    (wantMore (.list got :: frames)).run (moreItems items ++ rest) =
      (wantMore (.list (items.reverse ++ got) :: frames)).run rest := by
  match items with
  | [] => rfl
  | item :: others =>
    rw [moreItems, List.cons_append, List.cons_append, List.append_assoc, run_cons rfl,
      run_tokens item, give, run_moreItems others, List.reverse_cons, List.append_assoc,
      List.singleton_append]
termination_by structural items

/-- Further members are put behind those read. -/
theorem run_moreMembers (members got : List Member) (frames : List Frame) (rest : List Token) :
    (wantMore (.object got :: frames)).run (moreMembers members ++ rest) =
      (wantMore (.object (members.reverse ++ got) :: frames)).run rest := by
  match members with
  | [] => rfl
  | member :: others =>
    rw [moreMembers, List.cons_append, List.cons_append, List.append_assoc, run_cons rfl,
      run_memberTokens member, run_moreMembers others, List.reverse_cons, List.append_assoc,
      List.singleton_append]
termination_by structural members

/-- A member is put behind those read. -/
theorem run_memberTokens (member : Member) (got : List Member) (frames : List Frame)
    (rest : List Token) :
    (wantKey got frames).run (memberTokens member ++ rest) =
      (wantMore (.object (member :: got) :: frames)).run rest := by
  match member with
  | (key, v) =>
    rw [memberTokens, List.cons_append, List.cons_append, run_cons rfl, run_cons rfl, run_tokens v,
      give]
termination_by structural member

end

end Reader

section Spelled

variable {v : Json} {text : List Char}

theorem ofTokens?_tokens (v : Json) : ofTokens? v.tokens = some v := by
  have taken := Reader.run_tokens v [] []
  rw [List.append_nil] at taken
  rw [ofTokens?, taken]
  rfl

/-- **A spelled value is read from its text.** -/
theorem ofText?_spelledBy (spelled : v.SpelledBy text) : ofText? text = some v := by
  rw [ofText?, ofSymbols?, scan_spelledBy spelled, Option.bind_some, ofTokens?_tokens]

/-- **A spelled value is read from the bytes of its text.** -/
theorem ofBytes?_spelledBy (spelled : v.SpelledBy text) : ofBytes? (Text.bytes text) = some v := by
  rw [ofBytes?, Text.symbols_bytes]
  exact ofText?_spelledBy spelled

/-- **A text spells one value at most.** -/
theorem SpelledBy.unique {other : Json} (spelled : v.SpelledBy text)
    (again : other.SpelledBy text) : v = other :=
  Option.some.inj ((ofText?_spelledBy spelled).symm.trans (ofText?_spelledBy again))

end Spelled

end TaskLedger.Json
