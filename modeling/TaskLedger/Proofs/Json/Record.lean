/-
**Records in any arrangement.** An object gives the fields of a record, whatever their order and
whatever other members stand among them.

* `RecordField.member` — a field of a record as the member that it is written as.
* `RecordField.Conveys`, `conveys_defaulted` — parts of a source record take over the field from what
  it wrote; so it is where the field's shape loses nothing.
* `givenNames` — the names of fields that members give.
* `arranged` — some fields of a record, and members with other names.
* `readMembers_eq`, `readRecord_object` — what is read from members that give some fields of a source,
  each once: the record that has taken over those fields.
* `readRecord_keeps` — what every field keeps when it is set holds of the record that is read.
* `RecordField.Restores`, `Shape.isFaithful_record` — a record loses nothing if each of its fields is set
  from what it wrote.
-/
import TaskLedger.Json.Record
import TaskLedger.Proofs.Json.Shape
import Mathlib.Data.List.Nodup

namespace TaskLedger.Json

variable {α ρ : Type} {fields : List (RecordField ρ)} {source : ρ}

namespace RecordField

/-- A field of a record as a member of an object. -/
def member (field : RecordField ρ) (record : ρ) : Member :=
  (some field.name, field.write record)

/-- A field whose shape loses nothing is set from what it wrote. -/
theorem set_defaulted {shape : Shape α} {asRead : α → α} (faithful : shape.IsFaithful asRead)
    {name : String} {get : ρ → α} {set : α → ρ → ρ} (source record : ρ) :
    (defaulted name shape get set).set ((defaulted name shape get set).write source) record =
      some (set (asRead (get source)) record) := by
  have read : (shape.read (shape.write (get source))).map (set · record) =
      some (set (asRead (get source)) record) := by
    rw [faithful.read_write, Option.map_some]
  exact read

/-- What the field writes for a source is well formed, and taken over by every part of what the source is
read as. A part is known by the names of the fields that it has. -/
structure Conveys (field : RecordField ρ) (source : ρ) (part : List String → ρ) : Prop where
  wellFormed : (field.write source).IsWellFormed
  set : ∀ given, field.set (field.write source) (part given) = some (part (field.name :: given))

/-- **A field conveys its value** if its shape loses nothing. -/
theorem conveys_defaulted {shape : Shape α} {asRead : α → α} (faithful : shape.IsFaithful asRead)
    {name : String} {get : ρ → α} {set : α → ρ → ρ} {part : List String → ρ}
    (same : ∀ given, set (asRead (get source)) (part given) = part (name :: given)) :
    (defaulted name shape get set).Conveys source part where
  wellFormed := faithful.wellFormed (get source)
  set given := by
    rw [set_defaulted faithful, same]
    rfl

end RecordField

/-- The name of the field that a member gives. -/
def fieldName? (fields : List (RecordField ρ)) (member : Member) : Option String :=
  member.1.filter (· ∈ fields.map (·.name))

/-- The names of fields that members give, last first. -/
def givenNames (fields : List (RecordField ρ)) (members : List Member) : List String :=
  (members.filterMap (fieldName? fields)).reverse

/-- A member gives a field of the source, or has a name that is no field's. -/
def Offers (fields : List (RecordField ρ)) (source : ρ) (member : Member) : Prop :=
  (∃ field ∈ fields, member = field.member source) ∨
    ∃ name v, member = (some name, v) ∧ name ∉ fields.map (·.name)

theorem fieldName?_member {field : RecordField ρ} (mem : field ∈ fields) :
    fieldName? fields (field.member source) = some field.name := by
  have own : field.name ∈ fields.map (·.name) := List.mem_map_of_mem mem
  rw [fieldName?, RecordField.member, Option.filter_some, if_pos (decide_eq_true own)]

theorem fieldName?_foreign {name : String} (foreign : name ∉ fields.map (·.name)) (v : Json) :
    fieldName? fields (some name, v) = none := by
  rw [fieldName?, Option.filter_some, if_neg (by simpa using foreign)]

theorem find?_foreign {name : String} (foreign : name ∉ fields.map (·.name)) :
    fields.find? (fun field => field.name == name) = none :=
  List.find?_eq_none.2 fun field mem same =>
    foreign (List.mem_map.2 ⟨field, mem, by simpa using same⟩)

/-- **What is read from members that offer fields of a source**: the record that has taken over those
given before and those that the members give. -/
theorem readMembers_eq {part : List String → ρ}
    (conveys : ∀ field ∈ fields, field.Conveys source part)
    (distinct : (fields.map (·.name)).Nodup) {members : List Member}
    (offers : ∀ member ∈ members, Offers fields source member) {given : List String}
    (once : (givenNames fields members ++ given).Nodup)
    (complete : ∀ field ∈ fields, field.required = true →
      field.name ∈ givenNames fields members ++ given) :
    readMembers fields given members (part given) =
      some (part (givenNames fields members ++ given)) := by
  induction members generalizing given with
  | nil =>
    have all : (fields.all fun field => !field.required || given.contains field.name) = true := by
      rw [List.all_eq_true]
      intro field mem
      cases required : field.required with
      | false => rfl
      | true => simpa [givenNames] using complete field mem required
    rw [readMembers, if_pos all]
    rfl
  | cons member rest ih =>
    obtain ⟨first, others⟩ := List.forall_mem_cons.1 offers
    rcases first with ⟨field, mem, rfl⟩ | ⟨name, v, rfl, foreign⟩
    · have found : fields.find? (fun other => other.name == field.name) = some field :=
        find?_name mem fun other isOther => List.inj_on_of_nodup_map distinct isOther mem
      have names : givenNames fields (field.member source :: rest) =
          givenNames fields rest ++ [field.name] := by
        rw [givenNames, List.filterMap_cons, fieldName?_member mem, List.reverse_cons, givenNames]
      rw [names, List.append_assoc, List.singleton_append] at once complete ⊢
      have fresh : given.contains field.name = false := by
        simpa using (List.nodup_cons.1 once.of_append_right).1
      rw [RecordField.member, readMembers]
      simp only [Option.bind_eq_bind, Option.bind_some, found, fresh,
        (conveys field mem).set given]
      exact ih others once complete
    · have names : givenNames fields ((some name, v) :: rest) = givenNames fields rest := by
        rw [givenNames, List.filterMap_cons, fieldName?_foreign foreign, givenNames]
      rw [names] at once complete ⊢
      rw [readMembers]
      simp only [Option.bind_eq_bind, Option.bind_some, find?_foreign foreign]
      exact ih others once complete

/-- Fields of a source under the names that are kept, and members with other names. -/
def arranged (fields : List (RecordField ρ)) (source : ρ) (kept : String → Bool)
    (extras : List (String × Json)) : List Member :=
  (fields.filter (kept ·.name)).map (·.member source) ++
    extras.map fun extra => (some extra.1, extra.2)

section Arranged

variable {kept : String → Bool} {extras : List (String × Json)} {members : List Member}

theorem filterMap_fieldName?_arranged
    (foreign : ∀ extra ∈ extras, extra.1 ∉ fields.map (·.name)) :
    (arranged fields source kept extras).filterMap (fieldName? fields) =
      (fields.filter (kept ·.name)).map (·.name) := by
  have own : ((fields.filter (kept ·.name)).map (·.member source)).filterMap (fieldName? fields) =
      (fields.filter (kept ·.name)).map (·.name) := by
    rw [List.filterMap_map, ← List.filterMap_eq_map]
    exact List.filterMap_congr fun field mem => fieldName?_member (List.mem_of_mem_filter mem)
  have none : (extras.map fun extra => ((some extra.1, extra.2) : Member)).filterMap
      (fieldName? fields) = [] := by
    rw [List.filterMap_map, List.filterMap_eq_nil_iff]
    exact fun extra mem => fieldName?_foreign (foreign extra mem) extra.2
  rw [arranged, List.filterMap_append, own, none, List.append_nil]

theorem offers_of_mem_arranged (foreign : ∀ extra ∈ extras, extra.1 ∉ fields.map (·.name))
    {member : Member} (mem : member ∈ arranged fields source kept extras) : Offers fields source member := by
  rcases List.mem_append.1 mem with own | other
  · obtain ⟨field, isKept, rfl⟩ := List.mem_map.1 own
    exact .inl ⟨field, List.mem_of_mem_filter isKept, rfl⟩
  · obtain ⟨extra, isExtra, rfl⟩ := List.mem_map.1 other
    exact .inr ⟨extra.1, extra.2, rfl, foreign extra isExtra⟩

/-- What a record writes, and members well formed themselves, make a well formed object. -/
theorem wellFormed_arranged {part : List String → ρ}
    (conveys : ∀ field ∈ fields, field.Conveys source part)
    (wellFormed : ∀ extra ∈ extras, extra.2.IsWellFormed)
    (order : members.Perm (arranged fields source kept extras)) :
    (Json.object members).IsWellFormed := by
  refine .object fun member mem => ?_
  rcases List.mem_append.1 (order.mem_iff.1 mem) with own | other
  · obtain ⟨field, isKept, rfl⟩ := List.mem_map.1 own
    exact (conveys field (List.mem_of_mem_filter isKept)).wellFormed
  · obtain ⟨extra, isExtra, rfl⟩ := List.mem_map.1 other
    exact wellFormed extra isExtra

/-- **What is read from an object** that gives the kept fields of a source, in any order and among any
members with other names. -/
theorem readRecord_object {part : List String → ρ}
    (conveys : ∀ field ∈ fields, field.Conveys source part)
    (distinct : (fields.map (·.name)).Nodup)
    (complete : ∀ field ∈ fields, field.required = true → kept field.name = true)
    (foreign : ∀ extra ∈ extras, extra.1 ∉ fields.map (·.name))
    (order : members.Perm (arranged fields source kept extras)) :
    ∃ given, (∀ field ∈ fields, field.name ∈ given ↔ kept field.name = true) ∧
      readRecord fields (part []) (.object members) = some (part given) := by
  have names : (givenNames fields members).Perm ((fields.filter (kept ·.name)).map (·.name)) := by
    rw [← filterMap_fieldName?_arranged foreign]
    exact (List.reverse_perm _).trans (order.filterMap _)
  have listed {field : RecordField ρ} (mem : field ∈ fields) :
      field.name ∈ givenNames fields members ↔ kept field.name = true := by
    rw [names.mem_iff, List.mem_map]
    constructor
    · rintro ⟨other, isKept, same⟩
      rw [← same]
      exact (List.mem_filter.1 isKept).2
    · exact fun isKept => ⟨field, List.mem_filter.2 ⟨mem, isKept⟩, rfl⟩
  have offers : ∀ member ∈ members, Offers fields source member := fun member mem =>
    offers_of_mem_arranged foreign (order.mem_iff.1 mem)
  have once : (givenNames fields members).Nodup :=
    names.nodup_iff.2 (distinct.sublist (List.filter_sublist.map _))
  refine ⟨givenNames fields members, fun field mem => listed mem, ?_⟩
  have read : readMembers fields [] members (part []) =
      some (part (givenNames fields members ++ [])) :=
    readMembers_eq conveys distinct offers (by rwa [List.append_nil])
      (by simpa only [List.append_nil] using
        fun field mem required => (listed mem).2 (complete field mem required))
  rw [List.append_nil] at read
  exact read

end Arranged

/-! ### What every field keeps -/

section Keeps

variable {P : ρ → Prop} {record after : ρ}

theorem readMembers_keeps
    (keeps : ∀ field ∈ fields, ∀ v record after, field.set v record = some after → P record → P after)
    {given : List String} {members : List Member}
    (read : readMembers fields given members record = some after) (holds : P record) : P after := by
  induction members generalizing given record with
  | nil =>
    rw [readMembers] at read
    split at read
    · cases read
      exact holds
    · cases read
  | cons member rest ih =>
    obtain ⟨key, v⟩ := member
    rw [readMembers] at read
    obtain ⟨name, -, read⟩ := Option.bind_eq_some_iff.1 read
    split at read
    · rename_i field found
      split at read
      · cases read
      · obtain ⟨next, isSet, read⟩ := Option.bind_eq_some_iff.1 read
        exact ih read (keeps field (List.mem_of_find?_eq_some found) v record next isSet holds)
    · exact ih read holds

theorem readItems_keeps
    (keeps : ∀ field ∈ fields, ∀ v record after, field.set v record = some after → P record → P after)
    {items : List Json} (read : readItems fields items record = some after) (holds : P record) :
    P after := by
  induction items generalizing fields record with
  | nil =>
    rw [readItems] at read
    split at read
    · cases read
      exact holds
    · cases read
  | cons v rest ih =>
    cases fields with
    | nil => cases read
    | cons field fields =>
      obtain ⟨first, others⟩ := List.forall_mem_cons.1 keeps
      obtain ⟨next, isSet, read⟩ := Option.bind_eq_some_iff.1 read
      exact ih others read (first v record next isSet holds)

/-- **What every field keeps** holds of the record that is read, if it holds of the base. -/
theorem readRecord_keeps
    (keeps : ∀ field ∈ fields, ∀ v record after, field.set v record = some after → P record → P after)
    {v : Json} (read : readRecord fields record v = some after) (holds : P record) : P after := by
  unfold readRecord at read
  split at read
  · exact readMembers_keeps keeps read holds
  · exact readItems_keeps keeps read holds
  · cases read

end Keeps

/-! ### Records that lose nothing -/

namespace RecordField

/-- What the field writes is well formed, and read back it makes a record take over the field of the
source. Whatever is read into the field, a record stays one that is read as itself. -/
structure Restores (asRead : ρ → ρ) (field : RecordField ρ) (take : (source record : ρ) → ρ) :
    Prop where
  wellFormed : ∀ source, (field.write source).IsWellFormed
  set : ∀ source record, field.set (field.write source) record = some (take source record)
  fixed : ∀ v record after, field.set v record = some after → asRead record = record →
    asRead after = after

section Restores

variable {shape : Shape α} {valueAsRead : α → α} {asRead : ρ → ρ} {name : String} {get : ρ → α}
  {set : α → ρ → ρ}

theorem restores_defaulted (faithful : shape.IsFaithful valueAsRead)
    (commutes : ∀ value record, asRead (set value record) = set (valueAsRead value) (asRead record)) :
    (defaulted name shape get set).Restores asRead fun source => set (valueAsRead (get source)) where
  wellFormed source := faithful.wellFormed (get source)
  set := set_defaulted faithful
  fixed v record after isSet same := by
    obtain ⟨value, read, rfl⟩ := Option.map_eq_some_iff.1 isSet
    rw [commutes, faithful.fixed v value read, same]

theorem restores_needed (faithful : shape.IsFaithful valueAsRead)
    (commutes : ∀ value record, asRead (set value record) = set (valueAsRead value) (asRead record)) :
    (needed name shape get set).Restores asRead fun source => set (valueAsRead (get source)) := by
  have same : (defaulted name shape get set).Restores asRead
      fun source => set (valueAsRead (get source)) := restores_defaulted faithful commutes
  exact ⟨same.wellFormed, same.set, same.fixed⟩

end Restores

end RecordField

/-- What is read from the members of fields that are still to be given: each is taken over in turn. -/
theorem readMembers_fields (distinct : (fields.map (·.name)).Nodup) {asRead : ρ → ρ}
    {rest : List (RecordField ρ)} {takes : List (ρ → ρ → ρ)}
    (restores : List.Forall₂ (RecordField.Restores asRead) rest takes)
    {given : List String} (listed : rest ⊆ fields) (once : (given ++ rest.map (·.name)).Nodup)
    (complete : ∀ field ∈ fields, field.name ∈ given ∨ field ∈ rest) (source record : ρ) :
    readMembers fields given (rest.map (·.member source)) record =
      some (takes.foldl (fun record take => take source record) record) := by
  induction restores generalizing given record with
  | nil =>
    have all : (fields.all fun field => !field.required || given.contains field.name) = true :=
      List.all_eq_true.2 fun field mem => by simp [(complete field mem).resolve_right List.not_mem_nil]
    rw [List.map_nil, readMembers, if_pos all]
    rfl
  | @cons field take rest takes first others ih =>
    obtain ⟨mem, listed⟩ := List.cons_subset.1 listed
    have found : fields.find? (fun other => other.name == field.name) = some field :=
      find?_name mem fun other isOther => List.inj_on_of_nodup_map distinct isOther mem
    have apart : field.name ∉ given ++ rest.map (·.name) ∧ (given ++ rest.map (·.name)).Nodup :=
      List.nodup_cons.1 (List.perm_middle.nodup_iff.1 once)
    have fresh : given.contains field.name = false := by
      simpa using fun inGiven => apart.1 (List.mem_append_left _ inGiven)
    rw [List.map_cons, RecordField.member, readMembers]
    simp only [Option.bind_eq_bind, Option.bind_some, found, fresh, first.set]
    refine ih listed (List.nodup_cons.2 apart) (fun other isOther => ?_) _
    rcases complete other isOther with isGiven | isListed
    · exact .inl (.tail _ isGiven)
    · rcases List.mem_cons.1 isListed with rfl | isListed
      · exact .inl (.head _)
      · exact .inr isListed

theorem RecordField.exists_restores {asRead : ρ → ρ} {rest : List (RecordField ρ)}
    {takes : List (ρ → ρ → ρ)} (restores : List.Forall₂ (RecordField.Restores asRead) rest takes) :
    ∀ field ∈ rest, ∃ take, field.Restores asRead take := by
  induction restores with
  | nil => exact fun _ mem => absurd mem List.not_mem_nil
  | cons first _ ih => exact List.forall_mem_cons.2 ⟨⟨_, first⟩, ih⟩

theorem write_record (base source : ρ) :
    (Shape.record fields base).write source = .object (fields.map (·.member source)) := by
  simp only [Shape.record, writeRecord, ofMembers, List.map_map]
  rfl

/-- **A record loses nothing** if its fields have different names and each takes over what it wrote, and
the fields together make up what the record is read as. -/
theorem Shape.isFaithful_record {base : ρ} {takes : List (ρ → ρ → ρ)} {asRead : ρ → ρ}
    (distinct : (fields.map (·.name)).Nodup)
    (restores : List.Forall₂ (RecordField.Restores asRead) fields takes)
    (start : asRead base = base)
    (whole : ∀ source, takes.foldl (fun record take => take source record) base = asRead source) :
    (Shape.record fields base).IsFaithful asRead where
  wellFormed source := by
    rw [write_record]
    refine .object fun member mem => ?_
    obtain ⟨field, listed, rfl⟩ := List.mem_map.1 mem
    obtain ⟨take, restored⟩ := RecordField.exists_restores restores field listed
    exact restored.wellFormed source
  read_write source := by
    have read : readMembers fields [] (fields.map (·.member source)) base = some (asRead source) := by
      rw [readMembers_fields distinct restores (List.Subset.refl fields) distinct
        (fun field mem => .inr mem), whole]
    rw [write_record]
    exact read
  fixed v record read := by
    refine readRecord_keeps (P := fun record => asRead record = record) ?_ read start
    intro field listed
    obtain ⟨take, restored⟩ := RecordField.exists_restores restores field listed
    exact restored.fixed

end TaskLedger.Json
