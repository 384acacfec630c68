/-
**Values by key.** What it means for a state to hold values by key, however it is built: as a list that is
searched, as a table of such lists, as a table of tables of them.

* `Inserts` — an outcome puts a value under a key where there was none, leaves the state as it was when
  the value is there already, and fails when another one is.
* `Erases` — an outcome takes away what is under a key.
* `Table.within` — the values of a table of states, by the key in the table and the key within.
* `Table.Every` — all states of a table are sound.
* `Inserts.insert`, `Erases.insert`, `Erases.prune` — a state that is changed and put back into its table.
* `Table.within_filterMap` — all states of a table changed alike.
* `Part`, `Inserts.lift`, `Erases.lift` — a state that is part of a larger one.
-/
import TaskLedger.Comment.Basic
import TaskLedger.Table
import Mathlib.Logic.Function.Basic

namespace TaskLedger

/-! ### Insertion and removal -/

section Specs

variable {S ι V : Type} [DecidableEq ι]

/-- A value is put under a key, given what can be read under each. -/
structure Inserts (read : S → ι → Option V) (Sound : S → Prop) (key : ι) (value : V)
    (conflict : Conflict) (before : S) (outcome : Except Conflict (Bool × S)) : Prop where
  added : read before key = none → ∃ after, outcome = .ok (true, after) ∧ Sound after ∧
    read after = Function.update (read before) key (some value)
  kept : read before key = some value → outcome = .ok (false, before)
  rejected : ∀ stored, read before key = some stored → stored ≠ value → outcome = .error conflict

/-- What is under a key is taken away. -/
structure Erases (read : S → ι → Option V) (Sound : S → Prop) (key : ι) (before : S)
    (outcome : Bool × S) : Prop where
  found : outcome.1 = (read before key).isSome
  sound : Sound outcome.2
  erased : read outcome.2 = Function.update (read before) key none

variable {read : S → ι → Option V} {Sound : S → Prop} {key : ι} {before : S}

/-- Nothing is there to be taken away. -/
theorem Erases.absent (missing : read before key = none) (sound : Sound before) :
    Erases read Sound key before (false, before) :=
  ⟨by rw [missing]; rfl, sound, by rw [← missing, Function.update_eq_self]⟩

theorem Inserts.imp {Sound' : S → Prop} {value : V} {conflict : Conflict}
    {outcome : Except Conflict (Bool × S)}
    (inserts : Inserts read Sound key value conflict before outcome)
    (implies : ∀ after, Sound after → read after key = some value → Sound' after) :
    Inserts read Sound' key value conflict before outcome := by
  refine ⟨fun missing => ?_, inserts.kept, inserts.rejected⟩
  obtain ⟨after, made, sound, reads⟩ := inserts.added missing
  exact ⟨after, made, implies after sound (by rw [reads, Function.update_self]), reads⟩

end Specs

/-- An outcome that was mapped comes of the same kind of outcome. -/
theorem exists_of_map_eq_ok {ε α β : Type} {outcome : Except ε α} {change : α → β} {after : β}
    (mapped : outcome.map change = .ok after) : ∃ value, outcome = .ok value ∧ change value = after := by
  cases outcome with
  | error _ => cases mapped
  | ok value => exact ⟨value, rfl, Except.ok.inj mapped⟩

/-! ### Tables of states -/

section Tables

variable {S ι V : Type} {read : S → ι → Option V}

/-- What can be read in a table of states. -/
def Table.within (read : S → ι → Option V) (table : Table String S) (key : String × ι) : Option V :=
  (table.get? key.1).bind fun state => read state key.2

/-- All states of a table are sound, each for its key. -/
def Table.Every (Sound : String → S → Prop) (table : Table String S) : Prop :=
  ∀ key state, table.get? key = some state → Sound key state

variable {Sound : String → S → Prop} {table : Table String S} {key : String} {state : S} {place : ι}

theorem Table.within_of_some (held : table.get? key = some state) (place : ι) :
    table.within read (key, place) = read state place := by
  rw [within, held, Option.bind_some]

theorem Table.within_of_none (missing : table.get? key = none) (place : ι) :
    table.within read (key, place) = none := by
  rw [within, missing, Option.bind_none]

theorem Table.every_empty (Sound : String → S → Prop) : (∅ : Table String S).Every Sound :=
  fun _ _ held => nomatch held

/-- The state under a key, or a sound one where there is none. -/
theorem Table.Every.getD (every : table.Every Sound) {default : S} (sound : Sound key default) :
    Sound key ((table.get? key).getD default) := by
  cases held : table.get? key with
  | none => exact sound
  | some state => exact every key state held

theorem Table.Every.insert (every : table.Every Sound) (sound : Sound key state) :
    (table.insert key state).Every Sound := by
  intro other held stored
  by_cases own : other = key
  · subst own
    rw [get?_insert_self] at stored
    cases stored
    exact sound
  · rw [get?_insert_of_ne _ _ own] at stored
    exact every other held stored

theorem Table.Every.erase (every : table.Every Sound) : (table.erase key).Every Sound := by
  intro other held stored
  by_cases own : other = key
  · subst own
    rw [get?_erase_self] at stored
    cases stored
  · rw [get?_erase_of_ne _ own] at stored
    exact every other held stored

theorem Table.insert_of_get? (held : table.get? key = some state) : table.insert key state = table := by
  refine ext_get? fun other => ?_
  by_cases own : other = key
  · rw [own, get?_insert_self, held]
  · rw [get?_insert_of_ne _ _ own]

/-- Each state is changed, or left out; what is left are the values that pass a test. -/
theorem Table.within_filterMap {change : S → Option S} {keep : V → Bool}
    (changed : table.Every fun _ state => ∀ place,
      ((change state).bind fun after => read after place) = (read state place).filter keep)
    (key : String × ι) :
    (table.filterMap change).within read key = (table.within read key).filter keep := by
  rw [within, within, get?_filterMap]
  cases held : table.get? key.1 with
  | none => rfl
  | some state => exact changed key.1 state held key.2

theorem Table.Every.filterMap {change : S → Option S}
    (sound : table.Every fun key state => ∀ after, change state = some after → Sound key after) :
    (table.filterMap change).Every Sound := by
  intro key after stored
  rw [get?_filterMap, Option.bind_eq_some_iff] at stored
  obtain ⟨state, held, changed⟩ := stored
  exact sound key state held after changed

variable [DecidableEq ι]

/-- A state that differs under one key is put into a table. -/
theorem Table.within_insert_of_update {before : S} {value : Option V}
    (wasThere : ∀ place, table.within read (key, place) = read before place)
    (changed : read state = Function.update (read before) place value) :
    (table.insert key state).within read = Function.update (table.within read) (key, place) value := by
  funext ⟨other, inner⟩
  by_cases own : other = key
  · subst own
    rw [within_of_some (get?_insert_self ..), changed]
    by_cases here : inner = place
    · rw [here, Function.update_self, Function.update_self]
    · have apart : (other, inner) ≠ (other, place) := fun same => here (Prod.mk.inj same).2
      rw [Function.update_of_ne here, Function.update_of_ne apart, wasThere]
  · have apart : (other, inner) ≠ (key, place) := fun same => own (Prod.mk.inj same).1
    rw [Function.update_of_ne apart, within, within, get?_insert_of_ne _ _ own]

/-- A value is put into the state under a key, or into an empty one. -/
theorem Inserts.insert {default : S} {value : V} {conflict : Conflict}
    {outcome : Except Conflict (Bool × S)}
    (inserts : Inserts read (Sound key) place value conflict ((table.get? key).getD default) outcome)
    (every : table.Every Sound) (empty : ∀ place, read default place = none) :
    Inserts (Table.within read) (Table.Every Sound) (key, place) value conflict table
      (outcome.map fun (changed, state) => (changed, table.insert key state)) := by
  have wasThere (inner : ι) :
      table.within read (key, inner) = read ((table.get? key).getD default) inner := by
    cases held : table.get? key with
    | none => rw [Table.within_of_none held, Option.getD_none, empty]
    | some state => rw [Table.within_of_some held, Option.getD_some]
  refine ⟨fun missing => ?_, fun same => ?_, fun stored other differs => ?_⟩
  · rw [wasThere] at missing
    obtain ⟨after, rfl, sound, reads⟩ := inserts.added missing
    exact ⟨table.insert key after, rfl, every.insert sound,
      Table.within_insert_of_update wasThere reads⟩
  · rw [wasThere] at same
    rw [inserts.kept same]
    cases held : table.get? key with
    | none =>
      rw [held, Option.getD_none, empty] at same
      cases same
    | some state =>
      show Except.ok (false, table.insert key state) = _
      rw [Table.insert_of_get? held]
  · rw [wasThere] at other
    rw [inserts.rejected stored other differs]
    rfl

/-- What is under a key is taken out of its state. -/
theorem Erases.insert {Sound' : S → Prop} {removed : Bool} {left : S}
    (erases : Erases read Sound' place state (removed, left)) (held : table.get? key = some state)
    (every : table.Every Sound) (sound : Sound key left) :
    Erases (Table.within read) (Table.Every Sound) (key, place) table
      (removed, table.insert key left) :=
  ⟨Table.within_of_some held place ▸ erases.found, every.insert sound,
    Table.within_insert_of_update (Table.within_of_some held) erases.erased⟩

/-- A state without values is taken out of the table. -/
theorem Table.within_erase {before : S} (held : table.get? key = some before)
    (changed : ∀ inner, Function.update (read before) place none inner = none) :
    (table.erase key).within read = Function.update (table.within read) (key, place) none := by
  funext ⟨other, inner⟩
  by_cases own : other = key
  · subst own
    rw [within_of_none (get?_erase_self ..)]
    by_cases here : inner = place
    · rw [here, Function.update_self]
    · have apart : (other, inner) ≠ (other, place) := fun same => here (Prod.mk.inj same).2
      have none := changed inner
      rw [Function.update_of_ne here] at none
      rw [Function.update_of_ne apart, within_of_some held, none]
  · have apart : (other, inner) ≠ (key, place) := fun same => own (Prod.mk.inj same).1
    rw [Function.update_of_ne apart, within, within, get?_erase_of_ne _ own]

/-- What is under a key is taken out of its state, which goes too when it is empty then. -/
theorem Erases.prune {Sound' : S → Prop} {removed empty : Bool} {left : S}
    (erases : Erases read Sound' place state (removed, left)) (held : table.get? key = some state)
    (every : table.Every Sound) (gone : empty = true → ∀ inner, read left inner = none)
    (stays : empty = false → Sound key left) :
    Erases (Table.within read) (Table.Every Sound) (key, place) table
      (removed, if empty then table.erase key else table.insert key left) := by
  cases empty with
  | false => exact erases.insert held every (stays rfl)
  | true =>
    refine ⟨Table.within_of_some held place ▸ erases.found, every.erase, ?_⟩
    exact Table.within_erase held (erases.erased ▸ gone rfl)

end Tables

/-! ### Parts -/

/-- A state `S` is a part of a larger one: `fill` puts it there, `place` are its keys and `wrap` its
values among the others. -/
structure Part {S T ι κ V W : Type} (read : S → ι → Option V) (readWhole : T → κ → Option W)
    (fill : S → T) (place : ι → κ) (wrap : V → W) : Prop where
  wrap_injective : Function.Injective wrap
  place_injective : Function.Injective place
  own : ∀ state key, readWhole (fill state) (place key) = (read state key).map wrap
  others : ∀ state other key, (∀ inner, key ≠ place inner) →
    readWhole (fill state) key = readWhole (fill other) key

section Parts

variable {S T ι κ V W : Type} [DecidableEq ι] [DecidableEq κ] {read : S → ι → Option V}
  {readWhole : T → κ → Option W} {fill : S → T} {place : ι → κ} {wrap : V → W} {Sound : S → Prop}
  {SoundWhole : T → Prop} {key : ι} {before : S}

theorem Part.read_of_update (part : Part read readWhole fill place wrap) {after : S}
    {value : Option V} (changed : read after = Function.update (read before) key value) :
    readWhole (fill after) =
      Function.update (readWhole (fill before)) (place key) (value.map wrap) := by
  funext other
  by_cases own : ∃ inner, other = place inner
  · obtain ⟨inner, rfl⟩ := own
    rw [part.own, changed]
    by_cases here : inner = key
    · rw [here, Function.update_self, Function.update_self]
    · rw [Function.update_of_ne here, Function.update_of_ne (part.place_injective.ne here), part.own]
  · rw [not_exists] at own
    rw [Function.update_of_ne (own key), part.others after before other own]

theorem Inserts.lift {value : V} {conflict : Conflict} {outcome : Except Conflict (Bool × S)}
    (part : Part read readWhole fill place wrap) (sound : ∀ state, Sound state → SoundWhole (fill state))
    (inserts : Inserts read Sound key value conflict before outcome) :
    Inserts readWhole SoundWhole (place key) (wrap value) conflict (fill before)
      (outcome.map fun (changed, state) => (changed, fill state)) := by
  refine ⟨fun missing => ?_, fun same => ?_, fun stored other differs => ?_⟩
  · rw [part.own, Option.map_eq_none_iff] at missing
    obtain ⟨after, rfl, soundAfter, reads⟩ := inserts.added missing
    exact ⟨fill after, rfl, sound after soundAfter, part.read_of_update reads⟩
  · rw [part.own, Option.map_eq_some_iff] at same
    obtain ⟨own, found, wrapped⟩ := same
    rw [part.wrap_injective wrapped] at found
    rw [inserts.kept found]
    rfl
  · rw [part.own, Option.map_eq_some_iff] at other
    obtain ⟨own, found, rfl⟩ := other
    rw [inserts.rejected own found fun same => differs (congrArg wrap same)]
    rfl

theorem Erases.lift {removed : Bool} {left : S} (part : Part read readWhole fill place wrap)
    (sound : ∀ state, Sound state → SoundWhole (fill state))
    (erases : Erases read Sound key before (removed, left)) :
    Erases readWhole SoundWhole (place key) (fill before) (removed, fill left) := by
  refine ⟨?_, sound left erases.sound, part.read_of_update erases.erased⟩
  rw [part.own, Option.isSome_map]
  exact erases.found

end Parts

end TaskLedger
