/- # Circulation.Proofs.Json.Record -- a record found among the members of an object

The slots of a record's declared fields come from an object in which every declared field stands at
most once, under any spelling of its name, wherever it stands and whatever else the object holds
under other names.
-/
import Circulation.Proofs.Json.Value

namespace Circulation.Json

/-- Members that give the slots of the declared fields, each in its turn: a slot that holds a value
has a member with its name, and an empty slot has none. -/
inductive Gives : List String → List Slot → List (Bytes × Json) → Prop where
  | nil : Gives [] [] []
  | missing {name : String} {names : List String} {slots : List Slot}
      {ms : List (Bytes × Json)} :
      Gives names slots ms → Gives (name :: names) (none :: slots) ms
  | there {name : String} {names : List String} {slots : List Slot} {ms : List (Bytes × Json)}
      {key : Bytes} {v : Json} :
      Literal.Spells name.toList key → Gives names slots ms →
      Gives (name :: names) (some v :: slots) ((key, v) :: ms)

/-- Members under names that are not declared. -/
def Foreign (names : List String) (ms : List (Bytes × Json)) : Prop :=
  ∀ m ∈ ms, ∃ name : String, Literal.Spells name.toList m.1 ∧ name ∉ names

/-- The tree is an object that gives the slots, in any order and among foreign members. -/
inductive Fills (names : List String) (slots : List Slot) : Json → Prop where
  | mk {ms declared others : List (Bytes × Json)} :
      ms.Perm (declared ++ others) → Gives names slots declared → Foreign names others →
      Fills names slots (.object ms)

/-! ## Members by name -/

/-- A member with its key read. -/
def named (m : Bytes × Json) : String × Json := ((Literal.text? m.1).getD "", m.2)

theorem named_of_spells {name : String} {m : Bytes × Json}
    (h : Literal.Spells name.toList m.1) : named m = (name, m.2) := by
  rw [named, text?_of_spells h]
  rfl

theorem readKeys?_eq {ms : List (Bytes × Json)}
    (h : ∀ m ∈ ms, ∃ name : String, Literal.Spells name.toList m.1) :
    readKeys? ms = some (ms.map named) := by
  induction ms with
  | nil => rfl
  | cons m ms ih =>
    obtain ⟨name, spells⟩ := h m List.mem_cons_self
    have more := ih fun x hx => h x (List.mem_cons_of_mem _ hx)
    rw [List.map_cons, named_of_spells spells, readKeys?, text?_of_spells spells, more]
    rfl

theorem Gives.spells {names : List String} {slots : List Slot} {ms : List (Bytes × Json)}
    (h : Gives names slots ms) :
    ∀ m ∈ ms, ∃ name : String, Literal.Spells name.toList m.1 ∧ name ∈ names := by
  induction h with
  | nil =>
    intro m hm
    cases hm
  | missing _ ih =>
    intro m hm
    obtain ⟨name, spells, mem⟩ := ih m hm
    exact ⟨name, spells, List.mem_cons_of_mem _ mem⟩
  | there spells _ ih =>
    intro m hm
    rcases List.mem_cons.mp hm with rfl | hm
    · exact ⟨_, spells, List.mem_cons_self⟩
    · obtain ⟨name, spells, mem⟩ := ih m hm
      exact ⟨name, spells, List.mem_cons_of_mem _ mem⟩

/-- No member of these is under a name that is not declared. -/
theorem Gives.ne {names : List String} {slots : List Slot} {ms : List (Bytes × Json)}
    (h : Gives names slots ms) {name : String} (fresh : name ∉ names) :
    ∀ m ∈ ms.map named, m.1 ≠ name := by
  intro m hm same
  obtain ⟨x, hx, rfl⟩ := List.mem_map.mp hm
  obtain ⟨other, spells, mem⟩ := h.spells x hx
  rw [named_of_spells spells] at same
  exact fresh (same ▸ mem)

/-! ## Slots -/

theorem slot?_none {members : List (String × Json)} {name : String}
    (h : ∀ m ∈ members, m.1 ≠ name) : slot? members name = some none := by
  have empty : members.filter (·.1 == name) = [] := by
    rw [List.filter_eq_nil_iff]
    intro m hm
    simpa using h m hm
  rw [slot?, empty]

theorem slot?_some {members others : List (String × Json)} {name : String} {v : Json}
    (perm : members.Perm ((name, v) :: others)) (h : ∀ m ∈ others, m.1 ≠ name) :
    slot? members name = some (some v) := by
  have empty : others.filter (·.1 == name) = [] := by
    rw [List.filter_eq_nil_iff]
    intro m hm
    simpa using h m hm
  have one : members.filter (·.1 == name) = [(name, v)] := by
    rw [← List.perm_singleton]
    simpa [empty] using perm.filter (·.1 == name)
  rw [slot?, one]

/-- The induction is on the declared fields; those already found count as others. -/
theorem mapM_slot? {names : List String} {slots : List Slot} {declared : List (Bytes × Json)}
    (gives : Gives names slots declared) (distinct : names.Nodup)
    {members others : List (String × Json)}
    (perm : members.Perm (declared.map named ++ others)) (foreign : ∀ m ∈ others, m.1 ∉ names) :
    names.mapM (slot? members) = some slots := by
  induction gives generalizing others with
  | nil => rfl
  | @missing name names slots ms gives ih =>
    obtain ⟨fresh, distinct⟩ := List.nodup_cons.mp distinct
    have none_ : slot? members name = some none := by
      apply slot?_none
      intro m hm same
      rcases List.mem_append.mp (perm.mem_iff.mp hm) with hm | hm
      · exact gives.ne fresh m hm same
      · exact foreign m hm (same ▸ List.mem_cons_self)
    have rest := ih distinct perm fun m hm mem => foreign m hm (List.mem_cons_of_mem _ mem)
    rw [List.mapM_cons, none_, rest]
    rfl
  | @there name names slots ms key v spells gives ih =>
    obtain ⟨fresh, distinct⟩ := List.nodup_cons.mp distinct
    rw [List.map_cons, named_of_spells spells, List.cons_append] at perm
    have some_ : slot? members name = some (some v) := by
      apply slot?_some perm
      intro m hm same
      rcases List.mem_append.mp hm with hm | hm
      · exact gives.ne fresh m hm same
      · exact foreign m hm (same ▸ List.mem_cons_self)
    -- For the fields that follow, the member found here is one of the others.
    have rest := ih distinct (perm.trans List.perm_middle.symm) (by
      intro m hm mem
      rcases List.mem_cons.mp hm with rfl | hm
      · exact fresh mem
      · exact foreign m hm (List.mem_cons_of_mem _ mem))
    rw [List.mapM_cons, some_, rest]
    rfl

/-- The slots of an object are found, whatever order its members have and whatever else it holds. -/
theorem Fills.slots? {names : List String} {slots : List Slot} {tree : Json}
    (h : Fills names slots tree) (distinct : names.Nodup) (least : Nat) :
    tree.slots? names least = some slots := by
  cases h with
  | @mk ms declared others perm gives foreign =>
    have keys : readKeys? ms = some (ms.map named) := by
      apply readKeys?_eq
      intro m hm
      rcases List.mem_append.mp (perm.mem_iff.mp hm) with hm | hm
      · obtain ⟨name, spells, -⟩ := gives.spells m hm
        exact ⟨name, spells⟩
      · obtain ⟨name, spells, -⟩ := foreign m hm
        exact ⟨name, spells⟩
    have perm' : (ms.map named).Perm (declared.map named ++ others.map named) := by
      rw [← List.map_append]
      exact perm.map named
    have foreign' : ∀ m ∈ others.map named, m.1 ∉ names := by
      intro m hm
      obtain ⟨x, hx, rfl⟩ := List.mem_map.mp hm
      obtain ⟨name, spells, fresh⟩ := foreign x hx
      rw [named_of_spells spells]
      exact fresh
    rw [Json.slots?, keys]
    exact mapM_slot? gives distinct perm' foreign'

/-! ## Members that are written -/

theorem Gives.entry {names : List String} {slots : List Slot} {ms : List (Bytes × Json)}
    (h : Gives names slots ms) (name : String) (v : Json) :
    Gives (name :: names) (some v :: slots) (Json.entry name v :: ms) :=
  .there (Literal.spells_ofText name) h

theorem Gives.skip {names : List String} {slots : List Slot} {ms : List (Bytes × Json)}
    (h : Gives names slots ms) (name : String) : Gives (name :: names) (none :: slots) ms :=
  .missing h

theorem Gives.perhaps {names : List String} {slots : List Slot} {ms : List (Bytes × Json)}
    (h : Gives names slots ms) (name : String) (v : Option Json) :
    Gives (name :: names) (v :: slots) (Json.entry? name v ++ ms) := by
  cases v with
  | none => exact h.skip name
  | some v => exact h.entry name v

theorem Gives.fills {names : List String} {slots : List Slot} {ms : List (Bytes × Json)}
    (h : Gives names slots ms) : Fills names slots (.object ms) := by
  have perm : ms.Perm (ms ++ []) := by rw [List.append_nil]
  refine .mk perm h ?_
  intro m hm
  cases hm

/-- Written in reverse order and with foreign members behind them, the members still give the
slots. -/
theorem Gives.fills_reverse {names : List String} {slots : List Slot}
    {ms others : List (Bytes × Json)} (h : Gives names slots ms) (foreign : Foreign names others) :
    Fills names slots (.object (ms.reverse ++ others)) :=
  .mk ((List.reverse_perm ms).append_right others) h foreign

theorem foreign_entry {names : List String} {name : String} (h : name ∉ names) (v : Json) :
    Foreign names [entry name v] := by
  intro m hm
  rw [List.mem_singleton.mp hm]
  exact ⟨name, Literal.spells_ofText name, h⟩

/-- The compact text of the slot's tree, if there is one, is a text of it. -/
def Printable (slot : Slot) : Prop := ∀ v, slot = some v → Text (.tree v) v.render

theorem Printable.some {v : Json} (h : Text (.tree v) v.render) : Printable (some v) := by
  rintro v ⟨⟩
  exact h

theorem Printable.map {α : Type} {write : α → Json}
    (h : ∀ a, Text (.tree (write a)) (write a).render) (value : Option α) :
    Printable (value.map write) := by
  intro v same
  obtain ⟨a, -, rfl⟩ := Option.map_eq_some_iff.mp same
  exact h a

/-- The compact text of an object that gives slots is a text of it, if those of the slots are. -/
theorem Gives.text_render {names : List String} {slots : List Slot} {ms : List (Bytes × Json)}
    (h : Gives names slots ms) (values : ∀ slot ∈ slots, Printable slot) :
    Text (.tree (.object ms)) (render (.object ms)) := by
  apply text_render_object
  induction h with
  | nil =>
    intro m hm
    cases hm
  | missing _ ih => exact ih fun slot hs => values slot (List.mem_cons_of_mem _ hs)
  | there spells _ ih =>
    intro m hm
    rcases List.mem_cons.mp hm with rfl | hm
    · exact ⟨spells.isLiteral, values _ List.mem_cons_self _ rfl⟩
    · exact ih (fun slot hs => values slot (List.mem_cons_of_mem _ hs)) m hm

end Circulation.Json
