/- # Circulation.Store.Register -- records in the order of their keys

A register holds at most one record for each key, in ascending order. Two registers are equal if
every key finds the same record in both, so an equation between registers can be proved key by key.
-/

namespace Circulation

/-- Put a record in its place in an ascending list; a record with its key gives way. -/
def placeByKey {α : Type} (key : α → Int) (a : α) : List α → List α
  | [] => [a]
  | b :: rest =>
    if key a < key b then a :: b :: rest
    else if key a = key b then a :: rest
    else b :: placeByKey key a rest

theorem mem_placeByKey {α : Type} {key : α → Int} {a x : α} {entries : List α}
    (h : x ∈ placeByKey key a entries) : x = a ∨ x ∈ entries := by
  induction entries with
  | nil => simp_all [placeByKey]
  | cons b rest ih =>
    unfold placeByKey at h
    split at h
    · simpa using h
    · split at h
      · rcases List.mem_cons.mp h with h | h <;> simp [h]
      · rcases List.mem_cons.mp h with h | h
        · simp [h]
        · rcases ih h with h | h <;> simp [h]

theorem pairwise_placeByKey {α : Type} {key : α → Int} (a : α) {entries : List α}
    (h : entries.Pairwise fun x y => key x < key y) :
    (placeByKey key a entries).Pairwise fun x y => key x < key y := by
  induction entries with
  | nil => simp [placeByKey]
  | cons b rest ih =>
    obtain ⟨above, later⟩ := List.pairwise_cons.mp h
    unfold placeByKey
    split
    · rename_i lt
      refine List.pairwise_cons.mpr ⟨fun x hx => ?_, h⟩
      rcases List.mem_cons.mp hx with rfl | hx
      · exact lt
      · exact Int.lt_trans lt (above x hx)
    · split
      · rename_i eq
        exact List.pairwise_cons.mpr ⟨fun x hx => eq ▸ above x hx, later⟩
      · rename_i ge ne
        refine List.pairwise_cons.mpr ⟨fun x hx => ?_, ih later⟩
        rcases mem_placeByKey hx with rfl | hx
        · omega
        · exact above x hx

/-- Records in ascending order of their keys. -/
structure Register (α : Type) (key : α → Int) where
  toList : List α
  ascending : toList.Pairwise fun a b => key a < key b

namespace Register

variable {α : Type} {key : α → Int}

/-- The register without records. -/
def empty : Register α key := ⟨[], .nil⟩

instance : Inhabited (Register α key) := ⟨empty⟩

/-- The record with a key, if there is one. -/
def get? (r : Register α key) (k : Int) : Option α := r.toList.find? fun a => key a == k

/-- The register with a record; what had its key before is gone. -/
def put (r : Register α key) (a : α) : Register α key :=
  ⟨placeByKey key a r.toList, pairwise_placeByKey a r.ascending⟩

/-- Some record has the property. -/
def any (r : Register α key) (p : α → Bool) : Bool := r.toList.any p

/-! ## Look-up -/

theorem key_of_get? {r : Register α key} {k : Int} {a : α} (h : r.get? k = some a) : key a = k := by
  simpa using List.find?_some h

theorem mem_of_get? {r : Register α key} {k : Int} {a : α} (h : r.get? k = some a) :
    a ∈ r.toList := List.mem_of_find?_eq_some h

theorem find?_placeByKey (a : α) (entries : List α)
    (sorted : entries.Pairwise fun x y => key x < key y) (k : Int) :
    (placeByKey key a entries).find? (fun x => key x == k) =
      if key a = k then some a else entries.find? fun x => key x == k := by
  induction entries with
  | nil =>
    by_cases h : key a = k <;> simp [placeByKey, h]
  | cons b rest ih =>
    obtain ⟨above, later⟩ := List.pairwise_cons.mp sorted
    unfold placeByKey
    split
    · by_cases h : key a = k <;> simp [List.find?_cons, h]
    · split
      · rename_i eq
        by_cases h : key a = k
        · simp [h]
        · have hb : key b ≠ k := eq ▸ h
          simp [h, hb]
      · rename_i ge ne
        rw [List.find?_cons, ih later, List.find?_cons]
        by_cases h : key a = k
        · have hb : (key b == k) = false := by simpa using fun e => ne (h.trans e.symm)
          simp [hb, h]
        · simp [h]

@[simp]
theorem get?_put (r : Register α key) (a : α) (k : Int) :
    (r.put a).get? k = if key a = k then some a else r.get? k :=
  find?_placeByKey a r.toList r.ascending k

@[simp]
theorem get?_empty (k : Int) : (empty : Register α key).get? k = none := rfl

end Register

end Circulation
