/- # Circulation.Proofs.Wire.Field -- the fields of a message

How a field of a message may be spelled: an instant as any of its texts, a number of a payload that
is absent as nothing, null or 0, a text that is empty as nothing. Each spelling is read as the value
of the field, and a field that could be read holds only numbers of sixty-four bits.
-/
import Circulation.Proofs.Json.Reading
import Circulation.Proofs.Json.Record
import Circulation.Proofs.Time.Spelling
import Circulation.Wire.Field

namespace Circulation.Wire

open Json (Slot SpellsText SpellsOption Text)
open Time (Instant)

/-! ## Spellings -/

/-- The tree is a string with a text of the instant. -/
inductive SpellsInstant (t : Instant) : Json → Prop where
  | mk {cs : List Char} {j : Json} :
      Instant.Spells t cs → SpellsText (String.ofList cs) j → SpellsInstant t j

/-- The tree is the numeral of the whole number. -/
inductive SpellsInt (n : Int) : Json → Prop where
  | mk : SpellsInt n (Json.ofInt n)

/-- The slot gives a number, or one of the ways to say that there is none. -/
inductive SpellsPresent : Option Int → Slot → Prop where
  | missing : SpellsPresent none none
  | null : SpellsPresent none (some .null)
  | zero : SpellsPresent none (some (Json.ofInt 0))
  | there {n : Int} : n ≠ 0 → SpellsPresent (some n) (some (Json.ofInt n))

/-- The slot gives a text, and may be empty if the text is. -/
inductive SpellsDefault : String → Slot → Prop where
  | missing : SpellsDefault "" none
  | there {s : String} {j : Json} : SpellsText s j → SpellsDefault s (some j)

/-- The bytes are a text of a tree of this kind. -/
def TextOf (kind : Json → Prop) (bytes : Bytes) : Prop :=
  ∃ tree, kind tree ∧ Text (.tree tree) bytes

theorem TextOf.spaced {kind : Json → Prop} {before bytes after : Bytes} (h : TextOf kind bytes)
    (hb : Json.Spaces before) (ha : Json.Spaces after) : TextOf kind (before ++ bytes ++ after) := by
  obtain ⟨tree, spells, text⟩ := h
  exact ⟨tree, spells, .spaced hb text ha⟩

/-! ## Reading -/

theorem TextOf.read? {α : Type} {kind : Json → Prop} {bytes : Bytes} (h : TextOf kind bytes)
    {read : Json → Option α} {a : α} (reads : ∀ tree, kind tree → read tree = some a) :
    (Json.read? bytes).bind read = some a := by
  obtain ⟨tree, spells, text⟩ := h
  rw [Json.read?_of_text text, Option.bind_some, reads tree spells]

theorem SpellsInstant.instant? {t : Instant} {j : Json} (h : SpellsInstant t j) :
    Wire.instant? j = some t := by
  cases h with
  | mk spells text =>
    rw [Wire.instant?, text.text?, Option.bind_some, Instant.ofText?, String.toList_ofList]
    exact spells.ofChars?

theorem SpellsInt.int? {n : Int} {j : Json} (h : SpellsInt n j) (fits : Fits64 n) :
    j.int? = some n := by
  cases h
  exact Json.int?_ofInt fits

theorem optional_instant? {t : Option Instant} {slot : Slot}
    (h : SpellsOption SpellsInstant t slot) : Json.optional instant? slot = some t :=
  h.optional rfl fun _ _ _ => SpellsInstant.instant?

theorem optional_int? {n : Option Int} {slot : Slot} (h : SpellsOption SpellsInt n slot)
    (fits : ∀ x, n = some x → Fits64 x) : Json.optional Json.int? slot = some n :=
  h.optional rfl fun x _ same spells => spells.int? (fits x same)

theorem presentNumber?_of_spells {n : Option Int} {slot : Slot} (h : SpellsPresent n slot)
    (fits : ∀ x, n = some x → Fits64 x) : presentNumber? slot = some n := by
  cases h with
  | missing => rfl
  | null => rfl
  | zero =>
    have read := optional_int? (.there (SpellsInt.mk (n := 0))) (by rintro x ⟨⟩; decide)
    rw [presentNumber?, read]
    rfl
  | @there n some_ =>
    have read := optional_int? (.there (SpellsInt.mk (n := n))) fits
    rw [presentNumber?, read]
    simp [some_]

theorem withDefault_text? {s : String} {slot : Slot} (h : SpellsDefault s slot) :
    Json.withDefault "" Json.text? slot = some s := by
  cases h with
  | missing => rfl
  | there text => exact text.text?

/-! ## What a field that was read holds -/

theorem fits64_of_required {slot : Slot} {n : Int} (h : Json.required Json.int? slot = some n) :
    Fits64 n := by
  obtain ⟨j, -, read⟩ := Option.bind_eq_some_iff.mp h
  exact Json.fits64_of_int? read

/-- The same for numbers that are marked as those of one kind of record. -/
theorem fits64_of_required_map {α : Type} {make : Int → α} {value : α → Int}
    (back : ∀ n, value (make n) = n) {slot : Slot} {a : α}
    (h : Json.required (fun j => j.int?.map make) slot = some a) : Fits64 (value a) := by
  obtain ⟨j, -, read⟩ := Option.bind_eq_some_iff.mp h
  obtain ⟨n, int, rfl⟩ := Option.map_eq_some_iff.mp read
  rw [back]
  exact Json.fits64_of_int? int

theorem fits64_of_optional {slot : Slot} {n : Option Int}
    (h : Json.optional Json.int? slot = some n) : ∀ x, n = some x → Fits64 x := by
  rintro x rfl
  unfold Json.optional at h
  split at h
  · cases h
  · cases h
  · obtain ⟨y, int, same⟩ := Option.map_eq_some_iff.mp h
    cases same
    exact Json.fits64_of_int? int

theorem of_presentNumber? {slot : Slot} {n : Option Int} (h : presentNumber? slot = some n) :
    ∀ x, n = some x → Fits64 x ∧ x ≠ 0 := by
  rintro x rfl
  obtain ⟨m, read, kept⟩ := Option.map_eq_some_iff.mp h
  obtain ⟨same, some_⟩ := Option.filter_eq_some_iff.mp kept
  exact ⟨fits64_of_optional read x same, by simpa using some_⟩

/-! ## Writing -/

theorem spellsInstant_ofInstant (t : Instant) : SpellsInstant t (ofInstant t) :=
  .mk (Instant.spells_chars t) (Json.spellsText_ofText t.toText)

theorem text_render_ofInstant (t : Instant) : Text (.tree (ofInstant t)) (ofInstant t).render :=
  Json.text_render_ofText t.toText

end Circulation.Wire
