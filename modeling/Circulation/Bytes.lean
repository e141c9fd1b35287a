/- # Circulation.Bytes -- message bodies

A message body is a list of bytes. Text becomes bytes by the encoding UTF-8; bytes are text only
if they are such an encoding, and then of one text.
-/

namespace Circulation

/-- The body of a message. -/
abbrev Bytes := List UInt8

namespace Bytes

/-- The UTF-8 encoding of a list of characters. -/
def ofChars (cs : List Char) : Bytes := cs.flatMap String.utf8EncodeChar

/-- The UTF-8 encoding of a text. -/
def ofText (s : String) : Bytes := ofChars s.toList

/-- The text that the bytes encode, if they are UTF-8. -/
def text? (bytes : Bytes) : Option String := String.fromUTF8? bytes.toByteArray

theorem ofChars_append (a b : List Char) : ofChars (a ++ b) = ofChars a ++ ofChars b := by
  simp [ofChars]

theorem toByteArray_ofText (s : String) : (ofText s).toByteArray = s.toByteArray := by
  rw [ofText, ofChars, ← String.utf8Encode_toList]
  rfl

theorem text?_ofText (s : String) : text? (ofText s) = some s := by
  rw [text?, toByteArray_ofText, String.fromUTF8?, dif_pos s.isValidUTF8]
  rfl

/-! ## Bytes of one character -/

/-- A byte below 0x80 is a character by itself. -/
theorem toNat_of_mem {c : Char} {b : UInt8} (h : b ∈ String.utf8EncodeChar c) :
    b.toNat = c.toNat ∨ 0x80 ≤ b.toNat := by
  have number : c.val.toNat = c.toNat := rfl
  unfold String.utf8EncodeChar at h
  simp only [number] at h
  split at h
  · left
    rw [List.mem_singleton.mp h, UInt8.toNat_ofNat']
    omega
  · right
    split at h
    · simp only [List.mem_cons, List.not_mem_nil, or_false] at h
      rcases h with rfl | rfl <;> rw [UInt8.toNat_ofNat'] <;> omega
    · split at h
      · simp only [List.mem_cons, List.not_mem_nil, or_false] at h
        rcases h with rfl | rfl | rfl <;> rw [UInt8.toNat_ofNat'] <;> omega
      · simp only [List.mem_cons, List.not_mem_nil, or_false] at h
        rcases h with rfl | rfl | rfl | rfl <;> rw [UInt8.toNat_ofNat'] <;> omega

/-- A character below 0x80 is one byte. -/
theorem utf8EncodeChar_of_toNat {c : Char} {b : UInt8} (h : c.toNat = b.toNat)
    (ascii : b.toNat < 0x80) : String.utf8EncodeChar c = [b] := by
  have number : c.val.toNat = b.toNat := h
  unfold String.utf8EncodeChar
  simp only [number]
  rw [if_pos (by omega), UInt8.ofNat_toNat]

/-- Characters below 0x80 are the bytes of their numbers. -/
theorem map_ofChars {cs : List Char} (ascii : ∀ c ∈ cs, c.toNat < 0x80) :
    (ofChars cs).map (fun b => Char.ofNat b.toNat) = cs := by
  induction cs with
  | nil => rfl
  | cons c cs ih =>
    have low := ascii c List.mem_cons_self
    have number : c.toNat = (UInt8.ofNat c.toNat).toNat := by
      rw [UInt8.toNat_ofNat']
      omega
    have one := utf8EncodeChar_of_toNat number (number ▸ low)
    have more := ih fun d hd => ascii d (List.mem_cons_of_mem _ hd)
    rw [ofChars, List.flatMap_cons, one, List.singleton_append, List.map_cons, ← number,
      Char.ofNat_toNat]
    exact congrArg (c :: ·) more

end Bytes

end Circulation
