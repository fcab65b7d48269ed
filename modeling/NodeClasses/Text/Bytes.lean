import NodeClasses.Text.Basic

/-!
# Texts and bytes

Files, names and streams are made of bytes. A text is in byte form if each of its characters has the
number of a byte: `Text.encode` gives the byte form of a text, in UTF-8, and `Text.decode` reads it.
`decode_encode` says that a text is read back; bytes that belong to no character are read as a mark
of their own.
-/

namespace NodeClasses.Text
set_option autoImplicit false

/-- The bytes of a text in UTF-8. -/
def bytes (t : Text) : List UInt8 := t.flatMap String.utf8EncodeChar

/-- The character with the number of a byte. -/
def ofByte (n : Nat) : Char := Char.ofNat (n % 256)

/-- The text in byte form that some bytes make. -/
def ofOctets (bs : List UInt8) : Text := bs.map fun b => Char.ofNat b.toNat

/-- The bytes that a text in byte form is made of. -/
def octets (t : Text) : List UInt8 := t.map fun c => UInt8.ofNat c.toNat

/-- A text in byte form gives back the bytes that it is made of. -/
theorem octets_ofOctets (bs : List UInt8) : octets (ofOctets bs) = bs := by
  have same (b : UInt8) : UInt8.ofNat (Char.ofNat b.toNat).toNat = b := by
    have small : b.toNat < 256 := b.toNat_lt
    have valid : b.toNat.isValidChar := .inl (by omega)
    have number : (Char.ofNat b.toNat).toNat = b.toNat := by
      rw [Char.ofNat, dif_pos valid]
      rfl
    rw [number, UInt8.ofNat_toNat]
  simp only [octets, ofOctets, List.map_map]
  exact (List.map_congr_left fun b _ => same b).trans (List.map_id bs)

/-- The byte form of a text. -/
def encode (t : Text) : Text := ofOctets (bytes t)

/-- What is read in the place of bytes that belong to no character. -/
def unreadable : Char := '\ufffd'

/-- Does the byte go on with a character? -/
def isContinuation (b : UInt8) : Bool := decide (128 ≤ b) && decide (b < 192)

/-- How many bytes are read as one mark where no character starts: as many as could start one. -/
def strayLength (b : UInt8) (rest : List UInt8) : Nat :=
  let isSecond (c : UInt8) : Bool :=
    if b = 0xe0 then decide (0xa0 ≤ c) && decide (c < 0xc0)
    else if b = 0xed then decide (0x80 ≤ c) && decide (c < 0xa0)
    else if b = 0xf0 then decide (0x90 ≤ c) && decide (c < 0xc0)
    else if b = 0xf4 then decide (0x80 ≤ c) && decide (c < 0x90)
    else isContinuation c
  match rest with
  | [] => 1
  | [c] => if 0xe0 ≤ b ∧ b < 0xf5 ∧ isSecond c = true then 2 else 1
  | c :: d :: _ =>
    if 0xe0 ≤ b ∧ b < 0xf5 ∧ isSecond c = true then
      if 0xf0 ≤ b ∧ isContinuation d = true then 3 else 2
    else 1

/-- The text that bytes are read as. -/
def ofBytes : List UInt8 → Text
  | [] => []
  | b :: rest =>
    if b < 128 then Char.ofNat b.toNat :: ofBytes rest
    else
      match (b :: rest.take 3).toByteArray.utf8DecodeChar? 0 with
      | some c => c :: ofBytes (rest.drop (c.utf8Size - 1))
      | none => unreadable :: ofBytes (rest.drop (strayLength b rest - 1))
termination_by bs => bs.length
decreasing_by all_goals (simp_wf; try omega)

/-- A character below 128 is its own byte, and any other starts with a byte from 128 on. -/
theorem utf8EncodeChar_cases (c : Char) :
    (String.utf8EncodeChar c = [UInt8.ofNat c.toNat] ∧ c.toNat < 128) ∨
      ∀ b ∈ (String.utf8EncodeChar c).head?, ¬ b < 128 := by
  by_cases small : c.val.toNat ≤ 127
  · left
    have low : c.toNat < 128 := by
      change c.val.toNat < 128
      omega
    have own : String.utf8EncodeChar c = [UInt8.ofNat c.val.toNat] := by
      unfold String.utf8EncodeChar
      exact if_pos small
    exact ⟨own, low⟩
  · right
    intro b hb
    unfold String.utf8EncodeChar at hb
    simp only [small, if_false] at hb
    split at hb
    · simp only [List.head?_cons, Option.mem_def, Option.some.injEq] at hb
      subst hb
      rw [UInt8.lt_iff_toNat_lt, UInt8.toNat_ofNat']
      change ¬ _ < 128
      omega
    · split at hb
      · simp only [List.head?_cons, Option.mem_def, Option.some.injEq] at hb
        subst hb
        rw [UInt8.lt_iff_toNat_lt, UInt8.toNat_ofNat']
        change ¬ _ < 128
        omega
      · simp only [List.head?_cons, Option.mem_def, Option.some.injEq] at hb
        subst hb
        rw [UInt8.lt_iff_toNat_lt, UInt8.toNat_ofNat']
        change ¬ _ < 128
        omega

/-- A text is read back from its bytes. -/
theorem ofBytes_bytes (t : Text) : ofBytes (bytes t) = t := by
  induction t with
  | nil => simp [bytes, ofBytes]
  | cons c rest ih =>
    have split : bytes (c :: rest) = String.utf8EncodeChar c ++ bytes rest := rfl
    rw [split]
    rcases utf8EncodeChar_cases c with ⟨own, small⟩ | high
    · have number : (UInt8.ofNat c.toNat).toNat = c.toNat := by
        rw [UInt8.toNat_ofNat']
        omega
      have low : UInt8.ofNat c.toNat < 128 := by
        rw [UInt8.lt_iff_toNat_lt, number]
        exact small
      rw [own, List.singleton_append, ofBytes, if_pos low, ih, number, Char.ofNat_toNat]
    · have size : (String.utf8EncodeChar c).length = c.utf8Size := String.length_utf8EncodeChar c
      have few : c.utf8Size ≤ 4 := c.utf8Size_le_four
      cases h : String.utf8EncodeChar c with
      | nil => simp [h] at size; have := c.utf8Size_pos; omega
      | cons b more =>
        have notLow : ¬ b < 128 := high b (by simp [h])
        rw [h, List.length_cons] at size
        have taken : b :: (more ++ bytes rest).take 3 =
            String.utf8EncodeChar c ++ (bytes rest).take (3 - more.length) := by
          rw [h, List.take_append, List.take_of_length_le (by omega)]
          rfl
        have read : (b :: (more ++ bytes rest).take 3).toByteArray.utf8DecodeChar? 0 = some c := by
          rw [taken, List.toByteArray_append]
          exact ByteArray.utf8DecodeChar?_utf8EncodeChar_append
        rw [List.cons_append, ofBytes, if_neg notLow, read]
        have left : (more ++ bytes rest).drop (c.utf8Size - 1) = bytes rest := by
          rw [← size, Nat.add_sub_cancel, List.drop_left]
        simp only [left, ih]

/-- The text that a text in byte form is read as. -/
def decode (t : Text) : Text := ofBytes (octets t)

/-- A text is read back from its byte form. -/
theorem decode_encode (t : Text) : decode (encode t) = t := by
  rw [decode, encode, octets_ofOctets, ofBytes_bytes]

/-- Texts with the same byte form are the same. -/
theorem encode_inj {t u : Text} : encode t = encode u ↔ t = u :=
  ⟨fun h => by rw [← decode_encode t, h, decode_encode], fun h => h ▸ rfl⟩

end NodeClasses.Text
