import Signpost.Proofs.Endpoint.HostLabels
import Signpost.Web.Percent

/-!
# Percent-encoding loses nothing

What is encoded is decoded to itself (`decode?_encode`), as an encoded text has percent signs only in front of the two
digits of a byte (`isEncoded_encode`).  Characters are encoded one by one (`encode_append`), and exactly the unreserved
ones stand for themselves (`encode_eq_self_iff`).
-/

namespace Signpost.Web.Percent

open HostLabel (IsLetterOrDigit isAlphanum_iff)

/-- The characters without a meaning of their own in a URI. -/
def IsUnreserved (c : Char) : Prop := IsLetterOrDigit c ∨ c = '-' ∨ c = '.' ∨ c = '_' ∨ c = '~'

/-- A hexadecimal digit without small letters. -/
def IsCapitalDigit (c : Char) : Prop := ('0' ≤ c ∧ c ≤ '9') ∨ ('A' ≤ c ∧ c ≤ 'F')

/-- Texts of unreserved characters, and of bytes as a percent sign and two digits. -/
inductive IsEncoded : List Char → Prop
  | nil : IsEncoded []
  | unreserved {c : Char} {cs : List Char} (hc : IsUnreserved c) (hcs : IsEncoded cs) : IsEncoded (c :: cs)
  | byte {a b : Char} {cs : List Char} (ha : IsCapitalDigit a) (hb : IsCapitalDigit b) (hcs : IsEncoded cs) :
    IsEncoded ('%' :: a :: b :: cs)

variable {c : Char} {cs rest : List Char}

theorem isUnreserved_iff : isUnreserved c = true ↔ IsUnreserved c := by
  simp only [isUnreserved, Bool.or_eq_true, beq_iff_eq, isAlphanum_iff, IsUnreserved, or_assoc]

/-! ### Bytes -/

private theorem value?_capital : ∀ n < 16, Hexadecimal.value? (Hexadecimal.capital n) = some n := by decide

private theorem isCapitalDigit_capital : ∀ n < 16, IsCapitalDigit (Hexadecimal.capital n) := by
  unfold IsCapitalDigit
  decide

theorem bytes_encodeByte (b : UInt8) : bytes (encodeByte b ++ rest) = b :: bytes rest := by
  have hb : b.toNat < 256 := b.toNat_lt
  have hhigh := value?_capital (b.toNat / 16) (by omega)
  have hlow := value?_capital (b.toNat % 16) (by omega)
  have hvalue : 16 * (b.toNat / 16) + b.toNat % 16 = b.toNat := by omega
  rw [encodeByte, List.cons_append, List.cons_append, List.cons_append, List.nil_append, bytes, hhigh, hlow]
  dsimp only
  rw [hvalue, UInt8.ofNat_toNat]

theorem IsEncoded.encodeByte_append (b : UInt8) (h : IsEncoded rest) : IsEncoded (encodeByte b ++ rest) := by
  have hb : b.toNat < 256 := b.toNat_lt
  exact .byte (isCapitalDigit_capital _ (by omega)) (isCapitalDigit_capital _ (by omega)) h

/-! ### Characters -/

theorem length_encodeChar (c : Char) : (encodeChar c).length = if isUnreserved c then 1 else c.utf8Size * 3 := by
  rw [encodeChar]
  split
  · rfl
  · simp [List.length_flatMap, encodeByte, List.map_const', String.length_utf8EncodeChar]

/-- A percent sign is encoded itself, so that one in front of digits is always that of a byte. -/
theorem bytes_encodeChar (c : Char) : bytes (encodeChar c ++ rest) = String.utf8EncodeChar c ++ bytes rest := by
  rw [encodeChar]
  split
  · rename_i hc
    rw [List.singleton_append, bytes.eq_3]
    rintro _ _ _ rfl
    exact absurd hc (by decide)
  · induction String.utf8EncodeChar c with
    | nil => rfl
    | cons b bs ih => rw [List.flatMap_cons, List.append_assoc, bytes_encodeByte, ih, List.cons_append]

theorem IsEncoded.encodeChar_append (c : Char) (h : IsEncoded rest) : IsEncoded (encodeChar c ++ rest) := by
  rw [encodeChar]
  split
  · rename_i hc
    exact .unreserved (isUnreserved_iff.1 hc) h
  · induction String.utf8EncodeChar c with
    | nil => exact h
    | cons b bs ih =>
      rw [List.flatMap_cons, List.append_assoc]
      exact ih.encodeByte_append b

/-! ### Texts -/

theorem toList_encode (s : String) : (encode s).toList = s.toList.flatMap encodeChar :=
  String.toList_ofList

theorem bytes_encode (cs : List Char) : bytes (cs.flatMap encodeChar) = cs.flatMap String.utf8EncodeChar := by
  induction cs with
  | nil => rfl
  | cons c cs ih => rw [List.flatMap_cons, bytes_encodeChar, ih, List.flatMap_cons]

theorem decode?_encode (s : String) : decode? (encode s) = some s := by
  have hbytes : (bytes (encode s).toList).toByteArray = s.toByteArray := by
    rw [toList_encode, bytes_encode, ← String.utf8Encode_toList]
    rfl
  rw [decode?, hbytes, String.fromUTF8?, dif_pos s.isValidUTF8]
  rfl

theorem isEncoded_encode (s : String) : IsEncoded (encode s).toList := by
  rw [toList_encode]
  induction s.toList with
  | nil => exact .nil
  | cons c cs ih => exact ih.encodeChar_append c

theorem encode_append (s t : String) : encode (s ++ t) = encode s ++ encode t := by
  rw [← String.toList_inj, String.toList_append, toList_encode, toList_encode, toList_encode, String.toList_append,
    List.flatMap_append]

theorem length_le_flatMap (cs : List Char) : cs.length ≤ (cs.flatMap encodeChar).length := by
  induction cs with
  | nil => exact Nat.le_refl _
  | cons c cs ih =>
    have hpos := c.utf8Size_pos
    rw [List.flatMap_cons, List.length_append, List.length_cons, length_encodeChar]
    split <;> omega

private theorem flatMap_eq_self_iff : cs.flatMap encodeChar = cs ↔ ∀ c ∈ cs, isUnreserved c = true := by
  induction cs with
  | nil => simp
  | cons c cs ih =>
    rw [List.flatMap_cons, List.forall_mem_cons, ← ih]
    constructor
    · intro h
      -- an encoded character is too long, as none of the others gets shorter
      have hc : isUnreserved c = true := by
        by_contra hc
        have hlength := congrArg List.length h
        rw [List.length_append, List.length_cons, length_encodeChar, if_neg hc] at hlength
        have hpos := c.utf8Size_pos
        have hle := length_le_flatMap cs
        omega
      rw [encodeChar, if_pos hc] at h
      exact ⟨hc, (List.cons.inj h).2⟩
    · rintro ⟨hc, h⟩
      rw [encodeChar, if_pos hc, h]
      rfl

theorem encode_eq_self_iff (s : String) : encode s = s ↔ ∀ c ∈ s.toList, IsUnreserved c := by
  rw [← String.toList_inj, toList_encode, flatMap_eq_self_iff]
  exact forall₂_congr fun _ _ => isUnreserved_iff

/-- Encoding loses nothing: every text is decoded to what it was, is written in unreserved characters and encoded bytes,
is the same if it has nothing but unreserved characters, and is encoded part by part. -/
theorem lossless_encode (s : String) :
    decode? (encode s) = some s ∧ IsEncoded (encode s).toList ∧ (encode s = s ↔ ∀ c ∈ s.toList, IsUnreserved c) ∧
      ∀ t, encode (s ++ t) = encode s ++ encode t :=
  ⟨decode?_encode s, isEncoded_encode s, encode_eq_self_iff s, encode_append s⟩

/-- A text that is encoded already is encoded once more. -/
example : encode "é%C3~" = "%C3%A9%25C3~" := by decide +kernel

end Signpost.Web.Percent
