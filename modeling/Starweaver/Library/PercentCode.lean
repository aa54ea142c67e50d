import Starweaver.Library.Alphabet
import Starweaver.Library.TextCode

namespace Starweaver.Library.PercentCode

open Alphabet TextCode

section Bytes

variable (kept : UInt8 → Bool)

/-- A byte that is kept stands for itself, any other one is escaped. -/
def encodeByte (byte : UInt8) : List Char :=
  if kept byte then [Char.ofNat byte.toNat] else ['%', digit hexUpper (byte.toNat / 16), digit hexUpper (byte.toNat % 16)]

def decodeBytes : List Char → Option (List UInt8)
  | [] => some []
  | '%' :: high :: low :: rest => do
    let high ← value hexUpper high
    let low ← value hexUpper low
    some (UInt8.ofNat (high * 16 + low) :: (← decodeBytes rest))
  | c :: rest =>
    if c.toNat < 256 ∧ kept (UInt8.ofNat c.toNat) = true then do some (UInt8.ofNat c.toNat :: (← decodeBytes rest))
    else none

end Bytes

variable {kept : UInt8 → Bool}

theorem toNat_ofNat_byte (byte : UInt8) : (Char.ofNat byte.toNat).toNat = byte.toNat := by
  have hvalid : byte.toNat.isValidChar := .inl (by have := byte.toNat_lt; omega)
  have hchar : Char.ofNat byte.toNat = Char.ofNatAux byte.toNat hvalid := dif_pos hvalid
  rw [hchar]
  rfl

theorem decodeBytes_escaped {high low : Nat} (hhigh : high < 16) (hlow : low < 16) (rest : List Char) :
    decodeBytes kept ('%' :: digit hexUpper high :: digit hexUpper low :: rest) =
      (decodeBytes kept rest).map fun bytes => UInt8.ofNat (high * 16 + low) :: bytes := by
  rw [decodeBytes, value_digit hexUpper_nodup hhigh, value_digit hexUpper_nodup hlow]
  cases decodeBytes kept rest <;> rfl

theorem decodeBytes_kept (hpercent : kept 37 = false) {byte : UInt8} (hkept : kept byte = true) (rest : List Char) :
    decodeBytes kept (Char.ofNat byte.toNat :: rest) = (decodeBytes kept rest).map fun bytes => byte :: bytes := by
  have hnat := toNat_ofNat_byte byte
  have hne : Char.ofNat byte.toNat ≠ '%' := by
    intro h
    rw [h] at hnat
    have hbyte : byte = 37 := UInt8.toNat_inj.mp hnat.symm
    rw [hbyte, hpercent] at hkept
    cases hkept
  have hbyte : UInt8.ofNat (Char.ofNat byte.toNat).toNat = byte := by rw [hnat, UInt8.ofNat_toNat]
  have hlt : (Char.ofNat byte.toNat).toNat < 256 := by rw [hnat]; exact byte.toNat_lt
  rw [decodeBytes]
  · rw [if_pos ⟨hlt, by rw [hbyte]; exact hkept⟩, hbyte]
    cases decodeBytes kept rest <;> rfl
  · exact fun _ _ _ h => absurd h hne

theorem decodeBytes_encoded (hpercent : kept 37 = false) (bytes : List UInt8) :
    decodeBytes kept (bytes.flatMap (encodeByte kept)) = some bytes := by
  induction bytes with
  | nil => rfl
  | cons byte bytes ih =>
    rw [List.flatMap_cons, encodeByte]
    have hlt := byte.toNat_lt
    by_cases hkept : kept byte = true
    · rw [if_pos hkept, List.singleton_append, decodeBytes_kept hpercent hkept, ih, Option.map_some]
    · rw [if_neg hkept, List.cons_append, List.cons_append, List.cons_append, List.nil_append,
        decodeBytes_escaped (by omega) (by omega), ih, Option.map_some]
      have hbyte : byte.toNat / 16 * 16 + byte.toNat % 16 = byte.toNat := by omega
      rw [hbyte, UInt8.ofNat_toNat]

/-- The characters of a code word: the escape, a digit, or a byte that is kept. -/
theorem mem_encodeByte {byte : UInt8} {c : Char} (h : c ∈ encodeByte kept byte) :
    c ∈ "%0123456789ABCDEF".toList ∨ kept (UInt8.ofNat c.toNat) = true := by
  have hlt := byte.toNat_lt
  have hdigit {n : Nat} (hn : n < 16) : digit hexUpper n ∈ "%0123456789ABCDEF".toList :=
    List.mem_cons_of_mem '%' (digit_mem hn)
  unfold encodeByte at h
  split at h
  · rename_i hkept
    rw [List.mem_singleton.mp h, toNat_ofNat_byte, UInt8.ofNat_toNat]
    exact .inr hkept
  · simp only [List.mem_cons, List.not_mem_nil, or_false] at h
    rcases h with rfl | rfl | rfl
    · exact .inl (by decide)
    · exact .inl (hdigit (by omega))
    · exact .inl (hdigit (by omega))

/-- The code of texts by the bytes of their UTF-8 encoding. -/
def percentCode (kept : UInt8 → Bool) (avoided : List Char) (hpercent : kept 37 = false)
    (havoided : ∀ c ∈ avoided, c ∉ "%0123456789ABCDEF".toList ∧ kept (UInt8.ofNat c.toNat) = false) :
    Code avoided where
  encode text := text.toByteArray.data.toList.flatMap (encodeByte kept)
  decode word := (decodeBytes kept word).bind fun bytes => String.fromUTF8? ⟨⟨bytes⟩⟩
  decode_encode text := by
    rw [decodeBytes_encoded hpercent, Option.bind_some]
    exact dif_pos text.isValidUTF8
  avoids text c hc := by
    obtain ⟨byte, -, hbyte⟩ := List.mem_flatMap.mp hc
    intro hmem
    obtain ⟨hescape, hnot⟩ := havoided c hmem
    rcases mem_encodeByte hbyte with hin | hkept
    · exact hescape hin
    · rw [hnot] at hkept
      cases hkept

end Starweaver.Library.PercentCode
