import Mathlib.Logic.Function.Basic
import Starweaver.Library.Alphabet
import Starweaver.Library.PrefixCode

namespace Starweaver.Library.Hex

open Alphabet PrefixCode

/-- The high and the low half of a byte. -/
def hexByte (byte : UInt8) : List Char := [digit hexLower (byte.toNat / 16), digit hexLower (byte.toNat % 16)]

theorem hexByte_injective : Function.Injective hexByte := by
  intro a b h
  simp only [hexByte, List.cons.injEq, and_true] at h
  have ha := a.toNat_lt
  have hb := b.toNat_lt
  have hsize : hexLower.length = 16 := rfl
  have hhigh := digit_inj hexLower_nodup (by omega) (by omega) h.1
  have hlow := digit_inj hexLower_nodup (by omega) (by omega) h.2
  apply UInt8.toNat_inj.mp
  omega

def lowerHex (bytes : List UInt8) : String := String.ofList (bytes.flatMap hexByte)

theorem hexByte_prefixFree : PrefixFree hexByte :=
  prefixFree_of_length Nat.two_pos (fun _ => rfl) hexByte_injective

theorem lowerHex_injective : Function.Injective lowerHex := by
  intro bytes others h
  exact hexByte_prefixFree.flatMap_injective (String.ofList_injective h)

end Starweaver.Library.Hex
