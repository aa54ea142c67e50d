import Mathlib
import Starweaver.Library.Separated

namespace Starweaver.Library.Separated

theorem barFree_natRepr (n : Nat) : BarFree n.repr := by
  intro hmem
  have hdigit : '|'.isDigit = true :=
    Nat.isDigit_of_mem_toDigits (b := 10) (by decide) (by decide) (by simpa [Nat.repr] using hmem)
  exact absurd hdigit (by decide)

theorem barFree_append {left right : String} (hl : BarFree left) (hr : BarFree right) : BarFree (left ++ right) := by
  unfold BarFree at *
  simp [hl, hr]

theorem barFree_decimal (n : Int) : BarFree (toString n) := by
  rw [Int.toString_eq_repr, Int.repr_eq_if]
  split
  · exact barFree_natRepr _
  · exact barFree_append (by decide) (barFree_natRepr _)

theorem decimal_injective {m n : Int} (h : toString m = toString n) : m = n := Int.repr_injective h

end Starweaver.Library.Separated
