import Mathlib.Algebra.Order.BigOperators.Group.List
import Starweaver.Library.MachineInt

/-! Nonnegative sums that stop at the largest 64-bit integer. -/

namespace Starweaver.Library.MachineInt

def capped (n : Int) : Int := min n i64Max

theorem capped_of_le {n : Int} (h : n ≤ i64Max) : capped n = n := min_eq_left h

theorem capped_le (n : Int) : capped n ≤ i64Max := min_le_right _ _

theorem capped_mono {m n : Int} (h : m ≤ n) : capped m ≤ capped n := min_le_min_right _ h

theorem capped_nonneg {n : Int} (h : 0 ≤ n) : 0 ≤ capped n := le_min h (by decide)

theorem saturatingAdd_capped {m n : Int} (hm : 0 ≤ m) (hn : 0 ≤ n) :
    saturatingAdd (capped m) (capped n) = capped (m + n) := by
  unfold saturatingAdd capped i64Min i64Max
  omega

theorem foldl_saturatingAdd_capped {xs : List Int} (hxs : ∀ x ∈ xs, 0 ≤ x) {start : Int} (hstart : 0 ≤ start) :
    (xs.map capped).foldl saturatingAdd (capped start) = capped (start + xs.sum) := by
  induction xs generalizing start with
  | nil => rw [List.map_nil, List.foldl_nil, List.sum_nil, add_zero]
  | cons x xs ih =>
    obtain ⟨hx, hrest⟩ := List.forall_mem_cons.mp hxs
    rw [List.map_cons, List.foldl_cons, saturatingAdd_capped hstart hx, ih hrest (by omega), List.sum_cons, add_assoc]

theorem capped_sum_capped {xs : List Int} (hxs : ∀ x ∈ xs, 0 ≤ x) : capped (xs.map capped).sum = capped xs.sum := by
  induction xs with
  | nil => rfl
  | cons x xs ih =>
    obtain ⟨hx, hrest⟩ := List.forall_mem_cons.mp hxs
    have hsum : 0 ≤ xs.sum := List.sum_nonneg hrest
    have hcapped : 0 ≤ (xs.map capped).sum := List.sum_nonneg fun y hy => by
      obtain ⟨x, hx, rfl⟩ := List.mem_map.mp hy
      exact capped_nonneg (hrest x hx)
    have htail := ih hrest
    rw [List.map_cons, List.sum_cons, List.sum_cons]
    unfold capped at *
    omega

end Starweaver.Library.MachineInt
