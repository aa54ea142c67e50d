import Mathlib.Data.Multiset.AddSub
import Starweaver.Library.Counters

namespace Starweaver.Library.Counters

open MachineInt

variable {κ : Type} [DecidableEq κ]

/-- Over its base value every counter stands for the units held under its key, and no unit is lost at the bounds
of the counter. -/
structure Holding (base counters : CounterMap κ) (held : Multiset κ) : Prop where
  value_eq : ∀ key, value counters key = value base key + held.count key
  bounds : ∀ key ∈ held, 0 ≤ value base key ∧ value base key + held.count key ≤ i64Max

namespace Holding

variable {base counters : CounterMap κ} {held : Multiset κ} {key : κ}

theorem none (base : CounterMap κ) : Holding base base 0 := by
  refine ⟨fun key => by simp, fun key hkey => ?_⟩
  exact absurd hkey (Multiset.notMem_zero key)

theorem acquire_result (h : Holding base counters held) (hlow : 0 ≤ value base key)
    (hhigh : value base key + held.count key < i64Max) :
    (adjust counters key 1).2 = value base key + held.count key + 1 := by
  have hvalue := h.value_eq key
  have hsnd : (adjust counters key 1).2 = value counters key + 1 := adjust_of_bounds _ _ _ (by omega) (by omega)
  omega

theorem acquire (h : Holding base counters held) (hlow : 0 ≤ value base key)
    (hhigh : value base key + held.count key < i64Max) :
    Holding base (adjust counters key 1).1 (key ::ₘ held) := by
  have hvalue := h.value_eq key
  constructor
  · intro other
    rw [value_adjust counters key other 1 (by omega) (by omega), h.value_eq other, Multiset.count_cons]
    split <;> push_cast <;> omega
  · intro other hother
    by_cases heq : other = key
    · subst heq
      rw [Multiset.count_cons_self]
      push_cast
      omega
    · rw [Multiset.count_cons_of_ne heq]
      exact h.bounds other ((Multiset.mem_cons.mp hother).resolve_left heq)

theorem release (h : Holding base counters held) (hmem : key ∈ held) :
    Holding base (adjust counters key (-1)).1 (held.erase key) := by
  obtain ⟨hlow, hhigh⟩ := h.bounds key hmem
  have hvalue := h.value_eq key
  have hcount : 0 < held.count key := Multiset.count_pos.mpr hmem
  constructor
  · intro other
    rw [value_adjust counters key other (-1) (by omega) (by omega), h.value_eq other]
    by_cases heq : other = key
    · subst heq
      rw [if_pos rfl, Multiset.count_erase_self]
      omega
    · rw [if_neg heq, Multiset.count_erase_of_ne heq]
      omega
  · intro other hother
    obtain ⟨holow, hohigh⟩ := h.bounds other (Multiset.mem_of_mem_erase hother)
    have hle : (held.erase key).count other ≤ held.count other :=
      Multiset.count_le_of_le other (Multiset.erase_le key held)
    omega

theorem increment (h : Holding base counters held) (hout : key ∉ held) (amount : Int) :
    Holding (Counters.increment base key amount).1 (Counters.increment counters key amount).1 held := by
  constructor
  · intro other
    by_cases heq : other = key
    · subst heq
      have hvalue := h.value_eq other
      rw [Multiset.count_eq_zero.mpr hout] at hvalue ⊢
      simp only [Counters.increment, value_insert_self]
      rw [hvalue]
      simp
    · rw [value_increment_ne _ _ heq, value_increment_ne _ _ heq, h.value_eq other]
  · intro other hother
    have hne : other ≠ key := fun heq => hout (heq ▸ hother)
    rw [value_increment_ne _ _ hne]
    exact h.bounds other hother

theorem adjust (h : Holding base counters held) (hout : key ∉ held) (amount : Int) :
    Holding (Counters.adjust base key amount).1 (Counters.adjust counters key amount).1 held := by
  constructor
  · intro other
    by_cases heq : other = key
    · subst heq
      have hvalue := h.value_eq other
      rw [Multiset.count_eq_zero.mpr hout] at hvalue ⊢
      rw [value_adjust_self, value_adjust_self, adjust_snd, adjust_snd, hvalue]
      simp
    · rw [value_adjust_ne _ _ heq, value_adjust_ne _ _ heq, h.value_eq other]
  · intro other hother
    have hne : other ≠ key := fun heq => hout (heq ▸ hother)
    rw [value_adjust_ne _ _ hne]
    exact h.bounds other hother

theorem value_of_notMem (h : Holding base counters held) (hout : key ∉ held) :
    value counters key = value base key := by
  rw [h.value_eq key, Multiset.count_eq_zero.mpr hout]
  simp

end Holding

end Starweaver.Library.Counters
