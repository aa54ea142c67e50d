import Mathlib.Data.List.AList
import Starweaver.Library.MachineInt

namespace Starweaver.Library.Counters

open MachineInt

variable {κ : Type} [DecidableEq κ]

abbrev CounterMap (κ : Type) := AList (fun _ : κ => Int)

def value (counters : CounterMap κ) (key : κ) : Int := (counters.lookup key).getD 0

/-- Add to a counter, never below zero, and drop the entry when it reaches zero. -/
def adjust (counters : CounterMap κ) (key : κ) (delta : Int) : CounterMap κ × Int :=
  let next := max (saturatingAdd (value counters key) delta) 0
  (if next = 0 then counters.erase key else counters.insert key next, next)

def increment (counters : CounterMap κ) (key : κ) (amount : Int) : CounterMap κ × Int :=
  let current := saturatingAdd (value counters key) amount
  (counters.insert key current, current)

@[simp] theorem value_insert_self (counters : CounterMap κ) (key : κ) (n : Int) :
    value (counters.insert key n) key = n := by
  simp [value]

theorem value_insert_ne (counters : CounterMap κ) {key other : κ} (n : Int) (h : other ≠ key) :
    value (counters.insert key n) other = value counters other := by
  unfold value
  rw [AList.lookup_insert_ne h]

@[simp] theorem value_erase_self (counters : CounterMap κ) (key : κ) : value (counters.erase key) key = 0 := by
  simp [value]

theorem value_erase_ne (counters : CounterMap κ) {key other : κ} (h : other ≠ key) :
    value (counters.erase key) other = value counters other := by
  unfold value
  rw [AList.lookup_erase_ne h]

theorem adjust_snd (counters : CounterMap κ) (key : κ) (delta : Int) :
    (adjust counters key delta).2 = max (saturatingAdd (value counters key) delta) 0 := rfl

theorem value_adjust_self (counters : CounterMap κ) (key : κ) (delta : Int) :
    value (adjust counters key delta).1 key = (adjust counters key delta).2 := by
  unfold adjust
  simp only
  split <;> simp_all

theorem value_adjust_ne (counters : CounterMap κ) {key other : κ} (delta : Int) (h : other ≠ key) :
    value (adjust counters key delta).1 other = value counters other := by
  unfold adjust
  simp only
  split
  · exact value_erase_ne counters h
  · exact value_insert_ne counters _ h

theorem lookup_adjust_self (counters : CounterMap κ) (key : κ) (delta : Int) :
    (adjust counters key delta).1.lookup key =
      if (adjust counters key delta).2 = 0 then none else some (adjust counters key delta).2 := by
  unfold adjust
  simp only
  split <;> simp

theorem lookup_adjust_ne (counters : CounterMap κ) {key other : κ} (delta : Int) (h : other ≠ key) :
    (adjust counters key delta).1.lookup other = counters.lookup other := by
  unfold adjust
  simp only
  split
  · exact AList.lookup_erase_ne h
  · exact AList.lookup_insert_ne h

theorem value_increment_self (counters : CounterMap κ) (key : κ) (amount : Int) :
    value (increment counters key amount).1 key = (increment counters key amount).2 := by
  simp [increment]

theorem value_increment_ne (counters : CounterMap κ) {key other : κ} (amount : Int) (h : other ≠ key) :
    value (increment counters key amount).1 other = value counters other :=
  value_insert_ne counters _ h

theorem adjust_of_bounds (counters : CounterMap κ) (key : κ) (delta : Int) (hlow : 0 ≤ value counters key + delta)
    (hhigh : value counters key + delta ≤ i64Max) :
    (adjust counters key delta).2 = value counters key + delta := by
  rw [adjust_snd, saturatingAdd_of_le (by unfold i64Min; omega) hhigh]
  omega

theorem value_adjust (counters : CounterMap κ) (key other : κ) (delta : Int)
    (hlow : 0 ≤ value counters key + delta) (hhigh : value counters key + delta ≤ i64Max) :
    value (adjust counters key delta).1 other = value counters other + if other = key then delta else 0 := by
  by_cases h : other = key
  · subst h
    rw [value_adjust_self, adjust_of_bounds counters other delta hlow hhigh, if_pos rfl]
  · rw [value_adjust_ne counters delta h, if_neg h, add_zero]

/-- Raising a counter, seen at any counter. -/
theorem value_raise (counters : CounterMap κ) (key other : κ) {delta : Int} (hdelta : 0 ≤ delta)
    (hlow : 0 ≤ value counters other) (hhigh : value counters other ≤ i64Max) :
    value (adjust counters key delta).1 other =
      saturatingAdd (value counters other) (if key = other then delta else 0) := by
  by_cases h : key = other
  · subst h
    rw [value_adjust_self, adjust_snd, if_pos rfl]
    exact max_eq_left (saturatingAdd_nonneg hlow hdelta)
  · rw [value_adjust_ne counters delta (Ne.symm h), if_neg h, saturatingAdd_of_le (by unfold i64Min; omega) (by omega),
      add_zero]

end Starweaver.Library.Counters
