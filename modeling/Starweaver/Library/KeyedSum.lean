import Mathlib.Data.List.AList
import Mathlib.Algebra.BigOperators.Group.Finset.Basic
import Mathlib.Algebra.BigOperators.Group.List.Basic
import Mathlib.Tactic.Abel

namespace Starweaver.Library.KeyedSum

variable {κ ν ι α β M : Type} [DecidableEq κ] [AddCommMonoid M]

/-- At most one entry has a given key, so a sum over the entries with that key is read off by a lookup. -/
theorem sum_at_key (p : ν → Bool) (amount : M) (key : κ) {entries : List (Sigma fun _ : κ => ν)}
    (hnodup : entries.NodupKeys) :
    (entries.map fun entry => if p entry.2 = true ∧ key = entry.1 then amount else 0).sum =
      if (entries.dlookup key).any p = true then amount else 0 := by
  induction entries with
  | nil => simp
  | cons entry entries ih =>
    obtain ⟨k, v⟩ := entry
    obtain ⟨hnotin, hrest⟩ := List.nodupKeys_cons.mp hnodup
    rw [List.map_cons, List.sum_cons, ih hrest]
    by_cases hk : key = k
    · subst hk
      have hnone : entries.dlookup key = none := List.dlookup_eq_none.mpr hnotin
      simp [hnone]
    · rw [List.dlookup_cons_ne entries ⟨k, v⟩ hk]
      simp [hk]

theorem sum_filter (p : ι → Bool) (amount : ι → M) (items : List ι) :
    ((items.filter p).map amount).sum = (items.map fun item => if p item = true then amount item else 0).sum := by
  induction items with
  | nil => rfl
  | cons item items ih =>
    rw [List.filter_cons, List.map_cons, List.sum_cons, ← ih]
    by_cases hp : p item = true
    · rw [if_pos hp, if_pos hp, List.map_cons, List.sum_cons]
    · rw [if_neg hp, if_neg hp, zero_add]

theorem sum_by_key (p : ν → Bool) (keyOf : ι → κ) (amount : ι → M) (items : List ι)
    (map : AList (fun _ : κ => ν)) :
    ((map.entries.filter fun entry => p entry.2).map fun entry =>
        ((items.filter fun item => keyOf item = entry.1).map amount).sum).sum =
      ((items.filter fun item => (map.lookup (keyOf item)).any p).map amount).sum := by
  rw [sum_filter]
  induction items with
  | nil => simp
  | cons item items ih =>
    have hsplit : ∀ entry : Sigma fun _ : κ => ν,
        (if p entry.2 = true then (((item :: items).filter fun item => keyOf item = entry.1).map amount).sum else 0) =
          (if p entry.2 = true ∧ keyOf item = entry.1 then amount item else 0) +
            if p entry.2 = true then ((items.filter fun item => keyOf item = entry.1).map amount).sum else 0 := by
      intro entry
      by_cases hp : p entry.2 = true
      · by_cases hkey : keyOf item = entry.1
        · simp [hp, hkey]
        · simp [hp, hkey]
      · simp [hp]
    simp only [hsplit, List.sum_map_add, ih, sum_at_key p (amount item) (keyOf item) map.nodupKeys]
    unfold AList.lookup
    rw [List.filter_cons]
    by_cases hany : (map.entries.dlookup (keyOf item)).any p = true
    · simp only [hany, if_true, List.map_cons, List.sum_cons]
    · simp only [hany, Bool.false_eq_true, if_false, zero_add]

/-- The sum of an amount of the values of a map. -/
def total (amount : ν → M) (map : AList (fun _ : κ => ν)) : M := (map.entries.map fun entry => amount entry.2).sum

def amountAt (amount : ν → M) (map : AList (fun _ : κ => ν)) (key : κ) : M := ((map.lookup key).map amount).getD 0

theorem total_eq_sum (amount : ν → M) (map : AList (fun _ : κ => ν)) {keys : Finset κ}
    (hkeys : map.keys.toFinset ⊆ keys) : total amount map = ∑ key ∈ keys, amountAt amount map key := by
  have hentries : total amount map = (map.keys.map (amountAt amount map)).sum := by
    unfold total AList.keys List.keys
    rw [List.map_map]
    refine congrArg List.sum (List.map_congr_left fun entry hentry => ?_)
    have hlookup : map.lookup entry.1 = some entry.2 := AList.mem_lookup_iff.mpr hentry
    simp only [Function.comp_apply, amountAt, hlookup, Option.map_some, Option.getD_some]
  rw [hentries, ← List.sum_toFinset _ map.keys_nodup]
  refine Finset.sum_subset hkeys fun key _ hnotin => ?_
  have hnone : map.lookup key = none := by
    rw [AList.lookup_eq_none, AList.mem_keys]
    simpa using hnotin
  rw [amountAt, hnone, Option.map_none, Option.getD_none]

/-- Where only one key changes its amount, the total changes by what that amount changes. -/
theorem total_changed {amount : ν → M} {map map' : AList (fun _ : κ => ν)} {key : κ}
    (hothers : ∀ other, other ≠ key → amountAt amount map' other = amountAt amount map other) :
    total amount map' + amountAt amount map key = total amount map + amountAt amount map' key := by
  let keys := insert key (map.keys.toFinset ∪ map'.keys.toFinset)
  have hkey : key ∈ keys := Finset.mem_insert_self _ _
  have hbefore : total amount map = ∑ other ∈ keys, amountAt amount map other := total_eq_sum amount map (by grind)
  have hafter : total amount map' = ∑ other ∈ keys, amountAt amount map' other := total_eq_sum amount map' (by grind)
  have hrest : ∑ other ∈ keys.erase key, amountAt amount map' other = ∑ other ∈ keys.erase key, amountAt amount map other :=
    Finset.sum_congr rfl fun other hother => hothers other (Finset.ne_of_mem_erase hother)
  rw [hbefore, hafter, ← Finset.add_sum_erase keys _ hkey, ← Finset.add_sum_erase keys (amountAt amount map) hkey, hrest]
  abel

theorem filter_flatMap_key [DecidableEq α] {f : α → List β} {key : β → α} (hkey : ∀ a, ∀ b ∈ f a, key b = a)
    {items : List α} (hnodup : items.Nodup) (a : α) :
    (items.flatMap f).filter (fun b => key b = a) = if a ∈ items then f a else [] := by
  induction items with
  | nil => rfl
  | cons item items ih =>
    obtain ⟨hitem, hrest⟩ := List.nodup_cons.mp hnodup
    rw [List.flatMap_cons, List.filter_append, ih hrest]
    by_cases heq : item = a
    · subst heq
      have hself : (f item).filter (fun b => key b = item) = f item :=
        List.filter_eq_self.mpr fun b hb => by simp [hkey item b hb]
      rw [hself, if_neg hitem, if_pos List.mem_cons_self, List.append_nil]
    · have hnone : (f item).filter (fun b => key b = a) = [] :=
        List.filter_eq_nil_iff.mpr fun b hb => by simp [hkey item b hb, heq]
      have hne : a ≠ item := fun h => heq h.symm
      simp only [hnone, List.nil_append, List.mem_cons, hne, false_or]

end Starweaver.Library.KeyedSum
