import Mathlib.Data.List.Nodup
import Starweaver.Library.AssocMap

/-! An index from keys to lists of values. -/

namespace Starweaver.Library.ListIndex

open AssocMap

variable {κ ν : Type} [DecidableEq κ]

/-- The values of an index, one list after the other. -/
def listed (index : AList (fun _ : κ => List ν)) : List ν := index.entries.flatMap fun entry => entry.2

section Listed

variable {index : AList (fun _ : κ => List ν)} {key : κ} {values : List ν}

theorem mem_listed {value : ν} :
    value ∈ listed index ↔ ∃ key values, index.lookup key = some values ∧ value ∈ values := by
  rw [listed, List.mem_flatMap]
  constructor
  · rintro ⟨entry, hentry, hvalue⟩
    exact ⟨entry.1, entry.2, AList.mem_lookup_iff.mpr hentry, hvalue⟩
  · rintro ⟨key, values, hlookup, hvalue⟩
    exact ⟨⟨key, values⟩, AList.mem_lookup_iff.mp hlookup, hvalue⟩

theorem listed_perm (hlookup : index.lookup key = some values) :
    (listed index).Perm (values ++ listed (index.erase key)) :=
  (entries_perm hlookup).flatMap_right _

theorem listed_insert (index : AList (fun _ : κ => List ν)) (key : κ) (values : List ν) :
    listed (index.insert key values) = values ++ listed (index.erase key) := rfl

theorem listed_append (index : AList (fun _ : κ => List ν)) (key : κ) (value : ν) :
    (listed (index.insert key ((index.lookup key).getD [] ++ [value]))).Perm (value :: listed index) := by
  rw [listed_insert]
  cases hlookup : index.lookup key with
  | none =>
    have herase : index.erase key = index :=
      AList.ext (List.kerase_of_notMem_keys (AList.lookup_eq_none.mp hlookup))
    rw [herase, Option.getD_none, List.nil_append, List.singleton_append]
  | some values =>
    have hperm := (listed_perm hlookup).cons value
    rw [Option.getD_some]
    refine List.Perm.trans ?_ hperm.symm
    rw [List.append_assoc, List.singleton_append]
    exact List.perm_middle

omit [DecidableEq κ] in
theorem listed_filter (index : AList (fun _ : κ => List ν)) (p : ν → Bool) :
    listed (mapValues (fun values => values.filter p) index) = (listed index).filter p := by
  unfold listed mapValues
  rw [List.filter_flatMap, List.flatMap_map]

/-- Every value lies in the list of its key. -/
def Filed (keyOf : ν → κ) (index : AList (fun _ : κ => List ν)) : Prop :=
  ∀ key values, index.lookup key = some values → ∀ value ∈ values, keyOf value = key

variable {keyOf : ν → κ}

theorem Filed.empty : Filed keyOf (∅ : AList (fun _ : κ => List ν)) := by
  rintro key values ⟨⟩

theorem Filed.filter (h : Filed keyOf index) (p : ν → Bool) :
    Filed keyOf (mapValues (fun values => values.filter p) index) := by
  intro key values hlookup value hvalue
  rw [lookup_mapValues] at hlookup
  obtain ⟨old, hold, rfl⟩ := Option.map_eq_some_iff.mp hlookup
  exact h key old hold value (List.mem_of_mem_filter hvalue)

theorem Filed.insert (h : Filed keyOf index) (hvalues : ∀ value ∈ values, keyOf value = key) :
    Filed keyOf (index.insert key values) := by
  intro other found hlookup value hvalue
  rcases insert_some hlookup with ⟨rfl, rfl⟩ | ⟨-, hold⟩
  · exact hvalues value hvalue
  · exact h other found hold value hvalue

theorem Filed.append (h : Filed keyOf index) (value : ν) :
    Filed keyOf (index.insert (keyOf value) ((index.lookup (keyOf value)).getD [] ++ [value])) := by
  refine h.insert fun other hother => ?_
  rcases List.mem_append.mp hother with hold | hnew
  · cases hlookup : index.lookup (keyOf value) with
    | none =>
      rw [hlookup] at hold
      cases hold
    | some values =>
      rw [hlookup] at hold
      exact h _ values hlookup other hold
  · rw [List.mem_singleton.mp hnew]

end Listed

section Replaced

variable {ι : Type} [DecidableEq ι] {idOf : ν → ι} {values : List ν}

/-- In a list with one value for each id, changing the value of an id is dropping it and adding the changed one. -/
theorem replaceF_perm (hnodup : (values.map idOf).Nodup) {value changed : ν} (hvalue : value ∈ values)
    (update : ν → Option ν)
    (hupdate : ∀ other ∈ values, update other = if idOf other = idOf value then some changed else none) :
    (values.replaceF update).Perm (changed :: values.filter fun other => idOf other != idOf value) := by
  induction values with
  | nil => cases hvalue
  | cons head values ih =>
    obtain ⟨hhead, hrest⟩ := List.nodup_cons.mp hnodup
    have hupdateHead := hupdate head List.mem_cons_self
    by_cases heq : idOf head = idOf value
    · rw [if_pos heq] at hupdateHead
      have hothers : values.filter (fun other => idOf other != idOf value) = values := by
        refine List.filter_eq_self.mpr fun other hother => ?_
        rw [bne_iff_ne]
        intro hsame
        exact hhead (List.mem_map.mpr ⟨other, hother, hsame.trans heq.symm⟩)
      rw [List.replaceF_cons_of_some _ hupdateHead, List.filter_cons_of_neg (by simp [heq]), hothers]
    · rw [if_neg heq] at hupdateHead
      have hmem : value ∈ values := (List.mem_cons.mp hvalue).resolve_left fun hsame => heq (hsame ▸ rfl)
      rw [List.replaceF_cons_of_none _ hupdateHead, List.filter_cons_of_pos (by simp [heq])]
      have htail := ih hrest hmem fun other hother => hupdate other (List.mem_cons_of_mem _ hother)
      exact (htail.cons head).trans (List.Perm.swap _ _ _)

theorem listed_replaceF {index : AList (fun _ : κ => List ν)} {key : κ}
    (hnodup : ((listed index).map idOf).Nodup) (hlookup : index.lookup key = some values) {value changed : ν}
    (hvalue : value ∈ values) (update : ν → Option ν)
    (hupdate : ∀ other ∈ values, update other = if idOf other = idOf value then some changed else none) :
    (listed (index.insert key (values.replaceF update))).Perm
      (changed :: (listed index).filter fun other => idOf other != idOf value) := by
  have hperm := listed_perm hlookup
  have hsplit := (hperm.map idOf).nodup_iff.mp hnodup
  rw [List.map_append, List.nodup_append'] at hsplit
  obtain ⟨hvalues, -, hdisjoint⟩ := hsplit
  have hothers : (listed (index.erase key)).filter (fun other => idOf other != idOf value) =
      listed (index.erase key) := by
    refine List.filter_eq_self.mpr fun other hother => ?_
    rw [bne_iff_ne]
    intro hsame
    exact hdisjoint (List.mem_map_of_mem hvalue) (hsame ▸ List.mem_map_of_mem hother)
  have hfilter := hperm.filter fun other => idOf other != idOf value
  rw [List.filter_append, hothers] at hfilter
  rw [listed_insert]
  exact ((replaceF_perm hvalues hvalue update hupdate).append_right _).trans (hfilter.symm.cons changed)

end Replaced

end Starweaver.Library.ListIndex
