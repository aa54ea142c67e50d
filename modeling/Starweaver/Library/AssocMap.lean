import Mathlib.Data.List.AList

namespace Starweaver.Library.AssocMap

variable {κ ν : Type} [DecidableEq κ]

/-- Put the value under the key unless the key already has one. -/
def orInsert (key : κ) (value : ν) (map : AList (fun _ : κ => ν)) : AList (fun _ : κ => ν) :=
  if (map.lookup key).isSome then map else map.insert key value

omit [DecidableEq κ] in
theorem keys_map (update : ν → ν) (entries : List (Sigma fun _ : κ => ν)) :
    (entries.map fun entry => (⟨entry.1, update entry.2⟩ : Sigma fun _ : κ => ν)).keys = entries.keys := by
  simp [List.keys]

def mapValues (update : ν → ν) (map : AList (fun _ : κ => ν)) : AList (fun _ : κ => ν) where
  entries := map.entries.map fun entry => ⟨entry.1, update entry.2⟩
  nodupKeys := by
    unfold List.NodupKeys
    rw [keys_map]
    exact map.nodupKeys

/-- The first value that passes the test, with its key. -/
def findValue (test : ν → Bool) (map : AList (fun _ : κ => ν)) : Option (κ × ν) :=
  (map.entries.find? fun entry => test entry.2).map fun entry => (entry.1, entry.2)

section Lookup

variable {map : AList (fun _ : κ => ν)} {key other : κ} {value : ν}

theorem lookup_orInsert_self (map : AList (fun _ : κ => ν)) (key : κ) (value : ν) :
    (orInsert key value map).lookup key = some ((map.lookup key).getD value) := by
  unfold orInsert
  cases hlookup : map.lookup key with
  | none => simp
  | some found => simp [hlookup]

theorem lookup_orInsert_ne (map : AList (fun _ : κ => ν)) (value : ν) (h : other ≠ key) :
    (orInsert key value map).lookup other = map.lookup other := by
  unfold orInsert
  split
  · rfl
  · exact AList.lookup_insert_ne h

theorem orInsert_some {found : ν} (h : (orInsert key value map).lookup other = some found) :
    map.lookup other = some found ∨ other = key ∧ found = value ∧ map.lookup key = none := by
  by_cases heq : other = key
  · subst heq
    rw [lookup_orInsert_self, Option.some.injEq] at h
    cases hlookup : map.lookup other with
    | none =>
      rw [hlookup] at h
      exact .inr ⟨rfl, h.symm, rfl⟩
    | some old =>
      rw [hlookup] at h
      exact .inl (congrArg some h)
  · rw [lookup_orInsert_ne map value heq] at h
    exact .inl h

theorem lookup_orInsert_of_none (value : ν) (h : map.lookup key = none) :
    (orInsert key value map).lookup key = some value := by
  rw [lookup_orInsert_self, h, Option.getD_none]

theorem lookup_orInsert_of_some {found : ν} (h : map.lookup other = some found) :
    (orInsert key value map).lookup other = some found := by
  by_cases heq : other = key
  · subst heq
    rw [lookup_orInsert_self, h, Option.getD_some]
  · rw [lookup_orInsert_ne map value heq, h]

theorem insert_some {found : ν} (h : (map.insert key value).lookup other = some found) :
    other = key ∧ found = value ∨ other ≠ key ∧ map.lookup other = some found := by
  by_cases heq : other = key
  · subst heq
    rw [AList.lookup_insert, Option.some.injEq] at h
    exact .inl ⟨rfl, h.symm⟩
  · rw [AList.lookup_insert_ne heq] at h
    exact .inr ⟨heq, h⟩

/-- A write over a value that is there adds no key. -/
theorem isSome_insert_of_some {found : ν} (h : map.lookup key = some found) (value : ν) (other : κ) :
    ((map.insert key value).lookup other).isSome = (map.lookup other).isSome := by
  by_cases heq : other = key
  · subst heq
    rw [AList.lookup_insert, h, Option.isSome_some, Option.isSome_some]
  · rw [AList.lookup_insert_ne heq]

theorem erase_some {found : ν} (h : (map.erase key).lookup other = some found) : map.lookup other = some found := by
  by_cases heq : other = key
  · subst heq
    rw [AList.lookup_erase] at h
    cases h
  · rwa [AList.lookup_erase_ne heq] at h

theorem dlookup_map (update : ν → ν) (entries : List (Sigma fun _ : κ => ν)) (key : κ) :
    (entries.map fun entry => (⟨entry.1, update entry.2⟩ : Sigma fun _ : κ => ν)).dlookup key =
      (entries.dlookup key).map update := by
  induction entries with
  | nil => rfl
  | cons entry entries ih =>
    by_cases heq : entry.1 = key
    · obtain ⟨k, v⟩ := entry
      subst heq
      simp
    · rw [List.dlookup_cons_ne _ _ (Ne.symm heq), ← ih, List.map_cons]
      exact List.dlookup_cons_ne _ _ (Ne.symm heq)

@[simp] theorem lookup_mapValues (update : ν → ν) (map : AList (fun _ : κ => ν)) (key : κ) :
    (mapValues update map).lookup key = (map.lookup key).map update :=
  dlookup_map update map.entries key

theorem mapValues_congr {update update' : ν → ν}
    (h : ∀ key value, map.lookup key = some value → update value = update' value) :
    mapValues update map = mapValues update' map := by
  apply AList.ext
  refine List.map_congr_left fun entry hentry => ?_
  rw [h entry.1 entry.2 (AList.mem_lookup_iff.mpr hentry)]

theorem mapValues_eq_self {update : ν → ν} (h : ∀ key value, map.lookup key = some value → update value = value) :
    mapValues update map = map := by
  rw [mapValues_congr h]
  exact AList.ext (List.map_id map.entries)

theorem entries_perm (h : map.lookup key = some value) :
    map.entries.Perm (⟨key, value⟩ :: (map.erase key).entries) := by
  have hkeys : key ∈ map.entries.keys := AList.mem_keys.mp (AList.lookup_isSome.mp (by rw [h]; rfl))
  obtain ⟨found, before, after, hbefore, hentries, herase⟩ := List.exists_of_kerase hkeys
  have hfound : found = value := by
    have hlookup : map.entries.dlookup key = some value := h
    rw [hentries, List.dlookup_append, List.dlookup_eq_none.mpr hbefore, List.dlookup_cons_eq] at hlookup
    simpa using hlookup
  have herased : (map.erase key).entries = before ++ after := herase
  rw [herased, hentries, hfound]
  exact List.perm_middle

theorem findValue_some {test : ν → Bool} (h : findValue test map = some (key, value)) :
    map.lookup key = some value ∧ test value = true := by
  obtain ⟨entry, hentry, heq⟩ := Option.map_eq_some_iff.mp h
  simp only [Prod.mk.injEq] at heq
  obtain ⟨rfl, rfl⟩ := heq
  exact ⟨AList.mem_lookup_iff.mpr (List.mem_of_find?_eq_some hentry), by simpa using List.find?_some hentry⟩

theorem findValue_none {test : ν → Bool} (h : findValue test map = none) (hlookup : map.lookup key = some value) :
    test value = false := by
  have hnone := List.find?_eq_none.mp (Option.map_eq_none_iff.mp h) ⟨key, value⟩ (AList.mem_lookup_iff.mp hlookup)
  simpa using hnone

end Lookup

end Starweaver.Library.AssocMap
