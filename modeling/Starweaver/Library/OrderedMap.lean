import Starweaver.Library.AssocMap
import Starweaver.Library.SortBy

namespace Starweaver.Library.OrderedMap

open AssocMap SortBy

variable {ν : Type}

/-- The values of a map in the order of their keys. -/
def orderedValues (map : AList (fun _ : String => ν)) : List ν :=
  (sortBy (fun left right => compare left.1 right.1) map.entries).map (·.2)

/-- The first entry in the order of the keys whose value passes the test. -/
def findOrdered (test : ν → Bool) (map : AList (fun _ : String => ν)) : Option (String × ν) :=
  ((sortBy (fun left right => compare left.1 right.1) map.entries).find? fun entry => test entry.2).map
    fun entry => (entry.1, entry.2)

section Lookup

variable {map : AList (fun _ : String => ν)} {test : ν → Bool} {key : String} {value : ν}

theorem mem_orderedValues : value ∈ orderedValues map ↔ ∃ key, map.lookup key = some value := by
  simp only [orderedValues, List.mem_map, mem_sortBy]
  constructor
  · rintro ⟨entry, hentry, rfl⟩
    exact ⟨entry.1, AList.mem_lookup_iff.mpr hentry⟩
  · rintro ⟨key, hlookup⟩
    exact ⟨⟨key, value⟩, AList.mem_lookup_iff.mp hlookup, rfl⟩

theorem findOrdered_some (h : findOrdered test map = some (key, value)) :
    map.lookup key = some value ∧ test value = true := by
  obtain ⟨entry, hentry, heq⟩ := Option.map_eq_some_iff.mp h
  simp only [Prod.mk.injEq] at heq
  obtain ⟨rfl, rfl⟩ := heq
  exact ⟨AList.mem_lookup_iff.mpr (mem_sortBy.mp (List.mem_of_find?_eq_some hentry)), by
    simpa using List.find?_some hentry⟩

theorem findOrdered_none (h : findOrdered test map = none) (hlookup : map.lookup key = some value) :
    test value = false := by
  have hmem : (⟨key, value⟩ : Sigma fun _ : String => ν) ∈
      sortBy (fun left right => compare left.1 right.1) map.entries := mem_sortBy.mpr (AList.mem_lookup_iff.mp hlookup)
  simpa using List.find?_eq_none.mp (Option.map_eq_none_iff.mp h) _ hmem

theorem findOrdered_eq_none : findOrdered test map = none ↔ ∀ key value, map.lookup key = some value → test value = false := by
  constructor
  · exact fun h key value hlookup => findOrdered_none h hlookup
  · intro hfails
    cases hfound : findOrdered test map with
    | none => rfl
    | some entry =>
      obtain ⟨hlookup, htest⟩ := findOrdered_some hfound
      rw [hfails entry.1 entry.2 hlookup] at htest
      cases htest

/-- A finer test finds the same entry when that entry passes it. -/
theorem findOrdered_of_finer {finer : ν → Bool} (hfiner : ∀ value, finer value = true → test value = true)
    (h : findOrdered test map = some (key, value)) (hvalue : finer value = true) :
    findOrdered finer map = some (key, value) := by
  obtain ⟨entry, hentry, heq⟩ := Option.map_eq_some_iff.mp h
  simp only [Prod.mk.injEq] at heq
  obtain ⟨rfl, rfl⟩ := heq
  obtain ⟨-, before, after, hentries, hbefore⟩ := List.find?_eq_some_iff_append.mp hentry
  refine Option.map_eq_some_iff.mpr ⟨entry, List.find?_eq_some_iff_append.mpr ⟨hvalue, before, after, hentries, ?_⟩, rfl⟩
  intro other hother
  have hfails := hbefore other hother
  rw [Bool.not_eq_true'] at hfails ⊢
  rw [Bool.eq_false_iff] at hfails ⊢
  exact fun hpasses => hfails (hfiner other.2 hpasses)

end Lookup

/-- Every value stands under its own key. -/
def Keyed (key : ν → String) (map : AList (fun _ : String => ν)) : Prop :=
  ∀ id value, map.lookup id = some value → key value = id

section Keyed

variable {key : ν → String} {map : AList (fun _ : String => ν)} {test : ν → Bool}

theorem Keyed.empty (key : ν → String) : Keyed key (∅ : AList (fun _ : String => ν)) := by
  rintro id value ⟨⟩

theorem Keyed.insert (h : Keyed key map) {id : String} {value : ν} (hid : key value = id) :
    Keyed key (map.insert id value) := by
  intro other found hfound
  rcases insert_some hfound with ⟨rfl, rfl⟩ | ⟨-, hold⟩
  · exact hid
  · exact h other found hold

theorem Keyed.mapValues (h : Keyed key map) {update : ν → ν} (hkey : ∀ value, key (update value) = key value) :
    Keyed key (mapValues update map) := by
  intro id value hvalue
  rw [lookup_mapValues] at hvalue
  obtain ⟨old, hold, rfl⟩ := Option.map_eq_some_iff.mp hvalue
  rw [hkey]
  exact h id old hold

/-- In a keyed map the found value stands where its key says. -/
theorem Keyed.findOrdered (h : Keyed key map) {id : String} {value : ν}
    (hfound : findOrdered test map = some (id, value)) : map.lookup (key value) = some value ∧ test value = true := by
  obtain ⟨hlookup, htest⟩ := findOrdered_some hfound
  rw [h id value hlookup]
  exact ⟨hlookup, htest⟩

end Keyed

/-- The values of a kind stay where they are. -/
def Keeps {κ : Type} [DecidableEq κ] (kind : ν → Prop) (before after : AList (fun _ : κ => ν)) : Prop :=
  ∀ key value, before.lookup key = some value → kind value → after.lookup key = some value

section Keeps

variable {κ : Type} [DecidableEq κ] {kind : ν → Prop} {map : AList (fun _ : κ => ν)}

theorem Keeps.refl (kind : ν → Prop) (map : AList (fun _ : κ => ν)) : Keeps kind map map :=
  fun _ _ hvalue _ => hvalue

theorem keeps_insert_iff {key : κ} {value : ν} :
    Keeps kind map (map.insert key value) ↔ ∀ old, map.lookup key = some old → kind old → value = old := by
  constructor
  · intro hkeeps old hold hkind
    have hafter := hkeeps key old hold hkind
    rwa [AList.lookup_insert, Option.some.injEq] at hafter
  · intro hsame other old hold hkind
    by_cases heq : other = key
    · subst heq
      rw [AList.lookup_insert, hsame old hold hkind]
    · rwa [AList.lookup_insert_ne heq]

/-- A value that is not of the kind is written over values that are not either. -/
theorem keeps_insert_iff_of_not {key : κ} {value : ν} (hvalue : ¬ kind value) :
    Keeps kind map (map.insert key value) ↔ ∀ old, map.lookup key = some old → ¬ kind old := by
  rw [keeps_insert_iff]
  constructor
  · intro hsame old hold hkind
    rw [hsame old hold hkind] at hvalue
    exact hvalue hkind
  · intro hnone old hold hkind
    exact (hnone old hold hkind).elim

end Keeps

/-- No value is lost, and each is as it was or has a greater version. -/
def Advances {κ : Type} [DecidableEq κ] (version : ν → Int) (before after : AList (fun _ : κ => ν)) : Prop :=
  ∀ key value, before.lookup key = some value →
    ∃ later, after.lookup key = some later ∧ (later = value ∨ version value < version later)

section Advances

variable {κ : Type} [DecidableEq κ] {version : ν → Int} {map before after : AList (fun _ : κ => ν)}

theorem Advances.refl (version : ν → Int) (map : AList (fun _ : κ => ν)) : Advances version map map :=
  fun _ value hvalue => ⟨value, hvalue, .inl rfl⟩

theorem Advances.trans (h : Advances version map before) (h' : Advances version before after) :
    Advances version map after := by
  intro key value hvalue
  obtain ⟨later, hlater, hversion⟩ := h key value hvalue
  obtain ⟨last, hlast, hversion'⟩ := h' key later hlater
  refine ⟨last, hlast, ?_⟩
  rcases hversion with rfl | hless
  · exact hversion'
  · rcases hversion' with rfl | hless'
    · exact .inr hless
    · exact .inr (hless.trans hless')

theorem advances_insert_iff {key : κ} {value : ν} :
    Advances version map (map.insert key value) ↔
      ∀ old, map.lookup key = some old → value = old ∨ version old < version value := by
  constructor
  · intro hadvances old hold
    obtain ⟨later, hlater, hversion⟩ := hadvances key old hold
    rw [AList.lookup_insert, Option.some.injEq] at hlater
    exact hlater ▸ hversion
  · intro hnext other old hold
    by_cases heq : other = key
    · subst heq
      exact ⟨value, AList.lookup_insert _, hnext old hold⟩
    · exact ⟨old, by rwa [AList.lookup_insert_ne heq], .inl rfl⟩

theorem advances_mapValues {update : ν → ν} (h : ∀ value, update value = value ∨ version value < version (update value)) :
    Advances version map (mapValues update map) := by
  intro key value hvalue
  exact ⟨update value, by rw [lookup_mapValues, hvalue, Option.map_some], h value⟩

/-- A value that is found again under its version was there all along. -/
theorem Advances.unchanged (h : Advances version map before) (h' : Advances version before after) {key : κ}
    {value later : ν} (hvalue : map.lookup key = some value) (hlater : after.lookup key = some later)
    (hversion : version later = version value) : before.lookup key = some value ∧ after.lookup key = some value := by
  obtain ⟨found, hfound, hfoundVersion⟩ := h key value hvalue
  obtain ⟨last, hlast, hlastVersion⟩ := h' key found hfound
  cases hlater.symm.trans hlast
  have hnoLess : ¬ version value < version found := by
    intro hless
    rcases hlastVersion with rfl | hless'
    · omega
    · omega
  have hsame : found = value := hfoundVersion.resolve_right hnoLess
  subst hsame
  rcases hlastVersion with rfl | hless
  · exact ⟨hfound, hlater⟩
  · omega

end Advances

end Starweaver.Library.OrderedMap
