import Starweaver.Library.AssocMap

namespace Starweaver.Library.Naming

open AssocMap

variable {κ ν μ : Type} [DecidableEq κ]

/-- No two live values of the map have one name. -/
def UniqueNames (live : ν → Bool) (name : ν → μ) (map : AList (fun _ : κ => ν)) : Prop :=
  ∀ key other value found, map.lookup key = some value → map.lookup other = some found → live value = true →
    live found = true → name value = name found → key = other

/-- The name has a live bearer other than the value under the key. -/
def NameTaken (live : ν → Bool) (name : ν → μ) (map : AList (fun _ : κ => ν)) (key : κ) (wanted : μ) : Prop :=
  ∃ other found, other ≠ key ∧ map.lookup other = some found ∧ live found = true ∧ name found = wanted

section Insert

variable {live : ν → Bool} {name : ν → μ} {map : AList (fun _ : κ => ν)} {key : κ} {value : ν}

theorem uniqueNames_empty : UniqueNames live name (∅ : AList (fun _ : κ => ν)) := by
  intro key other value found hvalue
  cases hvalue

theorem UniqueNames.insert_iff (h : UniqueNames live name map) :
    UniqueNames live name (map.insert key value) ↔ (live value = true → ¬ NameTaken live name map key (name value)) := by
  constructor
  · rintro hunique hlive ⟨other, found, hne, hfound, hlive', hname⟩
    have hother : (map.insert key value).lookup other = some found := by
      rw [AList.lookup_insert_ne hne]
      exact hfound
    exact hne (hunique other key found value hother (AList.lookup_insert map) hlive' hlive hname)
  · intro hfree first second left right hleft hright hleftLive hrightLive hname
    rcases insert_some hleft with ⟨rfl, rfl⟩ | ⟨hfirst, hold⟩ <;>
      rcases insert_some hright with ⟨rfl, rfl⟩ | ⟨hsecond, hold'⟩
    · rfl
    · exact (hfree hleftLive ⟨second, right, hsecond, hold', hrightLive, hname.symm⟩).elim
    · exact (hfree hrightLive ⟨first, left, hfirst, hold, hleftLive, hname⟩).elim
    · exact h first second left right hold hold' hleftLive hrightLive hname

/-- A live value keeps its name to itself. -/
theorem UniqueNames.not_taken (h : UniqueNames live name map) (hvalue : map.lookup key = some value)
    (hlive : live value = true) : ¬ NameTaken live name map key (name value) := by
  rintro ⟨other, found, hne, hfound, hlive', hname⟩
  exact hne (h other key found value hfound hvalue hlive' hlive hname)

theorem UniqueNames.insert_unused (h : UniqueNames live name map)
    (hunused : ∀ entry ∈ map.entries, live entry.2 = true → name entry.2 ≠ name value) :
    UniqueNames live name (map.insert key value) := by
  refine h.insert_iff.mpr fun _ => ?_
  rintro ⟨other, found, -, hfound, hlive, hname⟩
  exact hunused ⟨other, found⟩ (AList.mem_lookup_iff.mp hfound) hlive hname

theorem UniqueNames.pairwise (h : UniqueNames live name map) :
    (map.entries.filter fun entry => live entry.2).Pairwise fun left right => name left.2 ≠ name right.2 := by
  have hkeys : map.entries.Pairwise fun left right => left.1 ≠ right.1 := List.pairwise_map.mp map.nodupKeys
  refine List.Pairwise.imp_of_mem (fun {left right} hleft hright hne hname => hne ?_)
    (hkeys.sublist List.filter_sublist)
  obtain ⟨hleft, hleftLive⟩ := List.mem_filter.mp hleft
  obtain ⟨hright, hrightLive⟩ := List.mem_filter.mp hright
  exact h left.1 right.1 left.2 right.2 (AList.mem_lookup_iff.mpr hleft) (AList.mem_lookup_iff.mpr hright)
    hleftLive hrightLive hname

end Insert

/-- A name that the first map has, the second has too. -/
def NamesKept (name : ν → μ) (before after : AList (fun _ : κ => ν)) : Prop :=
  ∀ key value, before.lookup key = some value → ∃ other found, after.lookup other = some found ∧ name found = name value

section Kept

variable {name : ν → μ} {map : AList (fun _ : κ => ν)} {key : κ} {value : ν}

theorem NamesKept.refl (name : ν → μ) (map : AList (fun _ : κ => ν)) : NamesKept name map map :=
  fun key value hvalue => ⟨key, value, hvalue, rfl⟩

/-- An insert keeps each name and keeps it once exactly if the key holds the name of the value, or neither is there. -/
theorem UniqueNames.insert_kept_iff (h : UniqueNames (fun _ => true) name map) :
    UniqueNames (fun _ => true) name (map.insert key value) ∧ NamesKept name map (map.insert key value) ↔
      ∀ other found, map.lookup other = some found → (name found = name value ↔ other = key) := by
  rw [h.insert_iff]
  constructor
  · rintro ⟨hfree, hkept⟩ other found hfound
    constructor
    · intro hname
      by_contra hne
      exact hfree rfl ⟨other, found, hne, hfound, rfl, hname⟩
    · rintro rfl
      obtain ⟨holder, held, hheld, hname⟩ := hkept other found hfound
      rcases insert_some hheld with ⟨-, rfl⟩ | ⟨hne, hold⟩
      · exact hname.symm
      · exact absurd (h holder other held found hold hfound rfl rfl hname) hne
  · intro hsame
    constructor
    · rintro - ⟨other, found, hne, hfound, -, hname⟩
      exact hne ((hsame other found hfound).mp hname)
    · intro other found hfound
      by_cases heq : other = key
      · exact ⟨key, value, AList.lookup_insert map, ((hsame other found hfound).mpr heq).symm⟩
      · exact ⟨other, found, by rwa [AList.lookup_insert_ne heq], rfl⟩

theorem UniqueNames.mapValues {live : ν → Bool} (h : UniqueNames live name map) {update : ν → ν}
    (hname : ∀ value, name (update value) = name value) (hlive : ∀ value, live (update value) = live value) :
    UniqueNames live name (mapValues update map) := by
  intro key other value found hvalue hfound
  rw [lookup_mapValues] at hvalue hfound
  obtain ⟨old, hold, rfl⟩ := Option.map_eq_some_iff.mp hvalue
  obtain ⟨old', hold', rfl⟩ := Option.map_eq_some_iff.mp hfound
  rw [hname, hname, hlive, hlive]
  exact h key other old old' hold hold'

theorem namesKept_mapValues {update : ν → ν} (hname : ∀ value, name (update value) = name value) :
    NamesKept name map (mapValues update map) := by
  intro key value hvalue
  exact ⟨key, update value, by rw [lookup_mapValues, hvalue, Option.map_some], hname value⟩

end Kept

end Starweaver.Library.Naming
