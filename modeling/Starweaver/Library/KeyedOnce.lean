import Starweaver.Library.AssocMap

namespace Starweaver.Library.KeyedOnce

open AssocMap

variable {κ ν δ : Type} [DecidableEq κ] [DecidableEq δ] {mark : ν → δ}

/-- Put a value under a new key, unless a value with its mark is there. -/
def putOnce (mark : ν → δ) (key : κ) (value : ν) (map : AList (fun _ : κ => ν)) : AList (fun _ : κ => ν) :=
  if map.entries.any fun entry => decide (mark entry.2 = mark value) then map else map.insert key value

/-- No two keys hold values with the same mark. -/
def Once (mark : ν → δ) (map : AList (fun _ : κ => ν)) : Prop :=
  ∀ {key other : κ} {value found : ν}, map.lookup key = some value → map.lookup other = some found →
    mark value = mark found → key = other

section Put

variable {map : AList (fun _ : κ => ν)} {key other : κ} {value found : ν}

omit [DecidableEq δ] in
theorem once_empty : Once mark (∅ : AList (fun _ : κ => ν)) := by
  intro key other value found h
  cases h

theorem putOnce_cases (mark : ν → δ) (key : κ) (value : ν) (map : AList (fun _ : κ => ν)) :
    (putOnce mark key value map = map ∧ ∃ other found, map.lookup other = some found ∧ mark found = mark value) ∨
      (putOnce mark key value map = map.insert key value ∧
        ∀ other found, map.lookup other = some found → mark found ≠ mark value) := by
  unfold putOnce
  split
  · rename_i hany
    obtain ⟨entry, hentry, hmark⟩ := List.any_eq_true.mp hany
    exact .inl ⟨rfl, entry.1, entry.2, AList.mem_lookup_iff.mpr hentry, by simpa using hmark⟩
  · rename_i hnone
    refine .inr ⟨rfl, fun other found hfound hmark => hnone ?_⟩
    apply List.any_eq_true.mpr
    exact ⟨⟨other, found⟩, AList.mem_lookup_iff.mp hfound, by simpa using hmark⟩

theorem Once.putOnce (h : Once mark map) : Once mark (KeyedOnce.putOnce mark key value map) := by
  rcases putOnce_cases mark key value map with ⟨hput, -⟩ | ⟨hput, hnew⟩
  · rwa [hput]
  · rw [hput]
    intro first second a b ha hb hmark
    rcases insert_some ha with ⟨rfl, rfl⟩ | ⟨-, hfirst⟩
    · rcases insert_some hb with ⟨rfl, -⟩ | ⟨-, hsecond⟩
      · rfl
      · exact absurd hmark.symm (hnew _ _ hsecond)
    · rcases insert_some hb with ⟨-, rfl⟩ | ⟨-, hsecond⟩
      · exact absurd hmark (hnew _ _ hfirst)
      · exact h hfirst hsecond hmark

omit [DecidableEq δ] in
/-- A write that keeps the mark of the value it replaces. -/
theorem Once.insert (h : Once mark map) (hold : map.lookup key = some found) (hmark : mark value = mark found) :
    Once mark (map.insert key value) := by
  intro first second a b ha hb hsame
  rcases insert_some ha with ⟨rfl, rfl⟩ | ⟨-, hfirst⟩
  · rcases insert_some hb with ⟨rfl, -⟩ | ⟨-, hsecond⟩
    · rfl
    · exact h hold hsecond (hmark.symm.trans hsame)
  · rcases insert_some hb with ⟨rfl, rfl⟩ | ⟨-, hsecond⟩
    · exact h hfirst hold (hsame.trans hmark)
    · exact h hfirst hsecond hsame

theorem exists_putOnce (mark : ν → δ) (key : κ) (value : ν) (map : AList (fun _ : κ => ν)) :
    ∃ other found, (putOnce mark key value map).lookup other = some found ∧ mark found = mark value := by
  rcases putOnce_cases mark key value map with ⟨hput, other, found, hfound, hmark⟩ | ⟨hput, -⟩
  · rw [hput]
    exact ⟨other, found, hfound, hmark⟩
  · rw [hput]
    exact ⟨key, value, AList.lookup_insert _, rfl⟩

theorem lookup_putOnce_of_some (hfresh : map.lookup key = none) (hold : map.lookup other = some found) :
    (putOnce mark key value map).lookup other = some found := by
  rcases putOnce_cases mark key value map with ⟨hput, -⟩ | ⟨hput, -⟩
  · rwa [hput]
  · rw [hput, AList.lookup_insert_ne, hold]
    rintro rfl
    rw [hold] at hfresh
    cases hfresh

theorem putOnce_some (h : (putOnce mark key value map).lookup other = some found) :
    map.lookup other = some found ∨ other = key ∧ found = value := by
  rcases putOnce_cases mark key value map with ⟨hput, -⟩ | ⟨hput, -⟩
  · exact .inl (hput ▸ h)
  · rw [hput] at h
    rcases insert_some h with ⟨rfl, rfl⟩ | ⟨-, hold⟩
    · exact .inr ⟨rfl, rfl⟩
    · exact .inl hold

end Put

end Starweaver.Library.KeyedOnce
