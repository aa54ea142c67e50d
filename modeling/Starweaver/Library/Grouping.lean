import Mathlib.Data.List.AList
import Starweaver.Library.KeyedSum

namespace Starweaver.Library.Grouping

open KeyedSum

variable {κ ι ρ M : Type} [DecidableEq κ] {keyOf : ι → Option κ} {start : ι → ρ} {add : ρ → ι → ρ}

/-- What the items of one group come to: the first of them opens it. -/
def gathered (start : ι → ρ) (add : ρ → ι → ρ) (items : List ι) : Option ρ :=
  items.foldl (fun value item => some (add (value.getD (start item)) item)) none

def groupItem (keyOf : ι → Option κ) (start : ι → ρ) (add : ρ → ι → ρ) (groups : AList (fun _ : κ => ρ)) (item : ι) :
    AList (fun _ : κ => ρ) :=
  match keyOf item with
  | none => groups
  | some key => groups.insert key (add ((groups.lookup key).getD (start item)) item)

/-- The items that have a key, gathered by it. -/
def group (keyOf : ι → Option κ) (start : ι → ρ) (add : ρ → ι → ρ) (items : List ι) : AList (fun _ : κ => ρ) :=
  items.foldl (groupItem keyOf start add) ∅

theorem gathered_append_singleton (items : List ι) (item : ι) :
    gathered start add (items ++ [item]) = some (add ((gathered start add items).getD (start item)) item) := by
  simp [gathered]

theorem gathered_cons (item : ι) (items : List ι) :
    gathered start add (item :: items) = some ((item :: items).foldl add (start item)) := by
  induction items using List.reverseRecOn with
  | nil => rfl
  | append_singleton items last ih =>
    rw [← List.cons_append, gathered_append_singleton, ih, List.foldl_append]
    rfl

theorem lookup_group (items : List ι) (key : κ) :
    (group keyOf start add items).lookup key = gathered start add (items.filter fun item => keyOf item = some key) := by
  induction items using List.reverseRecOn with
  | nil => rfl
  | append_singleton items item ih =>
    have hgroup : group keyOf start add (items ++ [item]) = groupItem keyOf start add (group keyOf start add items) item := by
      simp [group]
    rw [hgroup, List.filter_append]
    unfold groupItem
    cases hkey : keyOf item with
    | none => simp [hkey, ih]
    | some own =>
      by_cases heq : key = own
      · subst heq
        simp [hkey, ih, gathered_append_singleton]
      · have hne : own ≠ key := fun h => heq h.symm
        simp [hkey, ih, AList.lookup_insert_ne heq, hne]

theorem lookup_group_isSome (items : List ι) (key : κ) :
    ((group keyOf start add items).lookup key).isSome = true ↔ ∃ item ∈ items, keyOf item = some key := by
  rw [lookup_group]
  cases hfound : items.filter fun item => keyOf item = some key with
  | nil =>
    have hnone : ∀ item ∈ items, ¬ keyOf item = some key := by simpa [List.filter_eq_nil_iff] using hfound
    simp only [gathered, List.foldl_nil, Option.isSome_none, Bool.false_eq_true, false_iff, not_exists, not_and]
    exact hnone
  | cons item rest =>
    have hmem : item ∈ items.filter fun item => keyOf item = some key := by
      rw [hfound]
      exact List.mem_cons_self
    rw [gathered_cons, Option.isSome_some]
    simp only [true_iff]
    exact ⟨item, (List.mem_filter.mp hmem).1, by simpa using (List.mem_filter.mp hmem).2⟩

/-- Over the groups the items add up to what the items whose group is there do. -/
theorem sum_by_keyOf [AddCommMonoid M] (keyOf : ι → Option κ) (amount : ι → M) (items : List ι) (groups : AList (fun _ : κ => ρ)) :
    (groups.entries.map fun entry => ((items.filter fun item => keyOf item = some entry.1).map amount).sum).sum =
      ((items.filter fun item => (keyOf item).any fun key => (groups.lookup key).isSome).map amount).sum := by
  induction items with
  | nil => simp
  | cons item items ih =>
    have hsplit (entry : Sigma fun _ : κ => ρ) :
        (((item :: items).filter fun item => keyOf item = some entry.1).map amount).sum =
          (if keyOf item = some entry.1 then amount item else 0) +
            ((items.filter fun item => keyOf item = some entry.1).map amount).sum := by
      by_cases hkey : keyOf item = some entry.1
      · simp [hkey]
      · simp [hkey]
    simp only [hsplit, List.sum_map_add, ih]
    cases hown : keyOf item with
    | none => simp [hown]
    | some key =>
      have hsum := sum_at_key (fun _ : ρ => true) (amount item) key groups.nodupKeys
      simp only [true_and] at hsum
      simp only [Option.some.injEq, hsum]
      cases hfound : groups.lookup key with
      | none => simp [hown, hfound, show groups.entries.dlookup key = none from hfound]
      | some value => simp [hown, hfound, show groups.entries.dlookup key = some value from hfound]

end Starweaver.Library.Grouping
