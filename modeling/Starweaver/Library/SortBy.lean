import Mathlib.Data.List.Sort
import Mathlib.Order.Compare

namespace Starweaver.Library.SortBy

variable {α : Type}

def sortBy (cmp : α → α → Ordering) (xs : List α) : List α :=
  xs.insertionSort (fun a b => cmp a b ≠ .gt)

theorem mem_sortBy {cmp : α → α → Ordering} {xs : List α} {x : α} : x ∈ sortBy cmp xs ↔ x ∈ xs :=
  List.mem_insertionSort _

theorem sortBy_perm (cmp : α → α → Ordering) (xs : List α) : (sortBy cmp xs).Perm xs :=
  List.perm_insertionSort _ xs

theorem pairwise_sortBy {cmp : α → α → Ordering} [Std.TransCmp cmp] (xs : List α) :
    (sortBy cmp xs).Pairwise (fun a b => cmp a b ≠ .gt) := by
  have : Std.Total (fun a b => cmp a b ≠ .gt) := ⟨fun a b => by
    have hswap : cmp b a = (cmp a b).swap := Std.OrientedCmp.eq_swap
    cases h : cmp a b <;> simp [hswap, h]⟩
  have : IsTrans α (fun a b => cmp a b ≠ .gt) := ⟨fun a b c hab hbc => by
    simp only [ne_eq, ← Ordering.isLE_iff_ne_gt] at *
    exact Std.TransCmp.isLE_trans hab hbc⟩
  exact List.pairwise_insertionSort _ xs

/-- Elements that a list gains are put between those that it had. -/
theorem sublist_sortBy (cmp : α → α → Ordering) [Std.TransCmp cmp] {xs ys : List α} (h : xs.Sublist ys) :
    (sortBy cmp xs).Sublist (sortBy cmp ys) := by
  have : IsTrans α (fun a b => cmp a b ≠ .gt) := ⟨fun a b c hab hbc => by
    simp only [ne_eq, ← Ordering.isLE_iff_ne_gt] at *
    exact Std.TransCmp.isLE_trans hab hbc⟩
  induction h with
  | slnil => exact List.Sublist.refl _
  | cons y _ ih => exact ih.trans (List.sublist_orderedInsert y _)
  | cons_cons y _ ih => exact ih.orderedInsert_sublist y (pairwise_sortBy _)

/-- What compares strictly below an element of the sorted list stands before it. -/
theorem mem_before {cmp : α → α → Ordering} [Std.TransCmp cmp] {xs before after : List α} {x y : α}
    (h : sortBy cmp xs = before ++ x :: after) (hy : y ∈ xs) (hlt : cmp y x = .lt) : y ∈ before := by
  have hmem : y ∈ before ++ x :: after := h ▸ mem_sortBy.mpr hy
  have hsorted : (x :: after).Pairwise (fun a b => cmp a b ≠ .gt) :=
    (List.pairwise_append.mp (h ▸ pairwise_sortBy xs)).2.1
  rcases List.mem_append.mp hmem with hbefore | htail
  · exact hbefore
  · exfalso
    rcases List.mem_cons.mp htail with rfl | hafter
    · have heq : cmp y y = .eq := Std.ReflCmp.compare_self
      simp [hlt] at heq
    · apply List.rel_of_pairwise_cons hsorted hafter
      have hswap : cmp x y = (cmp y x).swap := Std.OrientedCmp.eq_swap
      rw [hswap, hlt]
      rfl

section Permuted

variable {cmp : α → α → Ordering} [Std.TransCmp cmp] {xs ys : List α}

/-- The first elements with a property in two sorted permutations of one list compare equal. -/
theorem sortBy_first_eq (p : α → Prop) {x y : α} {before after before' after' : List α} (hperm : xs.Perm ys)
    (hx : sortBy cmp xs = before ++ x :: after) (hbefore : ∀ z ∈ before, ¬ p z) (hpx : p x)
    (hy : sortBy cmp ys = before' ++ y :: after') (hbefore' : ∀ z ∈ before', ¬ p z) (hpy : p y) : cmp x y = .eq := by
  have hxs : x ∈ xs := (sortBy_perm cmp xs).subset (by simp [hx])
  have hys : y ∈ ys := (sortBy_perm cmp ys).subset (by simp [hy])
  cases hcmp : cmp x y with
  | lt => exact absurd hpx (hbefore' x (mem_before hy (hperm.subset hxs) hcmp))
  | eq => rfl
  | gt => exact absurd hpy (hbefore y (mem_before hx (hperm.symm.subset hys) (Std.OrientedCmp.gt_iff_lt.mp hcmp)))

theorem sortBy_unique_head {x : α} {xs' : List α} (hperm : xs.Perm ys) (hx : sortBy cmp xs = x :: xs')
    (hunique : ∀ z ∈ xs', cmp x z ≠ .eq) : ∃ ys', sortBy cmp ys = x :: ys' ∧ xs'.Perm ys' := by
  have hsorted : (x :: xs').Perm (sortBy cmp ys) :=
    hx ▸ (sortBy_perm cmp xs).trans (hperm.trans (sortBy_perm cmp ys).symm)
  cases hy : sortBy cmp ys with
  | nil =>
    rw [hy] at hsorted
    exact absurd hsorted.length_eq (by simp)
  | cons y ys' =>
    have heq : cmp x y = .eq :=
      sortBy_first_eq (fun _ => True) hperm (hx.trans (List.nil_append _).symm) (by simp) trivial
        (hy.trans (List.nil_append _).symm) (by simp) trivial
    rw [hy] at hsorted
    rcases List.mem_cons.mp (hsorted.symm.subset List.mem_cons_self) with rfl | hmem
    · exact ⟨ys', rfl, hsorted.cons_inv⟩
    · exact absurd heq (hunique y hmem)

end Permuted

end Starweaver.Library.SortBy
