import Mathlib.Data.List.AList

namespace Starweaver.Library.Checks

variable {ε α β : Type}

/-- Run a check on every element, in order, and stop at the first error. -/
def checkAll (check : α → Except ε Unit) : List α → Except ε Unit
  | [] => .ok ()
  | x :: xs => do
    check x
    checkAll check xs

theorem bind_ok {x : Except ε α} {f : α → Except ε β} {b : β} :
    (x >>= f) = .ok b ↔ ∃ a, x = .ok a ∧ f a = .ok b := by
  cases x <;> simp [bind, Except.bind]

theorem bind_unit_ok {x : Except ε Unit} {y : Except ε β} {b : β} :
    (x >>= fun _ => y) = .ok b ↔ x = .ok () ∧ y = .ok b := by
  cases x <;> simp [bind, Except.bind]

theorem refuses_ok {p : Prop} [Decidable p] {error : ε} {rest : Except ε Unit} :
    (if p then Except.error error else rest) = .ok () ↔ ¬ p ∧ rest = .ok () := by
  split <;> simp_all

theorem checkAll_ok {check : α → Except ε Unit} {xs : List α} :
    checkAll check xs = .ok () ↔ ∀ x ∈ xs, check x = .ok () := by
  induction xs with
  | nil => simp [checkAll]
  | cons x xs ih => simp only [checkAll, bind_unit_ok, ih, List.forall_mem_cons]

theorem checkAll_congr {check check' : α → Except ε Unit} {xs : List α} (h : ∀ x ∈ xs, check x = check' x) :
    checkAll check xs = checkAll check' xs := by
  induction xs with
  | nil => rfl
  | cons x xs ih =>
    obtain ⟨hx, hrest⟩ := List.forall_mem_cons.mp h
    rw [checkAll, checkAll, hx, ih hrest]

/-- Build a map from the keys of a list, refusing a key that is already there. -/
def indexInto (key : α → String) (duplicate : String → ε) :
    List α → AList (fun _ : String => α) → Except ε (AList (fun _ : String => α))
  | [], index => .ok index
  | x :: xs, index =>
    if (index.lookup (key x)).isSome then .error (duplicate (key x))
    else indexInto key duplicate xs (index.insert (key x) x)

def indexBy (key : α → String) (duplicate : String → ε) (xs : List α) : Except ε (AList (fun _ : String => α)) :=
  indexInto key duplicate xs ∅

theorem indexInto_lookup {key : α → String} {duplicate : String → ε} {xs : List α}
    {base index : AList (fun _ : String => α)} (h : indexInto key duplicate xs base = .ok index)
    (id : String) (x : α) :
    index.lookup id = some x ↔ (x ∈ xs ∧ key x = id) ∨ base.lookup id = some x := by
  induction xs generalizing base with
  | nil =>
    cases h
    simp
  | cons y ys ih =>
    simp only [indexInto] at h
    split at h
    · cases h
    · rename_i hfresh
      have hnone : base.lookup (key y) = none := by simpa using hfresh
      rw [ih h]
      by_cases hid : id = key y
      · subst hid
        simp only [AList.lookup_insert, Option.some.injEq, List.mem_cons, hnone, reduceCtorEq, or_false]
        constructor
        · rintro (⟨hx, hk⟩ | rfl)
          · exact ⟨.inr hx, hk⟩
          · exact ⟨.inl rfl, rfl⟩
        · rintro ⟨rfl | hx, hk⟩
          · exact .inr rfl
          · exact .inl ⟨hx, hk⟩
      · rw [AList.lookup_insert_ne hid]
        simp only [List.mem_cons]
        constructor
        · rintro (⟨hx, hk⟩ | hb)
          · exact .inl ⟨.inr hx, hk⟩
          · exact .inr hb
        · rintro (⟨rfl | hx, hk⟩ | hb)
          · exact absurd hk.symm hid
          · exact .inl ⟨hx, hk⟩
          · exact .inr hb

theorem indexBy_lookup {key : α → String} {duplicate : String → ε} {xs : List α}
    {index : AList (fun _ : String => α)} (h : indexBy key duplicate xs = .ok index) (id : String) (x : α) :
    index.lookup id = some x ↔ x ∈ xs ∧ key x = id := by
  rw [indexInto_lookup h, AList.lookup_empty]
  simp

theorem indexBy_unique {key : α → String} {duplicate : String → ε} {xs : List α}
    {index : AList (fun _ : String => α)} (h : indexBy key duplicate xs = .ok index) {x y : α}
    (hx : x ∈ xs) (hy : y ∈ xs) (hk : key x = key y) : x = y := by
  have hfx := (indexBy_lookup h (key x) x).mpr ⟨hx, rfl⟩
  have hfy := (indexBy_lookup h (key x) y).mpr ⟨hy, hk.symm⟩
  exact Option.some.inj (hfx.symm.trans hfy)

theorem indexBy_contains {key : α → String} {duplicate : String → ε} {xs : List α}
    {index : AList (fun _ : String => α)} (h : indexBy key duplicate xs = .ok index) (id : String) :
    (index.lookup id).isSome = true ↔ ∃ x ∈ xs, key x = id := by
  simp only [Option.isSome_iff_exists, indexBy_lookup h]

theorem indexInto_ok_iff {key : α → String} {duplicate : String → ε} {xs : List α}
    {base : AList (fun _ : String => α)} :
    (∃ index, indexInto key duplicate xs base = .ok index) ↔
      (xs.map key).Nodup ∧ ∀ x ∈ xs, base.lookup (key x) = none := by
  induction xs generalizing base with
  | nil => simp [indexInto]
  | cons x xs ih =>
    simp only [indexInto]
    by_cases hfresh : base.lookup (key x) = none
    · rw [if_neg (by simp [hfresh]), ih, List.map_cons, List.nodup_cons, List.forall_mem_cons]
      constructor
      · rintro ⟨hnodup, hbase⟩
        have hne : ∀ y ∈ xs, key y ≠ key x := by
          intro y hy heq
          have hnone := hbase y hy
          rw [heq, AList.lookup_insert] at hnone
          cases hnone
        refine ⟨⟨?_, hnodup⟩, hfresh, fun y hy => ?_⟩
        · intro hmem
          obtain ⟨y, hy, heq⟩ := List.mem_map.mp hmem
          exact hne y hy heq
        · have hnone := hbase y hy
          rwa [AList.lookup_insert_ne (hne y hy)] at hnone
      · rintro ⟨⟨hnotin, hnodup⟩, -, hbase⟩
        refine ⟨hnodup, fun y hy => ?_⟩
        have hne : key y ≠ key x := fun heq => hnotin (heq ▸ List.mem_map_of_mem hy)
        rw [AList.lookup_insert_ne hne]
        exact hbase y hy
    · rw [if_pos (by simpa [Option.isSome_iff_ne_none] using hfresh)]
      constructor
      · rintro ⟨index, herror⟩
        cases herror
      · rintro ⟨-, hbase⟩
        exact absurd (hbase x List.mem_cons_self) hfresh

theorem indexBy_ok_iff {key : α → String} {duplicate : String → ε} {xs : List α} :
    (∃ index, indexBy key duplicate xs = .ok index) ↔ (xs.map key).Nodup := by
  unfold indexBy
  rw [indexInto_ok_iff]
  simp

theorem indexBy_exists {key : α → String} {duplicate : String → ε} {xs : List α}
    {index : AList (fun _ : String => α)} (h : indexBy key duplicate xs = .ok index) (id : String) (p : α → Prop) :
    (∃ x ∈ xs, key x = id ∧ p x) ↔ ∃ x, index.lookup id = some x ∧ p x := by
  simp only [indexBy_lookup h, and_assoc]

section Permuted

variable {key : α → String} {xs ys : List α}

theorem find?_perm (hperm : xs.Perm ys) (hnodup : (xs.map key).Nodup) (id : String) :
    ys.find? (fun x => key x == id) = xs.find? fun x => key x == id := by
  cases hx : xs.find? fun x => key x == id with
  | none =>
    rw [List.find?_eq_none] at hx ⊢
    exact fun y hy => hx y (hperm.symm.subset hy)
  | some x =>
    have hxs := List.mem_of_find?_eq_some hx
    have hid : key x = id := by simpa using List.find?_some hx
    cases hy : ys.find? fun x => key x == id with
    | none => exact absurd (List.find?_eq_none.mp hy x (hperm.subset hxs)) (by simpa using hid)
    | some y =>
      have hys := hperm.symm.subset (List.mem_of_find?_eq_some hy)
      have hid' : key y = id := by simpa using List.find?_some hy
      rw [List.inj_on_of_nodup_map hnodup hys hxs (hid'.trans hid.symm)]

/-- Permuted lists have indexes with the same entries. -/
theorem indexBy_perm {duplicate : String → ε} {index : AList (fun _ : String => α)} (hperm : xs.Perm ys)
    (h : indexBy key duplicate xs = .ok index) :
    ∃ other, indexBy key duplicate ys = .ok other ∧ ∀ id, other.lookup id = index.lookup id := by
  have hnodup : (ys.map key).Nodup := (hperm.map key).nodup_iff.mp (indexBy_ok_iff.mp ⟨index, h⟩)
  obtain ⟨other, hother⟩ := indexBy_ok_iff.mpr hnodup
  refine ⟨other, hother, fun id => Option.ext fun x => ?_⟩
  rw [indexBy_lookup hother, indexBy_lookup h, hperm.mem_iff]

end Permuted

/-- The first element that fails a test, with the elements before it. -/
def firstFailing (ok : α → Bool) : List α → Option (List α × α)
  | [] => none
  | x :: xs => if ok x then (firstFailing ok xs).map fun found => (x :: found.1, found.2) else some ([], x)

theorem firstFailing_cons_ok {ok : α → Bool} {x : α} (hx : ok x = true) (xs : List α) :
    firstFailing ok (x :: xs) = (firstFailing ok xs).map fun found => (x :: found.1, found.2) := by
  simp [firstFailing, hx]

theorem firstFailing_cons_fails {ok : α → Bool} {x : α} (hx : ok x = false) (xs : List α) :
    firstFailing ok (x :: xs) = some ([], x) := by
  simp [firstFailing, hx]

theorem firstFailing_mem {ok : α → Bool} {xs before : List α} {x : α}
    (h : firstFailing ok xs = some (before, x)) : (∀ y ∈ before, y ∈ xs) ∧ x ∈ xs := by
  induction xs generalizing before with
  | nil => cases h
  | cons head xs ih =>
    unfold firstFailing at h
    split at h
    · obtain ⟨⟨before', x'⟩, hfound, hpair⟩ := Option.map_eq_some_iff.mp h
      cases hpair
      obtain ⟨hbefore, hx⟩ := ih hfound
      refine ⟨fun y hy => ?_, List.mem_cons_of_mem _ hx⟩
      rcases List.mem_cons.mp hy with rfl | hy
      · exact List.mem_cons_self
      · exact List.mem_cons_of_mem _ (hbefore y hy)
    · cases h
      exact ⟨by simp, List.mem_cons_self⟩

end Starweaver.Library.Checks
