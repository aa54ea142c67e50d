import Mathlib.Data.Int.Init
import Mathlib.Algebra.BigOperators.Group.List.Basic
import Mathlib.Algebra.Order.BigOperators.Group.List
import Mathlib.Algebra.Ring.Int.Defs

namespace Starweaver.Library.MachineInt

def i64Max : Int := 2 ^ 63 - 1

def i64Min : Int := -2 ^ 63

def saturatingAdd (a b : Int) : Int := max i64Min (min i64Max (a + b))

def saturatingSub (a b : Int) : Int := max i64Min (min i64Max (a - b))

def wrap (a : Int) : Int := a.bmod (2 ^ 64)

/-- The sum of an iterator of 64-bit integers. -/
def wrapSum (xs : List Int) : Int := xs.foldl (fun total x => wrap (total + x)) 0

theorem saturatingAdd_of_le {a b : Int} (hlow : i64Min ≤ a + b) (hhigh : a + b ≤ i64Max) :
    saturatingAdd a b = a + b := by
  unfold saturatingAdd
  omega

theorem wrap_of_bounds {a : Int} (hlow : i64Min ≤ a) (hhigh : a ≤ i64Max) : wrap a = a := by
  unfold wrap
  apply Int.bmod_eq_of_le <;> unfold i64Min i64Max at * <;> omega

theorem wrap_wrap_add (a b : Int) : wrap (wrap a + b) = wrap (a + b) := by
  simp only [wrap, Int.bmod_add_bmod]

theorem wrap_bounds (a : Int) : i64Min ≤ wrap a ∧ wrap a ≤ i64Max := by
  have hlow := Int.le_bmod (x := a) (m := 2 ^ 64) (by decide)
  have hhigh := Int.bmod_lt (x := a) (m := 2 ^ 64) (by decide)
  unfold wrap i64Min i64Max
  omega

theorem wrap_eq_self_iff (a : Int) : wrap a = a ↔ i64Min ≤ a ∧ a ≤ i64Max := by
  constructor
  · intro h
    have := wrap_bounds a
    rwa [h] at this
  · intro h
    exact wrap_of_bounds h.1 h.2

def InI64 (a : Int) : Prop := i64Min ≤ a ∧ a ≤ i64Max

theorem saturatingAdd_nonneg {a b : Int} (ha : 0 ≤ a) (hb : 0 ≤ b) : 0 ≤ saturatingAdd a b := by
  unfold saturatingAdd i64Max
  omega

theorem inI64_saturatingAdd (a b : Int) : InI64 (saturatingAdd a b) := by
  unfold InI64 saturatingAdd i64Min i64Max
  omega

theorem saturatingAdd_add {a b c : Int} (ha : 0 ≤ a) (hb : 0 ≤ b) (hc : 0 ≤ c) :
    saturatingAdd (saturatingAdd a b) c = saturatingAdd a (b + c) := by
  unfold saturatingAdd i64Min i64Max
  omega

theorem wrap_of_gt {a : Int} (hlow : i64Max < a) (hhigh : a ≤ i64Max + i64Max) : wrap a = a - 2 ^ 64 := by
  have hwrap : wrap a = wrap (a - 2 ^ 64) := (Int.sub_bmod_right a (2 ^ 64)).symm
  rw [hwrap, wrap_of_bounds]
  · unfold i64Min i64Max at *
    omega
  · unfold i64Max at *
    omega

/-- A sum of non-negative numbers that saturates agrees with one that wraps only while there is room. -/
theorem saturatingAdd_eq_wrap_iff {a b : Int} (ha : 0 ≤ a) (ha' : a ≤ i64Max) (hb : 0 ≤ b) (hb' : b ≤ i64Max) :
    saturatingAdd a b = wrap (a + b) ↔ a + b ≤ i64Max := by
  constructor
  · intro h
    by_contra hover
    -- the wrapped sum of two such numbers is negative
    rw [wrap_of_gt (by omega) (by omega)] at h
    unfold saturatingAdd i64Min i64Max at *
    omega
  · intro h
    rw [wrap_of_bounds (by unfold i64Min; omega) h, saturatingAdd_of_le (by unfold i64Min; omega) h]

/-- No partial sum of non-negative numbers overflows exactly when the whole sum does not. -/
theorem inI64_sums_iff {xs : List Int} (hxs : ∀ x ∈ xs, 0 ≤ x) :
    (∀ front, front <+: xs → InI64 front.sum) ↔ xs.sum ≤ i64Max := by
  constructor
  · intro hsums
    exact (hsums xs (List.prefix_refl xs)).2
  · rintro hsum front ⟨rest, rfl⟩
    have hfront := List.sum_nonneg fun x hx => hxs x (List.mem_append_left rest hx)
    have hrest := List.sum_nonneg fun x hx => hxs x (List.mem_append_right front hx)
    rw [List.sum_append] at hsum
    unfold InI64 i64Min
    omega

/-- Adding to non-negative counters neither overflows nor lowers one exactly when nothing negative is added and
there is room for the results. -/
theorem inI64_zipAdd_iff {xs es : List Int} (hlength : xs.length = es.length) (hxs : ∀ x ∈ xs, 0 ≤ x) :
    ((∀ n ∈ xs.zipWith (· + ·) es, InI64 n) ∧ List.Forall₂ (· ≤ ·) xs (xs.zipWith (· + ·) es)) ↔
      (∀ e ∈ es, 0 ≤ e) ∧ ∀ n ∈ xs.zipWith (· + ·) es, n ≤ i64Max := by
  induction xs generalizing es with
  | nil =>
    cases es with
    | nil => simp
    | cons e es => cases hlength
  | cons x xs ih =>
    cases es with
    | nil => cases hlength
    | cons e es =>
      obtain ⟨hx, hrest⟩ := List.forall_mem_cons.mp hxs
      have hhead : (InI64 (x + e) ∧ x ≤ x + e) ↔ (0 ≤ e ∧ x + e ≤ i64Max) := by
        unfold InI64 i64Min
        omega
      have htail := ih (Nat.succ.inj hlength) hrest
      simp only [List.zipWith_cons_cons, List.forall_mem_cons, List.forall₂_cons]
      tauto

theorem nonneg_of_forall₂ {xs ys : List Int} (hle : List.Forall₂ (· ≤ ·) xs ys) (hxs : ∀ x ∈ xs, 0 ≤ x) :
    ∀ y ∈ ys, 0 ≤ y := by
  induction hle with
  | nil => exact hxs
  | cons hhead _ ih =>
    obtain ⟨hx, hrest⟩ := List.forall_mem_cons.mp hxs
    exact List.forall_mem_cons.mpr ⟨le_trans hx hhead, ih hrest⟩

theorem foldl_wrap (xs : List Int) (start : Int) :
    xs.foldl (fun total x => wrap (total + x)) (wrap start) = wrap (start + xs.sum) := by
  induction xs generalizing start with
  | nil => simp
  | cons x xs ih =>
    rw [List.foldl_cons, wrap_wrap_add, ih, List.sum_cons, add_assoc]

theorem wrapSum_eq (xs : List Int) : wrapSum xs = wrap xs.sum := by
  have h := foldl_wrap xs 0
  rwa [zero_add] at h

end Starweaver.Library.MachineInt
