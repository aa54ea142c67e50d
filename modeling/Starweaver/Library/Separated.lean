import Mathlib.Data.List.Basic

namespace Starweaver.Library.Separated

def joined (parts : List String) : String := "|".intercalate parts

def BarFree (text : String) : Prop := '|' ∉ text.toList

instance (text : String) : Decidable (BarFree text) := inferInstanceAs (Decidable (¬ _))

theorem append_cons_inj_left {α : Type} {bar : α} {xs xs' ys ys' : List α} (hx : bar ∉ xs) (hx' : bar ∉ xs')
    (h : xs ++ bar :: ys = xs' ++ bar :: ys') : xs = xs' ∧ ys = ys' := by
  induction xs generalizing xs' with
  | nil =>
    cases xs' with
    | nil => simpa using h
    | cons x xs' =>
      simp only [List.nil_append, List.cons_append, List.cons.injEq] at h
      exact absurd (List.mem_cons.mpr (.inl h.1)) hx'
  | cons x xs ih =>
    cases xs' with
    | nil =>
      simp only [List.nil_append, List.cons_append, List.cons.injEq] at h
      exact absurd (List.mem_cons.mpr (.inl h.1.symm)) hx
    | cons x' xs' =>
      simp only [List.cons_append, List.cons.injEq] at h
      obtain ⟨rfl, hrest⟩ := h
      obtain ⟨rfl, rfl⟩ := ih (fun hmem => hx (List.mem_cons_of_mem _ hmem))
        (fun hmem => hx' (List.mem_cons_of_mem _ hmem)) hrest
      exact ⟨rfl, rfl⟩

theorem append_cons_inj_right {α : Type} {bar : α} {xs xs' ys ys' : List α} (hy : bar ∉ ys) (hy' : bar ∉ ys')
    (h : xs ++ bar :: ys = xs' ++ bar :: ys') : xs = xs' ∧ ys = ys' := by
  have hreverse := congrArg List.reverse h
  simp only [List.reverse_append, List.reverse_cons, List.append_assoc, List.singleton_append] at hreverse
  obtain ⟨hys, hxs⟩ := append_cons_inj_left (by simpa using hy) (by simpa using hy') hreverse
  exact ⟨List.reverse_injective hxs, List.reverse_injective hys⟩

theorem bar_toList (left right : String) : (left ++ "|" ++ right).toList = left.toList ++ '|' :: right.toList := by
  simp

theorem bar_inj_left {left right left' right' : String} (hl : BarFree left) (hl' : BarFree left')
    (h : left ++ "|" ++ right = left' ++ "|" ++ right') : left = left' ∧ right = right' := by
  have hlist := congrArg String.toList h
  rw [bar_toList, bar_toList] at hlist
  obtain ⟨hleft, hright⟩ := append_cons_inj_left hl hl' hlist
  exact ⟨String.toList_inj.mp hleft, String.toList_inj.mp hright⟩

theorem bar_inj_right {left right left' right' : String} (hr : BarFree right) (hr' : BarFree right')
    (h : left ++ "|" ++ right = left' ++ "|" ++ right') : left = left' ∧ right = right' := by
  have hlist := congrArg String.toList h
  rw [bar_toList, bar_toList] at hlist
  obtain ⟨hleft, hright⟩ := append_cons_inj_right hr hr' hlist
  exact ⟨String.toList_inj.mp hleft, String.toList_inj.mp hright⟩

theorem joined_cons (part next : String) (parts : List String) :
    joined (part :: next :: parts) = part ++ "|" ++ joined (next :: parts) :=
  String.intercalate_cons_cons

/-- Two keys with bar-free parts are equal only if their parts are. -/
theorem joined_inj {parts parts' : List String} (hlength : parts.length = parts'.length)
    (hfree : ∀ part ∈ parts, BarFree part) (hfree' : ∀ part ∈ parts', BarFree part)
    (h : joined parts = joined parts') : parts = parts' := by
  induction parts generalizing parts' with
  | nil => exact (List.length_eq_zero_iff.mp hlength.symm).symm
  | cons part parts ih =>
    cases parts' with
    | nil => cases hlength
    | cons part' parts' =>
      cases parts with
      | nil =>
        cases parts' with
        | nil => simpa [joined] using h
        | cons next' parts' => cases hlength
      | cons next parts =>
        cases parts' with
        | nil => cases hlength
        | cons next' parts' =>
          rw [joined_cons, joined_cons] at h
          obtain ⟨rfl, hrest⟩ := bar_inj_left (hfree part (by simp)) (hfree' part' (by simp)) h
          rw [ih (by simpa using hlength) (fun p hp => hfree p (List.mem_cons_of_mem _ hp))
            (fun p hp => hfree' p (List.mem_cons_of_mem _ hp)) hrest]

/-- The first two parts of a key are read back from it, whatever follows them. -/
theorem joined_heads_inj {first first' second second' next next' : String} {parts parts' : List String}
    (hfirst : BarFree first) (hfirst' : BarFree first') (hsecond : BarFree second) (hsecond' : BarFree second')
    (h : joined (first :: second :: next :: parts) = joined (first' :: second' :: next' :: parts')) :
    first = first' ∧ second = second' := by
  simp only [joined_cons first, joined_cons first', joined_cons second, joined_cons second'] at h
  obtain ⟨hhead, hrest⟩ := bar_inj_left hfirst hfirst' h
  exact ⟨hhead, (bar_inj_left hsecond hsecond' hrest).1⟩

theorem joined_append_singleton {parts : List String} (hparts : parts ≠ []) (last : String) :
    joined (parts ++ [last]) = joined parts ++ "|" ++ last := by
  have h := String.intercalate_append_of_ne_nil (s := "|") (l := parts) (m := [last]) hparts (by simp)
  rwa [String.intercalate_singleton] at h

/-- The last two parts of a key are read back from it, whatever stands before them. -/
theorem joined_lasts_inj {parts parts' : List String} {first first' second second' : String} (hparts : parts ≠ [])
    (hparts' : parts' ≠ []) (hfirst : BarFree first) (hfirst' : BarFree first') (hsecond : BarFree second)
    (hsecond' : BarFree second') (h : joined (parts ++ [first] ++ [second]) = joined (parts' ++ [first'] ++ [second'])) :
    first = first' ∧ second = second' := by
  have hsplit {front : List String} (hfront : front ≠ []) (middle last : String) :
      joined (front ++ [middle] ++ [last]) = joined front ++ "|" ++ middle ++ "|" ++ last := by
    rw [joined_append_singleton (by simp), joined_append_singleton hfront]
  rw [hsplit hparts, hsplit hparts'] at h
  obtain ⟨hrest, hlast⟩ := bar_inj_right hsecond hsecond' h
  exact ⟨(bar_inj_right hfirst hfirst' hrest).2, hlast⟩

end Starweaver.Library.Separated
