import Mathlib.Data.List.Chain
import Mathlib.Data.List.Sublists

namespace Starweaver.Library.Paging

variable {α : Type}

/-- One page of a list: its elements from the offset on, and the offset of the next page when there are more. -/
def page (limit offset : Nat) (xs : List α) : List α × Option Nat :=
  let rows := (xs.drop offset).take limit
  let following := offset + rows.length
  (rows, if following < xs.length then some following else none)

/-- The rows of the pages from the offset to the last one, each page of the list as it then is. -/
inductive PagesThrough (limit : Nat) : Nat → List (List α) → List α → Prop
  | last {offset : Nat} {xs rows : List α} (h : page limit offset xs = (rows, none)) :
      PagesThrough limit offset [xs] rows
  | next {offset following : Nat} {xs rows later : List α} {rest : List (List α)}
      (h : page limit offset xs = (rows, some following)) (hrest : PagesThrough limit following rest later) :
      PagesThrough limit offset (xs :: rest) (rows ++ later)

section Page

variable {limit offset following : Nat} {xs rows : List α}

theorem page_last (h : page limit offset xs = (rows, none)) : rows = xs.drop offset := by
  simp only [page, Prod.mk.injEq, ite_eq_right_iff, reduceCtorEq, imp_false, not_lt] at h
  obtain ⟨rfl, hlength⟩ := h
  rw [List.length_take, List.length_drop] at hlength
  apply List.take_of_length_le
  rw [List.length_drop]
  omega

theorem page_next (h : page limit offset xs = (rows, some following)) :
    xs.drop offset = rows ++ xs.drop following ∧ (0 < limit → offset < following) ∧ following < xs.length := by
  simp only [page, Prod.mk.injEq, Option.ite_none_right_eq_some, Option.some.injEq] at h
  obtain ⟨rfl, hlength, rfl⟩ := h
  rw [List.length_take, List.length_drop] at hlength ⊢
  have hmin : min limit (xs.length - offset) = limit := by omega
  refine ⟨?_, fun hlimit => by omega, hlength⟩
  rw [hmin, ← List.drop_drop, List.take_append_drop]

end Page

section Runs

variable {limit offset : Nat} {rows : List α}

/-- Over lists that only gain elements, no element from the offset on is missed. -/
theorem PagesThrough.covers {snapshots : List (List α)} (h : PagesThrough limit offset snapshots rows)
    (hgrow : snapshots.IsChain List.Sublist) : ∀ xs ∈ snapshots.head?, (xs.drop offset).Sublist rows := by
  induction h with
  | last hpage =>
    rintro xs ⟨⟩
    rw [page_last hpage]
  | next hpage hrest ih =>
    rintro xs ⟨⟩
    obtain ⟨hdrop, -, -⟩ := page_next hpage
    rw [hdrop]
    refine List.Sublist.append_left ?_ _
    cases hrest with
    | last hlast => exact ((List.isChain_cons_cons.mp hgrow).1.drop _).trans (ih hgrow.tail _ rfl)
    | next hnext hlater => exact ((List.isChain_cons_cons.mp hgrow).1.drop _).trans (ih hgrow.tail _ rfl)

/-- Over one list the pages are the list from the offset on. -/
theorem PagesThrough.exact {snapshots : List (List α)} {xs : List α} (h : PagesThrough limit offset snapshots rows)
    (hsame : ∀ snapshot ∈ snapshots, snapshot = xs) : rows = xs.drop offset := by
  induction h with
  | last hpage =>
    cases hsame _ List.mem_cons_self
    exact page_last hpage
  | next hpage hrest ih =>
    obtain ⟨rfl, hlater⟩ := List.forall_mem_cons.mp hsame
    rw [(page_next hpage).1, ih hlater]

/-- Over one list the pages come to an end. -/
theorem exists_pagesThrough (hlimit : 0 < limit) (offset : Nat) (xs : List α) :
    ∃ n rows, PagesThrough limit offset (List.replicate (n + 1) xs) rows := by
  generalize hleft : xs.length - offset = left
  induction left using Nat.strong_induction_on generalizing offset with
  | _ left ih =>
    cases hpage : page limit offset xs with
    | mk rows following =>
      cases following with
      | none => exact ⟨0, rows, .last hpage⟩
      | some following =>
        obtain ⟨-, hmoves, hbelow⟩ := page_next hpage
        have hmoves := hmoves hlimit
        obtain ⟨n, later, hlater⟩ := ih (xs.length - following) (by omega) following rfl
        exact ⟨n + 1, rows ++ later, .next hpage hlater⟩

end Runs

end Starweaver.Library.Paging
