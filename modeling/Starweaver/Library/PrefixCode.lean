import Mathlib.Data.List.Infix

namespace Starweaver.Library.PrefixCode

variable {α β : Type} {code : α → List β}

/-- No code word is empty, and none begins another. -/
structure PrefixFree (code : α → List β) : Prop where
  nonempty : ∀ a, code a ≠ []
  begins : ∀ {a b}, code a <+: code b → a = b

theorem prefixFree_of_length {n : ℕ} (hn : 0 < n) (hlength : ∀ a, (code a).length = n)
    (hinjective : Function.Injective code) : PrefixFree code where
  nonempty a := List.ne_nil_of_length_pos (by rw [hlength]; exact hn)
  begins {a b} h := hinjective (h.eq_of_length (by rw [hlength, hlength]))

/-- The first code word can be read off a coded text. -/
theorem PrefixFree.head_eq (h : PrefixFree code) {a b : α} {left right : List β}
    (heq : code a ++ left = code b ++ right) : a = b := by
  have hleft : code a <+: code b ++ right := heq ▸ List.prefix_append _ _
  rcases List.prefix_or_prefix_of_prefix hleft (List.prefix_append (code b) right) with hbegins | hbegins
  · exact h.begins hbegins
  · exact (h.begins hbegins).symm

theorem PrefixFree.flatMap_injective (h : PrefixFree code) : Function.Injective fun text : List α => text.flatMap code := by
  intro left right heq
  dsimp only at heq
  induction left generalizing right with
  | nil =>
    cases right with
    | nil => rfl
    | cons b right =>
      rw [List.flatMap_nil, List.flatMap_cons] at heq
      exact absurd (List.append_eq_nil_iff.mp heq.symm).1 (h.nonempty b)
  | cons a left ih =>
    cases right with
    | nil =>
      rw [List.flatMap_nil, List.flatMap_cons] at heq
      exact absurd (List.append_eq_nil_iff.mp heq).1 (h.nonempty a)
    | cons b right =>
      rw [List.flatMap_cons, List.flatMap_cons] at heq
      obtain rfl := h.head_eq heq
      rw [ih (List.append_cancel_left heq)]

end Starweaver.Library.PrefixCode
