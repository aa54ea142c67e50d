import Mathlib.Data.List.Infix

/-! Patterns in which one letter stands for any word, over any alphabet. -/

namespace Starweaver.Library

variable {α : Type} {star : α}

inductive GlobMatches (star : α) : List α → List α → Prop
  | nil : GlobMatches star [] []
  | star {pattern value : List α} (front : List α) (h : GlobMatches star pattern value) :
      GlobMatches star (star :: pattern) (front ++ value)
  | literal {c : α} {pattern value : List α} (hc : c ≠ star) (h : GlobMatches star pattern value) :
      GlobMatches star (c :: pattern) (c :: value)

theorem globMatches_star {pattern value : List α} :
    GlobMatches star (star :: pattern) value ↔ ∃ front back, value = front ++ back ∧ GlobMatches star pattern back := by
  constructor
  · intro h
    cases h with
    | star front h => exact ⟨front, _, rfl, h⟩
    | literal hc h => exact absurd rfl hc
  · rintro ⟨front, back, rfl, h⟩
    exact .star front h

theorem globMatches_literals {literals : List α} (hliterals : star ∉ literals) {pattern value : List α} :
    GlobMatches star (literals ++ pattern) value ↔ ∃ back, value = literals ++ back ∧ GlobMatches star pattern back := by
  induction literals generalizing value with
  | nil => simp
  | cons c literals ih =>
    obtain ⟨hc, hrest⟩ := not_or.mp (mt List.mem_cons.mpr hliterals)
    constructor
    · intro h
      cases h with
      | star front h => exact absurd rfl hc
      | literal hc h =>
        obtain ⟨back, rfl, hback⟩ := (ih hrest).mp h
        exact ⟨back, rfl, hback⟩
    · rintro ⟨back, rfl, hback⟩
      exact .literal (Ne.symm hc) ((ih hrest).mpr ⟨back, rfl, hback⟩)

/-- A pattern without the star is matched by itself only. -/
theorem globMatches_of_noStar {pattern : List α} (hpattern : star ∉ pattern) {value : List α} :
    GlobMatches star pattern value ↔ value = pattern := by
  have h : GlobMatches star (pattern ++ []) value ↔ ∃ back, value = pattern ++ back ∧ GlobMatches star [] back :=
    globMatches_literals hpattern
  rw [List.append_nil] at h
  rw [h]
  constructor
  · rintro ⟨back, rfl, hback⟩
    cases hback
    rw [List.append_nil]
  · rintro rfl
    exact ⟨[], (List.append_nil _).symm, .nil⟩

theorem globMatches_self (pattern : List α) : GlobMatches star pattern pattern := by
  induction pattern with
  | nil => exact .nil
  | cons c pattern ih =>
    rcases eq_or_ne c star with rfl | hc
    · exact .star [c] ih
    · exact .literal hc ih

section Literals

variable [DecidableEq α] (star) (pattern : List α)

/-- The letters of the pattern that stand for themselves. -/
def literalsOf : List α := pattern.filter (· ≠ star)

theorem star_notMem_literalsOf : star ∉ literalsOf star pattern := by simp [literalsOf]

theorem globMatches_literalsOf : GlobMatches star pattern (literalsOf star pattern) := by
  induction pattern with
  | nil => exact .nil
  | cons c pattern ih =>
    by_cases hc : c = star
    · subst hc
      rw [literalsOf, List.filter_cons_of_neg (by simp)]
      exact .star [] ih
    · rw [literalsOf, List.filter_cons_of_pos (by simp [hc])]
      exact .literal hc ih

end Literals

/-- A word that a pattern matches contains its literals in their order. -/
theorem GlobMatches.literals_sublist [DecidableEq α] {pattern value : List α} (h : GlobMatches star pattern value) :
    (literalsOf star pattern).Sublist value := by
  induction h with
  | nil => exact List.Sublist.refl _
  | star front h ih =>
    rw [literalsOf, List.filter_cons_of_neg (by simp)]
    exact ih.trans (List.sublist_append_right _ _)
  | literal hc h ih =>
    rw [literalsOf, List.filter_cons_of_pos (by simp [hc])]
    exact ih.cons_cons _

section FirstStar

variable {before after value : List α}

/-- Around the first star: the literals before it, any word, then what the rest of the pattern matches. -/
theorem globMatches_split (hbefore : star ∉ before) : GlobMatches star (before ++ star :: after) value ↔
    ∃ middle back, value = before ++ middle ++ back ∧ GlobMatches star after back := by
  rw [globMatches_literals hbefore]
  constructor
  · rintro ⟨rest, rfl, hrest⟩
    obtain ⟨middle, back, rfl, hback⟩ := globMatches_star.mp hrest
    exact ⟨middle, back, (List.append_assoc _ _ _).symm, hback⟩
  · rintro ⟨middle, back, rfl, hback⟩
    exact ⟨middle ++ back, List.append_assoc _ _ _, .star middle hback⟩

/-- A word that starts and ends as the pattern does, and is long enough for both ends, is matched. -/
theorem globMatches_of_ends (hbefore : star ∉ before) (hbegins : before <+: value) (hsuffix : after <:+ value)
    (hlength : before.length + after.length ≤ value.length) : GlobMatches star (before ++ star :: after) value := by
  obtain ⟨rest, rfl⟩ := hbegins
  have hrest : after <:+ rest := by
    refine List.suffix_of_suffix_length_le hsuffix (List.suffix_append _ _) ?_
    rw [List.length_append] at hlength
    omega
  obtain ⟨middle, rfl⟩ := hrest
  exact (globMatches_split hbefore).mpr ⟨middle, after, (List.append_assoc _ _ _).symm, globMatches_self after⟩

/-- In a word too short for both ends, the end of the first is the start of the second. -/
theorem overlap_of_short (hbegins : before <+: value) (hsuffix : after <:+ value)
    (hlength : value.length < before.length + after.length) :
    ∃ start shared back, shared ≠ [] ∧ before = start ++ shared ∧ value = start ++ after ∧
      value = start ++ shared ++ back ∧ after = shared ++ back := by
  obtain ⟨rest, hrest⟩ := hbegins
  obtain ⟨start, hstart⟩ := hsuffix
  have hshort : start.length < before.length := by
    have hvalue := congrArg List.length hstart
    rw [List.length_append] at hvalue
    omega
  rcases List.append_eq_append_iff.mp (hrest.trans hstart.symm) with ⟨extra, hextra, -⟩ | ⟨shared, hshared, hafter⟩
  · rw [hextra, List.length_append] at hshort
    omega
  · refine ⟨start, shared, rest, ?_, hshared, hstart.symm, ?_, hafter⟩
    · rintro rfl
      rw [hshared, List.append_nil] at hshort
      exact absurd hshort (lt_irrefl _)
    · rw [← hshared, hrest]

/-- Two ends that overlap leave too few letters for the literals of the pattern. -/
theorem not_globMatches_of_short [DecidableEq α] (hbefore : star ∉ before) (hbegins : before <+: value) (hsuffix : after <:+ value)
    (hlength : value.length < before.length + after.length) : ¬ GlobMatches star (before ++ star :: after) value := by
  intro h
  obtain ⟨start, shared, rest, hshared, rfl, -, hvalue, rfl⟩ := overlap_of_short hbegins hsuffix hlength
  obtain ⟨middle, back, hsplit, hback⟩ := (globMatches_split hbefore).mp h
  have hrest : rest = middle ++ back := by
    rw [hvalue, List.append_assoc (start ++ shared)] at hsplit
    exact List.append_cancel_left hsplit
  have hliterals : (literalsOf star (shared ++ rest)).Sublist (literalsOf star back) := by
    have hfiltered := hback.literals_sublist.filter (· ≠ star)
    simpa only [literalsOf, List.filter_filter, Bool.and_self] using hfiltered
  have hcount := hliterals.length_le
  rw [hrest] at hcount
  simp only [literalsOf, List.filter_append, List.length_append] at hcount
  have hnone : (shared.filter (· ≠ star)).length = 0 := by omega
  obtain ⟨c, hc⟩ := List.exists_mem_of_ne_nil shared hshared
  have hstar := List.filter_eq_nil_iff.mp (List.length_eq_zero_iff.mp hnone) c hc
  rw [decide_eq_true_eq, not_not] at hstar
  exact hbefore (hstar ▸ List.mem_append_right _ hc)

theorem prefix_of_globMatches (hbefore : star ∉ before) (h : GlobMatches star (before ++ star :: after) value) :
    before <+: value := by
  obtain ⟨middle, back, rfl, -⟩ := (globMatches_split hbefore).mp h
  exact ⟨middle ++ back, (List.append_assoc _ _ _).symm⟩

/-- What stands on the two sides of the only star are the ends of what the pattern matches. -/
theorem ends_of_globMatches (hbefore : star ∉ before) (hafter : star ∉ after)
    (h : GlobMatches star (before ++ star :: after) value) : before <+: value ∧ after <:+ value := by
  refine ⟨prefix_of_globMatches hbefore h, ?_⟩
  obtain ⟨middle, back, rfl, hback⟩ := (globMatches_split hbefore).mp h
  rw [(globMatches_of_noStar hafter).mp hback]
  exact List.suffix_append _ _

end FirstStar

end Starweaver.Library
