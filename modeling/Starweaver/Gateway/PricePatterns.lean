import Starweaver.Library.Glob
import Starweaver.Gateway.Pricing

namespace Starweaver.Gateway

open Library

/-- The words that a price pattern stands for, where each star stands for any word. -/
def InPatternLanguage (pattern value : String) : Prop := GlobMatches '*' pattern.toList value.toList

section Split

variable {pattern value : String} {before after : List Char}

theorem takeWhile_firstStar (hpattern : pattern.toList = before ++ '*' :: after) (hbefore : '*' ∉ before) :
    pattern.toList.takeWhile (· != '*') = before := by
  have hliterals : ∀ c ∈ before, (c != '*') = true := fun c hc => bne_iff_ne.mpr fun heq => hbefore (heq ▸ hc)
  rw [hpattern, List.takeWhile_append_of_pos hliterals, List.takeWhile_cons_of_neg (by decide), List.append_nil]

theorem exists_firstStar (hpattern : '*' ∈ pattern.toList) :
    ∃ before after, pattern.toList = before ++ '*' :: after ∧ '*' ∉ before := by
  obtain ⟨before, after, heq, hbefore⟩ := List.eq_append_cons_of_mem hpattern
  exact ⟨before, after, heq, hbefore⟩

/-- The code compares what stands before the first star with the start of the value, and all of the rest with its end. -/
theorem pricingPatternMatches_ends (hpattern : pattern.toList = before ++ '*' :: after) (hbefore : '*' ∉ before) :
    pricingPatternMatches pattern value = true ↔ before <+: value.toList ∧ after <:+ value.toList := by
  have hstar : pattern.toList.contains '*' = true := by
    rw [List.contains_iff_mem, hpattern]
    exact List.mem_append_right _ List.mem_cons_self
  have hrest : pattern.toList.drop (before.length + 1) = after := by
    rw [hpattern, ← List.singleton_append, ← List.append_assoc, List.drop_left' (by simp)]
  unfold pricingPatternMatches
  split
  · rename_i hequal
    rw [Bool.or_eq_true, beq_iff_eq, beq_iff_eq] at hequal
    refine iff_of_true rfl ?_
    rcases hequal with rfl | rfl
    · have hlength := congrArg List.length hpattern
      have hempty : before = [] ∧ after = [] := by
        rw [← List.length_eq_zero_iff, ← List.length_eq_zero_iff]
        simp at hlength
        omega
      rw [hempty.1, hempty.2]
      exact ⟨List.nil_prefix, List.nil_suffix⟩
    · rw [hpattern]
      exact ⟨List.prefix_append _ _, (List.suffix_cons _ _).trans (List.suffix_append _ _)⟩
  · rw [if_neg (by rw [hstar]; decide)]
    simp only [takeWhile_firstStar hpattern hbefore, hrest, Bool.and_eq_true, List.isPrefixOf_iff_prefix,
      List.isSuffixOf_iff_suffix]

theorem pricingPatternMatches_literal (hpattern : '*' ∉ pattern.toList) :
    pricingPatternMatches pattern value = true ↔ value = pattern := by
  have hnone : pattern.toList.contains '*' = false := by
    rw [← Bool.not_eq_true, List.contains_iff_mem]
    exact hpattern
  have hne : pattern ≠ "*" := by
    rintro rfl
    exact hpattern (by decide)
  unfold pricingPatternMatches
  rw [hnone]
  constructor
  · intro h
    split at h
    · rename_i hequal
      rw [Bool.or_eq_true, beq_iff_eq, beq_iff_eq] at hequal
      exact (hequal.resolve_left hne).symm
    · cases h
  · rintro rfl
    rw [if_pos (by rw [beq_self_eq_true, Bool.or_true])]

end Split

/-- The value starts and ends as the code asks, but the two ends overlap in it. -/
def EndsOverlap (pattern value : String) : Prop :=
  ∃ before after, pattern.toList = before ++ '*' :: after ∧ '*' ∉ before ∧ before <+: value.toList ∧
    after <:+ value.toList ∧ value.length < before.length + after.length

/-- The value is in the language, but does not end in what stands after the first star, taken letter by letter. -/
def LaterStarRead (pattern value : String) : Prop :=
  ∃ before after, pattern.toList = before ++ '*' :: after ∧ '*' ∉ before ∧ '*' ∈ after ∧
    InPatternLanguage pattern value ∧ ¬ after <:+ value.toList

/-- What the pattern must look like: one star at most, and no overlap between what stands on its two sides. -/
def OneStarApart (pattern : String) : Prop :=
  ∀ before after, pattern.toList = before ++ '*' :: after → '*' ∉ before →
    '*' ∉ after ∧ ∀ shared, shared <:+ before → shared <+: after → shared = []

section Agreement

variable {pattern value : String}

theorem matches_iff_language :
    (pricingPatternMatches pattern value = true ↔ InPatternLanguage pattern value) ↔
      ¬ EndsOverlap pattern value ∧ ¬ LaterStarRead pattern value := by
  constructor
  · intro hagree
    constructor
    · rintro ⟨before, after, hpattern, hbefore, hbegins, hsuffix, hlength⟩
      have hlanguage := hagree.mp ((pricingPatternMatches_ends hpattern hbefore).mpr ⟨hbegins, hsuffix⟩)
      rw [InPatternLanguage, hpattern] at hlanguage
      exact not_globMatches_of_short hbefore hbegins hsuffix hlength hlanguage
    · rintro ⟨before, after, hpattern, hbefore, -, hlanguage, hsuffix⟩
      exact hsuffix ((pricingPatternMatches_ends hpattern hbefore).mp (hagree.mpr hlanguage)).2
  · rintro ⟨hoverlap, hlater⟩
    by_cases hstar : '*' ∈ pattern.toList
    · obtain ⟨before, after, hpattern, hbefore⟩ := exists_firstStar hstar
      rw [pricingPatternMatches_ends hpattern hbefore]
      constructor
      · rintro ⟨hbegins, hsuffix⟩
        rw [InPatternLanguage, hpattern]
        refine globMatches_of_ends hbefore hbegins hsuffix (Nat.le_of_not_lt fun hlength => ?_)
        exact hoverlap ⟨before, after, hpattern, hbefore, hbegins, hsuffix, hlength⟩
      · intro hlanguage
        have hmatches : GlobMatches '*' (before ++ '*' :: after) value.toList := hpattern ▸ hlanguage
        by_cases hafter : '*' ∈ after
        · refine ⟨prefix_of_globMatches hbefore hmatches, by_contra fun hsuffix => ?_⟩
          exact hlater ⟨before, after, hpattern, hbefore, hafter, hlanguage, hsuffix⟩
        · exact ends_of_globMatches hbefore hafter hmatches
    · rw [pricingPatternMatches_literal hstar, InPatternLanguage, globMatches_of_noStar hstar, String.toList_inj]

theorem oneStarApart_of_matches
    (hagree : ∀ value, pricingPatternMatches pattern value = true ↔ InPatternLanguage pattern value) :
    OneStarApart pattern := by
  intro before after hpattern hbefore
  constructor
  · intro hafter
    -- the literals alone are in the language, and no star stands in them
    refine (matches_iff_language.mp (hagree (String.ofList (literalsOf '*' pattern.toList)))).2
      ⟨before, after, hpattern, hbefore, hafter, ?_, fun hsuffix => ?_⟩
    · rw [InPatternLanguage, String.toList_ofList]
      exact globMatches_literalsOf '*' pattern.toList
    · rw [String.toList_ofList] at hsuffix
      exact star_notMem_literalsOf '*' pattern.toList (hsuffix.subset hafter)
  · rintro shared ⟨start, rfl⟩ ⟨rest, rfl⟩
    by_contra hshared
    have hlength : 0 < shared.length := List.length_pos_iff.mpr hshared
    refine (matches_iff_language.mp (hagree (String.ofList (start ++ shared ++ rest)))).1
      ⟨start ++ shared, shared ++ rest, hpattern, hbefore, ?_, ?_, ?_⟩
    · rw [String.toList_ofList]
      exact List.prefix_append _ _
    · rw [String.toList_ofList, List.append_assoc]
      exact List.suffix_append _ _
    · rw [String.length_ofList]
      simp only [List.length_append]
      omega

theorem matches_of_oneStarApart (h : OneStarApart pattern) (value : String) :
    pricingPatternMatches pattern value = true ↔ InPatternLanguage pattern value := by
  refine matches_iff_language.mpr ⟨?_, ?_⟩
  · rintro ⟨before, after, hpattern, hbefore, hbegins, hsuffix, hlength⟩
    obtain ⟨start, shared, rest, hshared, hstart, -, -, hrest⟩ := overlap_of_short hbegins hsuffix hlength
    exact hshared ((h before after hpattern hbefore).2 shared ⟨start, hstart.symm⟩ ⟨rest, hrest.symm⟩)
  · rintro ⟨before, after, hpattern, hbefore, hafter, -, -⟩
    exact (h before after hpattern hbefore).1 hafter

end Agreement

/-- A price pattern means its glob, at one value and at all of them, exactly when its ends stay apart and no later
star is read. -/
theorem pricePattern_matchesGlob (pattern : String) :
    (∀ value, (pricingPatternMatches pattern value = true ↔ InPatternLanguage pattern value) ↔
      ¬ EndsOverlap pattern value ∧ ¬ LaterStarRead pattern value) ∧
    ((∀ value, pricingPatternMatches pattern value = true ↔ InPatternLanguage pattern value) ↔
      OneStarApart pattern) :=
  ⟨fun _ => matches_iff_language, oneStarApart_of_matches, matches_of_oneStarApart⟩

/-- The ends of the first pattern share a letter in the value, and the second star of the other is read as itself. -/
theorem pricePattern_notGlob :
    (pricingPatternMatches "gpt-4*4-mini" "gpt-4-mini" = true ∧ ¬ InPatternLanguage "gpt-4*4-mini" "gpt-4-mini") ∧
    pricingPatternMatches "gpt-*-mini-*" "gpt-4.1-mini-2025" = false ∧
      InPatternLanguage "gpt-*-mini-*" "gpt-4.1-mini-2025" := by
  refine ⟨⟨by decide +kernel, fun hlanguage => ?_⟩, by decide +kernel, ?_⟩
  · exact not_globMatches_of_short (by decide : '*' ∉ "gpt-4".toList)
      (by decide : "gpt-4".toList <+: "gpt-4-mini".toList) (by decide : "4-mini".toList <:+ "gpt-4-mini".toList)
      (by decide) hlanguage
  · refine (globMatches_split (by decide : '*' ∉ "gpt-".toList)).mpr
      ⟨"4.1".toList, "-mini-2025".toList, rfl, ?_⟩
    exact (globMatches_split (by decide : '*' ∉ "-mini-".toList)).mpr ⟨"2025".toList, [], rfl, .nil⟩

end Starweaver.Gateway
