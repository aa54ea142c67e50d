import Mathlib.Data.List.Nodup

namespace Starweaver.Library.Alphabet

/-- The digits by their values. -/
def hexLower : List Char := "0123456789abcdef".toList

def hexUpper : List Char := "0123456789ABCDEF".toList

variable {alphabet : List Char} {m n : Nat}

/-- A value out of range has the first of the digits. -/
def digit (alphabet : List Char) (n : Nat) : Char := alphabet.getD n (alphabet.headD '0')

def value (alphabet : List Char) (c : Char) : Option Nat := alphabet.idxOf? c

theorem digit_eq (hn : n < alphabet.length) : digit alphabet n = alphabet[n] := by
  rw [digit, List.getD_eq_getElem?_getD, List.getElem?_eq_getElem hn, Option.getD_some]

theorem digit_mem (hn : n < alphabet.length) : digit alphabet n ∈ alphabet := by
  rw [digit_eq hn]
  exact List.getElem_mem hn

/-- In an alphabet without repetition a digit gives its value back. -/
theorem value_digit (halphabet : alphabet.Nodup) (hn : n < alphabet.length) :
    value alphabet (digit alphabet n) = some n := by
  rw [value, digit_eq hn]
  apply List.idxOf?_eq_some_iff.mpr
  refine ⟨hn, rfl, fun i hi heq => ?_⟩
  exact absurd (halphabet.getElem_inj_iff.mp heq) (Nat.ne_of_lt hi)

theorem digit_inj (halphabet : alphabet.Nodup) (hm : m < alphabet.length) (hn : n < alphabet.length)
    (h : digit alphabet m = digit alphabet n) : m = n := by
  rw [digit_eq hm, digit_eq hn] at h
  exact halphabet.getElem_inj_iff.mp h

theorem hexLower_nodup : hexLower.Nodup := by decide +kernel

theorem hexUpper_nodup : hexUpper.Nodup := by decide +kernel

end Starweaver.Library.Alphabet
