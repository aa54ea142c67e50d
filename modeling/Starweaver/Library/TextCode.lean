import Mathlib.Data.List.Basic

namespace Starweaver.Library.TextCode

/-- A code for texts whose code words avoid some characters, and the way back. -/
structure Code (avoided : List Char) where
  encode : String → List Char
  decode : List Char → Option String
  decode_encode : ∀ text, decode (encode text) = some text
  avoids : ∀ text, ∀ c ∈ encode text, c ∉ avoided

variable {avoided : List Char} (code : Code avoided) (separator between : Char)

def encodePair (pair : String × String) : List Char := code.encode pair.1 ++ between :: code.encode pair.2

/-- Pairs of texts as one text: a character within each pair, another one between the pairs. -/
def joinPairs (pairs : List (String × String)) : List Char :=
  [separator].intercalate (pairs.map (encodePair code between))

def decodePair (piece : List Char) : Option (String × String) :=
  match piece.splitOn between with
  | [key, value] => do some (← code.decode key, ← code.decode value)
  | _ => none

def splitPairs (text : List Char) : Option (List (String × String)) :=
  if text = [] then some [] else (text.splitOn separator).mapM (decodePair code between)

variable {code separator between}

theorem notMem_encode {c : Char} (hc : c ∈ avoided) (text : String) : c ∉ code.encode text :=
  fun hmem => code.avoids text c hmem hc

theorem decodePair_encodePair (hbetween : between ∈ avoided) (pair : String × String) :
    decodePair code between (encodePair code between pair) = some pair := by
  have hpieces : encodePair code between pair = [between].intercalate [code.encode pair.1, code.encode pair.2] := by
    simp [encodePair, List.intercalate]
  have hsplit : (encodePair code between pair).splitOn between = [code.encode pair.1, code.encode pair.2] := by
    rw [hpieces]
    refine List.splitOn_intercalate between ?_ (List.cons_ne_nil _ _)
    simp [notMem_encode hbetween]
  simp [decodePair, hsplit, code.decode_encode]

theorem separator_notMem_encodePair (hseparator : separator ∈ avoided) (hne : separator ≠ between)
    (pair : String × String) : separator ∉ encodePair code between pair := by
  simp [encodePair, notMem_encode hseparator, hne]

theorem splitPairs_joinPairs (hseparator : separator ∈ avoided) (hbetween : between ∈ avoided)
    (hne : separator ≠ between) (pairs : List (String × String)) :
    splitPairs code separator between (joinPairs code separator between pairs) = some pairs := by
  cases pairs with
  | nil => rfl
  | cons pair pairs =>
    have hnonempty : joinPairs code separator between (pair :: pairs) ≠ [] := by
      cases pairs <;> simp [joinPairs, List.intercalate, encodePair]
    have hsplit : (joinPairs code separator between (pair :: pairs)).splitOn separator =
        (pair :: pairs).map (encodePair code between) := by
      refine List.splitOn_intercalate separator (fun piece hpiece => ?_) (by simp)
      obtain ⟨other, -, rfl⟩ := List.mem_map.mp hpiece
      exact separator_notMem_encodePair hseparator hne other
    have hdecoded (list : List (String × String)) :
        (list.map (encodePair code between)).mapM (decodePair code between) = some list := by
      induction list with
      | nil => rfl
      | cons head list ih => simp [List.mapM_cons, decodePair_encodePair hbetween, ih]
    rw [splitPairs, if_neg hnonempty, hsplit, hdecoded]

/-- What none of the pairs and neither of the two characters holds, the joined text does not hold either. -/
theorem notMem_joinPairs {c : Char} (hc : c ∈ avoided) (hseparator : c ≠ separator) (hbetween : c ≠ between)
    (pairs : List (String × String)) : c ∉ joinPairs code separator between pairs := by
  induction pairs with
  | nil => simp [joinPairs, List.intercalate]
  | cons pair pairs ih =>
    have hpair : c ∉ encodePair code between pair := by simp [encodePair, notMem_encode hc, hbetween]
    cases pairs with
    | nil => simpa [joinPairs, List.intercalate] using hpair
    | cons next pairs =>
      have hjoined : joinPairs code separator between (pair :: next :: pairs) =
          encodePair code between pair ++ separator :: joinPairs code separator between (next :: pairs) := by
        simp [joinPairs, List.intercalate]
      rw [hjoined]
      simp [hpair, hseparator, ih]

section Joined

/-- Texts joined by a character that none of them holds can be told apart again. -/
theorem intercalate_inj {c : Char} {parts parts' : List (List Char)} (hparts : parts ≠ []) (hparts' : parts' ≠ [])
    (hfree : ∀ part ∈ parts, c ∉ part) (hfree' : ∀ part ∈ parts', c ∉ part)
    (h : [c].intercalate parts = [c].intercalate parts') : parts = parts' := by
  rw [← List.splitOn_intercalate c hfree hparts, h, List.splitOn_intercalate c hfree' hparts']

theorem joined_inj {separator : String} {c : Char} (hseparator : separator.toList = [c]) {parts parts' : List String}
    (hparts : parts ≠ []) (hparts' : parts' ≠ []) (hfree : ∀ part ∈ parts, c ∉ part.toList)
    (hfree' : ∀ part ∈ parts', c ∉ part.toList) (h : separator.intercalate parts = separator.intercalate parts') :
    parts = parts' := by
  have hlists := congrArg String.toList h
  rw [String.toList_intercalate, String.toList_intercalate, hseparator] at hlists
  have hmaps := intercalate_inj (by simpa using hparts) (by simpa using hparts')
    (by simpa using hfree) (by simpa using hfree') hlists
  exact List.map_injective_iff.mpr (fun _ _ htext => String.toList_inj.mp htext) hmaps

end Joined

end Starweaver.Library.TextCode
