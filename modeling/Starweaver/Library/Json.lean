import Starweaver.Library.MachineInt

namespace Starweaver.Library

open MachineInt

/-- A JSON value; `number` holds the integers that a 64-bit parser keeps exact, `float` every other number. -/
inductive Json
  | null
  | bool (value : Bool)
  | number (value : Int)
  | float (lexeme : String)
  | string (value : String)
  | array (items : List Json)
  | object (fields : List (String × Json))

namespace Json

def get (value : Json) (key : String) : Option Json :=
  match value with
  | object fields => fields.lookup key
  | _ => none

def asI64 : Json → Option Int
  | number n => if i64Min ≤ n ∧ n ≤ i64Max then some n else none
  | _ => none

def asStr : Json → Option String
  | string text => some text
  | _ => none

theorem asI64_bounds {value : Json} {n : Int} (h : value.asI64 = some n) : i64Min ≤ n ∧ n ≤ i64Max := by
  cases value with
  | number m =>
    simp only [asI64] at h
    split at h
    · rename_i hbounds
      cases h
      exact hbounds
    · cases h
  | null => cases h
  | bool b => cases h
  | float lexeme => cases h
  | string text => cases h
  | array items => cases h
  | object fields => cases h

end Json

end Starweaver.Library
