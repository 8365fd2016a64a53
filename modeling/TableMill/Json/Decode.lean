import TableMill.Json.Basic
import TableMill.Value.Record

/-!
# Taking JSON values apart

A structure is an object with its fields by name, or an array with its fields in order.
Fields of other names are ignored; a field given twice is an error.
-/

namespace TableMill
namespace Json

def text? : Json → Option String
  | text s => s
  | _ => none

def bool? : Json → Option Bool
  | bool b => some b
  | _ => none

/-- The integer that a number spells, without fraction and exponent. Minus zero is no
integer. -/
def int? : Json → Option Int
  | number s =>
    match s.toList with
    | '-' :: ds =>
      if ds.all Text.isDigit ∧ ds ≠ ['0'] then some (-(Number.ofDigits ds : Int)) else none
    | ds => if ds.all Text.isDigit then some (Number.ofDigits ds : Int) else none
  | _ => none

def within? (lo hi : Int) (j : Json) : Option Int :=
  j.int?.filter fun n => lo ≤ n ∧ n ≤ hi

def word? : Json → Option Int :=
  within? Number.wordMin Number.wordMax

def unsigned? (bits : Nat) (j : Json) : Option Nat :=
  (within? 0 ((Nat.pow 2 bits : Int) - 1) j).map Int.toNat

/-- A name out of a list of names, alone or as the only name of an object with `null`. -/
def choice? : Json → Option String
  | text s => s
  | object [(name, null)] => name
  | _ => none

/-- The value given to a name. A name given twice is an error. -/
def member? (members : List (Option String × Json)) (name : String) :
    Option (Option Json) :=
  match members.filter fun m => m.1 = some name with
  | [] => some none
  | [m] => some (some m.2)
  | _ => none

/-- The fields of a structure, in the order of their names; a missing field is `none`. -/
def fields? (names : List String) : Json → Option (List (Option Json))
  | object members =>
    if members.all fun m => m.1.isSome then names.mapM (member? members) else none
  | array items =>
    if items.length ≤ names.length then
      some (items.map some ++ List.replicate (names.length - items.length) none)
    else none
  | _ => none

def required {α : Type} (read : Json → Option α) (j : Option Json) : Option α :=
  j.bind read

def optional {α : Type} (default : α) (read : Json → Option α) : Option Json → Option α
  | none => some default
  | some j => read j

/-- The entries of an object, sorted by name; of two with one name the later one
counts, but both have to be readable. -/
def entries? {α : Type} (read : Json → Option α) : Json → Option (Assoc α)
  | object members =>
    members.foldlM (fun m e => do
      let name ← e.1
      let a ← read e.2
      some (m.setSorted name a)) []
  | _ => none

end Json
end TableMill
