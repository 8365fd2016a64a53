import TableMill.Pattern.Category
import TableMill.Pattern.Script

/-!
# How sets of characters are made

Many properties of characters follow from categories, scripts and a few listed code
points. A recipe says how; its set is worked out on demand.
-/

namespace TableMill
namespace Pattern

inductive Recipe
  | spans (written : String)
  | steps (first distance count : Nat)
  | category (names : List String)
  | script (name : String)
  | join (parts : List Recipe)
  | without (whole part : Recipe)

namespace Recipe

mutual

def ranges : Recipe → Text.Ranges
  | spans written => .ofText written
  | steps first distance count =>
    ⟨((List.range count).map fun i => (first + i * distance, first + i * distance)).toArray⟩
  | category names => categories names
  | script name => (script? name).getD .empty
  | join parts => .unionAll (rangesAll parts)
  | without whole part => whole.ranges.minus part.ranges

def rangesAll : List Recipe → List Text.Ranges
  | [] => []
  | r :: rest => r.ranges :: rangesAll rest

end

def find? (table : List (List String × Recipe)) (name : String) : Option Text.Ranges :=
  (table.find? fun row => row.1.contains name).map (·.2.ranges)

end Recipe
end Pattern
end TableMill
