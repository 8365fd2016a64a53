import TableMill.Text.Letter

/-!
# Texts inside texts
-/

namespace TableMill
namespace Text

/-- Whether `part` stands somewhere in the characters. -/
def occursIn (part : List Char) : List Char → Bool
  | [] => part.isEmpty
  | c :: rest => part.isPrefixOf (c :: rest) || occursIn part rest

def contains (s part : String) : Bool :=
  occursIn part.toList s.toList

/-- Replaces the occurrences of a part that is not empty, from the left and without
overlap, after passing over `skip` characters. -/
def replaceFrom (old new : List Char) : Nat → List Char → List Char
  | _, [] => []
  | skip + 1, _ :: rest => replaceFrom old new skip rest
  | 0, c :: rest =>
    if old.isPrefixOf (c :: rest) then new ++ replaceFrom old new (old.length - 1) rest
    else c :: replaceFrom old new 0 rest

/-- Replaces every occurrence of `old`. The empty text occurs before every character and
at the end. -/
def replaceAll (s old new : String) : String :=
  match old.toList with
  | [] => String.ofList (s.toList.flatMap (fun c => new.toList ++ [c]) ++ new.toList)
  | o => String.ofList (replaceFrom o new.toList 0 s.toList)

end Text
end TableMill
