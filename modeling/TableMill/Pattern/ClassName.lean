import TableMill.Pattern.Property
import TableMill.Pattern.Break
import TableMill.Pattern.Age
import TableMill.Text.Letter

/-!
# Classes of characters by name

A class is named by a property, a category or a script alone, or by the name of a property
and a value of it. Case and separators in names do not matter.
-/

namespace TableMill
namespace Pattern
namespace ClassName

def isSeparator (c : Char) : Bool :=
  c == ' ' || c == '_' || c == '-'

/-- A name in lower case without separators and without an "is" at its very start. The
short name of comments is kept apart from that of a category. -/
def plain (cs : List Char) : String :=
  let tidy (cs : List Char) : String :=
    String.ofList ((cs.filter fun c => Text.isAscii c && !isSeparator c).map Char.toLower)
  match cs with
  | a :: b :: rest =>
    if a.toLower = 'i' ∧ b.toLower = 's' then
      if tidy rest = "c" then "isc" else tidy rest
    else tidy cs
  | _ => tidy cs

/-- The characters before and after the first occurrence of a mark. -/
def cutAt (mark : List Char) : List Char → Option (List Char × List Char)
  | [] => none
  | c :: rest =>
    if mark.isPrefixOf (c :: rest) then some ([], (c :: rest).drop mark.length)
    else (cutAt mark rest).map fun parts => (c :: parts.1, parts.2)

/-- The class of a property, a category or a script. Three short names are those of
categories although properties have them too. -/
def alone? (name : String) : Option Text.Ranges :=
  if name = "cf" ∨ name = "sc" ∨ name = "lc" then generalCategory? name
  else ((property? name).or (generalCategory? name)).or (script? name)

def valued? (name value : String) : Option Text.Ranges :=
  match name with
  | "generalcategory" | "gc" => generalCategory? value
  | "script" | "sc" => script? value
  | "scriptextensions" | "scx" => scriptExtension? value
  | "age" => age? value
  | "graphemeclusterbreak" | "gcb" => Recipe.find? Break.clusterTable value
  | "wordbreak" | "wb" => Recipe.find? Break.wordTable value
  | "sentencebreak" | "sb" => Recipe.find? Break.sentenceTable value
  | _ => none

end ClassName

/-- A class by its name, and whether the characters outside of it are meant. -/
def namedClass? (cs : List Char) : Option (Text.Ranges × Bool) :=
  let valued (parts : List Char × List Char) : Option Text.Ranges :=
    ClassName.valued? (ClassName.plain parts.1) (ClassName.plain parts.2)
  match ClassName.cutAt ['!', '='] cs with
  | some parts => (valued parts).map (·, true)
  | none =>
    match (ClassName.cutAt [':'] cs).or (ClassName.cutAt ['='] cs) with
    | some parts => (valued parts).map (·, false)
    | none => (ClassName.alone? (ClassName.plain cs)).map (·, false)

end Pattern
end TableMill
