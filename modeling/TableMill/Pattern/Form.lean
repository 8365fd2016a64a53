import TableMill.Pattern.Tree

/-!
# Patterns in short form

A pattern is brought into a form without the parts that make no difference to what it
matches: groups that only hold other parts together, empty parts, repetitions that happen
exactly once. Neighbouring characters become one literal, alternatives of characters become
one set, and what alternatives begin with in common is written once.
-/

namespace TableMill
namespace Pattern

/-- A pattern in short form. A set without characters matches nothing. -/
inductive Form
  | empty
  | literal (text : List Char)
  | set (chars : Text.Ranges)
  | look (place : Look)
  | capture (number : Nat) (body : Form)
  | times (count : Repeats) (body : Form)
  | seq (items : List Form)
  | alt (branches : List Form)

namespace Form

mutual

def same : Form → Form → Bool
  | empty, empty => true
  | literal s, literal t => s == t
  | set r, set s => r == s
  | look l, look m => l == m
  | capture m f, capture n g => m == n && same f g
  | times c f, times d g => c == d && same f g
  | seq fs, seq gs => sameAll fs gs
  | alt fs, alt gs => sameAll fs gs
  | _, _ => false

def sameAll : List Form → List Form → Bool
  | [], [] => true
  | f :: fs, g :: gs => same f g && sameAll fs gs
  | _, _ => false

end

mutual

/-- The length of the shortest text that matches; none if a part matches nothing. -/
def shortest : Form → Option Nat
  | empty | look _ => some 0
  | literal s => some s.length
  | set r => if r.isEmpty then none else some 1
  | capture _ f => f.shortest
  | times c f => f.shortest.map (c.least * ·)
  | seq fs => shortestSum fs
  | alt fs => shortestMin fs

def shortestSum : List Form → Option Nat
  | [] => some 0
  | f :: fs => do pure ((← f.shortest) + (← shortestSum fs))

def shortestMin : List Form → Option Nat
  | [] => none
  | [f] => f.shortest
  | f :: fs => do pure (min (← f.shortest) (← shortestMin fs))

end

mutual

/-- Whether nothing but the empty text matches. -/
def onlyEmpty : Form → Bool
  | empty | look _ => true
  | literal s => s.isEmpty
  | set _ => false
  | capture _ f | times _ f => f.onlyEmpty
  | seq fs | alt fs => allOnlyEmpty fs

def allOnlyEmpty : List Form → Bool
  | [] => true
  | f :: fs => f.onlyEmpty && allOnlyEmpty fs

end

mutual

/-- Whether every match begins at the start of the text. -/
def fromStart : Form → Bool
  | look .textStart => true
  | empty | look _ | literal _ | set _ => false
  | capture _ f => f.fromStart
  | times c f => c.least != 0 && f.fromStart
  | seq fs => firstFromStart fs
  | alt fs => allFromStart fs

/-- The conditions in front of the first item that takes a character. -/
def firstFromStart : List Form → Bool
  | [] => false
  | f :: fs => f.fromStart || (f.onlyEmpty && firstFromStart fs)

def allFromStart : List Form → Bool
  | [] => true
  | f :: fs => f.fromStart && allFromStart fs

end

mutual

/-- Whether every match ends at the end of the text. -/
def toEnd : Form → Bool
  | look .textEnd => true
  | empty | look _ | literal _ | set _ => false
  | capture _ f => f.toEnd
  | times c f => c.least != 0 && f.toEnd
  | seq fs => (lastToEnd fs).1
  | alt fs => allToEnd fs

/-- The conditions behind the last item that takes a character, and whether none does. -/
def lastToEnd : List Form → Bool × Bool
  | [] => (false, true)
  | f :: fs =>
    let (ends, emptyOnly) := lastToEnd fs
    (ends || (emptyOnly && f.toEnd), emptyOnly && f.onlyEmpty)

def allToEnd : List Form → Bool
  | [] => true
  | f :: fs => f.toEnd && allToEnd fs

end

def ofSet (r : Text.Ranges) : Form :=
  match r.only? with
  | some c => literal [c]
  | none => set r

/-- The items of a form within a sequence. -/
def items : Form → List Form
  | empty => []
  | seq fs => fs
  | f => [f]

/-- Puts literals together that follow each other. -/
def joinLiterals : List Form → List Form
  | [] => []
  | literal s :: rest =>
    match joinLiterals rest with
    | literal t :: more => literal (s ++ t) :: more
    | more => literal s :: more
  | f :: rest => f :: joinLiterals rest

/-- Forms in sequence. -/
def inSequence (fs : List Form) : Form :=
  match joinLiterals (fs.flatMap items) with
  | [] => empty
  | [f] => f
  | fs => seq fs

def branches : Form → List Form
  | alt fs => fs
  | f => [f]

/-- The set of a literal of one character. -/
def charSet? : Form → Option Text.Ranges
  | literal [c] => some (.single c)
  | _ => none

def set? : Form → Option Text.Ranges
  | set r => some r
  | _ => none

def seq? : Form → Option (List Form)
  | seq fs => some fs
  | _ => none

/-- Forms as alternatives, as one set if they are all characters or all sets; `rest` makes
the form of other branches. -/
def asSet (rest : List Form → Form) (fs : List Form) : Form :=
  match fs.flatMap branches with
  | [f] => f
  | fs =>
    match (fs.mapM charSet?).or (fs.mapM set?) with
    | some sets => ofSet (.unionAll sets)
    | none => rest fs

/-- The number of items that two sequences have in common at their start. -/
def commonCount : List Form → List Form → Nat
  | f :: fs, g :: gs => if same f g then commonCount fs gs + 1 else 0
  | _, _ => 0

/-- Writes once what all branches begin with. -/
def factored (fs : List Form) : Form :=
  match fs.mapM seq? with
  | some (first :: others) =>
    let n := others.foldl (fun n gs => commonCount (first.take n) gs) first.length
    if n = 0 then alt fs
    else
      let rests := (first :: others).map fun gs => inSequence (gs.drop n)
      inSequence (first.take n ++ [asSet alt rests])
  | _ => alt fs

def oneOf (fs : List Form) : Form :=
  asSet factored fs

/-- A form repeated. What matches the empty text only is not repeated more than once. -/
def repeated (c : Repeats) (f : Form) : Form :=
  let c := if f.onlyEmpty then
      { c with least := min c.least 1, most := some (min (c.most.getD 1) 1) }
    else c
  if c.most = some 0 then empty
  else if c.least = 1 ∧ c.most = some 1 then f
  else times c f

mutual

def ofTree : Tree → Form
  | .empty => empty
  | .set r _ => ofSet r
  | .look l => look l
  | .group none t => ofTree t
  | .group (some n) t => capture n (ofTree t)
  | .times c t => repeated c (ofTree t)
  | .seq ts => inSequence (ofTrees ts)
  | .alt ts => oneOf (ofTrees ts)

def ofTrees : List Tree → List Form
  | [] => []
  | t :: ts => ofTree t :: ofTrees ts

end

end Form
end Pattern
end TableMill
