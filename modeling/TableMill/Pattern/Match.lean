import TableMill.Pattern.Parser
import TableMill.Pattern.Space

/-!
# Matching patterns

A pattern is laid out as a program whose places are tried side by side, one character
of the text after the other.
-/

namespace TableMill
namespace Pattern

/-- An instruction of a program: the places to go on at. -/
inductive Instr
  | accept
  | char (c : Char) (next : Nat)
  | set (chars : Text.Ranges) (next : Nat)
  | look (place : Look) (next : Nat)
  | split (first second : Nat)

/-- A program and the place where it starts. -/
abbrev Laid := Array Instr × Nat

def put (i : Instr) (prog : Array Instr) : Laid :=
  let here := prog.size
  (prog.push i, here)

/-- Repeats a step that puts instructions before a place. -/
def layTimes (step : Laid → Laid) : Nat → Laid → Laid
  | 0, p => p
  | n + 1, p => layTimes step n (step p)

/-- Puts up to `n` optional repetitions before the place `out`. -/
def layOptional (step : Laid → Laid) (out : Nat) : Nat → Laid → Laid
  | 0, p => p
  | n + 1, p =>
    let (prog, entry) := step p
    layOptional step out n (put (.split entry out) prog)

/-- Puts a loop before a place: the program, the place where the loop is tested, and the
one where its body starts. -/
def layLoop (step : Laid → Laid) (p : Laid) : Array Instr × Nat × Nat :=
  let next := p.2
  let (prog, test) := put (.split next next) p.1
  let (prog, entry) := step (prog, test)
  (prog.setIfInBounds test (.split entry next), test, entry)

/-- Puts the characters of a literal, the last one first, before a place. -/
def layChars : List Char → Laid → Laid
  | [], p => p
  | c :: before, (prog, next) => layChars before (put (.char c next) prog)

/-- Puts repetitions before a place. A repetition without an end is a loop, whose body is
one of the repetitions that must be there. -/
def layRepeats (c : Repeats) (step : Laid → Laid) (p : Laid) : Laid :=
  match c.most with
  | some most => layTimes step c.least (layOptional step p.2 (most - c.least) p)
  | none =>
    let (prog, test, entry) := layLoop step p
    if c.least = 0 then (prog, test) else layTimes step (c.least - 1) (prog, entry)

mutual

/-- Puts a form before a place of a program. -/
def lay : Form → Laid → Laid
  | .empty, p => p
  | .literal s, p => layChars s.reverse p
  | .set r, (prog, next) => put (.set r next) prog
  | .look l, (prog, next) => put (.look l next) prog
  | .capture _ f, p => lay f p
  | .seq fs, p => layAll fs p
  | .alt fs, p => layBranches fs p
  | .times c f, p => layRepeats c (lay f) p

def layAll : List Form → Laid → Laid
  | [], p => p
  | f :: fs, p => lay f (layAll fs p)

def layBranches : List Form → Laid → Laid
  | [], p => p
  | [f], p => lay f p
  | f :: fs, p =>
    let (prog, second) := layBranches fs p
    let (prog, first) := lay f (prog, p.2)
    put (.split first second) prog

end

/-- The places reached without a character: those that take one, whether the program
accepts, and for every place the last step that reached it. -/
structure Reached where
  places : List Nat
  accepted : Bool
  seen : Array Nat

/-- Follows the places of a stack in the step `now` as far as no character is taken. -/
def follow (prog : Array Instr) (before after : Option Char) (now : Nat) :
    Nat → List Nat → List Nat → Array Nat → Reached
  | 0, _, places, seen => ⟨places, false, seen⟩
  | _ + 1, [], places, seen => ⟨places, false, seen⟩
  | fuel + 1, place :: stack, places, seen =>
    if seen.getD place now = now then follow prog before after now fuel stack places seen
    else
      let seen := seen.setIfInBounds place now
      match prog[place]? with
      | none => follow prog before after now fuel stack places seen
      | some .accept => ⟨places, true, seen⟩
      | some (.char _ _) | some (.set _ _) =>
        follow prog before after now fuel stack (place :: places) seen
      | some (.look l next) =>
        if l.holds before after then
          follow prog before after now fuel (next :: stack) places seen
        else follow prog before after now fuel stack places seen
      | some (.split a b) =>
        follow prog before after now fuel (a :: b :: stack) places seen

/-- The places after a character, before those of `start`. -/
def advance (prog : Array Instr) (c : Char) (start : List Nat) : List Nat → List Nat
  | [] => start
  | place :: rest =>
    match prog[place]? with
    | some (.char d next) =>
      if c = d then next :: advance prog c start rest else advance prog c start rest
    | some (.set r next) =>
      if r.contains c then next :: advance prog c start rest else advance prog c start rest
    | _ => advance prog c start rest

/-- Whether the program accepts from one of the places of a stack or from its start, here
or later in the text. -/
def search (prog : Array Instr) (start : Nat) (before : Option Char) (now : Nat)
    (stack : List Nat) (seen : Array Nat) (cs : List Char) : Bool :=
  let r := follow prog before cs.head? now (stack.length + 2 * prog.size + 1) stack [] seen
  r.accepted ||
    match cs with
    | [] => false
    | c :: rest =>
      search prog start (some c) (now + 1) (advance prog c [start] r.places) r.seen rest

inductive Fault
  | malformed | tooLarge
  deriving DecidableEq, Repr

def Fault.message : Fault → String
  | malformed => "regex parse error: malformed pattern"
  | tooLarge => "Compiled regex exceeds size limit of " ++ toString spaceMax ++ " bytes."

def matches? (pattern s : String) : Except Fault Bool :=
  match parse pattern with
  | none => .error .malformed
  | some t =>
    let form := Form.ofTree t
    if form.fits then
      let (prog, start) := lay form (#[.accept], 0)
      .ok (search prog start none 1 [start] (Array.replicate prog.size 0) s.toList)
    else .error .tooLarge

end Pattern
end TableMill
