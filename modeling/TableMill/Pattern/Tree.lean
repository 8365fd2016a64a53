import TableMill.Pattern.Property
import TableMill.Pattern.Fold
import TableMill.Number.IntText

/-!
# Patterns

The structure of a text pattern as it is written: sets of characters and conditions on a
place in the text, in sequence, as alternatives and repeated.
-/

namespace TableMill
namespace Pattern

/-- A condition on a place between two characters. Lines end at a line feed or, with
`crlf`, at a carriage return, a line feed or both together. Words are made of the
letters of all scripts or of ASCII alone. -/
inductive Look
  | textStart | textEnd
  | lineStart (crlf : Bool)
  | lineEnd (crlf : Bool)
  | wordBoundary (ascii : Bool)
  | noBoundary (ascii : Bool)
  | wordStart (ascii : Bool)
  | wordEnd (ascii : Bool)
  | wordStartHalf (ascii : Bool)
  | wordEndHalf (ascii : Bool)
  deriving DecidableEq, Repr

/-- How often something is repeated; a lazy repetition prefers to be short. -/
structure Repeats where
  least : Nat
  most : Option Nat
  isLazy : Bool
  deriving DecidableEq, Repr

/-- A pattern. A set written in brackets says how deep its brackets are nested, and a group
that is remembered has a number. -/
inductive Tree
  | empty
  | set (chars : Text.Ranges) (nested : Nat)
  | look (place : Look)
  | seq (items : List Tree)
  | alt (branches : List Tree)
  | group (number : Option Nat) (body : Tree)
  | times (count : Repeats) (body : Tree)

def isWord (ascii : Bool) (c : Char) : Bool :=
  if ascii || Text.isAscii c then Text.isWordAscii c else wordRanges.contains c

/-- Whether a condition holds between two characters; at an end of the text one is
missing. -/
def Look.holds (before after : Option Char) : Look → Bool
  | textStart => before.isNone
  | textEnd => after.isNone
  | lineStart false => before.all (· == '\n')
  | lineStart true =>
    before.all (· == '\n') || (before == some '\r' && after != some '\n')
  | lineEnd false => after.all (· == '\n')
  | lineEnd true =>
    after.all (· == '\r') || (after == some '\n' && before != some '\r')
  | wordBoundary a => before.any (isWord a) != after.any (isWord a)
  | noBoundary a => before.any (isWord a) == after.any (isWord a)
  | wordStart a => !before.any (isWord a) && after.any (isWord a)
  | wordEnd a => before.any (isWord a) && !after.any (isWord a)
  | wordStartHalf a => !before.any (isWord a)
  | wordEndHalf a => !after.any (isWord a)

namespace Tree

mutual

/-- How deep brackets, sequences, alternatives, groups and repetitions are nested. -/
def depth : Tree → Nat
  | empty | look _ => 0
  | set _ nested => nested
  | seq items => 1 + depthAll items
  | alt branches => 1 + depthAll branches
  | group _ body => 1 + body.depth
  | times _ body => 1 + body.depth

def depthAll : List Tree → Nat
  | [] => 0
  | t :: ts => max t.depth (depthAll ts)

end

end Tree
end Pattern
end TableMill
