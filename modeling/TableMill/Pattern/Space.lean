import TableMill.Pattern.Form
import TableMill.Pattern.Encoded
import Std.Data.HashMap

/-!
# The space of a pattern

How much space the automaton of a pattern takes that reads bytes, forwards or backwards:
32 bytes for a state, 8 for each range of a state that has a list of them, and 4 for each
way out of a fork. A pattern is usable only if both automata fit.
-/

namespace TableMill
namespace Pattern

/-- The states of an automaton so far, and the bytes that they take. -/
structure Space where
  states : Nat := 0
  bytes : Nat := 0

def spaceMax : Nat := 10485760

namespace Space

/-- More bytes for the states that there are. -/
def widen (bytes : Nat) (s : Space) : Option Space :=
  if spaceMax < s.bytes + bytes then none else some { s with bytes := s.bytes + bytes }

/-- `count` more states, with `extra` bytes besides what each takes by itself. -/
def add (count extra : Nat) (s : Space) : Option Space :=
  ({ s with states := s.states + count } : Space).widen (32 * count + extra)

/-- Does a step several times. -/
def iterate (step : Space → Option Space) : Nat → Space → Option Space
  | 0, s => some s
  | n + 1, s => do iterate step n (← step s)

end Space

/-- A range of bytes on the way to a state. -/
structure Arc where
  first : Nat
  last : Nat
  next : Nat
  deriving DecidableEq

/-- Spreads numbers over the `count` places of a table. -/
def placeOf (count : UInt64) (numbers : List Nat) : Nat :=
  let mixed := numbers.foldl (fun h n => (h ^^^ n.toUInt64) * 1099511628211)
    (14695981039346656037 : UInt64)
  (mixed % count).toNat

/-- The automaton of a set read forwards: the places of `known` remember one list of arcs
each, and the state that has it. -/
structure Sharing where
  space : Space
  known : Std.HashMap Nat (List Arc × Nat) := {}

def sharingPlaces : Nat := 10000

/-- The state with a list of arcs, which may be there already. -/
def Sharing.state (arcs : List Arc) (s : Sharing) : Option (Nat × Sharing) := do
  let place := placeOf sharingPlaces.toUInt64
    (arcs.flatMap fun arc => [arc.first, arc.last, arc.next])
  match s.known[place]? with
  | some (seen, id) => if seen = arcs then pure (id, s) else fresh place
  | none => fresh place
where
  fresh (place : Nat) : Option (Nat × Sharing) := do
    let space ← s.space.add 1 (8 * arcs.length)
    pure (s.space.states, ⟨space, s.known.insert place (arcs, s.space.states)⟩)

/-- A state that is not complete: its arcs, the latest first, and the range of bytes whose
state is still open. -/
structure Draft where
  arcs : List Arc
  last : Option (Nat × Nat)

/-- Leads the open range of a draft to a state. -/
def Draft.close (next : Nat) (d : Draft) : Draft :=
  match d.last with
  | none => d
  | some (a, b) => ⟨⟨a, b, next⟩ :: d.arcs, none⟩

/-- Completes the first `count` drafts, the deepest first, and closes the one after. -/
def completeDrafts : Nat → Nat → List Draft → Sharing → Option (List Draft × Sharing)
  | _, _, [], s => some ([], s)
  | 0, next, d :: rest, s => some (d.close next :: rest, s)
  | count + 1, next, d :: rest, s => do
    let (id, s) ← s.state (d.close next).arcs.reverse
    completeDrafts count id rest s

/-- The number of ranges that a path has in common with the open ranges of drafts, the
shallowest first. -/
def commonRanges : List (Nat × Nat) → List Draft → Nat
  | span :: path, d :: rest => if d.last = some span then commonRanges path rest + 1 else 0
  | _, _ => 0

/-- Opens the ranges of a path below the first draft. -/
def openRanges (drafts : List Draft) : List (Nat × Nat) → List Draft
  | [] => drafts
  | span :: path =>
    match drafts with
    | [] => []
    | d :: rest =>
      path.foldl (fun ds span => ⟨[], some span⟩ :: ds) ({ d with last := some span } :: rest)

/-- Adds a path of byte ranges to the automaton of a set. -/
def addPath (target : Nat) (state : List Draft × Sharing) (path : List (Nat × Nat)) :
    Option (List Draft × Sharing) := do
  let (drafts, s) := state
  let n := commonRanges path drafts.reverse
  let (drafts, s) ← completeDrafts (drafts.length - (n + 1)) target drafts s
  pure (openRanges drafts (path.drop n), s)

def forwardSet (paths : List (List (Nat × Nat))) (s : Space) : Option Space := do
  let target := s.states
  let s ← s.add 1 0
  let (drafts, shared) ← paths.foldlM (addPath target) ([⟨[], none⟩], { space := s })
  let (drafts, shared) ← completeDrafts (drafts.length - 1) target drafts shared
  match drafts with
  | [] => pure shared.space
  | root :: _ => do
    let (_, shared) ← shared.state root.arcs.reverse
    pure shared.space

/-- The automaton of a set read backwards: the places of `known` remember one arc each,
and the state that it starts from. -/
structure Backward where
  space : Space
  known : Std.HashMap Nat (Arc × Nat) := {}

def backwardPlaces : Nat := 1000

/-- The state from which a range of bytes leads to another. -/
def Backward.state (next : Nat) (span : Nat × Nat) (s : Backward) : Option (Nat × Backward) := do
  let arc : Arc := ⟨span.1, span.2, next⟩
  let place := placeOf backwardPlaces.toUInt64 [next, span.1, span.2]
  match s.known[place]? with
  | some (seen, id) => if seen = arc then pure (id, s) else fresh place arc
  | none => fresh place arc
where
  fresh (place : Nat) (arc : Arc) : Option (Nat × Backward) := do
    let space ← s.space.add 1 0
    pure (s.space.states, ⟨space, s.known.insert place (arc, s.space.states)⟩)

/-- Adds a path of byte ranges, its first byte next to the end. -/
def Backward.path (next : Nat) : List (Nat × Nat) → Backward → Option Backward
  | [], s => (s.space.widen 4).map ({ s with space := · })
  | span :: rest, s => do
    let (id, s) ← s.state next span
    path id rest s

def backwardSet (paths : List (List (Nat × Nat))) (s : Space) : Option Space := do
  let target := s.states + 1
  let s ← s.add 2 0
  let s ← paths.foldlM (fun s path => Backward.path target path s) { space := s }
  pure s.space

/-- Texts side by side, byte by byte. Where a text ends, the branches so far are closed, and
later ones go to another list. -/
inductive Trie
  | node (closed : List (List (Nat × Trie))) (branches : List (Nat × Trie))

namespace Trie

def bare : Trie := node [] []

def isLeaf : Trie → Bool
  | node closed branches => closed.all (·.isEmpty) && branches.isEmpty

def ending : Trie → Trie
  | node closed branches =>
    if closed.all (·.isEmpty) && branches.isEmpty && !closed.isEmpty then node closed branches
    else node (closed ++ [branches]) []

/-- Changes the branch of a byte. Branches are in rising order. -/
def branchAt (byte : Nat) (change : Trie → Trie) :
    List (Nat × Trie) → List (Nat × Trie)
  | [] => [(byte, change bare)]
  | (b, t) :: rest =>
    if b < byte then (b, t) :: branchAt byte change rest
    else if b = byte then (b, change t) :: rest
    else (byte, change bare) :: (b, t) :: rest

def insert : List Nat → Trie → Trie
  | [], t => t.ending
  | byte :: rest, node closed branches => node closed (branchAt byte (insert rest) branches)

/-- The states and the bytes besides that the lists of a place take: a list with branches is
a state, and several lists and ends are joined by a fork. -/
def listSpace (lists : List (List (Nat × Trie))) : Nat × Nat :=
  let full := lists.filter (!·.isEmpty)
  let ways := full.length + (lists.length - 1)
  let extra := full.foldl (fun n l => if l.length = 1 then n else n + 8 * l.length) 0
  if ways = 1 then (full.length, extra) else (full.length + 1, extra + 4 * ways)

mutual

/-- The states and the bytes besides that a trie takes, without its end. -/
def space : Trie → Nat × Nat
  | node closed branches =>
    let own := listSpace (closed ++ [branches])
    let inner := spaceOfLists closed
    let last := spaceOfBranches branches
    (own.1 + inner.1 + last.1, own.2 + inner.2 + last.2)

def spaceOfLists : List (List (Nat × Trie)) → Nat × Nat
  | [] => (0, 0)
  | l :: ls =>
    let a := spaceOfBranches l
    let b := spaceOfLists ls
    (a.1 + b.1, a.2 + b.2)

def spaceOfBranches : List (Nat × Trie) → Nat × Nat
  | [] => (0, 0)
  | (_, t) :: ts =>
    let a := if t.isLeaf then (0, 0) else t.space
    let b := spaceOfBranches ts
    (a.1 + b.1, a.2 + b.2)

end

end Trie

/-- The bytes of a literal, in the direction of reading. -/
def literalBytes (backward : Bool) (text : List Char) : List Nat :=
  let bytes := text.flatMap fun c => encode c.toNat
  if backward then bytes.reverse else bytes

/-- The bytes of branches that are all literals. -/
def literals? (backward : Bool) (fs : List Form) : Option (List (List Nat)) :=
  fs.mapM fun f => match f with
    | .literal s => some (literalBytes backward s)
    | _ => none

def setSpace (backward : Bool) (r : Text.Ranges) (s : Space) : Option Space :=
  if r.isAscii then s.add 2 (8 * r.spans.size)
  else
    let paths := r.spans.toList.flatMap fun span => byteSpans span.1 span.2
    if backward then backwardSet paths s else forwardSet paths s

/-- The space of `step` repeated; `mayBeEmpty` says that it may match the empty text. -/
def timesSpace (c : Repeats) (mayBeEmpty : Bool) (step : Space → Option Space) (s : Space) :
    Option Space :=
  let exactly (n : Nat) (s : Space) : Option Space :=
    if n = 0 then s.add 1 0 else s.iterate step n
  match c.least, c.most with
  | 0, some 1 => do (← step (← s.add 1 8)).add 1 0
  | 0, none =>
    if mayBeEmpty then do (← step s).add 3 16
    else do step (← s.add 1 8)
  | n, none => do (← s.iterate step n).add 1 8
  | n, some m =>
    if n = m then exactly n s
    else do
      let s ← (← exactly n s).add 1 0
      s.iterate (fun s => do step (← s.add 1 8)) (m - n)

mutual

def Form.space (backward : Bool) : Form → Space → Option Space
  | .empty, s | .look _, s => s.add 1 0
  | .literal text, s => s.add (literalBytes backward text).length 0
  | .set r, s => setSpace backward r s
  | .capture _ f, s =>
    if backward then f.space backward s
    else do (← f.space backward (← s.add 1 0)).add 1 0
  | .times c f, s =>
    timesSpace c (!f.shortest.any (0 < ·)) (f.space backward) s
  | .seq fs, s => if backward then Form.spaceBackward fs s else Form.spaceForward fs s
  | .alt fs, s =>
    match literals? backward fs with
    | some texts => do
      let (states, extra) := (texts.foldl (fun t text => t.insert text) Trie.bare).space
      s.add (states + 1) extra
    | none => do
      (← Form.spaceOfBranches backward 2 fs s).widen (4 * fs.length)

def Form.spaceForward : List Form → Space → Option Space
  | [], s => some s
  | f :: fs, s => do Form.spaceForward fs (← f.space false s)

def Form.spaceBackward : List Form → Space → Option Space
  | [], s => some s
  | f :: fs, s => do f.space true (← Form.spaceBackward fs s)

/-- The states of branches. The fork and its end stand behind as many branches as `early`
says. -/
def Form.spaceOfBranches (backward : Bool) : Nat → List Form → Space → Option Space
  | _, [], s => some s
  | early, f :: fs, s => do
    let s ← f.space backward s
    let s ← if early = 1 then s.add 2 0 else pure s
    Form.spaceOfBranches backward (early - 1) fs s

end

/-- The space before a pattern that may match anywhere: a loop over any bytes. -/
def Space.entry (anchored : Bool) : Option Space :=
  if anchored then ({} : Space).add 1 0 else ({} : Space).add 3 16

/-- Whether the automata of a form fit. -/
def Form.fits (f : Form) : Bool :=
  let forward : Option Space := do
    let s ← (← Space.entry f.fromStart).add 1 0
    (← f.space false s).add 2 0
  let backward : Option Space := do
    (← f.space true (← Space.entry f.toEnd)).add 1 0
  forward.isSome && backward.isSome

end Pattern
end TableMill
