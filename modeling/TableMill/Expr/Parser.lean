import TableMill.Expr.Token

/-!
# Parsing expressions

A parser by operator levels with one token of look-ahead. The grammar has five levels
of binary operators, each associating to the left, above the unary operators.
-/

namespace TableMill
namespace Parser

def binaryOp? : Token → Option BinaryOp
  | .or => some .or
  | .and => some .and
  | .equal => some .equal
  | .notEqual => some .notEqual
  | .less => some .less
  | .lessEqual => some .lessEqual
  | .greater => some .greater
  | .greaterEqual => some .greaterEqual
  | .plus => some .add
  | .minus => some .subtract
  | .star => some .multiply
  | .slash => some .divide
  | .percent => some .remainder
  | _ => none

/-- The level at which the operand of a unary operator is parsed. -/
def unaryLevel : Nat := 6

/-- The token looked at: the first one, or the end. -/
def look (ts : List Token) : Token :=
  ts.headD .eof

/-- Moves on by one token. The token after it is looked at, so that the fault behind the
last token comes up as soon as that token is taken. -/
def advance (fault : Option ParseFault) : List Token → Except ParseFault (List Token)
  | [] => .ok []
  | [_] => match fault with
    | some f => .error f
    | none => .ok []
  | _ :: rest => .ok rest

def expect (fault : Option ParseFault) (want : Token) (ts : List Token) :
    Except ParseFault (List Token) :=
  if look ts = want then advance fault ts else .error (.expected want (look ts))

variable (source : Nat) (fault : Option ParseFault)

mutual

/-- Parses an expression whose operators bind at least as tightly as `level`. -/
def parseExpr : Nat → Nat → List Token → Except ParseFault (Expr × List Token)
  | 0, _, _ => .error .exhausted
  | fuel + 1, level, ts => do
    let (left, ts) ← parseOperand fuel ts
    parseRest fuel level left ts

/-- Extends the expression `left` by the operators that follow it. -/
def parseRest : Nat → Nat → Expr → List Token → Except ParseFault (Expr × List Token)
  | 0, _, _, _ => .error .exhausted
  | fuel + 1, level, left, ts =>
    match binaryOp? (look ts) with
    | none => .ok (left, ts)
    | some op =>
      if op.level < level then .ok (left, ts)
      else do
        let ts ← advance fault ts
        let (right, ts) ← parseExpr fuel (op.level + 1) ts
        parseRest fuel level (.binary op left right) ts

/-- Parses an operand: a literal, a name, a call, a bracketed expression, or a unary
operator with its operand. -/
def parseOperand : Nat → List Token → Except ParseFault (Expr × List Token)
  | 0, _ => .error .exhausted
  | fuel + 1, ts =>
    match look ts with
    | .minus => do
      let ts ← advance fault ts
      let (e, ts) ← parseExpr fuel unaryLevel ts
      .ok (.unary .negate e, ts)
    | .bang => do
      let ts ← advance fault ts
      let (e, ts) ← parseExpr fuel unaryLevel ts
      .ok (.unary .not e, ts)
    | .int v => do
      let ts ← advance fault ts
      .ok (.int v, ts)
    | .float v => do
      let ts ← advance fault ts
      .ok (.float v, ts)
    | .text s => do
      let ts ← advance fault ts
      .ok (.text s, ts)
    | .ident first => do
      let site : CallSite := ⟨source, ts.length⟩
      let ts ← advance fault ts
      match look ts with
      | .openParen => parseCall fuel site first ts
      | .dot => do
        let ts ← advance fault ts
        let found := look ts
        let ts ← advance fault ts
        match found with
        | .ident second =>
          match look ts with
          | .openParen => parseCall fuel site (first ++ "." ++ second) ts
          | .dot => .error (.longSelector first second)
          | _ => .ok (.selector first second, ts)
        | _ => .error (.noField first found)
      | _ => .ok (.ident first, ts)
    | .openParen => do
      let ts ← advance fault ts
      let (e, ts) ← parseExpr fuel 0 ts
      let ts ← expect fault .closeParen ts
      .ok (e, ts)
    | other => .error (.noOperand other)

def parseCall : Nat → CallSite → String → List Token → Except ParseFault (Expr × List Token)
  | 0, _, _, _ => .error .exhausted
  | fuel + 1, site, name, ts => do
    let ts ← expect fault .openParen ts
    if look ts = .closeParen then do
      let ts ← expect fault .closeParen ts
      .ok (.call site name [], ts)
    else do
      let (args, ts) ← parseArgs fuel ts
      let ts ← expect fault .closeParen ts
      .ok (.call site name args, ts)

/-- Parses one or more arguments between commas. -/
def parseArgs : Nat → List Token → Except ParseFault (List Expr × List Token)
  | 0, _ => .error .exhausted
  | fuel + 1, ts => do
    let (e, ts) ← parseExpr fuel 0 ts
    if look ts = .comma then do
      let ts ← advance fault ts
      let (es, ts) ← parseArgs fuel ts
      .ok (e :: es, ts)
    else .ok ([e], ts)

end

/-- Parses the tokens of a whole text. -/
def parseTokens (source : Nat) (scan : Token.Scan) : Except ParseFault Expr := do
  match scan.tokens, scan.fault with
  | [], some f => .error f
  | ts, fault =>
    let (e, rest) ← parseExpr source fault (4 * ts.length + 4) 0 ts
    if look rest = .eof then .ok e else .error (.trailing (look rest))

end Parser

/-- Parses the expression with a number of its own among several, which tells its calls
from the calls of the others. -/
def Expr.parseAs (source : Nat) (input : String) : Except ParseFault Expr :=
  Parser.parseTokens source (Token.scan input)

def Expr.parse (input : String) : Except ParseFault Expr :=
  Expr.parseAs 0 input

end TableMill
