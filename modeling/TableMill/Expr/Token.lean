import TableMill.Expr.Basic
import TableMill.Text.Quoted

/-!
# Tokens

The lexical structure of expressions. Lexing ends at the first fault; what was read
before it is kept, because a parser may reject the text earlier than that.
-/

namespace TableMill

/-- A token. The end of the text counts as one. -/
inductive Token
  | ident (name : String)
  | int (v : Int64)
  | float (v : Float)
  | text (s : String)
  | dot | comma | openParen | closeParen
  | plus | minus | star | slash | percent | bang
  | equal | notEqual | less | lessEqual | greater | greaterEqual
  | and | or
  | eof
  deriving DecidableEq, Inhabited

/-- A token as messages show it. -/
def Token.describe : Token → String
  | ident name => "Identifier(" ++ Text.quoted name ++ ")"
  | int v => "Int(" ++ toString v.toInt ++ ")"
  | float v => "Float(" ++ Number.floatToken v ++ ")"
  | text s => "String(" ++ Text.quoted s ++ ")"
  | dot => "Dot"
  | comma => "Comma"
  | openParen => "LParen"
  | closeParen => "RParen"
  | plus => "Plus"
  | minus => "Minus"
  | star => "Star"
  | slash => "Slash"
  | percent => "Percent"
  | bang => "Bang"
  | equal => "EqualsEquals"
  | notEqual => "NotEquals"
  | less => "Less"
  | lessEqual => "LessEquals"
  | greater => "Greater"
  | greaterEqual => "GreaterEquals"
  | and => "AndAnd"
  | or => "OrOr"
  | eof => "Eof"

inductive ParseFault
  | singleEquals (input : String)
  | unexpectedChar (c : Char) (input : String)
  | openRawText
  | openText
  | unknownEscape (c : Option Char)
  | missingExponent (lexeme : String)
  | intRange (digits : String)
  | expected (want found : Token)
  | trailing (found : Token)
  | noOperand (found : Token)
  | noField (first : String) (found : Token)
  | longSelector (first second : String)
  | exhausted
  deriving DecidableEq

def ParseFault.message : ParseFault → String
  | singleEquals input =>
    "unexpected '=' in " ++ Text.quoted input ++ ", use '==' to compare"
  | unexpectedChar c input =>
    "unexpected character " ++ Text.quotedChar c ++ " in " ++ Text.quoted input
  | openRawText => "unterminated raw string"
  | openText => "unterminated string"
  | unknownEscape c =>
    "unsupported escape sequence \\" ++ (c.map String.singleton).getD ""
  | missingExponent lexeme =>
    "invalid number " ++ Text.quoted lexeme ++ " (expected exponent digits)"
  | intRange digits => "integer literal " ++ digits ++ " out of range"
  | expected want found => "expected " ++ want.describe ++ ", found " ++ found.describe
  | trailing found => "unexpected token " ++ found.describe
  | noOperand found => "unexpected token in expression: " ++ found.describe
  | noField first found =>
    "expected field name after '" ++ first ++ ".', found " ++ found.describe
  | longSelector first second =>
    "unsupported selector expression " ++ first ++ "." ++ second
      ++ ".<...>, only alias.field is allowed"
  | exhausted => "expression too deep"

namespace Token

def isNameStart (c : Char) : Bool :=
  Text.isAlphabetic c || c == '_'

def isNamePart (c : Char) : Bool :=
  Text.isAlphanumeric c || c == '_'

def unescape? : Char → Option Char
  | '"' => some '"'
  | '\\' => some '\\'
  | 'n' => some '\n'
  | 't' => some '\t'
  | 'r' => some '\r'
  | _ => none

/-- Reads a text up to its closing quote, and the rest. -/
def readQuoted : List Char → Except ParseFault (List Char × List Char)
  | [] => .error .openText
  | '"' :: rest => .ok ([], rest)
  | ['\\'] => .error (.unknownEscape none)
  | '\\' :: c :: rest =>
    match unescape? c with
    | none => .error (.unknownEscape (some c))
    | some d => (readQuoted rest).map fun (cs, rest) => (d :: cs, rest)
  | c :: rest => (readQuoted rest).map fun (cs, rest) => (c :: cs, rest)

/-- Reads a raw text up to its closing mark, and the rest. -/
def readRaw : List Char → Except ParseFault (List Char × List Char)
  | [] => .error .openRawText
  | c :: rest =>
    if c = '\x60' then .ok ([], rest)
    else (readRaw rest).map fun (cs, rest) => (c :: cs, rest)

/-- Digits at the front, and the rest. -/
def readDigits (cs : List Char) : List Char × List Char :=
  (cs.takeWhile Text.isDigit, cs.dropWhile Text.isDigit)

def floatOf (lexeme : List Char) : Token :=
  .float ((Number.readUnsigned lexeme).getD 0)

/-- Reads the exponent of a number, whose characters so far are `lexeme`. -/
def readExponent (lexeme cs : List Char) : Except ParseFault (Token × List Char) :=
  let (sign, cs) := match cs with
    | '+' :: rest => (['+'], rest)
    | '-' :: rest => (['-'], rest)
    | _ => ([], cs)
  let (digits, rest) := readDigits cs
  let lexeme := lexeme ++ 'e' :: sign
  if digits = [] then .error (.missingExponent (String.ofList lexeme))
  else .ok (floatOf (lexeme ++ digits), rest)

/-- Reads a number: an integer, or a float if it has a point or an exponent. -/
def readNumber (cs : List Char) : Except ParseFault (Token × List Char) :=
  let (whole, rest) := readDigits cs
  match rest with
  | '.' :: more =>
    let (fraction, rest) := readDigits more
    let lexeme := whole ++ '.' :: fraction
    match rest with
    | 'e' :: more | 'E' :: more => readExponent lexeme more
    | _ => .ok (floatOf lexeme, rest)
  | 'e' :: more | 'E' :: more => readExponent whole more
  | _ =>
    match Number.readWord (String.ofList whole) with
    | .ok v => .ok (.int v, rest)
    | .error _ => .error (.intRange (String.ofList whole))

/-- Reads one token from characters that start with no blank; `input` is the whole text,
for messages. -/
def read (input : String) (c : Char) (rest : List Char) :
    Except ParseFault (Token × List Char) :=
  let paired (second : Char) (double single : Token) : Except ParseFault (Token × List Char) :=
    match rest with
    | d :: more => if d = second then .ok (double, more) else .ok (single, rest)
    | [] => .ok (single, rest)
  match c with
  | '(' => .ok (.openParen, rest)
  | ')' => .ok (.closeParen, rest)
  | ',' => .ok (.comma, rest)
  | '.' => .ok (.dot, rest)
  | '+' => .ok (.plus, rest)
  | '-' => .ok (.minus, rest)
  | '*' => .ok (.star, rest)
  | '/' => .ok (.slash, rest)
  | '%' => .ok (.percent, rest)
  | '<' => paired '=' .lessEqual .less
  | '>' => paired '=' .greaterEqual .greater
  | '!' => paired '=' .notEqual .bang
  | '=' =>
    match rest with
    | '=' :: more => .ok (.equal, more)
    | _ => .error (.singleEquals input)
  | '&' =>
    match rest with
    | '&' :: more => .ok (.and, more)
    | _ => .error (.unexpectedChar '&' input)
  | '|' =>
    match rest with
    | '|' :: more => .ok (.or, more)
    | _ => .error (.unexpectedChar '|' input)
  | '"' => (readQuoted rest).map fun (cs, rest) => (.text (String.ofList cs), rest)
  | '\x60' => (readRaw rest).map fun (cs, rest) => (.text (String.ofList cs), rest)
  | _ =>
    if Text.isDigit c then readNumber (c :: rest)
    else if isNameStart c then
      .ok (.ident (String.ofList (c :: rest.takeWhile isNamePart)), rest.dropWhile isNamePart)
    else .error (.unexpectedChar c input)

/-- The tokens of a text, and the fault that stops lexing, if one does. -/
structure Scan where
  tokens : List Token
  fault : Option ParseFault

/-- Reads tokens while characters remain; every token takes at least one. -/
def scanFrom (input : String) : Nat → List Char → Scan
  | 0, _ => ⟨[], none⟩
  | fuel + 1, cs =>
    match cs.dropWhile Text.isBlank with
    | [] => ⟨[], none⟩
    | c :: rest =>
      match read input c rest with
      | .error fault => ⟨[], some fault⟩
      | .ok (t, rest) =>
        let more := scanFrom input fuel rest
        ⟨t :: more.tokens, more.fault⟩

def scan (input : String) : Scan :=
  scanFrom input (input.toList.length + 1) input.toList

end Token
end TableMill
