import TableMill.Text.Letter

/-!
# Time layouts

A layout shows how a reference time, Monday, January 2, 15:04:05 2006 at seven hours
west of Greenwich, is written. Its tokens stand for parts of a date-time, everything
else for itself. The same parts have codes that start with a percent sign.
-/

namespace TableMill
namespace Layout

inductive Padding
  | zero | space | none
  deriving DecidableEq, Repr

inductive Item
  | year | yearOfCentury
  | month (padding : Padding)
  | day (padding : Padding)
  | dayOfYear
  | monthName (long : Bool)
  | weekdayName (long : Bool)
  | hour
  | hour12 (padding : Padding)
  | minute (padding : Padding)
  | second (padding : Padding)
  | fraction (digits : Nat)
  | halfDay (upper : Bool)
  | zoneName
  | offset (colon : Bool)
  deriving DecidableEq, Repr

def Padding.mark : Padding → String
  | zero => ""
  | space => "_"
  | none => "-"

def Item.code : Item → String
  | year => "%Y"
  | yearOfCentury => "%y"
  | month p => "%" ++ p.mark ++ "m"
  | day .space => "%e"
  | day p => "%" ++ p.mark ++ "d"
  | dayOfYear => "%j"
  | monthName long => if long then "%B" else "%b"
  | weekdayName long => if long then "%A" else "%a"
  | hour => "%H"
  | hour12 p => "%" ++ p.mark ++ "I"
  | minute p => "%" ++ p.mark ++ "M"
  | second p => "%" ++ p.mark ++ "S"
  | fraction digits => "%." ++ toString digits ++ "f"
  | halfDay upper => if upper then "%p" else "%P"
  | zoneName => "%Z"
  | offset colon => if colon then "%:z" else "%z"

/-- The tokens of the reference time. A token stands before every token that is a
beginning of it. -/
def tokens : List (String × Item) :=
  [("January", .monthName true),
   ("Jan", .monthName false),
   ("Monday", .weekdayName true),
   ("Mon", .weekdayName false),
   ("MST", .zoneName),
   ("2006", .year),
   ("Z07:00", .offset true),
   ("-07:00", .offset true),
   ("-0700", .offset false),
   (".000000000", .fraction 9),
   (".000000", .fraction 6),
   (".000", .fraction 3),
   ("002", .dayOfYear),
   ("01", .month .zero),
   ("02", .day .zero),
   ("_2", .day .space),
   ("03", .hour12 .zero),
   ("04", .minute .zero),
   ("05", .second .zero),
   ("06", .yearOfCentury),
   ("15", .hour),
   ("PM", .halfDay true),
   ("pm", .halfDay false),
   ("1", .month .none),
   ("2", .day .none),
   ("3", .hour12 .none),
   ("4", .minute .none),
   ("5", .second .none)]

inductive Piece
  | item (item : Item)
  | char (c : Char)
  deriving DecidableEq, Repr

/-- The first token that the characters start with. -/
def tokenAt (cs : List Char) : Option (String × Item) :=
  tokens.find? fun t => t.1.toList.isPrefixOf cs

/-- The pieces of a layout after passing over `skip` characters. -/
def piecesFrom : Nat → List Char → List Piece
  | _, [] => []
  | skip + 1, _ :: rest => piecesFrom skip rest
  | 0, c :: rest =>
    match tokenAt (c :: rest) with
    | some (token, item) => .item item :: piecesFrom (token.length - 1) rest
    | none => .char c :: piecesFrom 0 rest

/-- The pieces of a layout, each token the longest one at its place. -/
def pieces (layout : String) : List Piece :=
  piecesFrom 0 layout.toList

/-- A piece in coded form; a percent sign is doubled. -/
def Piece.code : Piece → String
  | .item i => i.code
  | .char c => if c = '%' then "%%" else String.singleton c

/-- A layout in coded form. -/
def code (layout : String) : String :=
  String.join ((pieces layout).map Piece.code)

/-- The names of the months and of the days of the week, from Sunday. -/
def monthNames : List String :=
  ["January", "February", "March", "April", "May", "June", "July", "August", "September",
   "October", "November", "December"]

def weekdayNames : List String :=
  ["Sunday", "Monday", "Tuesday", "Wednesday", "Thursday", "Friday", "Saturday"]

/-- The first three letters of a name. -/
def shortName (name : String) : String :=
  String.ofList (name.toList.take 3)

end Layout
end TableMill
