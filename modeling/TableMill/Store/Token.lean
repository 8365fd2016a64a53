import TableMill.Number.Word

/-!
# Tokens

Every stored row has a token, a signed 64-bit number mixed from its id. Rows are read in
the order of their tokens, and a batch is a range of tokens.
-/

namespace TableMill

/-- Mixes the bits of a word; every step can be undone. -/
def mixBits (w : UInt64) : UInt64 :=
  let w := (w ^^^ (w >>> 30)) * 0xbf58476d1ce4e5b9
  let w := (w ^^^ (w >>> 27)) * 0x94d049bb133111eb
  w ^^^ (w >>> 31)

def tokenOf (rowid : Int64) : Int :=
  (mixBits rowid.toUInt64).toInt64.toInt

/-- A range of tokens, both ends included. -/
structure TokenRange where
  first : Int
  last : Int
  deriving DecidableEq, Repr

namespace TokenRange

def all : TokenRange := ⟨Number.wordMin, Number.wordMax⟩

/-- The number of tokens in every range but the last, if there are `n` ranges. -/
def step (n : Nat) : Int :=
  Number.wordMax.tdiv n - Number.wordMin.tdiv n

/-- The range at a place among `n` ranges; the last one takes what is left. -/
def nth (n i : Nat) : TokenRange :=
  let first := Number.wordMin + i * step n
  ⟨first, if i + 1 = n then Number.wordMax else first + step n - 1⟩

/-- Splits all tokens into ranges that follow each other. -/
def split (batches : Nat) : List TokenRange :=
  if batches ≤ 1 then [all] else (List.range batches).map (nth batches)

end TokenRange

end TableMill
