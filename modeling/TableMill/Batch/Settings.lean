import TableMill.Batch.Error

/-!
# Settings and statistics of batches
-/

namespace TableMill

/-- The settings of a batch: how many keys and how many row ids one read asks for. -/
structure BatchSettings where
  writer : WriterSettings
  keyChunk : Nat
  rowidChunk : Nat
  deriving DecidableEq, Repr

namespace BatchSettings

def default : BatchSettings := ⟨.default, 100, 100⟩

/-- Takes settings from their JSON form; what is missing has its default. -/
def ofJson? (j : Json) : Option BatchSettings := do
  match ← j.fields? ["writer", "key_chunk_size", "rowid_chunk_size"] with
  | [writer, keyChunk, rowidChunk] =>
    let writer ← Json.optional default.writer WriterSettings.ofJson? writer
    let keyChunk ← Json.optional default.keyChunk (Json.unsigned? 64) keyChunk
    let rowidChunk ← Json.optional default.rowidChunk (Json.unsigned? 64) rowidChunk
    some ⟨writer, keyChunk, rowidChunk⟩
  | _ => none

def check (b : BatchSettings) : Except SettingsFault Unit := do
  b.writer.check
  if b.keyChunk = 0 ∨ b.rowidChunk = 0 then .error .noChunk

end BatchSettings

/-- What a batch did: rows read from a table and rows written to another. -/
structure BatchStats where
  read : Nat
  written : Nat
  source : String
  target : String
  deriving DecidableEq, Repr

namespace BatchStats

def seconds (micros : Nat) : Float :=
  Number.ofNat (micros / 1000000) + Number.ofNat (micros % 1000000 * 1000) / 1e9

def perSecond (rows : Nat) (elapsed : Float) : Float :=
  if 0 < elapsed then Number.ofNat rows / elapsed else 0

def text (b : BatchStats) (elapsedMicros : Nat) : String :=
  let elapsed := seconds elapsedMicros
  "\x7bread: " ++ toString b.read ++ ", written: " ++ toString b.written
    ++ ", elapsed:" ++ Number.fixedText 3 elapsed
    ++ ", r/s: " ++ Number.fixedText 1 (perSecond b.read elapsed)
    ++ ", w/s: " ++ Number.fixedText 1 (perSecond b.written elapsed)
    ++ ", src: " ++ b.source ++ ", dst: " ++ b.target ++ "\x7d"

end BatchStats
end TableMill
