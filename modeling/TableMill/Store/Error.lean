/-!
# Storage errors

Errors are told apart by kind, so that a writer can decide whether to try again without
reading the message.
-/

namespace TableMill

inductive FaultKind
  | missing | timedOut | noResponses | rowTooLarge | other
  deriving DecidableEq, Repr

namespace FaultKind

def text : FaultKind → String
  | missing => "table does not exist"
  | timedOut => "operation timed out"
  | noResponses => "no responses"
  | rowTooLarge => "row too large"
  | other => "storage error"

/-- Whether the same call can succeed later: a new table may not be visible yet, or the
storage may be overloaded. -/
def isTransient : FaultKind → Bool
  | missing | timedOut | noResponses => true
  | rowTooLarge | other => false

end FaultKind

inductive FaultSource
  | noTable (name : String)
  | noIndex (name : String)
  | injected
  | scripted
  deriving DecidableEq, Repr

def FaultSource.message : FaultSource → String
  | noTable name => "table " ++ name ++ " does not exist"
  | noIndex name => "index " ++ name ++ " does not exist"
  | injected => "injected failure"
  | scripted => "scripted failure"

structure StoreError where
  kind : FaultKind
  source : FaultSource
  deriving DecidableEq, Repr

def StoreError.message (e : StoreError) : String :=
  e.kind.text ++ ": " ++ e.source.message

end TableMill
