import TableMill.Store.Basic

/-!
# Backends

What a batch needs of the storage that it reads from and writes to. A call may change
the state of the backend.
-/

namespace TableMill

/-- The calls of a storage with states `σ`. -/
structure Backend (σ : Type) where
  leftPage (table : String) (range : TokenRange) (limit : Nat) : σ → StoreResult (List Row) × σ
  indexPage (index : String) (keys : List String) (limit : Nat) (state : Option PageState) :
    σ → StoreResult (List Entry × Option PageState) × σ
  dataPage (table : String) (rowids : List Int64) (limit : Nat) :
    σ → StoreResult (List Row) × σ
  write (call : WriteCall) : σ → StoreResult WriteAnswer × σ
  /-- How many entries an index has under the keys. -/
  listed (index : String) (keys : List String) : σ → Nat

def Store.backend : Backend Store where
  leftPage table range limit s := (s.leftPage table range limit, s)
  indexPage index keys limit state s := (s.indexPage index keys limit state, s)
  dataPage table rowids limit s := (s.dataPage table rowids limit, s)
  write call s := s.write call
  listed index keys s := (s.listing index keys).length

end TableMill
