import TableMill.Value.Basic

/-!
# Records and bindings

A record gives values to field names; bindings give records to table aliases. Both
are association lists with one entry per name.
-/

namespace TableMill

/-- Entries by name, in the order in which the names were first set. -/
abbrev Assoc (α : Type) := List (String × α)

namespace Assoc

variable {α : Type}

def get? (m : Assoc α) (name : String) : Option α :=
  List.lookup name m

def set (m : Assoc α) (name : String) (a : α) : Assoc α :=
  match m with
  | [] => [(name, a)]
  | (key, b) :: rest => if key = name then (name, a) :: rest else (key, b) :: set rest name a

def erase (m : Assoc α) (name : String) : Assoc α :=
  m.filter fun e => e.1 ≠ name

def has (m : Assoc α) (name : String) : Bool :=
  (m.get? name).isSome

/-- Sets every entry of `n`. -/
def merge (m n : Assoc α) : Assoc α :=
  n.foldl (fun m e => m.set e.1 e.2) m

/-- Collects entries; of two with one name the later one counts. -/
def ofList (entries : List (String × α)) : Assoc α :=
  merge [] entries

/-- Sets the entry of a name in a list sorted by name. -/
def setSorted (name : String) (a : α) : Assoc α → Assoc α
  | [] => [(name, a)]
  | (key, b) :: rest =>
    if name < key then (name, a) :: (key, b) :: rest
    else if name = key then (name, a) :: rest
    else (key, b) :: setSorted name a rest

@[simp] theorem get?_nil (name : String) : get? ([] : Assoc α) name = none := rfl

theorem get?_cons (key name : String) (a : α) (m : Assoc α) :
    get? ((key, a) :: m) name = if key = name then some a else get? m name := by
  by_cases h : key = name
  · subst h
    simp [get?]
  · have hb : (name == key) = false := by
      simp only [beq_eq_false_iff_ne, ne_eq]
      exact fun e => h e.symm
    simp [get?, List.lookup_cons, hb, h]

theorem get?_set (m : Assoc α) (key name : String) (a : α) :
    (m.set key a).get? name = if key = name then some a else m.get? name := by
  induction m with
  | nil => simp [set, get?_cons]
  | cons e rest ih =>
    obtain ⟨k, b⟩ := e
    by_cases hk : k = key
    · subst hk
      simp only [set, if_true, get?_cons]
      split <;> rfl
    · simp only [set, hk, if_false, get?_cons, ih]
      by_cases hn : k = name
      · have : ¬ key = name := fun e => hk (hn.trans e.symm)
        simp [hn, this]
      · simp [hn]

end Assoc

abbrev Record := Assoc Value

/-- Records by table alias. -/
abbrev Bindings := Assoc Record

namespace Bindings

def value? (b : Bindings) (table field : String) : Option Value :=
  (Assoc.get? b table).bind fun r => Assoc.get? r field

/-- Sets one field under an alias. -/
def bind (b : Bindings) (table field : String) (v : Value) : Bindings :=
  Assoc.set b table (Assoc.set ((Assoc.get? b table).getD []) field v)

end Bindings
end TableMill
