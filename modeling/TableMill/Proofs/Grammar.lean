import TableMill.Expr.Parser

/-!
# The grammar of expressions

Expressions have seven layers. Each of the five layers of binary operators is a row of
operands of the layer below with its operators between them, read from the left; under them
are the unary operators, and under these literals, names, calls and brackets.
-/

namespace TableMill

namespace Expr

mutual

def unsited : Expr → Expr
  | int v => int v
  | float v => float v
  | text s => text s
  | ident name => ident name
  | selector table field => selector table field
  | call _ name args => call ⟨0, 0⟩ name (unsitedAll args)
  | unary op e => unary op e.unsited
  | binary op l r => binary op l.unsited r.unsited

def unsitedAll : List Expr → List Expr
  | [] => []
  | e :: es => e.unsited :: unsitedAll es

end

@[simp] theorem unsitedAll_eq (es : List Expr) : unsitedAll es = es.map unsited := by
  induction es with
  | nil => rfl
  | cons e es ih => rw [unsitedAll, ih, List.map_cons]

end Expr

namespace Grammar

/-- The layers, from the loosest to the tightest. -/
inductive Layer
  | or | and | comparison | sum | product | unary | primary
  deriving DecidableEq, Repr

namespace Layer

/-- The layer of the operands. -/
def below : Layer → Layer
  | or => and
  | and => comparison
  | comparison => sum
  | sum => product
  | product => unary
  | unary => primary
  | primary => primary

def binary? : Layer → Token → Option BinaryOp
  | or, .or => some .or
  | and, .and => some .and
  | comparison, .equal => some .equal
  | comparison, .notEqual => some .notEqual
  | comparison, .less => some .less
  | comparison, .lessEqual => some .lessEqual
  | comparison, .greater => some .greater
  | comparison, .greaterEqual => some .greaterEqual
  | sum, .plus => some .add
  | sum, .minus => some .subtract
  | product, .star => some .multiply
  | product, .slash => some .divide
  | product, .percent => some .remainder
  | _, _ => none

end Layer

/-- What a call may name: a function, or a function of a package. -/
inductive Callee : List Token → String → Prop
  | plain (name : String) : Callee [.ident name] name
  | dotted (package name : String) :
    Callee [.ident package, .dot, .ident name] (package ++ "." ++ name)

def listed (args : List (List Token × Expr)) : List Token :=
  [Token.comma].intercalate (args.map Prod.fst)

/-- A layer derives an expression from tokens. The site of a call is left open. -/
inductive Derives : Layer → List Token → Expr → Prop
  | lift {layer ts e} (h : Derives layer.below ts e) : Derives layer ts e
  | binary {layer ts t us op l r} (hop : Layer.binary? layer t = some op)
    (hl : Derives layer ts l) (hr : Derives layer.below us r) :
    Derives layer (ts ++ t :: us) (.binary op l r)
  | negate {ts e} (h : Derives .unary ts e) : Derives .unary (.minus :: ts) (.unary .negate e)
  | not {ts e} (h : Derives .unary ts e) : Derives .unary (.bang :: ts) (.unary .not e)
  | int (v : Int64) : Derives .primary [.int v] (.int v)
  | float (v : Float) : Derives .primary [.float v] (.float v)
  | text (s : String) : Derives .primary [.text s] (.text s)
  | ident (name : String) : Derives .primary [.ident name] (.ident name)
  | selector (table field : String) :
    Derives .primary [.ident table, .dot, .ident field] (.selector table field)
  | call {ts name args} (site : CallSite) (hname : Callee ts name)
    (hargs : ∀ a ∈ args, Derives .or a.1 a.2) :
    Derives .primary (ts ++ .openParen :: (listed args ++ [.closeParen]))
      (.call site name (args.map Prod.snd))
  | bracket {ts e} (h : Derives .or ts e) :
    Derives .primary (.openParen :: (ts ++ [.closeParen])) e

/-! ## Layers as levels -/

def Layer.level : Layer → Nat
  | or => 1
  | and => 2
  | comparison => 3
  | sum => 4
  | product => 5
  | unary => 6
  | primary => 7

/-- The layer whose operators bind at least as tightly as a level. -/
def Layer.at : Nat → Layer
  | 0 | 1 => or
  | 2 => and
  | 3 => comparison
  | 4 => sum
  | 5 => product
  | 6 => unary
  | _ => primary

theorem Layer.binary?_eq_some_iff {layer : Layer} {t : Token} {op : BinaryOp} :
    layer.binary? t = some op ↔ Parser.binaryOp? t = some op ∧ op.level = layer.level := by
  cases layer <;> cases t <;> cases op <;>
    simp [Layer.binary?, Parser.binaryOp?, BinaryOp.level, Layer.level]

theorem Layer.level_le_below (layer : Layer) : layer.level ≤ layer.below.level := by
  cases layer <;> decide

theorem Layer.level_below {layer : Layer} {t : Token} {op : BinaryOp}
    (hop : layer.binary? t = some op) : layer.below.level = layer.level + 1 := by
  cases layer <;> simp_all [Layer.binary?, Layer.below, Layer.level]

theorem Layer.binary?_at {t : Token} {op : BinaryOp} (h : Parser.binaryOp? t = some op) :
    (Layer.at op.level).binary? t = some op :=
  Layer.binary?_eq_some_iff.2 ⟨h, by cases op <;> rfl⟩

theorem Layer.below_at (op : BinaryOp) : (Layer.at op.level).below = Layer.at (op.level + 1) := by
  cases op <;> rfl

theorem Derives.loosen {i j : Nat} (hij : i ≤ j) {ts : List Token} {e : Expr}
    (h : Derives (Layer.at j) ts e) : Derives (Layer.at i) ts e := by
  induction hij with
  | refl => exact h
  | @step j _ ih =>
    refine ih ?_
    match j, h with
    | 0, h => exact h
    | 1, h | 2, h | 3, h | 4, h | 5, h | 6, h => exact .lift h
    | j + 7, h => exact h

/-- The first token of an expression closes no bracket. -/
theorem Derives.starts {layer : Layer} {ts : List Token} {e : Expr} (h : Derives layer ts e) :
    ∃ t us, ts = t :: us ∧ t ≠ .closeParen := by
  induction h with
  | lift _ ih => exact ih
  | binary _ _ _ ih _ =>
    obtain ⟨t, us, rfl, ht⟩ := ih
    exact ⟨t, _, rfl, ht⟩
  | negate | not | int | float | text | ident | selector | bracket => exact ⟨_, _, rfl, nofun⟩
  | call _ hname => cases hname <;> exact ⟨_, _, rfl, nofun⟩

/-! ## Lists of arguments -/

@[simp] theorem listed_nil : listed [] = [] := rfl

@[simp] theorem listed_singleton (a : List Token × Expr) : listed [a] = a.1 := by
  simp [listed]

@[simp] theorem listed_cons_cons (a b : List Token × Expr) (args : List (List Token × Expr)) :
    listed (a :: b :: args) = a.1 ++ .comma :: listed (b :: args) := by
  simp [listed, List.intercalate]

/-! ## Sites -/

theorem exists_args_of_unsited {P : List Token → Expr → Prop} {args : List (List Token × Expr)}
    (h : ∀ a ∈ args, ∀ e : Expr, e.unsited = a.2.unsited → P a.1 e) {es : List Expr}
    (hes : es.map Expr.unsited = args.map fun a => a.2.unsited) :
    ∃ args' : List (List Token × Expr), args'.map Prod.fst = args.map Prod.fst ∧
      args'.map Prod.snd = es ∧ ∀ a ∈ args', P a.1 a.2 := by
  induction args generalizing es with
  | nil => exact ⟨[], rfl, (List.map_eq_nil_iff.1 hes).symm, nofun⟩
  | cons a args ih =>
    obtain ⟨e, es, rfl, he, hes⟩ := List.map_eq_cons_iff.1 hes
    obtain ⟨args', hfst, rfl, hargs⟩ := ih (fun x hx => h x (List.mem_cons_of_mem _ hx)) hes
    refine ⟨(a.1, e) :: args', by simp [hfst], rfl, List.forall_mem_cons.2 ⟨?_, hargs⟩⟩
    exact h a List.mem_cons_self e he

/-- The sites of calls do not matter. -/
theorem Derives.of_unsited {layer : Layer} {ts : List Token} {e e' : Expr}
    (h : Derives layer ts e) (he : e'.unsited = e.unsited) : Derives layer ts e' := by
  induction h generalizing e' with
  | lift _ ih => exact .lift (ih he)
  | binary hop _ _ hl hr =>
    cases e' <;> simp only [Expr.unsited, reduceCtorEq] at he
    obtain ⟨rfl, hle, hre⟩ := Expr.binary.inj he
    exact .binary hop (hl hle) (hr hre)
  | negate _ ih =>
    cases e' <;> simp only [Expr.unsited, reduceCtorEq] at he
    obtain ⟨rfl, hoperand⟩ := Expr.unary.inj he
    exact .negate (ih hoperand)
  | not _ ih =>
    cases e' <;> simp only [Expr.unsited, reduceCtorEq] at he
    obtain ⟨rfl, hoperand⟩ := Expr.unary.inj he
    exact .not (ih hoperand)
  | int v =>
    cases e' <;> simp only [Expr.unsited, reduceCtorEq] at he
    exact he ▸ .int v
  | float v =>
    cases e' <;> simp only [Expr.unsited, reduceCtorEq] at he
    exact he ▸ .float v
  | text s =>
    cases e' <;> simp only [Expr.unsited, reduceCtorEq] at he
    exact he ▸ .text s
  | ident name =>
    cases e' <;> simp only [Expr.unsited, reduceCtorEq] at he
    exact he ▸ .ident name
  | selector table field =>
    cases e' <;> simp only [Expr.unsited, reduceCtorEq] at he
    exact he ▸ .selector table field
  | @call _ name args _ hname _ ih =>
    cases e' <;> simp only [Expr.unsited, reduceCtorEq] at he
    obtain ⟨-, rfl, hes⟩ := Expr.call.inj he
    rw [Expr.unsitedAll_eq, Expr.unsitedAll_eq, List.map_map] at hes
    obtain ⟨args', hfst, rfl, hargs⟩ := exists_args_of_unsited (fun a ha e he => ih a ha he) hes
    have hlisted : listed args = listed args' := by rw [listed, listed, hfst]
    rw [hlisted]
    exact .call _ hname hargs
  | bracket _ ih => exact .bracket (ih he)

end Grammar
end TableMill
