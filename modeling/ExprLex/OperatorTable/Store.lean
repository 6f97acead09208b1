import ExprLex.OperatorTable

/-!
# Histories of Tables

A store numbers tables from zero. Registrations change one table of the store, and a copy
adds one; what is refused changes nothing.
-/

namespace ExprLex.OperatorTable

/-- Tables by number. -/
abbrev Store := List OperatorTable

/-- A change of a store. -/
inductive Change where
  /-- An operator is registered in a table. -/
  | register (index : Nat) (symbol : String) (op : Operator)
  /-- A table is copied. -/
  | copy (index : Nat)
  deriving DecidableEq

namespace Store

/-- Replaces a table by itself with one more operator. -/
def register (store : Store) (index : Nat) (symbol : String) (op : Operator) :
    Except TableError Store :=
  match store[index]? with
  | none => .ok store
  | some table =>
    match table.register symbol op with
    | .ok extended => .ok (store.set index extended)
    | .error e => .error e

/-- Adds a copy of a table at the end. -/
def copy (store : Store) (index : Nat) : Except TableError Store :=
  match store[index]? with
  | none => .ok store
  | some table =>
    match table.copy with
    | .ok copied => .ok (store ++ [copied])
    | .error e => .error e

/-- What a change makes of a store, unless it is refused. -/
def perform (store : Store) : Change → Except TableError Store
  | .register index symbol op => store.register index symbol op
  | .copy index => store.copy index

/-- A store after one change. -/
def apply (store : Store) (change : Change) : Store :=
  match store.perform change with
  | .ok changed => changed
  | .error _ => store

/-- A store after a sequence of changes. -/
def applyAll (store : Store) (changes : List Change) : Store :=
  changes.foldl apply store

end Store

end ExprLex.OperatorTable
