/-! # Scope tables

The lexical scopes of a file stand in one table, numbered in the order of their
creation; scope 0 is the whole program.  A scope names its parent, and a name is
looked up from a scope outward.  Within a scope the first declaration of a name
counts, wherever it stands.

A scope is addressed by a whole number; a negative one counts from the end of
the table.
-/

namespace RouteCensus

inductive ScopeKind where
  | program
  | function
  | block
  deriving DecidableEq, Repr

def ScopeKind.word : ScopeKind → String
  | program => "program"
  | function => "function"
  | block => "block"

def ScopeKind.ofWord? (s : String) : Option ScopeKind :=
  [program, function, block].find? fun k => k.word == s

inductive BindingKind where
  | hoisted
  | lexical
  | constant
  | parameter
  | function
  | classLike
  | imported
  deriving DecidableEq, Repr

def BindingKind.word : BindingKind → String
  | hoisted => "var"
  | lexical => "let"
  | constant => "const"
  | parameter => "param"
  | function => "function"
  | classLike => "class"
  | imported => "import"

def BindingKind.ofWord? (s : String) : Option BindingKind :=
  [hoisted, lexical, constant, parameter, function, classLike, imported].find? fun k => k.word == s

/-- A declared name, with the expression it was initialised by where that is known. -/
structure Binding (α : Type) where
  name : String
  kind : BindingKind
  init : Option α := none
  deriving DecidableEq, Repr

structure Scope (α : Type) where
  id : Nat
  kind : ScopeKind
  parent : Option Int
  bindings : List (Binding α) := []
  deriving DecidableEq, Repr

namespace Scope

variable {α : Type}

def binding? (s : Scope α) (name : String) : Option (Binding α) :=
  s.bindings.find? fun b => b.name == name

/-- Adds a binding at the end, unless its name is taken. -/
def add (s : Scope α) (b : Binding α) : Scope α :=
  if (s.binding? b.name).isSome then s else { s with bindings := s.bindings ++ [b] }

end Scope

structure ScopeTable (α : Type) where
  scopes : List (Scope α) := [{ id := 0, kind := .program, parent := none }]
  deriving DecidableEq, Repr

inductive ScopeError where
  /-- No scope of the table has this address. -/
  | unknown (id : Int)
  /-- The way outward runs in a circle. -/
  | endless
  deriving DecidableEq, Repr

namespace ScopeTable

variable {α : Type}

def program : Int := 0

def size (t : ScopeTable α) : Nat :=
  t.scopes.length

def position? (t : ScopeTable α) (id : Int) : Option Nat :=
  if 0 ≤ id then
    if id < t.size then some id.toNat else none
  else
    if -(t.size : Int) ≤ id then some (id + t.size).toNat else none

def get? (t : ScopeTable α) (id : Int) : Option (Scope α) :=
  (t.position? id).bind fun i => t.scopes[i]?

/-- Appends an empty scope, whose address is the former size of the table. -/
def push (t : ScopeTable α) (kind : ScopeKind) (parent : Int) : ScopeTable α :=
  { scopes := t.scopes ++ [{ id := t.size, kind := kind, parent := some parent }] }

/-- Adds a binding to a scope; an unknown address leaves the table as it is. -/
def insert (t : ScopeTable α) (id : Int) (b : Binding α) : ScopeTable α :=
  match t.position? id with
  | some i => { scopes := t.scopes.modify i fun s => s.add b }
  | none => t

def insertAll (t : ScopeTable α) (id : Int) (names : List String) (kind : BindingKind) : ScopeTable α :=
  names.foldl (fun t name => t.insert id { name := name, kind := kind }) t

def declare (t : ScopeTable α) (id : Int) (b : Binding α) : Except ScopeError (ScopeTable α) :=
  if (t.position? id).isSome then .ok (t.insert id b) else .error (.unknown id)

def declareAll (t : ScopeTable α) (id : Int) (names : List String) (kind : BindingKind) :
    Except ScopeError (ScopeTable α) :=
  names.foldlM (fun t name => t.declare id { name := name, kind := kind }) t

/-- Walks outward from a scope to the first one where `found` has an answer, over at most `fuel`
scopes.  A way that is longer than the table runs in a circle. -/
def outward {β : Type} (t : ScopeTable α) (found : Int → Scope α → Option β) :
    Nat → Int → Except ScopeError (Option β)
  | 0, _ => .error .endless
  | fuel + 1, id =>
    match t.get? id with
    | none => .error (.unknown id)
    | some scope =>
      match found id scope with
      | some answer => .ok (some answer)
      | none =>
        match scope.parent with
        | none => .ok none
        | some parent => t.outward found fuel parent

def lookup (t : ScopeTable α) (id : Int) (name : String) : Except ScopeError (Option (Binding α)) :=
  t.outward (fun _ scope => scope.binding? name) (t.size + 1) id

/-- The nearest enclosing function or program, whose address is given as it was reached. -/
def functionScope (t : ScopeTable α) (id : Int) : Except ScopeError Int :=
  (t.outward (fun id scope => if scope.kind = .block then none else some id) (t.size + 1) id).map
    fun answer => answer.getD program

def resolve (t : ScopeTable α) (id : Int) (name : String) : Except ScopeError (Option α) :=
  (t.lookup id name).map fun found => found.bind Binding.init

/-- `functionScope` for addresses that are known to be in the table. -/
def hoistTarget (t : ScopeTable α) (id : Int) : Int :=
  match t.functionScope id with
  | .ok target => target
  | .error _ => program

/-- `resolve` for addresses that are known to be in the table. -/
def initOf (t : ScopeTable α) (id : Int) (name : String) : Option α :=
  match t.resolve id name with
  | .ok found => found
  | .error _ => none

end ScopeTable
end RouteCensus
