import RouteCensus.Scope.Survey

/-! # Lexical scopes and declarations of a tree

The scopes of a program, said without a table.  A spot is a node that is reached
through named nodes, with its place and the nodes around it.  Functions and
blocks are scope nodes, except for a block that is the body of a function, and
the program as a whole is the outermost scope.  Every spot declares names in
some of these scopes; what a name means at a spot is its first declaration in
the nearest scope around that declares it at all.
-/

namespace RouteCensus

/-- The child numbers on the way from the root to a node. -/
abbrev Place := List Nat

structure Spot where
  place : Place
  node : Node
  /-- The nodes around, the parent first. -/
  around : List (Place × Node)

mutual

/-- The spots of a tree in pre-order, when its root stands at `place` with `around` around it. -/
def Node.spotsFrom (place : Place) (around : List (Place × Node)) : Node → List Spot
  | .mk label children =>
    if label.named then
      ⟨place, .mk label children, around⟩ ::
        spotsAmong place 0 ((place, .mk label children) :: around) children
    else
      []

/-- The spots of the children of the node at `place`, from number `first` on. -/
def spotsAmong (place : Place) (first : Nat) (around : List (Place × Node)) : List Node → List Spot
  | [] => []
  | child :: rest =>
    child.spotsFrom (place ++ [first]) around ++ spotsAmong place (first + 1) around rest

end

/-- The spots of a program in pre-order. -/
def Node.spots (root : Node) : List Spot :=
  root.spotsFrom [] []

/-- Whether a node has a scope of its own.  The body of a function has not. -/
def opensScope (parent : Option Node) (node : Node) : Bool :=
  isFunctionKind node.kind ||
    (isBlockKind node.kind &&
      !(node.kind == "statement_block" && parent.any fun p => isFunctionKind p.kind))

structure ScopeNode where
  place : Place
  isFunction : Bool
  deriving DecidableEq, Repr

/-- The scope nodes among nodes that are listed from the inside out, in the same order. -/
def scopeNodes : List (Place × Node) → List ScopeNode
  | [] => []
  | (place, node) :: outer =>
    if opensScope (outer.head?.map Prod.snd) node then
      ⟨place, isFunctionKind node.kind⟩ :: scopeNodes outer
    else scopeNodes outer

/-- The scope that a name is declared in: a scope node, or the program as a whole. -/
abbrev Home := Option Place

structure Declaration where
  home : Home
  binding : Binding Node

namespace Declaration

/-- Names that are declared together, without initialisers. -/
def plain (home : Home) (kind : BindingKind) (names : List String) : List Declaration :=
  names.map fun name => { home := home, binding := { name := name, kind := kind } }

/-- The first declaration of a name in a scope. -/
def first? (declarations : List Declaration) (home : Home) (name : String) :
    Option (Binding Node) :=
  (declarations.find? fun d => d.home == home && d.binding.name == name).map Declaration.binding

end Declaration

namespace Spot

variable (s : Spot)

def parent : Option Node :=
  s.around.head?.map Prod.snd

/-- The scope nodes around a spot, the nearest first. -/
def scopes : List ScopeNode :=
  scopeNodes s.around

/-- The scopes around a spot, from the nearest one out to the program. -/
def homes : List Home :=
  s.scopes.map (fun scope => some scope.place) ++ [none]

/-- The nearest scope around. -/
def home : Home :=
  s.scopes.head?.map ScopeNode.place

/-- The nearest function around, or the program. -/
def functionHome : Home :=
  (s.scopes.find? ScopeNode.isFunction).map ScopeNode.place

/-- The name of a declared function belongs to the scope around it. -/
def functionName : List Declaration :=
  if s.node.kind == "function_declaration" || s.node.kind == "generator_function_declaration" then
    Declaration.plain s.home .function ((s.node.role? "name").toList.map Node.text)
  else []

def parameters : List Declaration :=
  if isFunctionKind s.node.kind then
    Declaration.plain (some s.place) .parameter s.node.parameterNames
  else
    []

def catchParameter : List Declaration :=
  if s.node.kind == "catch_clause" then
    Declaration.plain (some s.place) .lexical
      ((s.node.role? "parameter").toList.flatMap Node.boundNames)
  else []

/-- The variables in the head of a loop over items or keys, if it declares them. -/
def loopVariables : List Declaration :=
  if s.node.kind == "for_in_statement" then
    (s.node.role? "kind").toList.flatMap fun keyword =>
      let names := (s.node.role? "left").toList.flatMap Node.boundNames
      if keyword.text == "var" then Declaration.plain s.functionHome .hoisted names
      else Declaration.plain (some s.place) .lexical names
  else []

/-- Only a declarator of a plain name has an initialiser. -/
def declarator : List Declaration :=
  if s.node.kind == "variable_declarator" then
    let keyword := declarationKeyword s.parent
    let home := if keyword == "var" then s.functionHome else s.home
    (s.node.role? "name").toList.flatMap fun name =>
      if name.kind == "identifier" then
        [{ home := home
           binding :=
             { name := name.text, kind := bindingKindOf keyword, init := s.node.role? "value" } }]
      else
        Declaration.plain home (bindingKindOf keyword) name.boundNames
  else []

def className : List Declaration :=
  if s.node.kind == "class_declaration" || s.node.kind == "abstract_class_declaration" then
    Declaration.plain s.home .classLike ((s.node.role? "name").toList.map Node.text)
  else []

/-- Imported names belong to the program, wherever the statement stands. -/
def imports : List Declaration :=
  if s.node.kind == "import_statement" then
    Declaration.plain none .imported
      ((s.node.namedChildren.filter fun n => n.kind == "import_clause").flatMap fun clause =>
        clause.namedChildren.flatMap ScopeTable.importedNames)
  else []

/-- What a spot declares, in source order. -/
def declarations : List Declaration :=
  s.functionName ++ s.parameters ++ s.catchParameter ++ s.loopVariables ++ s.declarator ++
    s.className ++ s.imports

/-- Whether a spot is a call with a callee and a list of arguments. -/
def isCall : Bool :=
  s.node.kind == "call_expression" && (s.node.role? "function").isSome &&
    (s.node.role? "arguments").any fun arguments => arguments.kind == "arguments"

end Spot

/-- All declarations of a program, in pre-order. -/
def Node.declarations (root : Node) : List Declaration :=
  root.spots.flatMap Spot.declarations

/-- What a name means at a spot: its first declaration in the nearest scope that has one. -/
def Node.meaning? (root : Node) (s : Spot) (name : String) : Option (Binding Node) :=
  s.homes.findSome? fun home => Declaration.first? root.declarations home name

/-- A call site tells of the call at a spot, apart from its scope. -/
structure CallSite.TellsOf (site : CallSite) (s : Spot) : Prop where
  callee : s.node.role? "function" = some site.callee
  arguments : (s.node.role? "arguments").map
    (fun list => list.namedChildren.filter fun a => a.kind != "comment") =
    some site.arguments
  line : site.line = s.node.line

end RouteCensus
