import RouteCensus.Scope.Pattern
import RouteCensus.Scope.Table

/-! # Surveys

One walk over a tree, in pre-order and through named nodes only, collects the
scopes with all their declarations and every call with the scope it stands in.
Names are resolved afterwards, so a declaration counts for the whole of its
scope, also for calls before it.
-/

namespace RouteCensus

structure CallSite where
  callee : Node
  arguments : List Node
  scope : Int
  line : Nat
  deriving Repr

def functionKinds : List String :=
  ["function_declaration", "generator_function_declaration", "function_expression", "function",
    "generator_function", "arrow_function", "method_definition"]

def blockKinds : List String :=
  ["statement_block", "for_statement", "for_in_statement", "catch_clause", "switch_body", "class_body"]

def isFunctionKind (kind : String) : Bool :=
  functionKinds.contains kind

def isBlockKind (kind : String) : Bool :=
  blockKinds.contains kind

/-- A function body shares the scope of its function. -/
def sharesScope (parent : Option Node) (node : Node) : Bool :=
  node.kind == "statement_block" && parent.any fun p => isFunctionKind p.kind

def declarationKeyword (parent : Option Node) : String :=
  match parent with
  | none => ""
  | some p =>
    if p.kind == "variable_declaration" then "var"
    else if p.kind == "lexical_declaration" then
      match p.role? "kind" with
      | some keyword => keyword.text
      | none => textOf p.children.head?
    else ""

def bindingKindOf (keyword : String) : BindingKind :=
  if keyword == "const" then .constant else if keyword == "var" then .hoisted else .lexical

namespace ScopeTable

variable (t : ScopeTable Node)

/-- Declares the name that a node has in its role `name`, if it has one. -/
def insertName (id : Int) (node : Node) (kind : BindingKind) : ScopeTable Node :=
  match node.role? "name" with
  | some name => t.insert id { name := name.text, kind := kind }
  | none => t

/-- Only a plain name carries its initialiser; names of a pattern are bound without one. -/
def insertDeclarator (parent : Option Node) (scope : Int) (node : Node) : ScopeTable Node :=
  let keyword := declarationKeyword parent
  let target := if keyword == "var" then t.hoistTarget scope else scope
  let kind := bindingKindOf keyword
  match node.role? "name" with
  | none => t
  | some name =>
    if name.kind == "identifier" then
      t.insert target { name := name.text, kind := kind, init := node.role? "value" }
    else
      t.insertAll target name.boundNames kind

def importedNames (part : Node) : List String :=
  if part.kind == "identifier" then
    [part.text]
  else if part.kind == "namespace_import" then
    (part.namedChildren.filter fun n => n.kind == "identifier").map Node.text
  else if part.kind == "named_imports" then
    (part.namedChildren.filter fun n => n.kind == "import_specifier").filterMap fun spec =>
      ((spec.role? "alias").or (spec.role? "name")).map Node.text
  else
    []

/-- Imports belong to the program, wherever the statement stands. -/
def insertImports (node : Node) : ScopeTable Node :=
  let clauses := node.namedChildren.filter fun n => n.kind == "import_clause"
  t.insertAll program (clauses.flatMap fun clause => clause.namedChildren.flatMap importedNames) .imported

def enterFunction (scope : Int) (node : Node) : ScopeTable Node × Int :=
  let declares := node.kind == "function_declaration" || node.kind == "generator_function_declaration"
  let t := if declares then t.insertName scope node .function else t
  ((t.push .function scope).insertAll t.size node.parameterNames .parameter, t.size)

/-- The names in the head of a block: the parameter of a catch clause, the variables of a loop. -/
def insertHead (scope inner : Int) (node : Node) : ScopeTable Node :=
  if node.kind == "catch_clause" then
    t.insertAll inner (((node.role? "parameter").map Node.boundNames).getD []) .lexical
  else if node.kind == "for_in_statement" then
    match node.role? "kind" with
    | none => t
    | some keyword =>
      let names := ((node.role? "left").map Node.boundNames).getD []
      if keyword.text == "var" then t.insertAll (t.hoistTarget scope) names .hoisted
      else t.insertAll inner names .lexical
  else
    t

def enterBlock (parent : Option Node) (scope : Int) (node : Node) : ScopeTable Node × Int :=
  if sharesScope parent node then (t.insertHead scope scope node, scope)
  else ((t.push .block scope).insertHead scope t.size node, t.size)

/-- What a node declares, and the scope of its children. -/
def enter (parent : Option Node) (scope : Int) (node : Node) : ScopeTable Node × Int :=
  if isFunctionKind node.kind then t.enterFunction scope node
  else if isBlockKind node.kind then t.enterBlock parent scope node
  else if node.kind == "variable_declarator" then (t.insertDeclarator parent scope node, scope)
  else if node.kind == "class_declaration" || node.kind == "abstract_class_declaration" then
    (t.insertName scope node .classLike, scope)
  else if node.kind == "import_statement" then (t.insertImports node, scope)
  else (t, scope)

end ScopeTable

def callSite? (scope : Int) (node : Node) : Option CallSite :=
  if node.kind == "call_expression" then
    match node.role? "function", node.role? "arguments" with
    | some callee, some arguments =>
      if arguments.kind == "arguments" then
        some { callee := callee
               arguments := arguments.namedChildren.filter fun a => a.kind != "comment"
               scope := scope
               line := node.line }
      else none
    | _, _ => none
  else
    none

mutual

def Node.survey (parent : Option Node) (scope : Int) (t : ScopeTable Node) :
    Node → ScopeTable Node × List CallSite
  | .mk label children =>
    let node := Node.mk label children
    if label.named then
      let (t, inner) := t.enter parent scope node
      let (t, below) := surveyAll node inner t children
      (t, (callSite? scope node).toList ++ below)
    else
      (t, [])

def surveyAll (parent : Node) (scope : Int) (t : ScopeTable Node) :
    List Node → ScopeTable Node × List CallSite
  | [] => (t, [])
  | child :: rest =>
    let (t, here) := child.survey (some parent) scope t
    let (t, after) := surveyAll parent scope t rest
    (t, here ++ after)

end

/-- The scopes and the calls of a whole program, the calls in pre-order. -/
def Node.callSites (root : Node) : ScopeTable Node × List CallSite :=
  root.survey none ScopeTable.program {}

end RouteCensus
