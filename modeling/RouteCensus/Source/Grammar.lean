import RouteCensus.Source.Node
import RouteCensus.Text.Case
import RouteCensus.Workspace.Path

/-! # Grammars and parsing

The grammar of a file follows from its suffix.  Source is accepted only if its
tree holds no error and no missing node.  A plain script gets a second chance
with the richest grammar, because it may carry type annotations.
-/

namespace RouteCensus

inductive Grammar where
  | javascript
  | typescript
  | tsx
  deriving DecidableEq, Repr

namespace Grammar

def name : Grammar → String
  | javascript => "javascript"
  | typescript => "typescript"
  | tsx => "tsx"

def ofName? (s : String) : Option Grammar :=
  [javascript, typescript, tsx].find? fun g => g.name == s

def ofSuffix (suffix : String) : Grammar :=
  let suffix := Text.downcase suffix
  if [".js", ".jsx", ".mjs", ".cjs"].contains suffix then javascript
  else if [".ts", ".mts", ".cts"].contains suffix then typescript
  else tsx

def ofPath (p : Path) : Grammar :=
  ofSuffix p.suffix

def fallback? : Grammar → Option Grammar
  | javascript => some tsx
  | _ => none

end Grammar

namespace Node

mutual

/-- The first error or missing node in pre-order, looked for in damaged nodes only. -/
def firstFault? : Node → Option Node
  | mk label children =>
    if label.error || label.missing then some (mk label children)
    else if label.damaged then firstFaultIn? children
    else none

def firstFaultIn? : List Node → Option Node
  | [] => none
  | n :: rest =>
    match firstFault? n with
    | some fault => some fault
    | none => firstFaultIn? rest

end

end Node

/-- Source that no grammar accepts: the line of the first fault, if one was found. -/
structure ParseError where
  line : Option Nat
  grammar : Grammar
  deriving DecidableEq, Repr

def ParseError.message (e : ParseError) : String :=
  let place := match e.line with
    | some line => s!"line {line}"
    | none => "unknown position"
  s!"syntax error near {place} ({e.grammar.name})"

/-- A parser gives a tree for every source text, damaged where the text does not fit the grammar. -/
abbrev Parser := Grammar → String → Node

/-- The tree of a source text, if it is whole. -/
def parseSource (parser : Parser) (source : String) (grammar : Grammar) : Except ParseError Node :=
  let tree := parser grammar source
  if tree.label.damaged then
    let retry := grammar.fallback?.map fun g => parser g source
    match retry.filter fun t => !t.label.damaged with
    | some t => .ok t
    | none => .error ⟨tree.firstFault?.map Node.line, grammar⟩
  else
    .ok tree

end RouteCensus
