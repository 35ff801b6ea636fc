import RouteCensus.Source.Node

/-! # Literals and wrappers

Brackets, casts and non-null marks around an expression do not change its
value.  A string literal stands for its fragments and its decoded escapes.
-/

namespace RouteCensus

def isWrapperKind (kind : String) : Bool :=
  ["parenthesized_expression", "as_expression", "satisfies_expression", "non_null_expression"].contains kind

namespace Node

mutual

/-- The expression inside all wrappers.  A wrapper around nothing stays. -/
def unwrap : Node → Node
  | mk label children =>
    if isWrapperKind label.kind then unwrapFirst (mk label children) children else mk label children

def unwrapFirst (whole : Node) : List Node → Node
  | [] => whole
  | child :: rest => if child.named then child.unwrap else unwrapFirst whole rest

end

end Node

/-- The character that a two-character escape stands for, by its second character. -/
def escapeChar : Char → Char
  | 'n' => '\n'
  | 't' => '\t'
  | 'r' => '\r'
  | 'b' => '\x08'
  | 'f' => '\x0c'
  | 'v' => '\x0b'
  | '0' => '\x00'
  | c => c

/-- Longer escapes and line continuations are kept as they are written. -/
def decodeEscapeChars : List Char → List Char
  | [_, c] => [escapeChar c]
  | raw => raw

def decodeEscape (raw : String) : String :=
  String.ofList (decodeEscapeChars raw.toList)

def stringPart (part : Node) : List Char :=
  if part.kind == "string_fragment" then part.text.toList
  else if part.kind == "escape_sequence" then decodeEscapeChars part.text.toList
  else []

def Node.stringChars (n : Node) : List Char :=
  n.children.flatMap stringPart

def Node.stringValue (n : Node) : String :=
  String.ofList n.stringChars

end RouteCensus
