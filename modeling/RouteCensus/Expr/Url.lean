import RouteCensus.Expr.Literal

/-! # URL text of an expression

A URL is written as a string, a template or a sum with a string or template in
it.  Its literal parts are kept, and every embedded expression becomes a
placeholder: the name of an identifier, or a number counted over the whole URL.
-/

namespace RouteCensus

/-- A part of a URL expression: fixed text, or an embedded expression if there is one. -/
inductive UrlPiece where
  | text (s : List Char)
  | hole (expr : Option Node)
  deriving Repr

def placeholder (position : Nat) (expr : Option Node) : List Char :=
  let name := match expr.map Node.unwrap with
    | some e => if e.kind == "identifier" then e.text.toList else "param".toList ++ Nat.toDigits 10 position
    | none => "param".toList ++ Nat.toDigits 10 position
  '{' :: name ++ ['}']

/-- The text of the pieces, when `count` embedded expressions stand before them. -/
def fillPieces (count : Nat) : List UrlPiece → List Char
  | [] => []
  | .text s :: rest => s ++ fillPieces count rest
  | .hole expr :: rest => placeholder (count + 1) expr ++ fillPieces (count + 1) rest

def textBetween (bytes : List UInt8) (first last : Nat) : List Char :=
  Text.Utf8.decodeLenient ((bytes.take last).drop first)

/-- The pieces of a template from the offset `cursor` on.  Offsets count from `base`, the place of
the opening mark. -/
def templatePiecesFrom (bytes : List UInt8) (base cursor : Nat) : List Node → List UrlPiece
  | [] => [.text (textBetween bytes cursor (bytes.length - 1))]
  | child :: rest =>
    if child.kind == "template_substitution" then
      .text (textBetween bytes cursor (child.label.start - base)) ::
        .hole child.namedChildren.head? ::
          templatePiecesFrom bytes base (child.label.stop - base) rest
    else
      templatePiecesFrom bytes base cursor rest

/-- The source text outside the substitutions, without the two marks, and the substitutions. -/
def Node.templatePieces (n : Node) : List UrlPiece :=
  templatePiecesFrom n.label.bytes n.label.start 1 n.children

namespace Node

def isSum (n : Node) : Bool :=
  n.kind == "binary_expression" && (n.role? "operator").any fun op => op.text == "+"

mutual

/-- The operands of a sum in source order, sums inside it and wrappers opened. -/
def operands? : Node → Option (List Node)
  | mk label children =>
    if isWrapperKind label.kind then
      operandsOfFirst? children
    else if (mk label children).isSum then
      match sideOperands? "left" children, sideOperands? "right" children with
      | some left, some right => some (left ++ right)
      | _, _ => none
    else
      none

def operandsOfFirst? : List Node → Option (List Node)
  | [] => none
  | child :: rest => if child.named then child.operands? else operandsOfFirst? rest

def sideOperands? (role : String) : List Node → Option (List Node)
  | [] => none
  | child :: rest =>
    if child.label.field == some role then
      match child.operands? with
      | some nested => some nested
      | none => some [child.unwrap]
    else
      sideOperands? role rest

end

def isTextual (n : Node) : Bool :=
  n.kind == "string" || n.kind == "template_string"

def operandPieces (n : Node) : List UrlPiece :=
  if n.kind == "string" then [.text n.stringChars]
  else if n.kind == "template_string" then n.templatePieces
  else [.hole (some n)]

def urlPieces? (n : Node) : Option (List UrlPiece) :=
  if n.isTextual then
    some n.operandPieces
  else
    match n.operands? with
    | none => none
    | some operands => if operands.any isTextual then some (operands.flatMap operandPieces) else none

def literalUrl? (n : Node) : Option String :=
  n.urlPieces?.map fun pieces => String.ofList (fillPieces 0 pieces)

/-- The URL text of an expression.  An identifier is resolved once, to an initialiser that must
itself be a URL expression. -/
def url? (resolve : String → Option Node) (n : Node) : Option String :=
  let inner := n.unwrap
  if inner.kind == "identifier" then
    match (resolve inner.text).map unwrap with
    | none => none
    | some init => if init.kind == "identifier" then none else init.literalUrl?
  else
    inner.literalUrl?

end Node
end RouteCensus
