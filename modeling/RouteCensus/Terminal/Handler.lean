import RouteCensus.Terminal.Literal
import RouteCensus.Text.Blank
import RouteCensus.Text.Word

/-! # Handlers of tags

A tag may name a handler, with arguments in brackets or without, or hold a value
alone.  Arguments and values are constants.
-/

namespace RouteCensus.Terminal.Handler

/-- Whether the value of a tag is a proper handler, given the names of characters. -/
def isProper (isCharName : List Char → Bool) (parameters : List Char) : Bool :=
  let s := Text.trim parameters
  match s.dropWhile fun c => Text.isWord c || c == '.' with
  | [] => true
  | '(' :: rest =>
    if rest.getLast? == some ')' && !s.contains '\n' then Literal.isConstant isCharName ('(' :: rest)
    else Literal.isConstant isCharName s
  | _ => Literal.isConstant isCharName s

end RouteCensus.Terminal.Handler
