import RouteCensus.Terminal.Table

/-! # Printing

A command prints messages with markup, tables whose cells have markup, and texts
as they are.  What markup looks like in print is up to the console, which may also
find something wrong with it.
-/

namespace RouteCensus.Command

inductive Item where
  | message (markup : String)
  | table (t : Terminal.Table)
  | raw (text : String)
  deriving DecidableEq, Repr

/-- The lines in which a message or a table is printed, or what is wrong with its markup. -/
structure Console where
  message : String → Except Terminal.Markup.Error (List (List Char))
  table : Terminal.Table → Except Terminal.Markup.Error (List (List Char))

namespace Console

def ofScreen (screen : Terminal.Screen) : Console where
  message := screen.messageLines
  table := screen.tableLines

def lines (console : Console) : Item → Except Terminal.Markup.Error (List (List Char))
  | .message markup => console.message markup
  | .table t => console.table t
  | .raw text => .ok [text.toList]

/-- Prints items up to the first one with wrong markup, and tells what is wrong there. -/
def printAll (console : Console) : List Item → List Char × Option Terminal.Markup.Error
  | [] => ([], none)
  | item :: rest =>
    match console.lines item with
    | .error cause => ([], some cause)
    | .ok lines =>
      let (text, wrong) := console.printAll rest
      ((lines.flatMap fun line => line ++ ['\n']) ++ text, wrong)

end Console

end RouteCensus.Command
