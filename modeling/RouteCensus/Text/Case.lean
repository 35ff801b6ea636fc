import RouteCensus.Text.CaseTable

/-! # Upper and lower case

Full case mapping of text: one character may give several, and a capital sigma
becomes a final sigma at the end of a word.
-/

namespace RouteCensus.Text

private def shifted (shifts : List Shift) (expansions : List (Nat × List Nat)) (c : Char) : List Char :=
  match expansions.find? fun e => e.1 == c.toNat with
  | some e => e.2.map Char.ofNat
  | none =>
    match shifts.findSome? fun s => s.image? c.toNat with
    | some n => [Char.ofNat n]
    | none => [c]

def upperChar (c : Char) : List Char :=
  if c.toNat < 128 then [c.toUpper] else shifted upperShifts upperExpansions c

def lowerChar (c : Char) : List Char :=
  if c.toNat < 128 then [c.toLower] else shifted lowerShifts lowerExpansions c

def upper (s : List Char) : List Char :=
  s.flatMap upperChar

/-- Whether a cased character follows, case-ignorable ones skipped. -/
def casedNext (s : List Char) : Bool :=
  match s.dropWhile caseIgnorableRuns.has with
  | [] => false
  | c :: _ => casedRuns.has c

/-- Lower case of text after a cased character, case-ignorable ones skipped, or after none. -/
def lowerAfter (cased : Bool) : List Char → List Char
  | [] => []
  | c :: rest =>
    (if c == 'Σ' then [if cased && !casedNext rest then 'ς' else 'σ'] else lowerChar c) ++
      lowerAfter (if caseIgnorableRuns.has c then cased else casedRuns.has c) rest

def lower (s : List Char) : List Char :=
  lowerAfter false s

def upcase (s : String) : String :=
  String.ofList (upper s.toList)

def downcase (s : String) : String :=
  String.ofList (lower s.toList)

end RouteCensus.Text
