import OperationHooks.GraphQL.BlockString
import OperationHooks.GraphQL.Fault

/-!
# Where a fault is

Lines and columns, counted from one, and the lines of the source that a report shows. A line ends
with a line feed, a carriage return, or both together.
-/

namespace OperationHooks

/-- A text with a single line feed for every line end. -/
def unifyLineEnds : List Char → List Char
  | '\r' :: '\n' :: r => '\n' :: unifyLineEnds r
  | '\r' :: r => '\n' :: unifyLineEnds r
  | c :: r => c :: unifyLineEnds r
  | [] => []

/-- The lines of a source. -/
def sourceLines (source : List Char) : List (List Char) := splitLines (unifyLineEnds source)

/-- A place in a source, both numbers counted from one. -/
structure Location where
  line : Nat
  column : Nat
deriving DecidableEq, Repr

/-- The place that so many characters are left behind. -/
def Location.of (source : List Char) (left : Nat) : Location :=
  let passed := sourceLines (source.take (source.length - left))
  ⟨passed.length, (passed.getLast?.getD []).length + 1⟩

/-- The place of a fault. -/
def SourceError.location (e : SourceError) (source : String) : Location :=
  .of source.toList e.left

/-! ### Reports -/

/-- A text moved to the right end of so many columns. -/
def padLeft (width : Nat) (text : String) : String :=
  String.ofList (List.replicate (width - text.length) ' ') ++ text

/-- Lines with their labels moved to the right; lines that do not exist are left out. -/
def labelled (rows : List (String × Option String)) : String :=
  let shown := rows.filterMap (fun (label, line?) => line?.map (label, ·))
  let width := shown.foldl (fun w (label, _) => max w label.length) 0
  "\n".intercalate (shown.map fun (label, line) =>
    padLeft width label ++ (if line = "" then "" else " " ++ line))

/-- Pieces of a line, each so long but for the last. -/
def pieces (size : Nat) (fuel : Nat) (line : List Char) : List String :=
  match fuel with
  | 0 => []
  | fuel + 1 =>
    if line.isEmpty then []
    else String.ofList (line.take size) :: pieces size fuel (line.drop size)

/-- The mark under a column. -/
def caret (column : Nat) : String := padLeft column "^"

/-- Lines longer than this are shown in pieces. -/
def longLine : Nat := 120

/-- The length of the pieces of a long line. -/
def pieceLength : Nat := 80

/-- The lines around a place with a mark under it: the line before, the line itself and the line
after. A long line is shown alone, in pieces up to the one behind the mark; the end of the line is
marked behind its last piece. -/
def excerpt (source : List Char) (place : Location) : String :=
  let lines := sourceLines source
  let line (n : Nat) : Option String :=
    if n = 0 then none else (lines[n - 1]?).map String.ofList
  let label (n : Nat) : String := toString n ++ " |"
  let this := (line place.line).getD ""
  if this.length > longLine then
    let parts := pieces pieceLength this.length this.toList
    let index := min ((place.column - 1) / pieceLength) (parts.length - 1)
    let shown := (parts.drop 1).take index
    labelled ((label place.line, parts.head?) :: shown.map (fun p => ("|", some p))
      ++ [("|", some (caret (place.column - pieceLength * index))), ("|", parts[index + 1]?)])
  else
    labelled [(label (place.line - 1), line (place.line - 1)), (label place.line, some this),
      ("|", some (caret place.column)), (label (place.line + 1), line (place.line + 1))]

/-- A place as it is reported to a reader, with its excerpt. -/
def placeReport (source : String) (place : Location) : String :=
  "\n\nGraphQL request:" ++ toString place.line ++ ":" ++ toString place.column ++ "\n"
    ++ excerpt source.toList place

/-- A fault as it is reported to a reader: wording, place, excerpt. -/
def SourceError.report (e : SourceError) (source : String) : String :=
  e.message ++ placeReport source (e.location source)

end OperationHooks
