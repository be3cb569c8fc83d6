import RecordProjection.Report.Summary
import RecordProjection.Text.Character

/-!
The table of records: a heading with their number, and one line for each of them. The columns of
names and kinds are as wide as the widest entry.
-/

namespace RecordProjection

open Text

def joinLines (lines : List String) : String := String.intercalate "\n" lines

/-- The width of the column of field counts, which longer counts overrun. -/
def countWidth : Nat := 10

def tableRow (nameWidth kindWidth : Nat) (summary : RecordSummary) : String :=
  let columns :=
    "  " ++ padEnd summary.name nameWidth ++ "  " ++ padEnd summary.kind kindWidth ++ "  " ++
      padEnd (fieldCountText summary.fieldCount) countWidth
  trimEnd (
    if summary.projections.isEmpty then columns
    else columns ++ "  projections: " ++ commaSeparated summary.projections)

def recordsTable (summaries : List RecordSummary) (label : String) : String :=
  let nameWidth := widest (summaries.map RecordSummary.name)
  let kindWidth := widest (summaries.map RecordSummary.kind)
  joinLines (
    [s!"{summaries.length} records in {label}:", ""] ++
      summaries.map (tableRow nameWidth kindWidth) ++ [""])

end RecordProjection
