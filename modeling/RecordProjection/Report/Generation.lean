import RecordProjection.Projection.Expansion
import RecordProjection.Report.Table
import RecordProjection.Text.Numeral

/-!
The report on a generated registry: where it was read and written, what became of every record, and
how much was written.
-/

namespace RecordProjection

open Text

structure GenerationReport where
  label : String
  outcomes : List Outcome
  path : String
  lineCount : Int

def statusWidth : Nat := 11

def Outcome.status (outcome : Outcome) : String :=
  if outcome.expanded then "expanded" else "unchanged"

def Outcome.row (nameWidth : Nat) (outcome : Outcome) : String :=
  trimEnd ("    " ++ padEnd outcome.name nameWidth ++ "  " ++ padEnd outcome.status statusWidth ++
    commaSeparated outcome.projections)

def projectionCountText (count : Nat) : String :=
  s!"{count} " ++ if count = 1 then "projection" else "projections"

def allDefinitions (outcomes : List Outcome) : List Definition :=
  outcomes.flatMap Outcome.definitions

def GenerationReport.render (report : GenerationReport) : String :=
  let nameWidth := widest (report.outcomes.map Outcome.name)
  let written := (allDefinitions report.outcomes).length
  let projected := (report.outcomes.flatMap Outcome.projections).length
  joinLines (
    ["Projection records generated:", "", s!"  Input:      {report.label}",
      s!"  Output:     {report.path}", "", "  Records:"] ++
      report.outcomes.map (Outcome.row nameWidth) ++
      ["", s!"  Total: {written} records written ({projectionCountText projected}), " ++
        s!"{withThousands report.lineCount} lines", ""])

end RecordProjection
