import RecordProjection.Directive.Reading
import RecordProjection.Text.Case
import RecordProjection.Text.Display

/-!
Summaries of records, one row of a table each, and the search for rows by a piece of a name. Upper
and lower case are the same to the search.
-/

namespace RecordProjection

open Text

structure RecordSummary where
  name : String
  kind : String := "struct"
  fieldCount : Int := 0
  /-- The projections to create, none where the record has no usable directive. -/
  projections : List String := []
  usesDirectives : Bool := false
deriving DecidableEq, Repr

def Record.summary (record : Record) : RecordSummary where
  name := record.name
  kind := record.kind
  fieldCount := record.fields.length
  projections := record.parse.declared.elim [] Declared.projections
  usesDirectives := record.usesDirectives

def fieldCountText (count : Int) : String :=
  s!"{count} " ++ if count = 1 then "field" else "fields"

def occursIn (piece : List Char) : List Char → Bool
  | [] => piece.isEmpty
  | c :: rest => piece.isPrefixOf (c :: rest) || occursIn piece rest

def mentions (piece name : String) : Bool := occursIn (lower piece).toList (lower name).toList

def RecordSummary.mentions (summary : RecordSummary) (piece : String) : Bool :=
  (summary.name :: summary.projections).any (RecordProjection.mentions piece)

def searchSummaries (piece : String) (summaries : List RecordSummary) : List RecordSummary :=
  summaries.filter fun summary => summary.mentions piece

end RecordProjection
