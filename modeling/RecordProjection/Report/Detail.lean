import RecordProjection.Projection.Expansion
import RecordProjection.Report.Table

/-!
Everything about one record: its summary and the definitions it expands to, or the diagnostics that
keep it from expanding. A record without directives is shown as it stands.
-/

namespace RecordProjection

open Text

structure RecordDetail where
  summary : RecordSummary
  definitions : List Definition
  diagnostics : List Diagnostic

def Record.detail (record : Record) : Except InvariantFault RecordDetail :=
  if record.usesDirectives then
    record.expand.map fun expansion =>
      ⟨record.summary, expansion.definitions, expansion.diagnostics⟩
  else .ok ⟨record.summary, [record.unchanged], []⟩

/-- The detail of the first record with a name. -/
def detailOf? (records : List Record) (name : String) :
    Except InvariantFault (Option RecordDetail) :=
  (records.find? fun record => record.name == name).mapM Record.detail

def Generic.render (generic : Generic) : String :=
  let bounds := generic.bounds.getD ""
  if bounds.isEmpty then generic.name else s!"{generic.name}: {bounds}"

def renderGenerics (generics : List Generic) : String :=
  if generics.isEmpty then "" else "<" ++ commaSeparated (generics.map Generic.render) ++ ">"

def fieldLines (indent : String) (label : String) (field : Field) : List String :=
  let visibility := if field.visibility.isEmpty then "" else field.visibility ++ " "
  field.annotations.map (fun note => s!"{indent}    @{note}") ++
    [s!"{indent}    {visibility}{label}: {field.type}"]

def conversionLines (indent : String) (conversion : Option ConversionPlan) : List String :=
  match conversion with
  | none => []
  | some plan =>
    if plan.arguments.isEmpty then []
    else
      let missing := commaSeparated (plan.arguments.map ConversionArgument.name)
      [s!"{indent}    -> {plan.method}({missing})"]

def Definition.lines (definition : Definition) (indent : String) : List String :=
  definition.annotations.map (fun note => s!"{indent}@{note}") ++
    [s!"{indent}{definition.name}{renderGenerics definition.generics}"] ++
    (definition.fieldNames.zip definition.fields).flatMap
      (fun (label, field) => fieldLines indent label field) ++
    conversionLines indent definition.conversion

def diagnosticLines (diagnostics : List Diagnostic) : List String :=
  if diagnostics.isEmpty then []
  else
    ["", s!"  Diagnostics ({diagnostics.length}):"] ++
      diagnostics.flatMap fun diagnostic =>
        (Text.lines diagnostic.render).map fun line => "    " ++ line

def RecordDetail.render (detail : RecordDetail) : String :=
  let summary := detail.summary
  let projections :=
    if summary.projections.isEmpty then "none" else commaSeparated summary.projections
  joinLines (
    [s!"{summary.name} ({summary.kind}, {fieldCountText summary.fieldCount})",
      s!"  Projections: {projections}"] ++
      diagnosticLines detail.diagnostics ++
      detail.definitions.flatMap (fun definition => "" :: definition.lines "  ") ++ [""])

end RecordProjection
