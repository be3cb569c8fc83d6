import RecordProjection.Markup.Writer
import RecordProjection.Projection.Definition

/-!
Writing definitions as the elements of a registry. What reads back as its default is left out:
absent or empty bounds, an empty visibility, the name of a field that has none.
-/

namespace RecordProjection

open Markup

def annotationElement (note : String) : Element := { tag := "annotation", text := note }

def unlessEmpty (name value : String) : List (String × String) :=
  if value.isEmpty then [] else [(name, value)]

def Generic.element (generic : Generic) : Element where
  tag := "generic"
  attributes := ("name", generic.name) :: unlessEmpty "bounds" (generic.bounds.getD "")

def Field.element (field : Field) : Element where
  tag := "field"
  attributes :=
    (field.name.map fun name => ("name", name)).toList ++
      unlessEmpty "visibility" field.visibility ++ [("type", field.type)]
  children := field.annotations.map annotationElement

def keptElement (pair : Int × Int) : Element where
  tag := "keep"
  attributes := [("source-index", toString pair.1), ("index", toString pair.2)]

def ConversionArgument.element (argument : ConversionArgument) : Element where
  tag := "argument"
  attributes :=
    [("source-index", toString argument.sourceIndex), ("name", argument.name),
      ("type", argument.type)]

def ConversionPlan.element (plan : ConversionPlan) : Element where
  tag := "conversion"
  attributes := [("from", plan.source), ("method", plan.method)]
  children := plan.kept.map keptElement ++ plan.arguments.map ConversionArgument.element

def Definition.element (definition : Definition) : Element where
  tag := "record"
  attributes := [("name", definition.name), ("kind", definition.kind)]
  children :=
    definition.generics.map Generic.element ++ definition.annotations.map annotationElement ++
      definition.fields.map Field.element ++
      (definition.conversion.map ConversionPlan.element).toList

def registryElement (definitions : List Definition) : Element where
  tag := "records"
  children := definitions.map Definition.element

def registryDocument (definitions : List Definition) : String :=
  renderDocument (registryElement definitions)

end RecordProjection
