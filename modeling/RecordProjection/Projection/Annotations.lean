import RecordProjection.Directive.Reading

/-!
The annotations a record or a field has where it is emitted: those that are no directives, then the
ones added by the overrides that match, then the documentation override in place of other
documentation.
-/

namespace RecordProjection

open Directive

def applyOverrides (annotations : List String) (overrides : List Override) (target : String) :
    List String :=
  annotations ++
    (overrides.filter fun override => override.selector.matches? target).map Override.added

def ParsedField.annotationsIn (field : ParsedField) (target : String) : List String :=
  overrideDocumentation (field.membership.documentationFor target)
    (applyOverrides field.passthrough field.overrides target)

def ParsedRecord.documentationFor (parsed : ParsedRecord) (target : String) : Option String :=
  parsed.declared.bind fun declared => declared.documentation.lookup target

def ParsedRecord.annotationsIn (parsed : ParsedRecord) (target : String) : List String :=
  overrideDocumentation (parsed.documentationFor target)
    (applyOverrides parsed.passthrough parsed.overrides target)

end RecordProjection
