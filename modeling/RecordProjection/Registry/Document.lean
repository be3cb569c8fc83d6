import RecordProjection.Markup.Document
import RecordProjection.Registry.Reading
import RecordProjection.Registry.Writing

/-!
Registries as documents: the records that a document holds, or why there are none.
-/

namespace RecordProjection

open Markup

inductive ReadFault
  | document (fault : DocumentFault)
  | registry (fault : RegistryFault)
deriving DecidableEq, Repr

def ReadFault.message : ReadFault → String
  | document fault => fault.message
  | registry fault => fault.message

def readRecords (octets : ByteArray) : Except ReadFault (List Record) :=
  match readDocument octets with
  | .error fault => .error (.document fault)
  | .ok root =>
    match recordsOf root with
    | .error fault => .error (.registry fault)
    | .ok records => .ok records

end RecordProjection
