import RecordProjection.Text.Display
import RecordProjection.Text.Numeral

/-!
What can be wrong with a registry whose markup is sound.
-/

namespace RecordProjection

open Text

inductive RegistryFault
  | wrongRoot (tag : String)
  | invalidName (name : String)
  | missingType (record field : String)
  /-- A conversion that does not say of what, or by which method. -/
  | incompleteConversion (record : String)
  | invalidIndex (record tag key value : String)
  /-- An index that is made of digits and still denotes no number. -/
  | unreadableIndex (cause : NumeralFault)
deriving DecidableEq, Repr

def shownNumeralLength : Nat := 200

def numeralMessage : NumeralFault → String
  | .unreadable text =>
    let shown := String.ofList ((quoted text).toList.take shownNumeralLength)
    s!"invalid literal for int() with base 10: {shown}"
  | .tooLong digits =>
    s!"Exceeds the limit ({maxDigits} digits) for integer string conversion: value has {digits} " ++
      "digits; use sys.set_int_max_str_digits() to increase the limit"

def RegistryFault.message : RegistryFault → String
  | wrongRoot tag => s!"expected a <records> root element, found <{tag}>"
  | invalidName name => s!"record element has an invalid name: {quoted name}"
  | missingType record field => s!"field {record}.{field} is missing its type attribute"
  | incompleteConversion record => s!"conversion of {record} needs from and method attributes"
  | invalidIndex record tag key value =>
    s!"conversion of {record}: <{tag}> has an invalid {key} attribute: {quoted value}"
  | unreadableIndex cause => numeralMessage cause

end RecordProjection
