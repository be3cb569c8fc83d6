import RecordProjection.Markup.Allowance
import RecordProjection.Markup.Content
import RecordProjection.Markup.Declaration
import RecordProjection.Markup.Encoding
import RecordProjection.Markup.Prolog

/-!
Reading a document: its encoding, its declaration, what stands before the root, the root, and what
stands after it. The first fault is the one that is reported.
-/

namespace RecordProjection.Markup

def readRoot (size : Nat) (ending : Ending) (standalone : Bool) (text : List Char) :
    Except Mishap Element :=
  match readProlog { standalone } .before (prologTokens ending text) with
  | .error mishap => .error mishap
  | .ok (declarations, body) =>
    let entities := declarations.entities
    match grow declarations entities 0 [] (admitted entities size (pieces ending body)) with
    | .error mishap => .error mishap
    | .ok (.unfinished _) => .error ⟨.noElement, []⟩
    | .ok (.finished root rest) =>
      match checkEpilog (prologTokens ending rest) with
      | .error mishap => .error mishap
      | .ok () => .ok root

def located {α : Type} (document : List Char) : Except Mishap α → Except DocumentFault α
  | .ok value => .ok value
  | .error mishap => .error (mishap.locate document)

/-- The root of a document that turns out to be in another encoding than its first octets show. The
declaration, of which `consumed` is the size, is not read again. -/
def readRedeclared (encoding : Encoding) (octets : ByteArray) (consumed : Nat) (standalone : Bool) :
    Except DocumentFault Element :=
  let document := (encoding.decode octets).1
  let (body, ending) := encoding.decode (octets.extract consumed octets.size)
  located document (readRoot octets.size ending standalone body)

def readDocument (octets : ByteArray) : Except DocumentFault Element :=
  match Encoding.detect? octets with
  | none => .error (.malformed .unclosedToken 1 0)
  | some (encoding, markSize) =>
    let (document, ending) := encoding.decode octets
    let text := if markSize = 0 then document else document.drop 1
    match scanDocumentDeclaration text with
    | .error mishap => .error (mishap.locate document)
    | .ok none => located document (readRoot octets.size ending false text)
    | .ok (some (declaration, after)) =>
      match declaration.encoding with
      | none => located document (readRoot octets.size ending declaration.standalone after)
      | some (name, place) =>
        match encoding.redeclared name with
        | .error .conflict => .error (Mishap.locate ⟨.incorrectEncoding, place⟩ document)
        | .error .foreign => .error (Mishap.locate ⟨.foreignEncoding, place⟩ document)
        | .error (.lookup fault) => .error (.lookup fault)
        | .error (.codec fault) => .error (.codec fault)
        | .ok declared =>
          if declared = encoding then
            located document (readRoot octets.size ending declaration.standalone after)
          else
            readRedeclared declared octets
              (markSize + (text.length - after.length) * encoding.unitSize) declaration.standalone

end RecordProjection.Markup
