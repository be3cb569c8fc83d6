import Mathlib.Algebra.Group.Int.Defs
import RecordProjection.Proofs.Registry.LineEnd

/-! Registries cannot be forged from inside. Whatever the texts of some definitions look like, the
document that is written for them holds the elements of these definitions and no others, and it is
accepted or refused as these elements are. -/

namespace RecordProjection
open Markup Text

/-- A written registry is read as the tree it was made of, but for the white space between elements;
so its records are those of the tree, and where there are none the fault is the same. -/
theorem reading_undoes_writing {definitions : List Definition}
    (writable : ∀ definition ∈ definitions, definition.Writable)
    (plain : ∀ definition ∈ definitions, ∀ note ∈ definition.allAnnotations, '\r' ∉ note.toList) :
    readDocument (registryDocument definitions).toUTF8 =
        .ok ((registryElement definitions).indented 0) ∧
      recordsOf ((registryElement definitions).indented 0) =
        recordsOf (registryElement definitions) ∧
      readRecords (registryDocument definitions).toUTF8 =
        (recordsOf (registryElement definitions)).mapError ReadFault.registry := by
  refine ⟨?_, recordsOf_indented 0 (registryElement definitions), ?_⟩
  · rw [readDocument_registryDocument writable, lineFed_map_eq_self plain]
  · rw [readRecords_registryDocument writable, lineFed_map_eq_self plain]

def hostileDefinition : Definition where
  name := "Row"
  kind := "\"/><record name='Fake'>\r\n\t<!--"
  generics := [⟨"T\"&#34;", some "]]>\n"⟩, ⟨"&amp;'", none⟩]
  annotations := ["</annotation><field type=\"u8\"/>]]>", " \n\t ", "<![CDATA[ &lt; ]]>"]
  fields := [⟨some "a\" b=\"c", " ", "Vec<&'a str>", ["\u0085--> & <?xml?>"]⟩, ⟨none, "", "\n", []⟩]
  sourceIndices := [0, 1]
  conversion := some ⟨"</records>", "'\"\t", [(0, 10 ^ 20)], [⟨7, "&", ">"⟩]⟩

theorem reading_undoes_writing_hostile :
    readRecords (registryDocument [hostileDefinition]).toUTF8 = .ok [{
        name := "Row"
        kind := "\"/><record name='Fake'>\r\n\t<!--"
        generics := [⟨"T\"&#34;", some "]]>\n"⟩, ⟨"&amp;'", none⟩]
        annotations := ["</annotation><field type=\"u8\"/>]]>", "", "<![CDATA[ &lt; ]]>"]
        fields := [⟨some "a\" b=\"c", " ", "Vec<&'a str>", ["--> & <?xml?>"]⟩, ⟨none, "", "\n", []⟩]
        conversion := some ⟨"</records>", "'\"\t", [(0, 10 ^ 20)], [⟨7, "&", ">"⟩]⟩ }] ∧
      readRecords (registryDocument
          [hostileDefinition, { hostileDefinition with name := "R\"/><" }]).toUTF8 =
        .error (.registry (.invalidName "R\"/><")) := by
  have sound : ∀ definition ∈ [hostileDefinition, { hostileDefinition with name := "R\"/><" }],
      definition.Writable ∧ ∀ note ∈ definition.allAnnotations, '\r' ∉ note.toList := by
    decide +kernel
  have own : ∀ definition ∈ [hostileDefinition],
      definition.Writable ∧ ∀ note ∈ definition.allAnnotations, '\r' ∉ note.toList :=
    List.forall_mem_singleton.2 (sound hostileDefinition List.mem_cons_self)
  have accepted := (reading_undoes_writing (fun definition member => (own definition member).1)
    fun definition member => (own definition member).2).2.2
  have refused := (reading_undoes_writing (fun definition member => (sound definition member).1)
    fun definition member => (sound definition member).2).2.2
  exact ⟨accepted.trans (by decide +kernel), refused.trans (by decide +kernel)⟩

end RecordProjection
