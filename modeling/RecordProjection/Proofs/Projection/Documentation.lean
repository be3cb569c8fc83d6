import RecordProjection.Proofs.Directive.Literal
import RecordProjection.Proofs.Directive.Slicing
import RecordProjection.Proofs.Projection.Annotations

/-! Documentation as an annotation. It is read as three tokens whatever its text is made of and
whatever follows it, and the text comes back out of the last of them. A text that replaces another
one leaves nothing of it. -/

namespace RecordProjection
open Directive Text

def documentationTokens (text : String) : List Token :=
  [⟨.ident, documentationPath, 0, 3⟩, ⟨.punct, "=", 4, 5⟩,
    ⟨.string, literal text, 6, (documentation text).length⟩]

theorem toList_documentation (text : String) :
    (documentation text).toList =
      "doc".toList ++ (' ' :: ("=".toList ++ (' ' :: (literal text).toList))) := by
  have marks : (documentationPath ++ " = ").toList = "doc".toList ++ (' ' :: "= ".toList) := by
    decide
  rw [documentation, literal, String.toList_ofList, String.toList_ofList, marks]
  simp

theorem length_documentation (text : String) :
    (documentation text).length = 6 + (literal text).toList.length := by
  rw [← String.length_toList, toList_documentation]
  simp only [List.length_append, List.length_cons]
  have words : "doc".toList.length = 3 ∧ "=".toList.length = 1 := by decide
  omega

theorem isLexeme_equals : IsLexeme .punct "=".toList := ⟨'=', [], rfl, by decide, rfl⟩

theorem wordEnds_blank {c : Char} (blank : isBlank c = true) (word rest : List Char) :
    WordEnds word (c :: rest) := by
  rintro - - - d ⟨⟩
  exact isIdentChar_of_isBlank blank

theorem tokenize_documentation_append (text more : String) :
    tokenize (documentation text ++ more) = documentationTokens text ++
      (tokenize more).map (Token.moved (documentation text).length) := by
  have space : isBlank ' ' = true := by decide
  have solo := isSolo_literal text
  have quoted : (literal text).toList ≠ [doubleQuote] := fun same =>
    solo.unquoted (String.toList_inj.1 same)
  have ends : WordEnds (literal text).toList more.toList := fun c last word =>
    absurd word (solo.closed c last)
  rw [tokenize, String.toList_append, toList_documentation]
  simp only [List.append_assoc, List.cons_append]
  rw [scan_lexeme_append (isLexeme_of_isIdentifier (by decide)) (by decide)
      (wordEnds_blank space _ _),
    scan_blank space, scan_lexeme_append isLexeme_equals (by decide) (wordEnds_blank space _ _),
    scan_blank space, scan_lexeme_append (isLexeme_literal text) quoted ends]
  have behind := scan_moved 0 (documentation text).length more.toList
  rw [Nat.zero_add] at behind
  rw [tokenize, ← behind, documentationTokens, length_documentation, String.ofList_toList]
  have word : "doc".toList.length = 3 := by decide
  have mark : "=".toList.length = 1 := by decide
  simp only [word, mark, Nat.zero_add, Nat.reduceAdd, String.ofList_toList, List.cons_append,
    List.nil_append, documentationPath]

theorem tokenize_documentation (text : String) :
    tokenize (documentation text) = documentationTokens text := by
  have tokens := tokenize_documentation_append text ""
  have nothing : tokenize "" = [] := scan_nil 0
  rw [String.append_empty, nothing, List.map_nil, List.append_nil] at tokens
  exact tokens

theorem documentation_injective : Function.Injective documentation := by
  intro one other same
  have tokens := congrArg tokenize same
  rw [tokenize_documentation, tokenize_documentation] at tokens
  have literals : literal one = literal other := by
    simp only [documentationTokens, List.cons.injEq, Token.mk.injEq] at tokens
    exact tokens.2.2.1.2.1
  rw [← unquote_literal one, literals, unquote_literal]

def documentationPlace (annotations : List String) : Nat :=
  if annotations.any isDocumentation then annotations.findIdx isDocumentation else 0

theorem replaceDocumentation_congr {one other : List String} (replacement : String)
    (others : one.filter (fun note => !isDocumentation note) =
      other.filter fun note => !isDocumentation note)
    (place : documentationPlace one = documentationPlace other) :
    replaceDocumentation replacement one = replaceDocumentation replacement other := by
  obtain ⟨before, after, first, rest, start⟩ := replaceDocumentation_eq replacement one
  obtain ⟨front, back, second, same, position⟩ := replaceDocumentation_eq replacement other
  obtain ⟨heads, tails⟩ :=
    List.append_inj (rest.trans (others.trans same.symm)) (start.trans (place.trans position.symm))
  rw [first, second, heads, tails]

theorem replaceDocumentation_again (annotations : List String) (first second : String) :
    replaceDocumentation (documentation second)
        (replaceDocumentation (documentation first) annotations) =
      replaceDocumentation (documentation second) annotations := by
  obtain ⟨before, after, replaced, rest, -⟩ :=
    replaceDocumentation_eq (documentation first) annotations
  have documents := isDocumentation_documentation first
  refine replaceDocumentation_congr _ ?_ ?_
  · rw [replaced, List.filter_append, List.filter_cons_of_neg (by simp [documents]),
      ← List.filter_append, rest, List.filter_filter]
    simp only [Bool.and_self]
  · have present : (replaceDocumentation (documentation first) annotations).any isDocumentation =
        true := by
      rw [replaced]
      simp [documents]
    rw [documentationPlace, if_pos present]
    exact (isDocumented_replaceDocumentation first annotations).place

/-- Documentation is three tokens, the last of which is a string that ends it and holds its text. It
is known by its path, is no directive, and takes the place of other documentation whole. -/
theorem documentation_delimited :
    (∀ text : String,
      tokenize (documentation text) = [⟨.ident, "doc", 0, 3⟩, ⟨.punct, "=", 4, 5⟩,
          ⟨.string, literal text, 6, (documentation text).length⟩] ∧
        unquote (literal text) = text ∧ leadingPath (documentation text) = some "doc" ∧
        isDirective (documentation text) = false) ∧
    (∀ text more : String, tokenize (documentation text ++ more) =
      tokenize (documentation text) ++
        (tokenize more).map (Token.moved (documentation text).length)) ∧
    (∀ one other : String, documentation one = documentation other ↔ one = other) ∧
    ∀ (annotations : List String) (first second : String),
      overrideDocumentation (some second) (overrideDocumentation (some first) annotations) =
        overrideDocumentation (some second) annotations := by
  refine ⟨fun text => ⟨tokenize_documentation text, unquote_literal text,
    leadingPath_documentation text, isDirective_documentation text⟩, ?_, ?_, ?_⟩
  · intro text more
    rw [tokenize_documentation, tokenize_documentation_append]
  · exact fun one other => documentation_injective.eq_iff
  · exact replaceDocumentation_again

end RecordProjection
