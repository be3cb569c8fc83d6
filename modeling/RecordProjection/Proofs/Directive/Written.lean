import RecordProjection.Proofs.Directive.Lexeme
import RecordProjection.Proofs.Reading

/-! Tokens by their words. Tokens that are written with some words come apart as the words do: into
the first one and the others, what stands between parentheses, and the items of a list. -/

namespace RecordProjection.Directive

structure IsWritten (words : List String) (tokens : List Token) : Prop where
  lexical : ∀ token ∈ tokens, token.IsLexical
  texts : tokens.map Token.text = words

theorem isWritten_tokenize {words : List String} {text : String}
    (spaced : Spaced words text.toList) (legible : Legible words) :
    IsWritten words (tokenize text) :=
  ⟨fun _ => isLexical_of_mem_tokenize, texts_of_spaced spaced legible 0⟩

namespace IsWritten
variable {word : String} {words first second : List String} {tokens : List Token}

theorem eq_nil (written : IsWritten [] tokens) : tokens = [] := List.map_eq_nil_iff.1 written.texts

theorem cons (written : IsWritten (word :: words) tokens) :
    ∃ token rest, tokens = token :: rest ∧ token.IsLexical ∧ token.text = word ∧
      IsWritten words rest := by
  obtain ⟨lexical, texts⟩ := written
  obtain ⟨token, rest, rfl, own, others⟩ := List.map_eq_cons_iff.1 texts
  obtain ⟨front, behind⟩ := List.forall_mem_cons.1 lexical
  exact ⟨token, rest, rfl, front, own, behind, others⟩

theorem single (written : IsWritten [word] tokens) :
    ∃ token, tokens = [token] ∧ token.IsLexical ∧ token.text = word := by
  obtain ⟨token, rest, rfl, lexical, own, nothing⟩ := written.cons
  exact ⟨token, by rw [nothing.eq_nil], lexical, own⟩

theorem append (written : IsWritten (first ++ second) tokens) :
    ∃ front back, tokens = front ++ back ∧ IsWritten first front ∧ IsWritten second back := by
  obtain ⟨lexical, texts⟩ := written
  obtain ⟨front, back, rfl, one, other⟩ := List.map_eq_append_iff.1 texts
  obtain ⟨earlier, later⟩ := List.forall_mem_append.1 lexical
  exact ⟨front, back, rfl, ⟨earlier, one⟩, later, other⟩

theorem enclosed (written : IsWritten ("(" :: (words ++ [")"])) tokens) :
    ∃ opener middle closer, tokens = opener :: (middle ++ [closer]) ∧
      (opener.kind = .opening ∧ opener.text = "(") ∧ IsWritten words middle ∧
      closer.IsCloser ")" := by
  obtain ⟨opener, rest, rfl, opens, parenthesis, behind⟩ := written.cons
  obtain ⟨middle, ending, rfl, within, last⟩ := behind.append
  obtain ⟨closer, rfl, closes, closing⟩ := last.single
  exact ⟨opener, middle, closer, rfl, ⟨opens.opening parenthesis, parenthesis⟩, within,
    closes.closing closing⟩

theorem comma (written : IsWritten words tokens) :
    ∀ token ∈ tokens, token.text = "," → token.IsComma :=
  fun token member => (written.lexical token member).comma

section Items
variable {α : Type} {spelling : α → List String} {entries : List α}

theorem pairs {items : List (List Token)} (written : IsWritten words tokens)
    (texts : items.map (List.map Token.text) = entries.map spelling)
    (parts : ∀ item ∈ items, item <:+: tokens) :
    ∃ pairs : List (List Token × α), pairs.map Prod.fst = items ∧ pairs.map Prod.snd = entries ∧
      ∀ pair ∈ pairs, IsWritten (spelling pair.2) pair.1 := by
  obtain ⟨pairs, rfl, rfl, alike⟩ := pairs_of_map_eq texts
  refine ⟨pairs, rfl, rfl, fun pair member => ⟨fun token among => ?_, alike pair member⟩⟩
  exact written.lexical token ((parts pair.1 (List.mem_map_of_mem member)).subset among)

theorem joined (written : IsWritten words tokens)
    (joined : Joined (· = ",") (entries.map spelling) words) :
    ∃ pairs : List (List Token × α), pairs.map Prod.snd = entries ∧
      Joined Token.IsComma (pairs.map Prod.fst) tokens ∧
      ∀ pair ∈ pairs, IsWritten (spelling pair.2) pair.1 := by
  obtain ⟨items, texts, commas⟩ := Joined.of_map Token.text written.comma (written.texts ▸ joined)
  obtain ⟨pairs, rfl, rfl, each⟩ := written.pairs texts commas.contiguous
  exact ⟨pairs, rfl, commas, each⟩

theorem listed (written : IsWritten words tokens)
    (listed : Listed (· = ",") (entries.map spelling) words) :
    ∃ pairs : List (List Token × α), pairs.map Prod.snd = entries ∧
      Listed Token.IsComma (pairs.map Prod.fst) tokens ∧
      ∀ pair ∈ pairs, IsWritten (spelling pair.2) pair.1 := by
  obtain ⟨items, texts, commas⟩ := Listed.of_map Token.text written.comma (written.texts ▸ listed)
  obtain ⟨pairs, rfl, rfl, each⟩ := written.pairs texts commas.contiguous
  exact ⟨pairs, rfl, commas, each⟩

end Items

end IsWritten

end RecordProjection.Directive
