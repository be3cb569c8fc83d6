import Mathlib.Data.List.TakeWhile
import RecordProjection.Proofs.Markup.Escape

/-! Rendered tags. What is written as a tag is read back as one with the same name and the same
attributes, and what it opens holds them with their values as they were before escaping. -/

namespace RecordProjection.Markup
open Text

def isPlainName : List Char → Bool
  | [] => false
  | c :: rest => isNameStart c && rest.all isNameChar

theorem isNameChar_of_isNameStart {c : Char} (start : isNameStart c = true) :
    isNameChar c = true := by
  unfold isNameStart at start
  unfold isNameChar
  by_cases ascii : c.toNat < 0x80
  · rw [if_pos ascii, Bool.or_eq_true, decide_eq_true_eq] at start
    rw [if_pos ascii]
    rcases start with letter | rfl
    · simp [Char.isAlphanum, letter]
    · decide
  · rw [if_neg ascii] at start
    rw [if_neg ascii, start, Bool.true_or]

theorem isNameChar_of_isPlainName {name : List Char} (plain : isPlainName name = true) :
    ∀ c ∈ name, isNameChar c = true := by
  cases name with
  | nil => simp
  | cons first rest =>
    simp only [isPlainName, Bool.and_eq_true, List.all_eq_true] at plain
    intro c member
    rcases List.mem_cons.1 member with rfl | later
    · exact isNameChar_of_isNameStart plain.1
    · exact plain.2 c later

theorem colon_not_mem_of_isPlainName {name : List Char} (plain : isPlainName name = true) :
    ':' ∉ name :=
  fun member => absurd (isNameChar_of_isPlainName plain ':' member) (by decide)

def EndsName (c : Char) : Prop := c ≠ ':' ∧ isNameChar c = false

theorem scanName_append {name : List Char} {c : Char} (plain : isPlainName name = true)
    (ends : EndsName c) (rest : List Char) :
    scanName (name ++ c :: rest) = .ok (name, c :: rest) := by
  cases name with
  | nil => simp [isPlainName] at plain
  | cons first others =>
    simp only [isPlainName, Bool.and_eq_true, List.all_eq_true] at plain
    rw [List.cons_append, scanName, if_pos plain.1, List.takeWhile_append_of_pos plain.2,
      List.dropWhile_append_of_pos plain.2]
    simp [ends.2]

theorem scanQualified_append {name : List Char} {c : Char} (plain : isPlainName name = true)
    (ends : EndsName c) (rest : List Char) :
    scanQualified (name ++ c :: rest) = .ok (name, c :: rest) := by
  unfold scanQualified
  rw [scanName_append plain ends]
  have := ends.1
  split <;> simp_all

theorem skipSpaces_cons {c : Char} (solid : isSpace c = false) (rest : List Char) :
    skipSpaces (c :: rest) = c :: rest := by
  simp [skipSpaces, solid]

theorem isSpace_eq_false_of_isNameStart {c : Char} (start : isNameStart c = true) :
    isSpace c = false := by
  rw [Bool.eq_false_iff]
  intro space
  simp only [isSpace, Bool.or_eq_true, decide_eq_true_eq] at space
  rcases space with ((rfl | rfl) | rfl) | rfl <;> revert start <;> decide

theorem scanAttribute_append {name value : List Char} (plain : isPlainName name = true)
    (legal : Legal value) (rest : List Char) :
    ∃ raw, scanAttribute
        (name ++ '=' :: doubleQuote :: (escapeValue value ++ doubleQuote :: rest)) =
          .ok (raw, rest) ∧ (raw.name, raw.value) = (name, escapeValue value) := by
  have ends : EndsName '=' := ⟨by decide, by decide⟩
  have quoted : scanQuotedValue (doubleQuote :: (escapeValue value ++ doubleQuote :: rest)) =
      .ok (escapeValue value, rest) := by
    rw [scanQuotedValue, if_pos (by decide), scanValue_escapeValue rest legal]
  unfold scanAttribute
  rw [scanQualified_append plain ends]
  dsimp only
  rw [skipSpaces_cons (by decide)]
  simp only [skipSpaces_cons (show isSpace doubleQuote = false by decide), quoted]
  exact ⟨_, rfl, rfl⟩

def tagEnd (closed : Bool) (rest : List Char) : List Char :=
  if closed then " />".toList ++ rest else '>' :: rest

def writtenAttributes (attributes : List (String × String)) (closed : Bool) (rest : List Char) :
    List Char :=
  attributes.flatMap renderAttribute ++ tagEnd closed rest

theorem writtenAttributes_cons (name value : String) (attributes : List (String × String))
    (closed : Bool) (rest : List Char) :
    writtenAttributes ((name, value) :: attributes) closed rest =
      ' ' :: (name.toList ++ '=' :: doubleQuote ::
        (escapeValue value.toList ++ doubleQuote :: writtenAttributes attributes closed rest)) := by
  simp [writtenAttributes, renderAttribute]

theorem writtenAttributes_front (attributes : List (String × String)) (closed : Bool)
    (rest : List Char) :
    ∃ c text, writtenAttributes attributes closed rest = c :: text ∧ EndsName c := by
  have space : EndsName ' ' := ⟨by decide, by decide⟩
  have bracket : EndsName '>' := ⟨by decide, by decide⟩
  cases attributes with
  | nil =>
    cases closed with
    | false => exact ⟨_, _, rfl, bracket⟩
    | true => exact ⟨_, _, rfl, space⟩
  | cons first others => exact ⟨_, _, writtenAttributes_cons .., space⟩

structure WritableAttributes (attributes : List (String × String)) : Prop where
  plain : ∀ pair ∈ attributes, isPlainName pair.1.toList = true
  unbound : ∀ pair ∈ attributes, pair.1.toList ≠ qualifierXmlns
  distinct : (attributes.map Prod.fst).Nodup
  legal : ∀ pair ∈ attributes, Legal pair.2.toList

def writtenPairs (attributes : List (String × String)) : List (List Char × List Char) :=
  attributes.map fun pair => (pair.1.toList, escapeValue pair.2.toList)

theorem scanAttributes_written {attributes : List (String × String)}
    (plain : ∀ pair ∈ attributes, isPlainName pair.1.toList = true)
    (legal : ∀ pair ∈ attributes, Legal pair.2.toList) (closed : Bool)
    (rest : List Char) :
    ∃ raws, scanAttributes (writtenAttributes attributes closed rest) = .ok (raws, closed, rest) ∧
      raws.map (fun raw => (raw.name, raw.value)) = writtenPairs attributes := by
  induction attributes with
  | nil =>
    refine ⟨[], ?_, rfl⟩
    cases closed with
    | false =>
      rw [writtenAttributes, tagEnd, scanAttributes.eq_def]
      rfl
    | true =>
      rw [writtenAttributes, tagEnd, scanAttributes.eq_def]
      rfl
  | cons first others ih =>
    obtain ⟨name, value⟩ := first
    have named := plain _ List.mem_cons_self
    obtain ⟨raws, further, pairs⟩ := ih
      (fun pair member => plain pair (List.mem_cons_of_mem _ member))
      (fun pair member => legal pair (List.mem_cons_of_mem _ member))
    obtain ⟨raw, read, pair⟩ := scanAttribute_append named (legal _ List.mem_cons_self)
      (writtenAttributes others closed rest)
    refine ⟨raw :: raws, ?_, by rw [List.map_cons, pair, pairs]; rfl⟩
    rw [writtenAttributes_cons]
    generalize writtenAttributes others closed rest = after at further read ⊢
    cases spelled : name.toList with
    | nil => simp [spelled, isPlainName] at named
    | cons c more =>
      rw [spelled] at named read
      simp only [isPlainName, Bool.and_eq_true] at named
      have solid := isSpace_eq_false_of_isNameStart named.1
      rw [List.cons_append] at read ⊢
      rw [scanAttributes, if_pos (by decide), skipSpaces_cons solid]
      simp only [named.1, if_true]
      split
      · rename_i found
        cases found.symm.trans read
      · rename_i found
        cases found.symm.trans read
        rw [further]

theorem scanStartTag_written {tag : List Char} {attributes : List (String × String)}
    (named : isPlainName tag = true) (writable : WritableAttributes attributes) (closed : Bool)
    (rest : List Char) :
    ∃ raws, scanStartTag (tag ++ writtenAttributes attributes closed rest) =
        .ok (⟨tag, raws, closed⟩, rest) ∧
      raws.map (fun raw => (raw.name, raw.value)) = writtenPairs attributes := by
  obtain ⟨raws, read, pairs⟩ :=
    scanAttributes_written writable.plain writable.legal closed rest
  obtain ⟨c, text, front, ends⟩ := writtenAttributes_front attributes closed rest
  refine ⟨raws, ?_, pairs⟩
  rw [front] at read ⊢
  unfold scanStartTag
  rw [scanQualified_append named ends]
  dsimp only
  rw [read]

theorem scanEndTag_append {tag : List Char} (named : isPlainName tag = true) (rest : List Char) :
    scanEndTag (tag ++ '>' :: rest) = .ok (tag, rest) := by
  have chars : ∀ c ∈ tag, isTagNameChar c = true := fun c member => by
    rw [isTagNameChar, isNameChar_of_isPlainName named c member, Bool.true_or]
  cases tag with
  | nil => simp [isPlainName] at named
  | cons c more =>
    simp only [isPlainName, Bool.and_eq_true] at named
    have inside : ∀ d ∈ more, isTagNameChar d = true :=
      fun d member => chars d (List.mem_cons_of_mem c member)
    have stops : isTagNameChar '>' = false := by decide
    rw [List.cons_append, scanEndTag, if_pos named.1, List.dropWhile_append_of_pos inside,
      List.takeWhile_append_of_pos inside]
    simp [stops, skipSpaces, isSpace]

theorem scanMarkup_startTag {tag : List Char} {attributes : List (String × String)}
    (named : isPlainName tag = true) (writable : WritableAttributes attributes) (closed : Bool)
    (rest : List Char) :
    ∃ raws, scanMarkup (tag ++ writtenAttributes attributes closed rest) =
        .ok (.startTag ⟨tag, raws, closed⟩, rest) ∧
      raws.map (fun raw => (raw.name, raw.value)) = writtenPairs attributes := by
  obtain ⟨raws, read, pairs⟩ := scanStartTag_written named writable closed rest
  refine ⟨raws, ?_, pairs⟩
  cases tag with
  | nil => simp [isPlainName] at named
  | cons c more =>
    simp only [isPlainName, Bool.and_eq_true] at named
    rw [List.cons_append] at read ⊢
    have apart : ∀ d, isNameStart d = false → c ≠ d := by
      rintro d other rfl
      simp [other] at named
    rw [scanMarkup, read]
    all_goals exact fun _ same => apart _ (by decide) (List.cons.inj same).1

theorem scanMarkup_endTag {tag : List Char} (named : isPlainName tag = true) (rest : List Char) :
    scanMarkup ('/' :: (tag ++ '>' :: rest)) = .ok (.endTag tag (tag ++ '>' :: rest), rest) := by
  rw [scanMarkup, scanEndTag_append named]

theorem splitName_of_isPlainName {name : List Char} (plain : isPlainName name = true) :
    splitName name = (none, name) := by
  have colonless : name.dropWhile (· ≠ ':') = [] := by
    rw [List.dropWhile_eq_nil_iff]
    intro c member
    have other : c ≠ ':' := fun same => colon_not_mem_of_isPlainName plain (same ▸ member)
    simpa using other
  rw [splitName, colonless]

theorem boundQualifier?_eq_none {name : List Char} (plain : isPlainName name = true)
    (unbound : name ≠ qualifierXmlns) : boundQualifier? name = none := by
  rw [boundQualifier?, if_neg unbound, splitName_of_isPlainName plain]

theorem readAttributes_written (start element : List Char) {attributes : List (String × String)}
    (plain : ∀ pair ∈ attributes, isPlainName pair.1.toList = true)
    (unbound : ∀ pair ∈ attributes, pair.1.toList ≠ qualifierXmlns)
    (distinct : (attributes.map Prod.fst).Nodup) {raws : List RawAttribute}
    (pairs : raws.map (fun raw => (raw.name, raw.value)) = writtenPairs attributes)
    (read : ReadAttributes) (fresh : ∀ pair ∈ attributes, pair.1.toList ∉ read.seen) :
    ∃ seen, readAttributes {} [] start element read raws = .ok { read with
      seen
      values := read.values ++ attributes.map fun pair => (pair.1.toList, pair.2.toList) } := by
  induction attributes generalizing raws read with
  | nil =>
    rw [writtenPairs, List.map_nil, List.map_eq_nil_iff] at pairs
    exact ⟨read.seen, by simp [pairs, readAttributes]⟩
  | cons first others ih =>
    obtain ⟨name, value⟩ := first
    cases raws with
    | nil => simp [writtenPairs] at pairs
    | cons raw raws =>
      simp only [writtenPairs, List.map_cons, List.cons.injEq, Prod.mk.injEq] at pairs
      obtain ⟨⟨named, valued⟩, pairs⟩ := pairs
      simp only [List.map_cons, List.nodup_cons] at distinct
      have unseen : raw.name ∉ read.seen := by
        simpa [named] using fresh _ List.mem_cons_self
      have expanded : attributeValue {} [] false raw.value = .ok value.toList := by
        rw [attributeValue, valued, expandValue_escapeValue]
        rfl
      let next : ReadAttributes := { read with
        seen := name.toList :: read.seen
        values := read.values ++ [(name.toList, value.toList)] }
      have added : read.add raw.name value.toList = .ok next := by
        rw [ReadAttributes.add, named, boundQualifier?_eq_none (plain _ List.mem_cons_self)
          (unbound _ List.mem_cons_self)]
      have others_fresh : ∀ pair ∈ others, pair.1.toList ∉ next.seen := by
        intro pair member seen
        rcases List.mem_cons.1 seen with same | earlier
        · exact distinct.1 (String.toList_inj.1 same ▸ List.mem_map_of_mem member)
        · exact fresh pair (List.mem_cons_of_mem _ member) earlier
      obtain ⟨seen, further⟩ := ih (fun pair member => plain pair (List.mem_cons_of_mem _ member))
        (fun pair member => unbound pair (List.mem_cons_of_mem _ member)) distinct.2 pairs next
        others_fresh
      refine ⟨seen, ?_⟩
      have undeclared : (Declarations.attribute? {} element raw.name).elim false (·.tokenized) =
        false := rfl
      rw [readAttributes, if_neg (by simpa using unseen), undeclared]
      dsimp only
      rw [expanded]
      dsimp only
      rw [added]
      simpa [next] using further

theorem fullNames_written (scope : Scope) {attributes : List (String × String)}
    (plain : ∀ pair ∈ attributes, isPlainName pair.1.toList = true)
    (distinct : (attributes.map Prod.fst).Nodup) (known : List (List Char))
    (fresh : ∀ pair ∈ attributes, pair.1.toList ∉ known) :
    fullNames scope known (attributes.map fun pair => (pair.1.toList, pair.2.toList)) =
      .ok attributes := by
  induction attributes generalizing known with
  | nil => rfl
  | cons first others ih =>
    obtain ⟨name, value⟩ := first
    simp only [List.map_cons, List.nodup_cons] at distinct
    have full : scope.attributeName? name.toList = some name.toList := by
      rw [Scope.attributeName?, splitName_of_isPlainName (plain _ List.mem_cons_self)]
    have others_fresh : ∀ pair ∈ others, pair.1.toList ∉ name.toList :: known := by
      intro pair member seen
      rcases List.mem_cons.1 seen with same | earlier
      · exact distinct.1 (String.toList_inj.1 same ▸ List.mem_map_of_mem member)
      · exact fresh pair (List.mem_cons_of_mem _ member) earlier
    have further := ih (fun pair member => plain pair (List.mem_cons_of_mem _ member)) distinct.2
      (name.toList :: known) others_fresh
    rw [List.map_cons, fullNames, full]
    dsimp only
    rw [if_neg (by simpa using fresh _ List.mem_cons_self), further]
    simp only [String.ofList_toList]

theorem opened_written {tag : String} {attributes : List (String × String)}
    (named : isPlainName tag.toList = true) (writable : WritableAttributes attributes)
    {raws : List RawAttribute}
    (pairs : raws.map (fun raw => (raw.name, raw.value)) = writtenPairs attributes) (closed : Bool)
    (start : List Char) :
    (StartTag.mk tag.toList raws closed).opened {} [] outerScope start =
      .ok { name := tag.toList, tag, attributes, scope := outerScope } := by
  obtain ⟨seen, read⟩ := readAttributes_written start tag.toList writable.plain writable.unbound
    writable.distinct pairs { scope := outerScope } (fun _ _ => List.not_mem_nil)
  have names := fullNames_written outerScope writable.plain writable.distinct []
    (fun _ _ => List.not_mem_nil)
  have element : Scope.elementName? outerScope tag.toList = some tag.toList := by
    rw [Scope.elementName?, splitName_of_isPlainName named]
    rfl
  unfold StartTag.opened
  rw [read]
  simp only [impliedAttributes, List.nil_append, names, element, String.ofList_toList]

end RecordProjection.Markup
