import RecordProjection.Markup.Document
import RecordProjection.Proofs.Markup.Tag

/-! Rendered trees. Reading what was rendered gives the tree back, but for the line ends in its
texts and for the white space that indentation puts in front of the first child of an element
without text of its own. -/

namespace RecordProjection.Markup
open Text

/-- An element that every reader takes: plain names, and characters that a document may hold. -/
inductive Element.Writable : Element → Prop
  | intro {tag : String} {attributes : List (String × String)} {text : String}
    {children : List Element} (named : isPlainName tag.toList = true)
    (writable : WritableAttributes attributes) (legal : Markup.Legal text.toList)
    (inner : ∀ child ∈ children, Element.Writable child) :
    Element.Writable ⟨tag, attributes, text, children⟩

def indentedText (depth : Nat) (text : String) : String :=
  if text.toList.all isBlank then .ofList (newLine depth) else text

def lineFedText (text : String) : String := .ofList (lineFeeds text.toList)

mutual

def Element.lineFed : Element → Element
  | ⟨tag, attributes, text, children⟩ => ⟨tag, attributes, lineFedText text, lineFedAll children⟩

def lineFedAll : List Element → List Element
  | [] => []
  | element :: rest => element.lineFed :: lineFedAll rest

end

mutual

/-- What an element at some depth is read as after it was rendered with line feeds only. -/
def Element.indented (depth : Nat) : Element → Element
  | ⟨tag, attributes, text, children⟩ =>
    ⟨tag, attributes, if children.isEmpty then text else indentedText (depth + 1) text,
      indentedAll (depth + 1) children⟩

def indentedAll (depth : Nat) : List Element → List Element
  | [] => []
  | element :: rest => element.indented depth :: indentedAll depth rest

end

theorem indentedAll_eq (depth : Nat) (elements : List Element) :
    indentedAll depth elements = elements.map (Element.indented depth) := by
  induction elements with
  | nil => rfl
  | cons element rest ih => rw [indentedAll, ih, List.map_cons]

theorem lineFedAll_eq (elements : List Element) :
    lineFedAll elements = elements.map Element.lineFed := by
  induction elements with
  | nil => rfl
  | cons element rest ih => rw [lineFedAll, ih, List.map_cons]

theorem mem_newLine {depth : Nat} {c : Char} (member : c ∈ newLine depth) : c = '\n' ∨ c = ' ' := by
  rcases List.mem_cons.1 member with rfl | space
  · exact .inl rfl
  · exact .inr (List.eq_of_mem_replicate space)

theorem escapeText_eq_self {text : List Char} (ordinary : ∀ c ∈ text, c ∉ textSpecial) :
    escapeText text = text := by
  induction text with
  | nil => rfl
  | cons c rest ih =>
    have other := ordinary c List.mem_cons_self
    simp only [textSpecial, List.mem_cons, List.not_mem_nil, or_false, not_or] at other
    rw [escapeText, List.flatMap_cons, ← escapeText,
      ih fun d member => ordinary d (List.mem_cons_of_mem c member)]
    simp [escapeTextChar, other]

theorem escapeText_newLine (depth : Nat) : escapeText (newLine depth) = newLine depth :=
  escapeText_eq_self fun c member => by rcases mem_newLine member with rfl | rfl <;> decide

theorem leadText_eq (depth : Nat) (text : String) :
    leadText depth text = escapeText (indentedText depth text).toList := by
  unfold leadText indentedText
  by_cases blank : text.toList.all isBlank = true
  · rw [if_pos blank, if_pos blank, String.toList_ofList, escapeText_newLine]
  · rw [if_neg blank, if_neg blank]

theorem legal_newLine (depth : Nat) : Legal (newLine depth) := fun c member => by
  rcases mem_newLine member with rfl | rfl <;> decide

theorem lineFeeds_newLine (depth : Nat) : lineFeeds (newLine depth) = newLine depth :=
  lineFeeds_eq_self fun member => by rcases mem_newLine member with same | same <;> cases same

theorem lineFeeds_indentedText (depth : Nat) (text : String) :
    lineFeeds (indentedText depth text).toList =
      (indentedText depth (lineFedText text)).toList := by
  unfold indentedText lineFedText
  rw [String.toList_ofList, all_isBlank_lineFeeds]
  split
  · rw [String.toList_ofList, lineFeeds_newLine]
  · rw [String.toList_ofList]

def growBehind (element : Element) (opened : List OpenElement) (rest : List Char) :
    Except Mishap Growth :=
  match attach element opened with
  | .inr root => .ok (.finished root (followingText (pieces .complete rest)))
  | .inl opened => grow {} [] 0 opened (pieces .complete rest)

theorem grow_startTag {tag : String} {attributes : List (String × String)}
    (named : isPlainName tag.toList = true) (writable : WritableAttributes attributes)
    {opened : List OpenElement} (outer : currentScope opened = outerScope) (closed : Bool)
    (rest : List Char) :
    grow {} [] 0 opened
        (pieces .complete ('<' :: (tag.toList ++ writtenAttributes attributes closed rest))) =
      if closed then growBehind ⟨tag, attributes, "", []⟩ opened rest
      else grow {} [] 0 (⟨tag.toList, tag, attributes, outerScope, [], []⟩ :: opened)
        (pieces .complete rest) := by
  obtain ⟨raws, read, pairs⟩ := scanMarkup_startTag named writable closed rest
  rw [pieces]
  split
  · rename_i found
    cases found.symm.trans read
    rw [grow, outer, opened_written named writable pairs]
    cases closed <;> rfl
  · rename_i found
    cases found.symm.trans read

def writtenEnd (tag : String) (rest : List Char) : List Char :=
  '<' :: '/' :: (tag.toList ++ '>' :: rest)

theorem grow_endTag {tag : String} (named : isPlainName tag.toList = true)
    {innermost : OpenElement} (same : innermost.name = tag.toList) (outer : List OpenElement)
    (rest : List Char) :
    grow {} [] 0 (innermost :: outer) (pieces .complete (writtenEnd tag rest)) =
      growBehind innermost.element outer rest := by
  have read := scanMarkup_endTag named rest
  rw [writtenEnd, pieces]
  split
  · rename_i found
    cases found.symm.trans read
    rw [grow, if_neg (by simp), if_neg (fun other => other same)]
    rfl
  · rename_i found
    cases found.symm.trans read

theorem render_front (depth : Nat) (element : Element) :
    ∃ text, element.render depth = '<' :: (element.tag.toList ++ text) := by
  obtain ⟨tag, attributes, text, children⟩ := element
  cases children with
  | nil =>
    unfold Element.render
    by_cases empty : text.isEmpty = true <;> simp [empty]
  | cons first others =>
    unfold Element.render
    simp

theorem OpenElement.addText_eq_self {opened : OpenElement} (parent : opened.children ≠ [])
    (text : List Char) : opened.addText text = opened := by
  simp [OpenElement.addText, parent]

def ReadsBack (depth : Nat) (element : Element) : Prop :=
  ∀ (opened : List OpenElement) (rest : List Char), currentScope opened = outerScope →
    grow {} [] 0 opened (pieces .complete (element.render depth ++ rest)) =
      growBehind (element.lineFed.indented depth) opened rest

/-- White space in front of an element is text, unless there is a child before it. -/
theorem grow_indented {depth : Nat} {element : Element} (back : ReadsBack depth element)
    (innermost : OpenElement) (scope : innermost.scope = outerScope) (outer : List OpenElement)
    (text rest : List Char) (legal : Legal text) :
    grow {} [] 0 (innermost :: outer)
        (pieces .complete (escapeText text ++ (element.render depth ++ rest))) =
      grow {} [] 0
        ((innermost.addText (lineFeeds text)).addChild (element.lineFed.indented depth) :: outer)
        (pieces .complete rest) := by
  have kept : (innermost.addText (lineFeeds text)).scope = outerScope := by
    unfold OpenElement.addText
    split <;> exact scope
  have read := back (innermost.addText (lineFeeds text) :: outer) rest kept
  obtain ⟨tail, front⟩ := render_front depth element
  rw [front] at read ⊢
  rw [List.cons_append, grow_escapeText {} _ legal, ← List.cons_append, addText, read]
  rfl

theorem grow_renderOthers (depth : Nat) {children : List Element}
    (back : ∀ child ∈ children, ReadsBack depth child) (innermost : OpenElement)
    (parent : innermost.children ≠ []) (scope : innermost.scope = outerScope)
    (outer : List OpenElement) (rest : List Char) :
    grow {} [] 0 (innermost :: outer) (pieces .complete (renderOthers depth children ++ rest)) =
      grow {} [] 0
        ({ innermost with
          children := (indentedAll depth (lineFedAll children)).reverse ++ innermost.children } ::
            outer)
        (pieces .complete rest) := by
  induction children generalizing innermost with
  | nil => rfl
  | cons child others ih =>
    have first := grow_indented (back child List.mem_cons_self) innermost scope outer
      (newLine depth) (renderOthers depth others ++ rest) (legal_newLine depth)
    have further := ih (fun other member => back other (List.mem_cons_of_mem child member))
      (innermost.addChild (child.lineFed.indented depth)) (by simp [OpenElement.addChild]) scope
    rw [OpenElement.addText_eq_self parent, escapeText_newLine] at first
    rw [renderOthers, List.append_assoc, List.append_assoc, first, further]
    simp [OpenElement.addChild, lineFedAll, indentedAll]

theorem legal_indentedText {text : String} (legal : Legal text.toList)
    (depth : Nat) : Legal (indentedText depth text).toList := by
  unfold indentedText
  split
  · rw [String.toList_ofList]
    exact legal_newLine depth
  · exact legal

theorem render_empty (depth : Nat) (tag : String) (attributes : List (String × String))
    (rest : List Char) :
    Element.render depth ⟨tag, attributes, "", []⟩ ++ rest =
      '<' :: (tag.toList ++ writtenAttributes attributes true rest) := by
  simp [Element.render, writtenAttributes, tagEnd]

theorem render_text (depth : Nat) (tag : String) (attributes : List (String × String))
    {text : String} (present : text ≠ "") (rest : List Char) :
    Element.render depth ⟨tag, attributes, text, []⟩ ++ rest =
      '<' :: (tag.toList ++ writtenAttributes attributes false
        (escapeText text.toList ++ writtenEnd tag rest)) := by
  simp [Element.render, writtenAttributes, tagEnd, writtenEnd, present]

theorem render_children (depth : Nat) (tag : String) (attributes : List (String × String))
    (text : String) (first : Element) (others : List Element) (rest : List Char) :
    Element.render depth ⟨tag, attributes, text, first :: others⟩ ++ rest =
      '<' :: (tag.toList ++ writtenAttributes attributes false
        (escapeText (indentedText (depth + 1) text).toList ++
          (first.render (depth + 1) ++
            (renderOthers (depth + 1) others ++ (newLine depth ++ writtenEnd tag rest))))) := by
  simp [Element.render, writtenAttributes, tagEnd, writtenEnd, leadText_eq]

theorem readsBack {element : Element} (writable : element.Writable) :
    ∀ depth, ReadsBack depth element := by
  induction writable with
  | @intro tag attributes text children named pairs legal _ inner =>
    intro depth opened rest outer
    -- Without children the text is written as it is; with children blank text is white space.
    cases children with
    | nil =>
      by_cases empty : text = ""
      · subst empty
        rw [render_empty, grow_startTag named pairs outer true rest]
        rfl
      · rw [render_text depth tag attributes empty, grow_startTag named pairs outer false,
          if_neg (by simp)]
        have read :=
          grow_escapeText {} (⟨tag.toList, tag, attributes, outerScope, [], []⟩ :: opened)
            legal ('/' :: (tag.toList ++ '>' :: rest))
        rw [writtenEnd, read, addText, ← writtenEnd, grow_endTag named rfl]
        simp [OpenElement.addText, OpenElement.element, Element.lineFed, lineFedText, lineFedAll,
          Element.indented, indentedAll]
    | cons first others =>
      -- White space behind a child belongs to the child and leaves no trace here.
      let start : OpenElement := ⟨tag.toList, tag, attributes, outerScope, [], []⟩
      let lead := (indentedText (depth + 1) text).toList
      let led := (start.addText (lineFeeds lead)).addChild (first.lineFed.indented (depth + 1))
      have first_read := grow_indented (inner first List.mem_cons_self (depth + 1)) start rfl opened
        lead (renderOthers (depth + 1) others ++ (newLine depth ++ writtenEnd tag rest))
        (legal_indentedText legal _)
      have others_read := grow_renderOthers (depth + 1)
        (fun other member => inner other (List.mem_cons_of_mem first member) (depth + 1)) led
        (by simp [led, OpenElement.addChild]) rfl opened (newLine depth ++ writtenEnd tag rest)
      have end_read := grow_escapeText {}
        ({ led with
          children := (indentedAll (depth + 1) (lineFedAll others)).reverse ++ led.children } ::
          opened)
        (legal_newLine depth) ('/' :: (tag.toList ++ '>' :: rest))
      rw [escapeText_newLine, addText,
        OpenElement.addText_eq_self (by simp [led, OpenElement.addChild])] at end_read
      rw [render_children, grow_startTag named pairs outer false, if_neg (by simp), first_read,
        others_read, writtenEnd, end_read, ← writtenEnd, grow_endTag named rfl]
      simp [led, lead, start, OpenElement.addText, OpenElement.addChild, OpenElement.element,
        lineFeeds_indentedText, Element.lineFed, lineFedAll, Element.indented, indentedAll]

end RecordProjection.Markup
