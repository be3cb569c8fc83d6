import RecordProjection.Markup.Document
import RecordProjection.Proofs.Markup.LegalDeclarations

/-! Trees made of legal characters. What a start tag opens has legal values, growing adds legal text
and legal children, and so the root of every document that can be read is legal throughout. -/

namespace RecordProjection.Markup
open Text

inductive Element.Legal : Element → Prop
  | intro {tag : String} {attributes : List (String × String)} {text : String}
    {children : List Element} (values : ∀ pair ∈ attributes, Markup.Legal pair.2.toList)
    (content : Markup.Legal text.toList) (inner : ∀ child ∈ children, Element.Legal child) :
    Element.Legal ⟨tag, attributes, text, children⟩

structure OpenElement.Legal (opened : OpenElement) : Prop where
  values : ∀ pair ∈ opened.attributes, Markup.Legal pair.2.toList
  content : Markup.Legal opened.text
  inner : ∀ child ∈ opened.children, child.Legal

theorem OpenElement.Legal.element {opened : OpenElement} (legal : opened.Legal) :
    opened.element.Legal := by
  refine .intro legal.values ?_ fun child member => legal.inner child (List.mem_reverse.1 member)
  rw [String.toList_ofList]
  exact fun c member => legal.content c (List.mem_reverse.1 member)

theorem OpenElement.Legal.addText {opened : OpenElement} (legal : opened.Legal) {text : List Char}
    (added : Markup.Legal text) : (opened.addText text).Legal := by
  unfold OpenElement.addText
  split
  · refine ⟨legal.values, fun c member => ?_, legal.inner⟩
    rcases List.mem_append.1 member with new | old
    · exact added c (List.mem_reverse.1 new)
    · exact legal.content c old
  · exact legal

theorem OpenElement.Legal.addChild {opened : OpenElement} (legal : opened.Legal) {child : Element}
    (added : child.Legal) : (opened.addChild child).Legal :=
  ⟨legal.values, legal.content, List.forall_mem_cons.2 ⟨added, legal.inner⟩⟩

def ReadAttributes.Legal (read : ReadAttributes) : Prop :=
  ∀ pair ∈ read.values, Markup.Legal pair.2

theorem ReadAttributes.Legal.add {read next : ReadAttributes} (legal : read.Legal)
    {name value : List Char} (added : Markup.Legal value) (ok : read.add name value = .ok next) :
    next.Legal := by
  unfold ReadAttributes.add at ok
  split at ok
  · split at ok <;> cases ok
    exact legal
  · cases ok
    intro pair member
    rcases List.mem_append.1 member with old | new
    · exact legal pair old
    · rw [List.mem_singleton.1 new]
      exact added

theorem legal_readAttributes {declarations : Declarations} {usable : List Entity}
    {start element : List Char} {read final : ReadAttributes} {raws : List RawAttribute}
    (entities : LegalEntities usable) (legal : read.Legal)
    (values : ∀ raw ∈ raws, Legal raw.value)
    (ok : readAttributes declarations usable start element read raws = .ok final) :
    final.Legal := by
  induction raws generalizing read with
  | nil =>
    cases ok
    exact legal
  | cons raw rest ih =>
    obtain ⟨first, others⟩ := List.forall_mem_cons.1 values
    unfold readAttributes at ok
    dsimp only at ok
    split at ok
    · cases ok
    · split at ok
      · cases ok
      · rename_i expanded
        split at ok
        · cases ok
        · rename_i added
          exact ih (legal.add (legal_attributeValue entities first expanded) added) others ok

theorem legal_impliedAttributes {element : List Char} {read final : ReadAttributes}
    {declared : List AttributeDeclaration} (legal : read.Legal)
    (defaults : ∀ given ∈ declared, ∀ value, given.implied = some value → Legal value)
    (ok : impliedAttributes element read declared = .ok final) : final.Legal := by
  induction declared generalizing read with
  | nil =>
    cases ok
    exact legal
  | cons given rest ih =>
    obtain ⟨first, others⟩ := List.forall_mem_cons.1 defaults
    unfold impliedAttributes at ok
    split at ok
    · rename_i value implied
      split at ok
      · split at ok
        · cases ok
        · rename_i added
          exact ih (legal.add (first value implied) added) others ok
      · exact ih legal others ok
    · exact ih legal others ok

theorem legal_fullNames {scope : Scope} {known : List (List Char)}
    {values : List (List Char × List Char)} {attributes : List (String × String)}
    (legal : ∀ pair ∈ values, Legal pair.2) (ok : fullNames scope known values = .ok attributes) :
    ∀ pair ∈ attributes, Legal pair.2.toList := by
  induction values generalizing known attributes with
  | nil =>
    cases ok
    exact fun _ member => nomatch member
  | cons first rest ih =>
    obtain ⟨own, others⟩ := List.forall_mem_cons.1 legal
    unfold fullNames at ok
    split at ok
    · cases ok
    · split at ok
      · cases ok
      · split at ok
        · cases ok
        · rename_i further
          cases ok
          refine List.forall_mem_cons.2 ⟨?_, ih others further⟩
          rw [String.toList_ofList]
          exact own

theorem legal_opened {declarations : Declarations} {usable : List Entity} {scope : Scope}
    {start : List Char} {tag : StartTag} {opened : OpenElement} (declared : declarations.Legal)
    (entities : LegalEntities usable) (values : ∀ raw ∈ tag.attributes, Legal raw.value)
    (ok : tag.opened declarations usable scope start = .ok opened) : opened.Legal := by
  unfold StartTag.opened at ok
  split at ok
  · cases ok
  · rename_i mentioned
    have fresh : ReadAttributes.Legal { scope } := List.forall_mem_nil _
    have own := legal_readAttributes entities fresh values mentioned
    split at ok
    · cases ok
    · rename_i completed
      have all := legal_impliedAttributes own declared.attributes completed
      split at ok
      · cases ok
      · rename_i named
        split at ok
        · cases ok
        · cases ok
          exact ⟨legal_fullNames all named, legal_nil, fun _ member => nomatch member⟩

def Growth.Legal : Growth → Prop
  | .unfinished opened => ∀ element ∈ opened, element.Legal
  | .finished root _ => root.Legal

theorem legal_addText {opened : List OpenElement} (legal : ∀ element ∈ opened, element.Legal)
    {text : List Char} (added : Legal text) : ∀ element ∈ addText text opened, element.Legal := by
  cases opened with
  | nil => exact legal
  | cons innermost outer =>
    obtain ⟨first, others⟩ := List.forall_mem_cons.1 legal
    exact List.forall_mem_cons.2 ⟨first.addText added, others⟩

theorem legal_attach {element : Element} {opened : List OpenElement} (own : element.Legal)
    (legal : ∀ element ∈ opened, element.Legal) :
    (∀ root, attach element opened = .inr root → root.Legal) ∧
      ∀ next, attach element opened = .inl next → ∀ element ∈ next, element.Legal := by
  cases opened with
  | nil =>
    refine ⟨fun root same => ?_, fun next same => nomatch same⟩
    cases same
    exact own
  | cons innermost outer =>
    refine ⟨fun root same => (nomatch same), fun next same => ?_⟩
    cases same
    obtain ⟨first, others⟩ := List.forall_mem_cons.1 legal
    exact List.forall_mem_cons.2 ⟨first.addChild own, others⟩

theorem legal_grow {declarations : Declarations} (declared : declarations.Legal)
    {usable : List Entity} {base : Nat} {opened : List OpenElement} {pieces : List PlacedPiece}
    {growth : Growth} (entities : LegalEntities usable)
    (legal : ∀ element ∈ opened, element.Legal) (all : ∀ placed ∈ pieces, placed.piece.Legal)
    (ok : grow declarations usable base opened pieces = .ok growth) : growth.Legal := by
  fun_induction grow declarations usable base opened pieces generalizing growth with
  | case1 | case3 =>
    cases ok
    exact legal
  -- Comments and instructions leave what is open alone.
  | case7 _ _ _ _ _ ih => exact ih entities legal (List.forall_mem_cons.1 all).2 ok
  -- Characters, runs of text and character references are text.
  | case8 _ _ _ _ _ _ ih | case11 _ _ _ _ _ _ ih =>
    obtain ⟨first, others⟩ := List.forall_mem_cons.1 all
    exact ih entities (legal_addText legal (legal_singleton first)) others ok
  | case9 _ _ _ _ _ _ ih =>
    obtain ⟨first, others⟩ := List.forall_mem_cons.1 all
    exact ih entities (legal_addText legal first) others ok
  -- An entity is a character that is known beforehand, or its replacement is read where it stands.
  | case12 _ _ _ _ _ _ _ known ih =>
    exact ih entities (legal_addText legal (legal_singleton (isLegal_of_predefined? known)))
      (List.forall_mem_cons.1 all).2 ok
  | case20 _ _ _ _ _ _ _ _ inner _ taken _ found inside ih =>
    obtain ⟨-, others⟩ := legal_takeEntity entities taken
    exact ih entities (inside others legal (legal_pieces .complete inner) found)
      (List.forall_mem_cons.1 all).2 ok
  -- An element is opened, and closed at once if its tag says so.
  | case22 _ _ _ _ _ _ _ found _ _ attached =>
    cases ok
    have own := legal_opened declared entities (List.forall_mem_cons.1 all).1 found
    exact (legal_attach own.element legal).1 _ attached
  | case23 _ _ _ _ _ _ _ found _ _ attached ih =>
    have own := legal_opened declared entities (List.forall_mem_cons.1 all).1 found
    exact ih entities ((legal_attach own.element legal).2 _ attached)
      (List.forall_mem_cons.1 all).2 ok
  | case24 _ _ _ _ _ _ _ found _ ih =>
    obtain ⟨first, others⟩ := List.forall_mem_cons.1 all
    have own := legal_opened declared entities first found
    exact ih entities (List.forall_mem_cons.2 ⟨own, legal⟩) others ok
  -- An end tag closes the innermost element if it has the same name.
  | case26 =>
    rw [if_pos rfl] at ok
    cases ok
  | case27 _ _ _ _ _ _ _ _ mismatch other =>
    rw [if_neg other, if_pos mismatch] at ok
    cases ok
  | case28 _ _ _ _ _ _ _ _ same _ attached other =>
    rw [if_neg other, if_neg same, attached] at ok
    cases ok
    obtain ⟨own, outer⟩ := List.forall_mem_cons.1 legal
    exact (legal_attach own.element outer).1 _ attached
  | case29 _ _ _ _ _ _ _ _ same _ attached other ih =>
    rw [if_neg other, if_neg same, attached] at ok
    obtain ⟨own, outer⟩ := List.forall_mem_cons.1 legal
    exact ih entities ((legal_attach own.element outer).2 _ attached)
      (List.forall_mem_cons.1 all).2 ok
  | _ => cases ok

theorem legal_limitPieces (usable : List Entity) {pieces : List PlacedPiece} (left : Nat)
    (all : ∀ placed ∈ pieces, placed.piece.Legal) :
    ∀ placed ∈ limitPieces usable left pieces, placed.piece.Legal := by
  induction pieces generalizing left with
  | nil => exact all
  | cons placed rest ih =>
    obtain ⟨first, others⟩ := List.forall_mem_cons.1 all
    unfold limitPieces
    split
    · exact List.forall_mem_cons.2 ⟨first, ih _ others⟩
    · exact List.forall_mem_cons.2 ⟨trivial, List.forall_mem_nil _⟩

theorem legal_readRoot {size : Nat} {ending : Ending} {standalone : Bool} {text : List Char}
    {root : Element} (read : readRoot size ending standalone text = .ok root) : root.Legal := by
  unfold readRoot at read
  split at read
  · cases read
  · rename_i prolog
    have initial : Declarations.Legal { standalone } :=
      ⟨List.forall_mem_nil _, List.forall_mem_nil _⟩
    have declared := legal_readProlog initial (legal_prologTokens ending text) prolog
    dsimp only at read
    split at read
    · cases read
    · cases read
    · rename_i grown
      have legal := legal_grow declared declared.entities (List.forall_mem_nil _) ?_ grown
      · split at read <;> cases read
        exact legal
      · unfold admitted
        split
        · exact legal_pieces ending _
        · exact legal_limitPieces _ _ (legal_pieces ending _)

theorem legal_readDocument {octets : ByteArray} {root : Element}
    (read : readDocument octets = .ok root) : root.Legal := by
  have unplaced : ∀ {document result}, located document result = .ok root → result = .ok root := by
    intro document result same
    unfold located at same
    split at same <;> cases same
    rfl
  unfold readDocument readRedeclared at read
  dsimp only at read
  repeat' split at read
  all_goals first
    | exact legal_readRoot (unplaced read)
    | cases read

end RecordProjection.Markup
