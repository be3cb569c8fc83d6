import RecordProjection.Proofs.Directive.Splitting
import RecordProjection.Proofs.Projection.Diagnosis

/-! The wording of directives. What is emitted for a record depends on what parsing takes out of its
annotations, and whether anything is emitted depends on each directive by itself. So a list can be
divided over two directives, on the record as on a field, and nothing that is emitted changes. -/

namespace RecordProjection
open Directive

def ParsedField.bare (field : ParsedField) : ParsedField :=
  { field with field := { field.field with annotations := [] } }

def ParsedRecord.bare (parsed : ParsedRecord) : ParsedRecord :=
  { parsed with
    record := { parsed.record with
      annotations := []
      fields := parsed.record.fields.map fun field => { field with annotations := [] } }
    fields := parsed.fields.map ParsedField.bare }

section Bare
variable (parsed : ParsedRecord) (target : String)

theorem members_bare : parsed.bare.members target = (parsed.members target).map ParsedField.bare :=
  List.filter_map

theorem genericsOf_bare : parsed.bare.genericsOf target = parsed.genericsOf target := by
  rw [ParsedRecord.genericsOf, members_bare, List.map_map]
  rfl

theorem unusedGenerics_bare : parsed.bare.unusedGenerics target = parsed.unusedGenerics target := by
  rw [ParsedRecord.unusedGenerics, genericsOf_bare]
  rfl

theorem projectionDiagnostics_bare :
    parsed.bare.projectionDiagnostics = parsed.projectionDiagnostics := by
  rw [ParsedRecord.projectionDiagnostics, funext (unusedGenerics_bare parsed)]
  rfl

theorem conversionPlan_bare (fields : List ParsedField) :
    conversionPlan parsed.bare.record (fields.map ParsedField.bare) =
      conversionPlan parsed.record fields := by
  have indices : (fields.map ParsedField.bare).map ParsedField.index =
      fields.map ParsedField.index := List.map_map
  have indexed : parsed.bare.record.indexedFields = parsed.record.indexedFields.map
      fun entry => ({ entry.1 with annotations := [] }, entry.2) := by
    change ((parsed.record.fields.map _).zipIdx).map _ = _
    rw [List.zipIdx_map, List.map_map, Record.indexedFields, List.map_map]
    rfl
  rw [conversionPlan, indices, indexed, List.filter_map, List.map_map]
  rfl

theorem sourceDefinition_bare : parsed.bare.sourceDefinition = parsed.sourceDefinition := by
  simp only [ParsedRecord.sourceDefinition, ParsedRecord.bare, List.map_map]
  rfl

theorem allDefinitions_bare : parsed.bare.allDefinitions = parsed.allDefinitions := by
  have specs : parsed.bare.projections = parsed.projections.map fun spec =>
      { spec with fields := spec.fields.map ParsedField.bare } := by
    have same : parsed.bare.declared = parsed.declared := rfl
    unfold ParsedRecord.projections
    rw [same]
    cases parsed.declared with
    | none => rfl
    | some declared => simp [members_bare, genericsOf_bare]
  have each : ∀ spec : ProjectionSpec,
      parsed.bare.projectionDefinition { spec with fields := spec.fields.map ParsedField.bare } =
        parsed.projectionDefinition spec := by
    intro spec
    simp only [ParsedRecord.projectionDefinition, conversionPlan_bare, List.map_map]
    rfl
  rw [ParsedRecord.allDefinitions, sourceDefinition_bare, specs, List.map_map,
    ParsedRecord.allDefinitions]
  exact congrArg _ (List.map_congr_left fun spec _ => each spec)

end Bare

def Record.ExpandsLike (first second : Record) : Prop :=
  ∃ one other, first.expand = .ok one ∧ second.expand = .ok other ∧
    (one.diagnostics = [] ↔ other.diagnostics = []) ∧ one.definitions = other.definitions

theorem expandsLike_of_bare {first second : Record} (same : first.parse.bare = second.parse.bare)
    (clean : first.directiveDiagnostics = [] ↔ second.directiveDiagnostics = []) :
    first.ExpandsLike second := by
  have projections : first.parse.projectionDiagnostics = second.parse.projectionDiagnostics := by
    rw [← projectionDiagnostics_bare, same, projectionDiagnostics_bare]
  have definitions : first.parse.allDefinitions = second.parse.allDefinitions := by
    rw [← allDefinitions_bare, same, allDefinitions_bare]
  have both : first.diagnostics = [] ↔ second.diagnostics = [] := by
    rw [Record.diagnostics, Record.diagnostics, List.append_eq_nil_iff, List.append_eq_nil_iff,
      clean, projections]
  refine ⟨_, _, expand_eq first, expand_eq second, both, ?_⟩
  dsimp only
  simp only [List.isEmpty_iff, both, definitions]

def Passes {α : Type} (declared : Option Declared) (names : α → List String)
    (reading : Except Malformation α) : Prop :=
  ∃ value, reading = .ok value ∧
    ∀ name ∈ names value, ∀ known ∈ declared, known.isKnown name = true

theorem diagnostics_directivesOf_eq_nil_iff {α : Type} (owner : String) (annotations : List String)
    (read : DirectiveKind → String → Option (Except Malformation α)) (declared : Option Declared)
    (names : α → List String) :
    (directivesOf owner annotations read).flatMap (Located.diagnostics declared names) = [] ↔
      ∀ note ∈ annotations, ∀ reading ∈ readingOf read note, Passes declared names reading := by
  have single : ∀ location reading,
      Located.diagnostics declared names ⟨location, reading⟩ = [] ↔
        Passes declared names reading := by
    intro location reading
    unfold Passes
    cases reading with
    | error cause => simp [Located.diagnostics]
    | ok value => cases declared <;> simp [Located.diagnostics, unknownTargets]
  rw [flatMap_directivesOf, List.flatMap_eq_nil_iff]
  conv_rhs => rw [← List.zipIdx_map_fst 0 annotations, List.forall_mem_map]
  refine forall₂_congr fun entry _ => ?_
  cases readingOf read entry.1 with
  | none => simp
  | some reading => simp [single]

theorem expandsLike_of_field {record : Record} {front back : List Field} {field other : Field}
    (fields : record.fields = front ++ field :: back)
    (bare : ∀ index, (field.parse record.name index).bare = (other.parse record.name index).bare)
    (clean : ∀ index declared, field.diagnostics record.name index declared = [] ↔
      other.diagnostics record.name index declared = []) :
    record.ExpandsLike { record with fields := front ++ other :: back } := by
  have signature : { field with annotations := [] } = { other with annotations := [] } :=
    congrArg ParsedField.field (bare 0)
  refine expandsLike_of_bare ?_ ?_
  · rw [ParsedRecord.bare, ParsedRecord.bare, ParsedRecord.mk.injEq]
    refine ⟨?_, rfl, rfl, rfl, ?_⟩
    · rw [Record.mk.injEq]
      refine ⟨rfl, rfl, rfl, rfl, ?_, rfl⟩
      simp [Record.parse, fields, signature]
    · simp [parse_fields, fields, List.zipIdx_append, bare]
  · simp only [Record.directiveDiagnostics, Record.indexedFields, fields, List.zipIdx_append,
      List.zipIdx_cons, List.map_append, List.map_cons, List.flatMap_append, List.flatMap_cons,
      List.append_eq_nil_iff, clean]
    rfl

/-- A list that has the items of two others, one after the other. -/
structure IsUnion {α : Type} (read : List Token → Except Malformation α)
    (whole one other : String) : Prop where
  isList : directiveKind? whole = some .membership
  firstIsList : directiveKind? one = some .membership
  secondIsList : directiveKind? other = some .membership
  items : ∃ values more, itemsOf read one = .ok values ∧ itemsOf read other = .ok more ∧
    itemsOf read whole = .ok (values ++ more)

theorem isUnion_listing {α : Type} {read : List Token → Except Malformation α} {one other : String}
    {values more : List α} {last : Token} (reads : ReadsItems read)
    (ends : (tokenize one).getLast? = some last) (solid : ¬ last.IsComma)
    (first : itemsOf read (listing one) = .ok values)
    (second : itemsOf read (listing other) = .ok more) :
    IsUnion read (listing (one ++ "," ++ other)) (listing one) (listing other) where
  isList := directiveKind_listing _
  firstIsList := directiveKind_listing one
  secondIsList := directiveKind_listing other
  items := ⟨values, more, first, second, itemsOf_listing_append reads ends solid first second⟩

section Dividing
variable {whole one other : String} (notes rest : List String)

theorem forall_mem_divided {property : String → Prop}
    (parts : property whole ↔ property one ∧ property other) :
    (∀ note ∈ notes ++ whole :: rest, property note) ↔
      ∀ note ∈ notes ++ one :: other :: rest, property note := by
  simp only [List.forall_mem_append, List.forall_mem_cons, parts, and_assoc]

theorem flatMap_divided {β : Type} {list : String → List β}
    (parts : list whole = list one ++ list other) :
    (notes ++ whole :: rest).flatMap list = (notes ++ one :: other :: rest).flatMap list := by
  simp only [List.flatMap_append, List.flatMap_cons, parts, List.append_assoc]

section Lists
variable {α : Type} {read : List Token → Except Malformation α}

theorem passthrough_divided (union : IsUnion read whole one other) :
    passthrough (notes ++ whole :: rest) = passthrough (notes ++ one :: other :: rest) := by
  simp [passthrough, isDirective, union.isList, union.firstIsList, union.secondIsList]

theorem overrides_divided (union : IsUnion read whole one other) :
    (notes ++ whole :: rest).filterMap overrideOf? =
      (notes ++ one :: other :: rest).filterMap overrideOf? := by
  simp [overrideOf?, union.isList, union.firstIsList, union.secondIsList]

end Lists

section Fields
variable (union : IsUnion membershipEntry whole one other) (field : Field) (record : String)
  (index : Int)
include union

theorem membership_divided :
    ({ field with annotations := notes ++ whole :: rest }.parse record index).membership =
      ({ field with annotations := notes ++ one :: other :: rest }.parse
        record index).membership := by
  rw [parse_membership, parse_membership]
  refine flatMap_divided notes rest ?_
  obtain ⟨whole, one, other, values, more, first, second, both⟩ := union
  simp [listedEntries, whole, one, other, membership_eq, first, second, both, Except.toOption]

theorem field_bare_divided :
    ({ field with annotations := notes ++ whole :: rest }.parse record index).bare =
      ({ field with annotations := notes ++ one :: other :: rest }.parse record index).bare := by
  have entries := membership_divided notes rest union field record index
  have overrides := overrides_divided notes rest union
  rw [← parse_field_overrides { field with annotations := notes ++ whole :: rest } record index,
    ← parse_field_overrides { field with annotations := notes ++ one :: other :: rest } record
      index] at overrides
  have others := passthrough_divided notes rest union
  rw [ParsedField.bare, ParsedField.bare, ParsedField.mk.injEq]
  exact ⟨rfl, rfl, entries, overrides, others⟩

theorem field_diagnostics_divided (declared : Option Declared) :
    { field with annotations := notes ++ whole :: rest }.diagnostics record index declared = [] ↔
      { field with annotations := notes ++ one :: other :: rest }.diagnostics record index
        declared = [] := by
  simp only [Field.diagnostics, Field.directives, diagnostics_directivesOf_eq_nil_iff]
  refine forall_mem_divided notes rest ?_
  obtain ⟨whole, one, other, values, more, first, second, both⟩ := union
  simp [readingOf, whole, one, other, membership_eq, first, second, both, Passes, Functor.map,
    Except.map, FieldDirective.names, Membership.names, or_imp, forall_and]

end Fields

section Records
variable (union : IsUnion nameEntry whole one other) (record : Record)
include union

theorem isDeclared_divided :
    { record with annotations := notes ++ whole :: rest }.IsDeclared ↔
      { record with annotations := notes ++ one :: other :: rest }.IsDeclared := by
  obtain ⟨whole, one, other, values, more, first, second, both⟩ := union
  refine and_congr (iff_of_true ⟨_, by simp, whole⟩ ⟨_, by simp, one⟩)
    (forall_mem_divided notes rest ?_)
  simp [whole, one, other, declaredNames_eq, first, second, both, Except.isOk, Except.toBool]

theorem declared_divided :
    { record with annotations := notes ++ whole :: rest }.declared =
      { record with annotations := notes ++ one :: other :: rest }.declared := by
  have same := isDeclared_divided notes rest union record
  by_cases names : { record with annotations := notes ++ whole :: rest }.IsDeclared
  · have entries : (notes ++ whole :: rest).flatMap listedNames =
        (notes ++ one :: other :: rest).flatMap listedNames := by
      refine flatMap_divided notes rest ?_
      obtain ⟨whole, one, other, values, more, first, second, both⟩ := union
      simp [listedNames, whole, one, other, declaredNames_eq, first, second, both, Except.toOption]
    rw [declared_eq_some names, declared_eq_some (same.1 names)]
    dsimp only
    rw [entries]
  · rw [declared_eq_none names, declared_eq_none fun others => names (same.2 others)]

theorem record_bare_divided :
    { record with annotations := notes ++ whole :: rest }.parse.bare =
      { record with annotations := notes ++ one :: other :: rest }.parse.bare := by
  have overrides := overrides_divided notes rest union
  rw [← parse_overrides { record with annotations := notes ++ whole :: rest },
    ← parse_overrides { record with annotations := notes ++ one :: other :: rest }] at overrides
  rw [ParsedRecord.bare, ParsedRecord.bare, ParsedRecord.mk.injEq]
  exact ⟨rfl, declared_divided notes rest union record, overrides,
    passthrough_divided notes rest union, rfl⟩

theorem ownDiagnostics_divided :
    { record with annotations := notes ++ whole :: rest }.ownDiagnostics = [] ↔
      { record with annotations := notes ++ one :: other :: rest }.ownDiagnostics = [] := by
  have declared := declared_divided notes rest union record
  obtain ⟨whole, one, other, values, more, first, second, both⟩ := union
  simp only [Record.ownDiagnostics, List.append_eq_nil_iff, declared, Record.nameLists,
    Record.overrideDirectives, diagnostics_directivesOf_eq_nil_iff]
  refine and_congr (and_congr (forall_mem_divided notes rest ?_) ?_)
    (forall_mem_divided notes rest ?_)
  · simp [readingOf, whole, one, other, declaredNames_eq, first, second, both, Passes]
  · rw [undeclaredDiagnostics_eq, undeclaredDiagnostics_eq, Record.absenceReport,
      Record.absenceReport, if_pos ⟨_, by simp, whole⟩, if_pos ⟨_, by simp, one⟩]
  · simp [readingOf, whole, one, other]

end Records

end Dividing

/-- A list that goes on behind a comma can be divided there over two directives, on a record and on
each of its fields. What is declared or joined stays as it is, in the same order, the record is
refused as before or not, and the definitions that are emitted are the same. -/
theorem divided_list_expands_alike {first second : String} {last : Token}
    (ends : (tokenize first).getLast? = some last) (solid : last.kind ≠ .comma)
    (notes rest : List String) (record : Record) :
    (∀ values more, declaredNames (listing first) = .ok values →
      declaredNames (listing second) = .ok more →
      record.annotations = notes ++ listing (first ++ "," ++ second) :: rest →
        let divided :=
          { record with annotations := notes ++ listing first :: listing second :: rest }
        divided.declared = record.declared ∧ record.ExpandsLike divided) ∧
      ∀ values more (front back : List Field) (field : Field),
        membership (listing first) = .ok values → membership (listing second) = .ok more →
        record.fields = front ++ field :: back →
        field.annotations = notes ++ listing (first ++ "," ++ second) :: rest →
          let divided :=
            { field with annotations := notes ++ listing first :: listing second :: rest }
          (∀ index, (divided.parse record.name index).membership =
              (field.parse record.name index).membership) ∧
            record.ExpandsLike { record with fields := front ++ divided :: back } := by
  constructor
  · intro values more own behind annotations
    have union := isUnion_listing readsItems_nameEntry ends solid own behind
    have self : { record with
        annotations := notes ++ listing (first ++ "," ++ second) :: rest } = record := by
      rw [← annotations]
    have declared := declared_divided notes rest union record
    have bare := record_bare_divided notes rest union record
    have clean := ownDiagnostics_divided notes rest union record
    rw [self] at declared bare clean
    refine ⟨declared.symm, expandsLike_of_bare bare ?_⟩
    simp only [Record.directiveDiagnostics, List.append_eq_nil_iff, clean, declared]
    rfl
  · intro values more front back field own behind fields annotations
    have union := isUnion_listing readsItems_membershipEntry ends solid own behind
    have self : { field with
        annotations := notes ++ listing (first ++ "," ++ second) :: rest } = field := by
      rw [← annotations]
    have entries := membership_divided notes rest union field record.name
    have bare := field_bare_divided notes rest union field record.name
    have clean := field_diagnostics_divided notes rest union field record.name
    simp only [self] at entries bare clean
    exact ⟨fun index => (entries index).symm, expandsLike_of_field fields bare clean⟩

def wideRecord : Record where
  name := "R"
  annotations := ["derive(Clone)", "substruct(\"(,\" A, B, C,)", "substruct(\"late\" D)"]
  fields :=
    [⟨some "key", "pub", "u8", ["substruct(not( any(B,)),\"Kept.\" A,)"]⟩, ⟨none, "", "T", []⟩]

theorem divided_list_expands_alike_wide :
    wideRecord.diagnostics = [] ∧
      wideRecord.annotations =
        ["derive(Clone)"] ++ listing ("\"(,\" A" ++ "," ++ " B, C,") :: ["substruct(\"late\" D)"] ∧
      wideRecord.ExpandsLike { wideRecord with
        annotations := ["derive(Clone)"] ++
          listing "\"(,\" A" :: listing " B, C," :: ["substruct(\"late\" D)"] } ∧
      wideRecord.ExpandsLike { wideRecord with
        fields := [] ++ ⟨some "key", "pub", "u8",
          [] ++ listing "not( any(B,))" :: listing "\"Kept.\" A," :: []⟩ ::
            [⟨none, "", "T", []⟩] } := by
  have clean : wideRecord.diagnostics = [] := by decide +kernel
  have names : declaredNames (listing "\"(,\" A") = .ok [⟨"A", some "(,"⟩] := by decide +kernel
  have more : declaredNames (listing " B, C,") = .ok [⟨"B", none⟩, ⟨"C", none⟩] := by decide +kernel
  have entries : membership (listing "not( any(B,))") =
      .ok [⟨.not (.any [.name "B"]), none⟩] := by
    let operand : List Token := [⟨.ident, "any", 5, 8⟩, ⟨.opening, "(", 8, 9⟩,
      ⟨.ident, "B", 9, 10⟩, ⟨.comma, ",", 10, 11⟩, ⟨.closing, ")", 11, 12⟩]
    have disjunction : Selector.parse operand = .ok (.any [.name "B"]) := by
      have read : Selector.operation operand =
          .ok (.any, [⟨.ident, "B", 9, 10⟩, ⟨.comma, ",", 10, 11⟩]) := rfl
      have split : splitTopLevel [⟨.ident, "B", 9, 10⟩, ⟨.comma, ",", 10, 11⟩] =
          [[⟨.ident, "B", 9, 10⟩]] := rfl
      exact Selector.parse_of_operand read split (Selector.Denotes.name rfl (by decide)).parse
    have negation : Selector.parse (tokenize "not( any(B,))") =
        .ok (.not (.any [.name "B"])) := by
      have read : Selector.operation (tokenize "not( any(B,))") = .ok (.not, operand) := by
        decide +kernel
      have split : splitTopLevel operand = [operand] := rfl
      exact Selector.parse_of_operand read split disjunction
    have inside : body DirectiveKind.membership.path (listing "not( any(B,))") =
        .ok "not( any(B,))" := by
      decide +kernel
    have single : splitTopLevel (tokenize "not( any(B,))") = [tokenize "not( any(B,))"] := by
      decide +kernel
    have bare : splitDocumentation (tokenize "not( any(B,))") =
        (none, tokenize "not( any(B,))") := by
      decide +kernel
    exact membership_of_parse inside single bare negation
  have others : membership (listing "\"Kept.\" A,") = .ok [⟨.name "A", some "Kept."⟩] := by
    let item : List Token := [⟨.string, "\"Kept.\"", 0, 7⟩, ⟨.ident, "A", 8, 9⟩]
    have inside : body DirectiveKind.membership.path (listing "\"Kept.\" A,") =
        .ok "\"Kept.\" A," := by
      decide +kernel
    have single : splitTopLevel (tokenize "\"Kept.\" A,") = [item] := by decide +kernel
    have documented : splitDocumentation item = (some "Kept.", [⟨.ident, "A", 8, 9⟩]) := by
      decide +kernel
    exact membership_of_parse inside single documented
      (Selector.Denotes.name rfl (by decide)).parse
  have named : (tokenize "\"(,\" A").getLast? = some ⟨.ident, "A", 5, 6⟩ := by decide +kernel
  have closed : (tokenize "not( any(B,))").getLast? = some ⟨.closing, ")", 12, 13⟩ := by
    decide +kernel
  exact ⟨clean, rfl,
    ((divided_list_expands_alike named (by decide) ["derive(Clone)"] ["substruct(\"late\" D)"]
      wideRecord).1 _ _ names more rfl).2,
    ((divided_list_expands_alike closed (by decide) [] [] wideRecord).2 _ _ [] [⟨none, "", "T", []⟩]
      _ entries others rfl rfl).2⟩

end RecordProjection
