import Mathlib.Data.List.Basic
import Mathlib.Data.List.Forall2
import RecordProjection.Proofs.Text.Column
import RecordProjection.Proofs.Text.Name
import RecordProjection.Proofs.Text.Numeral
import RecordProjection.Report.Table

/-! What the table of records tells. It has a line for every record, with its columns below each
other, and nothing that is shown of a record is lost: its name, its kind, the number of its fields
and its projections can be read back from the words of its line. -/

namespace RecordProjection
open Text

namespace RecordSummary

/-- A summary with texts that a table can tell apart. -/
structure IsTabular (summary : RecordSummary) : Prop where
  name : IsWord summary.name.toList
  kind : IsWord summary.kind.toList
  projections : ∀ name ∈ summary.projections, IsWord name.toList ∧ ',' ∉ name.toList

def shown (summary : RecordSummary) : String × String × Int × List String :=
  (summary.name, summary.kind, summary.fieldCount, summary.projections)

end RecordSummary

def columnGap (text : String) (width : Nat) : List Char :=
  (spaces (width - text.length)).toList ++ [' ', ' ']

def projectionsColumn (counted : String) : List String → List Char
  | [] => []
  | names =>
    columnGap counted countWidth ++
      ("projections:".toList ++ ([' '] ++ (commaSeparated names).toList))

def RecordSummary.line (nameWidth kindWidth : Nat) (summary : RecordSummary) : List Char :=
  let counted := fieldCountText summary.fieldCount
  [' ', ' '] ++ (summary.name.toList ++ (columnGap summary.name nameWidth ++
    (summary.kind.toList ++ (columnGap summary.kind kindWidth ++
      (counted.toList ++ projectionsColumn counted summary.projections)))))

section Entries

theorem columnGap_ne_nil (text : String) (width : Nat) : columnGap text width ≠ [] :=
  List.append_ne_nil_of_right_ne_nil _ (List.cons_ne_nil _ _)

theorem isBlank_of_mem_columnGap (text : String) (width : Nat) :
    ∀ c ∈ columnGap text width, isBlank c = true := by
  rw [columnGap, List.forall_mem_append]
  exact ⟨fun _ member => isBlank_of_mem_spaces member, isBlank_of_mem_indent⟩

theorem isWord_toString (number : Int) : IsWord (toString number).toList := by
  have present : ∀ count : Nat, (toString count).toList ≠ [] := fun count => by
    rw [Nat.toString_eq_repr, Nat.toList_repr]
    exact List.ne_nil_of_length_pos Nat.length_toDigits_pos
  have solid : ∀ count : Nat, ∀ c ∈ (toString count).toList, isBlank c = false :=
    fun count c member => isBlank_of_isIdentChar (by
      simp [isIdentChar, Char.isAlphanum, isDigit_of_mem_toString member])
  rw [Int.toString_eq_repr, Int.repr_eq_if]
  split
  · exact ⟨present _, solid _⟩
  · rw [String.toList_append]
    refine ⟨List.append_ne_nil_of_right_ne_nil _ (present _), ?_⟩
    rw [List.forall_mem_append]
    exact ⟨List.forall_mem_singleton.2 (by decide), solid _⟩

theorem exists_noun (count : Int) :
    ∃ noun, IsWord noun ∧
      (fieldCountText count).toList = (toString count).toList ++ ([' '] ++ noun) := by
  refine ⟨(if count = 1 then "field" else "fields").toList, ?_, ?_⟩
  · split <;> decide
  · rw [fieldCountText, String.toList_append, String.toList_append, List.append_assoc]
    rfl

theorem endsSolid_counted (count : Int) :
    (fieldCountText count).toList ≠ [] ∧ EndsSolid (fieldCountText count).toList := by
  obtain ⟨noun, isWord, spelled⟩ := exists_noun count
  rw [spelled, ← List.append_assoc]
  exact ⟨List.append_ne_nil_of_right_ne_nil _ isWord.present,
    endsSolid_append isWord.present isWord.endsSolid _⟩

end Entries

section Rows
variable {summary : RecordSummary} {nameWidth kindWidth : Nat}

theorem solid_projections (tabular : summary.IsTabular) (present : summary.projections ≠ []) :
    (commaSeparated summary.projections).toList ≠ [] ∧
      EndsSolid (commaSeparated summary.projections).toList :=
  endsSolid_commaSeparated (fun name member =>
    have isWord := (tabular.projections name member).1
    ⟨isWord.present, isWord.endsSolid⟩) present

theorem toList_tableRow (tabular : summary.IsTabular) (nameWidth kindWidth : Nat) :
    (tableRow nameWidth kindWidth summary).toList = summary.line nameWidth kindWidth := by
  unfold tableRow RecordSummary.line projectionsColumn trimEnd
  dsimp only
  rw [String.toList_ofList]
  -- What is trimmed is the padding of the last column, and only where no projections follow it.
  cases listed : summary.projections with
  | nil =>
    obtain ⟨counted, ends⟩ := endsSolid_counted summary.fieldCount
    rw [List.isEmpty_nil, if_pos rfl, String.toList_append, toList_padEnd, ← List.append_assoc,
      trimRight_append (endsSolid_append counted ends _),
      trimRight_blank fun _ => isBlank_of_mem_spaces]
    simp [toList_padEnd, columnGap]
  | cons name rest =>
    obtain ⟨last, solid⟩ := solid_projections tabular (listed ▸ List.cons_ne_nil name rest)
    rw [listed] at last solid
    rw [List.isEmpty_cons, if_neg Bool.false_ne_true, String.toList_append,
      trimRight_eq_self (endsSolid_append last solid _)]
    simp [toList_padEnd, columnGap]

theorem endsSolid_tableRow (summary : RecordSummary) (nameWidth kindWidth : Nat) :
    EndsSolid (tableRow nameWidth kindWidth summary).toList := by
  rw [tableRow, trimEnd, String.toList_ofList]
  exact endsSolid_trimRight _

theorem isLineEnd_of_mem_line (tabular : summary.IsTabular) :
    ∀ c ∈ summary.line nameWidth kindWidth, isLineEnd c = false := by
  have space : ∀ c ∈ [' '], isLineEnd c = false := List.forall_mem_singleton.2 (by decide)
  have indent : ∀ c ∈ [' ', ' '], isLineEnd c = false :=
    List.forall_mem_cons.2 ⟨by decide, space⟩
  have gap : ∀ text width, ∀ c ∈ columnGap text width, isLineEnd c = false := by
    intro text width
    rw [columnGap, spaces, String.toList_ofList, List.forall_mem_append]
    refine ⟨fun c member => ?_, indent⟩
    rw [List.eq_of_mem_replicate member]
    decide
  obtain ⟨noun, isWord, spelled⟩ := exists_noun summary.fieldCount
  have names := forall_mem_commaSeparated (List.forall_mem_cons.2 ⟨by decide, space⟩)
    fun name member => (tabular.projections name member).1.isLineEnd
  have label : IsWord "projections:".toList := by decide
  unfold RecordSummary.line projectionsColumn
  simp only [spelled, List.forall_mem_append]
  refine ⟨indent, tabular.name.isLineEnd, gap _ _, tabular.kind.isLineEnd, gap _ _,
    ⟨(isWord_toString _).isLineEnd, space, isWord.isLineEnd⟩, ?_⟩
  split
  · exact List.forall_mem_nil _
  · simp only [List.forall_mem_append]
    exact ⟨gap _ _, label.isLineEnd, space, names⟩

theorem isLine_tableRow (tabular : summary.IsTabular) (nameWidth kindWidth : Nat) :
    IsLine (tableRow nameWidth kindWidth summary).toList := by
  refine ⟨?_, endsSolid_tableRow summary nameWidth kindWidth, ?_⟩
  · rw [toList_tableRow tabular]
    exact List.cons_ne_nil _ _
  · rw [toList_tableRow tabular]
    exact isLineEnd_of_mem_line tabular

end Rows

section Words
variable {summary : RecordSummary}

def readCells (words : List (List Char)) : List (List Char) × List (List Char) :=
  (words.take 3, (words.drop 5).map (List.filter (· ≠ ',')))

def shownCells : String × String × Int × List String → List (List Char) × List (List Char)
  | (name, kind, count, projections) =>
    ([name.toList, kind.toList, (toString count).toList], projections.map String.toList)

theorem shownCells_injective : Function.Injective shownCells := by
  rintro ⟨name, kind, count, projections⟩ ⟨title, sort, number, names⟩ same
  simp only [shownCells, Prod.mk.injEq, List.cons.injEq, and_true, String.toList_inj,
    integer_text_injective.eq_iff] at same
  obtain ⟨⟨rfl, rfl, rfl⟩, listed⟩ := same
  rw [List.map_injective_iff.2 (fun _ _ => String.toList_inj.1) listed]

/-- What is shown of a record can be read from the words of its line. -/
theorem readCells_line (tabular : summary.IsTabular) (nameWidth kindWidth : Nat) :
    readCells (spacedWords (summary.line nameWidth kindWidth)) = shownCells summary.shown := by
  obtain ⟨noun, isWord, spelled⟩ := exists_noun summary.fieldCount
  have gap := isBlank_of_mem_columnGap
  have space := isBlank_of_mem_space
  have entries : spacedWords (summary.line nameWidth kindWidth) =
      summary.name.toList :: summary.kind.toList :: (toString summary.fieldCount).toList ::
        spacedWords (noun ++ projectionsColumn (fieldCountText summary.fieldCount)
          summary.projections) := by
    rw [RecordSummary.line, spacedWords_gap isBlank_of_mem_indent,
      tabular.name.spacedWords_append (columnGap_ne_nil _ _) (gap _ _),
      tabular.kind.spacedWords_append (columnGap_ne_nil _ _) (gap _ _), spelled, List.append_assoc,
      List.append_assoc, (isWord_toString _).spacedWords_append (List.cons_ne_nil _ _) space]
  rw [entries]
  cases listed : summary.projections with
  | nil =>
    rw [projectionsColumn, List.append_nil, isWord.spacedWords, RecordSummary.shown, listed]
    rfl
  | cons name rest =>
    have names := filter_spacedWords_commaSeparated tabular.projections
    have label : IsWord "projections:".toList := by decide
    rw [listed] at names
    rw [projectionsColumn, isWord.spacedWords_append (columnGap_ne_nil _ _) (gap _ _),
      label.spacedWords_append (List.cons_ne_nil _ _) space, RecordSummary.shown, listed,
      shownCells, ← names]
    · rfl
    · exact List.cons_ne_nil _ _

end Words

section Places

/-- An entry stands in a line at a place, with nothing but blanks next to it. -/
def StandsAt (line : List Char) (place : Nat) (entry : List Char) : Prop :=
  ∃ front back, line = front ++ (entry ++ back) ∧ front.length = place ∧
    (∀ c, front.getLast? = some c → isBlank c = true) ∧
    ∀ c, back.head? = some c → isBlank c = true

variable {line gap back : List Char} {place : Nat}

theorem standsAt_behind (front entry : List Char)
    (spelled : line = front ++ (gap ++ (entry ++ back)))
    (counts : front.length + gap.length = place)
    (present : gap ≠ []) (blank : ∀ c ∈ gap, isBlank c = true)
    (free : ∀ c, back.head? = some c → isBlank c = true) : StandsAt line place entry := by
  refine ⟨front ++ gap, back, by rw [spelled, List.append_assoc],
    by rw [List.length_append, counts], ?_, free⟩
  intro c last
  rw [List.getLast?_append_of_ne_nil _ present] at last
  exact blank c (List.mem_of_getLast? last)

theorem head_of_gap (present : gap ≠ []) (blank : ∀ c ∈ gap, isBlank c = true) (rest : List Char) :
    ∀ c, (gap ++ rest).head? = some c → isBlank c = true := by
  intro c first
  rw [List.head?_append_of_ne_nil _ present] at first
  exact blank c (List.mem_of_head? first)

theorem length_columnGap {text : String} {width : Nat} (fits : text.length ≤ width) :
    text.toList.length + (columnGap text width).length = width + 2 := by
  rw [columnGap, spaces, String.toList_ofList, List.length_append, List.length_replicate,
    String.length_toList]
  change text.length + (width - text.length + 2) = width + 2
  omega

structure RecordSummary.StandsIn (summary : RecordSummary) (kindPlace countPlace : Nat)
    (row : String) : Prop where
  name : StandsAt row.toList 2 summary.name.toList
  kind : StandsAt row.toList kindPlace summary.kind.toList
  counted : StandsAt row.toList countPlace (fieldCountText summary.fieldCount).toList
  projections : summary.projections ≠ [] →
    "  projections: ".toList ++ (commaSeparated summary.projections).toList <:+ row.toList
  solid : EndsSolid row.toList

variable {summary : RecordSummary} {nameWidth kindWidth : Nat}

theorem standsIn_tableRow (tabular : summary.IsTabular) (name : summary.name.length ≤ nameWidth)
    (kind : summary.kind.length ≤ kindWidth) :
    summary.StandsIn (nameWidth + 4) (nameWidth + kindWidth + 6)
      (tableRow nameWidth kindWidth summary) := by
  have free : ∀ c, (projectionsColumn (fieldCountText summary.fieldCount)
      summary.projections).head? = some c → isBlank c = true := by
    unfold projectionsColumn
    split
    · exact fun c none => nomatch none
    · exact head_of_gap (columnGap_ne_nil _ _) (isBlank_of_mem_columnGap _ _) _
  have gap := fun text width => head_of_gap (columnGap_ne_nil text width)
    (isBlank_of_mem_columnGap text width)
  have nameColumn := length_columnGap name
  have kindColumn := length_columnGap kind
  have line := toList_tableRow tabular nameWidth kindWidth
  refine ⟨?_, ?_, ?_, ?_, endsSolid_tableRow summary nameWidth kindWidth⟩
  · exact standsAt_behind [] summary.name.toList line rfl (List.cons_ne_nil _ _)
      isBlank_of_mem_indent (gap _ _ _)
  · refine standsAt_behind ([' ', ' '] ++ summary.name.toList) summary.kind.toList
      (line.trans (List.append_assoc ..).symm) ?_ (columnGap_ne_nil _ _)
      (isBlank_of_mem_columnGap _ _) (gap _ _ _)
    simp only [List.length_append, List.length_cons, List.length_nil]
    omega
  · refine standsAt_behind ([' ', ' '] ++ (summary.name.toList ++
        (columnGap summary.name nameWidth ++ summary.kind.toList)))
      (fieldCountText summary.fieldCount).toList ?_ ?_ (columnGap_ne_nil summary.kind kindWidth)
      (isBlank_of_mem_columnGap _ _) free
    · rw [line, RecordSummary.line]
      simp only [List.append_assoc]
    · simp only [List.length_append, List.length_cons, List.length_nil]
      omega
  · intro present
    obtain ⟨first, rest, listed⟩ := List.exists_cons_of_ne_nil present
    have label : "  projections: ".toList = [' ', ' '] ++ ("projections:".toList ++ [' ']) := by
      decide
    refine ⟨[' ', ' '] ++ (summary.name.toList ++ (columnGap summary.name nameWidth ++
      (summary.kind.toList ++ (columnGap summary.kind kindWidth ++
        ((fieldCountText summary.fieldCount).toList ++
          (spaces (countWidth - (fieldCountText summary.fieldCount).length)).toList))))), ?_⟩
    rw [line, RecordSummary.line, label, listed, projectionsColumn]
    · simp only [columnGap, List.append_assoc]
    · exact List.cons_ne_nil _ _

end Places

section Tables

def tableHeading (count : Nat) (label : String) : String := s!"{count} records in {label}:"

/-- The table of some records: a heading, an empty line and a row for each of them, in their
order, with the columns at the given places. -/
structure IsTableOf (table label : String) (summaries : List RecordSummary) (rows : List String)
    (kindPlace countPlace : Nat) : Prop where
  text : table = joinLines (tableHeading summaries.length label :: "" :: (rows ++ [""]))
  lines : lines table = lines (tableHeading summaries.length label) ++ "" :: rows
  /-- The heading has one line, unless lines end in the label. -/
  heading : (∀ c ∈ label.toList, isLineEnd c = false) →
    Text.lines (tableHeading summaries.length label) = [tableHeading summaries.length label]
  solid : EndsSolid (tableHeading summaries.length label).toList
  rows : List.Forall₂ (fun summary row => summary.StandsIn kindPlace countPlace row) summaries rows

theorem toList_tableHeading (count : Nat) (label : String) :
    (tableHeading count label).toList =
      (toString count).toList ++ (" records in ".toList ++ (label.toList ++ [':'])) := by
  rw [tableHeading, String.toList_append, String.toList_append, String.toList_append,
    List.append_assoc, List.append_assoc]
  rfl

theorem endsSolid_tableHeading (count : Nat) (label : String) :
    (tableHeading count label).toList ≠ [] ∧ EndsSolid (tableHeading count label).toList := by
  have colon : IsWord [':'] := by decide
  rw [toList_tableHeading, ← List.append_assoc, ← List.append_assoc]
  exact ⟨List.append_ne_nil_of_right_ne_nil _ colon.present,
    endsSolid_append colon.present colon.endsSolid _⟩

theorem lines_tableHeading (count : Nat) {label : String}
    (plain : ∀ c ∈ label.toList, isLineEnd c = false) :
    lines (tableHeading count label) = [tableHeading count label] := by
  have number : ∀ c ∈ (toString count).toList, isLineEnd c = false :=
    (isWord_toString (Int.ofNat count)).isLineEnd
  have words : ∀ c ∈ " records in ".toList, isLineEnd c = false := by
    simp [isLineEnd, lineEnds, Ranges.contains]
  have colon : ∀ c ∈ [':'], isLineEnd c = false := List.forall_mem_singleton.2 (by decide)
  have all : ∀ c ∈ (tableHeading count label).toList, isLineEnd c = false := by
    rw [toList_tableHeading]
    simp only [List.forall_mem_append]
    exact ⟨number, words, plain, colon⟩
  rw [lines, linesOf_plain (endsSolid_tableHeading count label).1 all, List.map_singleton,
    String.ofList_toList]

theorem eq_of_tableHeading {first second : Nat} {label : String} {one other : List Char}
    (same : (tableHeading first label).toList ++ one =
      (tableHeading second label).toList ++ other) : first = second := by
  have digits : ∀ (count : Nat) (rest : List Char),
      ((tableHeading count label).toList ++ rest).takeWhile Char.isDigit =
        (toString count).toList := by
    intro count rest
    rw [toList_tableHeading, List.append_assoc,
      List.takeWhile_append_of_pos fun c => isDigit_of_mem_toString]
    exact List.append_nil _
  have spelled := congrArg (List.takeWhile Char.isDigit) same
  rw [digits, digits, String.toList_inj] at spelled
  exact natural_text_injective spelled

theorem toList_joinLines (rows : List String) :
    (joinLines (rows ++ [""])).toList =
      (rows.map String.toList).flatMap fun row => row ++ ['\n'] := by
  induction rows with
  | nil => rfl
  | cons row rest ih =>
    obtain ⟨next, more, following⟩ := List.exists_cons_of_ne_nil (List.concat_ne_nil "" rest)
    rw [joinLines, following] at ih
    rw [joinLines, List.cons_append, following, String.intercalate_cons_cons,
      String.toList_append, ih, String.toList_append]
    rfl

theorem toList_headed (heading : String) (rows : List String) :
    (joinLines (heading :: "" :: (rows ++ [""]))).toList =
      heading.toList ++ '\n' :: '\n' ::
        (rows.map String.toList).flatMap fun row => row ++ ['\n'] := by
  rw [← List.cons_append, ← List.cons_append, toList_joinLines, List.map_cons, List.flatMap_cons,
    List.append_assoc]
  rfl

theorem lines_headed {heading : String} {rows : List String}
    (opens : heading.toList ≠ [] ∧ EndsSolid heading.toList)
    (each : ∀ row ∈ rows, IsLine row.toList) :
    lines (joinLines (heading :: "" :: (rows ++ [""]))) = lines heading ++ "" :: rows := by
  have empty : ∀ rest, linesOf ('\n' :: rest) = [] :: linesOf rest := fun rest => rfl
  have back : rows.map (String.ofList ∘ String.toList) = rows :=
    (List.map_congr_left fun row _ => String.ofList_toList).trans (List.map_id rows)
  rw [lines, toList_headed, linesOf_append_feed opens.1 opens.2, empty,
    linesOf_closed (List.forall_mem_map.2 each), List.map_append, List.map_cons, List.map_map, back]
  rfl

section Tabular
variable {summaries : List RecordSummary}

theorem tableOf (tabular : ∀ summary ∈ summaries, summary.IsTabular) (label : String) :
    IsTableOf (recordsTable summaries label) label summaries
      (summaries.map (tableRow (widest (summaries.map RecordSummary.name))
        (widest (summaries.map RecordSummary.kind))))
      (widest (summaries.map RecordSummary.name) + 4)
      (widest (summaries.map RecordSummary.name) + widest (summaries.map RecordSummary.kind) + 6)
    where
  text := rfl
  lines := lines_headed (endsSolid_tableHeading summaries.length label) <|
    List.forall_mem_map.2 fun summary member => isLine_tableRow (tabular summary member) _ _
  heading := lines_tableHeading summaries.length
  solid := (endsSolid_tableHeading summaries.length label).2
  rows := by
    rw [List.forall₂_map_right_iff, List.forall₂_same]
    exact fun summary member => standsIn_tableRow (tabular summary member)
      (length_le_widest (List.mem_map_of_mem member))
      (length_le_widest (List.mem_map_of_mem member))

end Tabular

theorem shown_of_table {first second : List RecordSummary} {label : String}
    (one : ∀ summary ∈ first, summary.IsTabular) (other : ∀ summary ∈ second, summary.IsTabular)
    (same : recordsTable first label = recordsTable second label) :
    first.map RecordSummary.shown = second.map RecordSummary.shown := by
  have table := tableOf one label
  have further := tableOf other label
  have length : first.length = second.length := by
    rw [table.text, further.text, ← String.toList_inj, toList_headed, toList_headed] at same
    exact eq_of_tableHeading same
  -- Under one heading, tables with the same lines have the same rows.
  have rows := table.lines.symm.trans ((congrArg lines same).trans further.lines)
  rw [length] at rows
  have cells : ∀ {summaries : List RecordSummary} (nameWidth kindWidth : Nat),
      (∀ summary ∈ summaries, summary.IsTabular) →
      (summaries.map (tableRow nameWidth kindWidth)).map
          (fun row => readCells (spacedWords row.toList)) =
        (summaries.map RecordSummary.shown).map shownCells := by
    intro summaries nameWidth kindWidth tabular
    rw [List.map_map, List.map_map]
    refine List.map_congr_left fun summary member => ?_
    change readCells (spacedWords (tableRow nameWidth kindWidth summary).toList) = _
    rw [toList_tableRow (tabular summary member), readCells_line (tabular summary member)]
    rfl
  refine List.map_injective_iff.2 shownCells_injective ?_
  rw [← cells _ _ one, ← cells _ _ other]
  exact congrArg _ (List.cons.inj (List.append_cancel_left rows)).2

/-- The table has a row for every record, in their order and with the columns below each other, and
tables under one label are different where something is different that they show. -/
theorem recordsTable_shows (label : String) :
    (∀ summaries : List RecordSummary, (∀ summary ∈ summaries, summary.IsTabular) →
      ∃ rows kindPlace countPlace,
        IsTableOf (recordsTable summaries label) label summaries rows kindPlace countPlace) ∧
    ∀ first second : List RecordSummary, (∀ summary ∈ first, summary.IsTabular) →
      (∀ summary ∈ second, summary.IsTabular) →
      first.map RecordSummary.shown ≠ second.map RecordSummary.shown →
        recordsTable first label ≠ recordsTable second label :=
  ⟨fun _ tabular => ⟨_, _, _, tableOf tabular label⟩,
    fun _ _ one other apart same => apart (shown_of_table one other same)⟩

end Tables

def wideSummary : RecordSummary where
  name := "Query"
  fieldCount := 123456
  projections := ["Key", "Row"]

def plainSummary : RecordSummary where
  name := "Plain"
  kind := "union"
  fieldCount := 1

theorem recordsTable_shows_wide :
    (∀ summary ∈ [wideSummary, plainSummary], summary.IsTabular) ∧
      (∀ summary ∈ [plainSummary, wideSummary], summary.IsTabular) ∧
      [wideSummary, plainSummary].map RecordSummary.shown ≠
        [plainSummary, wideSummary].map RecordSummary.shown ∧
      (∃ rows kindPlace countPlace,
        IsTableOf (recordsTable [wideSummary, plainSummary] "records.xml") "records.xml"
          [wideSummary, plainSummary] rows kindPlace countPlace) ∧
      recordsTable [wideSummary, plainSummary] "records.xml" ≠
        recordsTable [plainSummary, wideSummary] "records.xml" := by
  have wide : wideSummary.IsTabular := ⟨by decide, by decide, by decide⟩
  have plain : plainSummary.IsTabular := ⟨by decide, by decide, by decide⟩
  have one : ∀ summary ∈ [wideSummary, plainSummary], summary.IsTabular :=
    List.forall_mem_cons.2 ⟨wide, List.forall_mem_singleton.2 plain⟩
  have other : ∀ summary ∈ [plainSummary, wideSummary], summary.IsTabular :=
    List.forall_mem_cons.2 ⟨plain, List.forall_mem_singleton.2 wide⟩
  have apart : [wideSummary, plainSummary].map RecordSummary.shown ≠
      [plainSummary, wideSummary].map RecordSummary.shown := by decide
  obtain ⟨aligned, faithful⟩ := recordsTable_shows "records.xml"
  exact ⟨one, other, apart, aligned _ one, faithful _ _ one other apart⟩

example : recordsTable [wideSummary, plainSummary] "records.xml" =
    "2 records in records.xml:\n\n  Query  struct  123456 fields  projections: Key, Row\n" ++
      "  Plain  union   1 field\n" := by
  decide +kernel

end RecordProjection
