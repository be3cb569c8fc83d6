import RecordProjection.Proofs.Directive.Nesting

/-! Lists of items. Items stand one after the other with a comma between two of them, and one more
comma may close a list that has items. Splitting at the commas outside of all brackets gives a list
of tokens back as such a list, and finds the items that were put together again. -/

namespace RecordProjection.Directive

section Joining
variable {α β : Type}

inductive Joined (separates : α → Prop) : List (List α) → List α → Prop
  | last (item : List α) : Joined separates [item] item
  | more {item rest : List α} {separator : α} {items : List (List α)}
      (between : separates separator) (behind : Joined separates items rest) :
      Joined separates (item :: items) (item ++ separator :: rest)

/-- No items; or items with separators between them, and perhaps another one behind the last. -/
inductive Listed (separates : α → Prop) : List (List α) → List α → Prop
  | none : Listed separates [] []
  | joined {items : List (List α)} {whole : List α} (joined : Joined separates items whole) :
      Listed separates items whole
  | closed {items : List (List α)} {whole : List α} {separator : α}
      (joined : Joined separates items whole) (final : separates separator) :
      Listed separates items (whole ++ [separator])

variable {separates : α → Prop} {items : List (List α)} {whole : List α}

theorem Joined.items_ne_nil (joined : Joined separates items whole) : items ≠ [] := by
  cases joined <;> exact List.cons_ne_nil _ _

theorem joined_intercalate (separator : α) (present : items ≠ []) :
    Joined (· = separator) items ([separator].intercalate items) := by
  induction items with
  | nil => exact absurd rfl present
  | cons item others ih =>
    cases others with
    | nil =>
      rw [List.intercalate_singleton]
      exact .last item
    | cons next others =>
      rw [List.intercalate_cons_cons, List.append_assoc]
      exact .more rfl (ih (List.cons_ne_nil _ _))

theorem listed_intercalate (separator : α) (items : List (List α)) :
    Listed (· = separator) items ([separator].intercalate items) := by
  cases items with
  | nil => exact .none
  | cons item others => exact .joined (joined_intercalate separator (List.cons_ne_nil _ _))

theorem Joined.concat {last : List α} (joined : Joined separates (items ++ [last]) whole)
    (present : items ≠ []) :
    ∃ front separator, separates separator ∧ Joined separates items front ∧
      whole = front ++ separator :: last := by
  generalize ending : items ++ [last] = all at joined
  induction joined generalizing items with
  | last item =>
    have alone := List.append_eq_singleton_iff.1 ending
    simp [present] at alone
  | @more item rest separator others between behind ih =>
    obtain ⟨first, items, rfl⟩ := List.exists_cons_of_ne_nil present
    obtain ⟨rfl, following⟩ := List.cons.inj ending
    cases items with
    | nil =>
      obtain rfl : [last] = others := following
      cases behind with
      | last => exact ⟨first, separator, between, .last first, rfl⟩
      | more _ none => exact absurd rfl none.items_ne_nil
    | cons next items =>
      obtain ⟨front, final, ends, joined, split⟩ := ih (List.cons_ne_nil _ _) following
      refine ⟨first ++ separator :: front, final, ends, .more between joined, ?_⟩
      rw [split, List.append_assoc, List.cons_append]

theorem Joined.append {others : List (List α)} {rest : List α} {separator : α}
    (joined : Joined separates items whole) (between : separates separator)
    (behind : Joined separates others rest) :
    Joined separates (items ++ others) (whole ++ separator :: rest) := by
  induction joined with
  | last item => exact .more between behind
  | more earlier _ ih =>
    rw [List.append_assoc, List.cons_append]
    exact .more earlier ih

theorem Joined.snoc {last : List α} {separator : α} (joined : Joined separates items whole)
    (between : separates separator) :
    Joined separates (items ++ [last]) (whole ++ separator :: last) :=
  joined.append between (.last last)

theorem Joined.append_listed {others : List (List α)} {rest : List α} {separator : α}
    (joined : Joined separates items whole) (between : separates separator)
    (listed : Listed separates others rest) :
    Listed separates (items ++ others) (whole ++ separator :: rest) := by
  cases listed with
  | none =>
    rw [List.append_nil]
    exact .closed joined between
  | joined behind => exact .joined (joined.append between behind)
  | closed behind final =>
    rw [← List.cons_append, ← List.append_assoc]
    exact .closed (joined.append between behind) final

theorem Joined.separates_or_mem {value : α} (joined : Joined separates items whole)
    (member : value ∈ whole) : separates value ∨ ∃ item ∈ items, value ∈ item := by
  induction joined with
  | last item => exact .inr ⟨item, List.mem_cons_self, member⟩
  | @more item rest separator items between behind ih =>
    rcases List.mem_append.1 member with inside | later
    · exact .inr ⟨item, List.mem_cons_self, inside⟩
    · rcases List.mem_cons.1 later with rfl | among
      · exact .inl between
      · refine (ih among).imp_right ?_
        rintro ⟨other, listed, inside⟩
        exact ⟨other, List.mem_cons_of_mem _ listed, inside⟩

theorem Listed.separates_or_mem {value : α} (listed : Listed separates items whole)
    (member : value ∈ whole) : separates value ∨ ∃ item ∈ items, value ∈ item := by
  cases listed with
  | none => cases member
  | joined joined => exact joined.separates_or_mem member
  | closed joined final =>
    rcases List.mem_append.1 member with inside | last
    · exact joined.separates_or_mem inside
    · rw [List.mem_singleton.1 last]
      exact .inl final

theorem Joined.contiguous (joined : Joined separates items whole) :
    ∀ item ∈ items, item <:+: whole := by
  induction joined with
  | last item => exact List.forall_mem_singleton.2 (List.infix_refl item)
  | more _ _ ih =>
    refine List.forall_mem_cons.2 ⟨(List.prefix_append _ _).isInfix, fun item member => ?_⟩
    exact (ih item member).trans ((List.suffix_cons _ _).trans (List.suffix_append _ _)).isInfix

theorem Listed.contiguous (listed : Listed separates items whole) :
    ∀ item ∈ items, item <:+: whole := by
  cases listed with
  | none => exact List.forall_mem_nil _
  | joined joined => exact joined.contiguous
  | closed joined _ =>
    exact fun item member => (joined.contiguous item member).trans (List.prefix_append _ _).isInfix

variable {divides : β → Prop} {texts : List (List β)}

theorem Joined.map (write : α → β) (sense : ∀ value, separates value → divides (write value))
    (joined : Joined separates items whole) :
    Joined divides (items.map (List.map write)) (whole.map write) := by
  induction joined with
  | last item => exact .last (item.map write)
  | more between _ ih =>
    rw [List.map_cons, List.map_append, List.map_cons]
    exact .more (sense _ between) ih

theorem Listed.map (write : α → β) (sense : ∀ value, separates value → divides (write value))
    (listed : Listed separates items whole) :
    Listed divides (items.map (List.map write)) (whole.map write) := by
  cases listed with
  | none => exact .none
  | joined joined => exact .joined (joined.map write sense)
  | closed joined final =>
    rw [List.map_append]
    exact .closed (joined.map write sense) (sense _ final)

theorem Joined.of_map (write : α → β)
    (sense : ∀ value ∈ whole, divides (write value) → separates value)
    (joined : Joined divides texts (whole.map write)) :
    ∃ parts, parts.map (List.map write) = texts ∧ Joined separates parts whole := by
  generalize written : whole.map write = text at joined
  induction joined generalizing whole with
  | last item => exact ⟨[whole], by rw [List.map_singleton, written], .last whole⟩
  | more between _ ih =>
    obtain ⟨item, remaining, rfl, rfl, behind⟩ := List.map_eq_append_iff.1 written
    obtain ⟨separator, rest, rfl, rfl, others⟩ := List.map_eq_cons_iff.1 behind
    obtain ⟨own, sense⟩ := List.forall_mem_cons.1 (List.forall_mem_append.1 sense).2
    obtain ⟨parts, same, joined⟩ := ih sense others
    exact ⟨item :: parts, by rw [List.map_cons, same], .more (own between) joined⟩

theorem Listed.of_map (write : α → β)
    (sense : ∀ value ∈ whole, divides (write value) → separates value)
    (listed : Listed divides texts (whole.map write)) :
    ∃ parts, parts.map (List.map write) = texts ∧ Listed separates parts whole := by
  generalize written : whole.map write = text at listed
  cases listed with
  | none =>
    rw [List.map_eq_nil_iff] at written
    exact ⟨[], rfl, written ▸ .none⟩
  | joined joined =>
    obtain ⟨parts, same, joined⟩ := Joined.of_map write sense (written ▸ joined)
    exact ⟨parts, same, .joined joined⟩
  | closed joined final =>
    obtain ⟨front, ending, rfl, rfl, last⟩ := List.map_eq_append_iff.1 written
    obtain ⟨separator, rest, rfl, rfl, nothing⟩ := List.map_eq_cons_iff.1 last
    obtain ⟨earlier, later⟩ := List.forall_mem_append.1 sense
    obtain ⟨parts, same, joined⟩ := Joined.of_map write earlier joined
    rw [List.map_eq_nil_iff.1 nothing]
    exact ⟨parts, same, .closed joined (later separator List.mem_cons_self final)⟩

end Joining

def Token.IsComma (token : Token) : Prop := token.kind = .comma

theorem Token.IsComma.plain {token : Token} (comma : token.IsComma) : token.IsPlain := by
  rw [IsComma] at comma
  simp [IsPlain, comma]

/-- Whether no comma of the tokens stands outside of all brackets, where `depth` brackets are open
in front of them. -/
def Undivided (depth : Int) (tokens : List Token) : Prop :=
  ∀ before comma after, tokens = before ++ comma :: after → comma.IsComma →
    depth + nesting before ≠ 0

theorem undivided_nil (depth : Int) : Undivided depth [] := by
  intro before comma after split
  simp at split

theorem undivided_cons {depth : Int} {token : Token} {rest : List Token} :
    Undivided depth (token :: rest) ↔
      ¬ (token.IsComma ∧ depth = 0) ∧ Undivided (depthAfter depth token) rest := by
  constructor
  · intro undivided
    constructor
    · rintro ⟨comma, rfl⟩
      exact undivided [] token rest rfl comma rfl
    · intro before comma after split isComma closed
      refine undivided (token :: before) comma after (by rw [split, List.cons_append]) isComma ?_
      rw [depthAfter_eq] at closed
      rw [nesting_cons]
      omega
  · rintro ⟨first, undivided⟩ before comma after split isComma closed
    cases before with
    | nil =>
      obtain ⟨rfl, -⟩ := List.cons.inj split
      exact first ⟨isComma, by simpa [nesting_nil] using closed⟩
    | cons head before =>
      obtain ⟨rfl, behind⟩ := List.cons.inj split
      refine undivided before comma after behind isComma ?_
      rw [nesting_cons] at closed
      rw [depthAfter_eq]
      omega

theorem Undivided.congr {depth : Int} {first second : List Token}
    (same : first.map Token.shape = second.map Token.shape) (undivided : Undivided depth first) :
    Undivided depth second := by
  rintro before comma after rfl isComma
  rw [List.map_append, List.map_cons] at same
  obtain ⟨front, others, rfl, start, split⟩ := List.map_eq_append_iff.1 same
  obtain ⟨separator, rest, rfl, shape, -⟩ := List.map_eq_cons_iff.1 split
  have kind : separator.kind = comma.kind := congrArg Prod.fst shape
  rw [← nesting_congr start]
  exact undivided front separator rest rfl (kind.trans isComma)

theorem Balanced.undivided_enclosed {opener closer : Token} {inner : List Token}
    (opens : opener.kind = .opening) (closes : closer.IsCloser (closerOf opener.text))
    (within : Balanced inner) : Undivided 0 (opener :: (inner ++ [closer])) := by
  intro before comma after split isComma closed
  have notComma : ∀ kind, comma.kind = kind → kind ≠ .comma → False :=
    fun kind same other => other (same ▸ isComma)
  cases before with
  | nil =>
    obtain ⟨rfl, -⟩ := List.cons.inj split
    exact notComma _ opens (by decide)
  | cons head before =>
    obtain ⟨rfl, behind⟩ := List.cons.inj split
    rw [nesting_cons, nesting_opening opens] at closed
    rcases List.append_eq_append_iff.1 behind with
      ⟨middle, before_eq, tail⟩ | ⟨middle, inner_eq, tail⟩
    · -- Behind the inner tokens stands nothing but the closer.
      cases middle with
      | nil =>
        obtain ⟨rfl, -⟩ := List.cons.inj tail
        exact notComma _ closes.1 (by decide)
      | cons final middle => simp at tail
    · have depth := (inner_eq ▸ within).cut.1
      omega

section Splitting
variable {depth : Int} {token comma : Token} {item rest tokens : List Token}

theorem segmentsFrom_comma (isComma : comma.IsComma) :
    segmentsFrom 0 (comma :: rest) = [] :: segmentsFrom 0 rest := by
  rw [segmentsFrom, if_pos (by simpa [Token.IsComma] using isComma)]

theorem segmentsFrom_cons (inside : ¬ (token.IsComma ∧ depth = 0)) :
    segmentsFrom depth (token :: rest) =
      extendSegment token (segmentsFrom (depthAfter depth token) rest) := by
  rw [segmentsFrom, if_neg (by simpa [Token.IsComma] using inside)]

theorem segmentsFrom_undivided (undivided : Undivided depth item) :
    segmentsFrom depth item = [item] := by
  induction item generalizing depth with
  | nil => rfl
  | cons token rest ih =>
    obtain ⟨inside, behind⟩ := undivided_cons.1 undivided
    rw [segmentsFrom_cons inside, ih behind]
    rfl

theorem segmentsFrom_append (undivided : Undivided depth item) (closed : depth + nesting item = 0)
    (isComma : comma.IsComma) :
    segmentsFrom depth (item ++ comma :: rest) = item :: segmentsFrom 0 rest := by
  induction item generalizing depth with
  | nil =>
    obtain rfl : depth = 0 := by simpa [nesting_nil] using closed
    exact segmentsFrom_comma isComma
  | cons token others ih =>
    obtain ⟨inside, behind⟩ := undivided_cons.1 undivided
    rw [nesting_cons, ← Int.add_assoc, ← depthAfter_eq] at closed
    rw [List.cons_append, segmentsFrom_cons inside, ih behind closed]
    rfl

theorem undivided_or_append (depth : Int) (tokens : List Token) :
    Undivided depth tokens ∨ ∃ item comma rest, tokens = item ++ comma :: rest ∧ comma.IsComma ∧
      Undivided depth item ∧ depth + nesting item = 0 := by
  induction tokens generalizing depth with
  | nil => exact .inl (undivided_nil depth)
  | cons token rest ih =>
    by_cases ends : token.IsComma ∧ depth = 0
    · exact .inr ⟨[], token, rest, rfl, ends.1, undivided_nil depth,
        by simpa [nesting_nil] using ends.2⟩
    · rcases ih (depthAfter depth token) with
        undivided | ⟨item, comma, others, rfl, isComma, part, closed⟩
      · exact .inl (undivided_cons.2 ⟨ends, undivided⟩)
      · refine .inr ⟨token :: item, comma, others, rfl, isComma, undivided_cons.2 ⟨ends, part⟩, ?_⟩
        rw [depthAfter_eq] at closed
        rw [nesting_cons]
        omega

/-- Segments one after the other: what holds of tokens that are a single segment, and holds of
tokens with one more segment in front, holds of all. -/
theorem segments_induction {motive : List Token → List (List Token) → Prop}
    (single : ∀ tokens, Undivided 0 tokens → motive tokens [tokens])
    (more : ∀ item comma rest, comma.IsComma → Undivided 0 item → nesting item = 0 →
      motive rest (segmentsFrom 0 rest) →
      motive (item ++ comma :: rest) (item :: segmentsFrom 0 rest))
    (tokens : List Token) : motive tokens (segmentsFrom 0 tokens) := by
  rcases undivided_or_append 0 tokens with
    undivided | ⟨item, comma, rest, split, isComma, undivided, closed⟩
  · rw [segmentsFrom_undivided undivided]
    exact single tokens undivided
  · rw [split, segmentsFrom_append undivided closed isComma]
    exact more item comma rest isComma undivided (by simpa using closed)
      (segments_induction single more rest)
termination_by tokens.length
decreasing_by
  rw [split, List.length_append, List.length_cons]
  omega

theorem joined_segmentsFrom (tokens : List Token) :
    Joined Token.IsComma (segmentsFrom 0 tokens) tokens :=
  segments_induction (motive := fun tokens segments => Joined Token.IsComma segments tokens)
    (fun tokens _ => .last tokens) (fun _ _ _ isComma _ _ behind => .more isComma behind) tokens

theorem undivided_of_mem_segmentsFrom (tokens : List Token) :
    ∀ segment ∈ segmentsFrom 0 tokens, Undivided 0 segment :=
  segments_induction (motive := fun _ segments => ∀ segment ∈ segments, Undivided 0 segment)
    (fun _ undivided => List.forall_mem_singleton.2 undivided)
    (fun _ _ _ _ undivided _ behind => List.forall_mem_cons.2 ⟨undivided, behind⟩) tokens

theorem balanced_of_mem_segmentsFrom (tokens : List Token) (balanced : Balanced tokens) :
    ∀ segment ∈ segmentsFrom 0 tokens, Balanced segment := by
  revert balanced
  refine segments_induction
    (motive := fun tokens segments => Balanced tokens → ∀ segment ∈ segments, Balanced segment)
    (fun _ _ balanced => List.forall_mem_singleton.2 balanced) ?_ tokens
  intro item comma rest isComma _ closed behind balanced
  obtain ⟨first, others⟩ := balanced.cut.2 closed
  have split : Balanced ([comma] ++ rest) := others
  have second := (split.cut.2 (nesting_plain isComma.plain)).2
  exact List.forall_mem_cons.2 ⟨first, behind second⟩

theorem splitTopLevel_cases (tokens : List Token) :
    splitTopLevel tokens = segmentsFrom 0 tokens ∧ (segmentsFrom 0 tokens).getLast? ≠ some [] ∨
      segmentsFrom 0 tokens = splitTopLevel tokens ++ [[]] := by
  unfold splitTopLevel
  dsimp only
  cases found : (segmentsFrom 0 tokens).getLast? with
  | none => simp
  | some last =>
    cases last with
    | nil =>
      right
      obtain ⟨front, whole⟩ := List.getLast?_eq_some_iff.1 found
      simp [whole]
    | cons token others => simp

theorem mem_segmentsFrom_of_mem_splitTopLevel {segment : List Token}
    (member : segment ∈ splitTopLevel tokens) : segment ∈ segmentsFrom 0 tokens := by
  rcases splitTopLevel_cases tokens with ⟨same, -⟩ | whole
  · exact same ▸ member
  · exact whole ▸ List.mem_append_left _ member

theorem listed_splitTopLevel (tokens : List Token) :
    Listed Token.IsComma (splitTopLevel tokens) tokens := by
  have joined := joined_segmentsFrom tokens
  rcases splitTopLevel_cases tokens with ⟨same, -⟩ | whole
  · exact .joined (same ▸ joined)
  · rw [whole] at joined
    by_cases present : splitTopLevel tokens = []
    · rw [present] at joined ⊢
      cases joined with
      | last => exact .none
      | more _ none => exact absurd rfl none.items_ne_nil
    · obtain ⟨front, comma, isComma, items, split⟩ := joined.concat present
      have taken := Listed.closed items isComma
      rwa [← split] at taken

structure IsItem (tokens : List Token) : Prop where
  present : tokens ≠ []
  balanced : Balanced tokens
  undivided : Undivided 0 tokens

theorem IsItem.single (plain : token.IsPlain) (solid : ¬ token.IsComma) : IsItem [token] where
  present := List.cons_ne_nil _ _
  balanced := .plain plain .nil
  undivided := undivided_cons.2 ⟨fun comma => solid comma.1, undivided_nil _⟩

theorem IsItem.cons (plain : token.IsPlain) (solid : ¬ token.IsComma) (part : IsItem item) :
    IsItem (token :: item) where
  present := List.cons_ne_nil _ _
  balanced := .plain plain part.balanced
  undivided := by
    refine undivided_cons.2 ⟨fun comma => solid comma.1, ?_⟩
    rw [depthAfter_eq, nesting_plain plain]
    exact part.undivided

variable {items : List (List Token)}

theorem segmentsFrom_joined (joined : Joined Token.IsComma items tokens)
    (parts : ∀ item ∈ items, Undivided 0 item ∧ nesting item = 0) :
    segmentsFrom 0 tokens = items := by
  induction joined with
  | last item => exact segmentsFrom_undivided (parts item List.mem_cons_self).1
  | more isComma _ ih =>
    obtain ⟨⟨undivided, closed⟩, others⟩ := List.forall_mem_cons.1 parts
    rw [segmentsFrom_append undivided (by omega) isComma, ih others]

theorem Joined.balanced (joined : Joined Token.IsComma items tokens)
    (parts : ∀ item ∈ items, IsItem item) : Balanced tokens := by
  induction joined with
  | last item => exact (parts item List.mem_cons_self).balanced
  | more isComma _ ih =>
    obtain ⟨first, others⟩ := List.forall_mem_cons.1 parts
    exact first.balanced.append (.plain isComma.plain (ih others))

theorem Listed.balanced (listed : Listed Token.IsComma items tokens)
    (parts : ∀ item ∈ items, IsItem item) : Balanced tokens := by
  cases listed with
  | none => exact .nil
  | joined joined => exact joined.balanced parts
  | closed joined final => exact (joined.balanced parts).append (.plain final.plain .nil)

theorem splitTopLevel_listed (listed : Listed Token.IsComma items tokens)
    (parts : ∀ item ∈ items, IsItem item) : splitTopLevel tokens = items := by
  have filled : [] ∉ items := fun member => (parts [] member).present rfl
  have each : ∀ item ∈ items, Undivided 0 item ∧ nesting item = 0 := fun item member =>
    ⟨(parts item member).undivided, (parts item member).balanced.nesting_eq_zero⟩
  cases listed with
  | none => rfl
  | joined joined =>
    have segments := segmentsFrom_joined joined each
    rcases splitTopLevel_cases tokens with ⟨same, -⟩ | whole
    · rw [same, segments]
    · rw [segments] at whole
      exact absurd (whole ▸ List.mem_append_right _ List.mem_cons_self) filled
  | @closed _ front comma joined final =>
    -- The comma at the end opens a segment without tokens, which splitting drops.
    have segments : segmentsFrom 0 (front ++ [comma]) = items ++ [[]] :=
      segmentsFrom_joined (joined.snoc final) (List.forall_mem_append.2
        ⟨each, List.forall_mem_singleton.2 ⟨undivided_nil 0, rfl⟩⟩)
    rcases splitTopLevel_cases (front ++ [comma]) with ⟨-, nonempty⟩ | whole
    · rw [segments, List.getLast?_concat] at nonempty
      exact absurd rfl nonempty
    · exact (List.append_cancel_right (whole.symm.trans segments))

end Splitting

end RecordProjection.Directive
