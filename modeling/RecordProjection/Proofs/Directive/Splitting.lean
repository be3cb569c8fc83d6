import RecordProjection.Proofs.Directive.Membership

/-! Lists that are split. The items of a list are found by themselves, wherever they stand, and none
of them leaves a quote open; so two lists with a comma between them are one list, which has the
items of the first and then those of the second. -/

namespace RecordProjection.Directive
open Text

def listing (text : String) : String :=
  DirectiveKind.membership.path ++ ("(" ++ text ++ ")")

section Items
variable {segment : List Token}

theorem splitDocumentation_moved (count : Nat) (segment : List Token) :
    splitDocumentation (segment.map (Token.moved count)) =
      ((splitDocumentation segment).1, (splitDocumentation segment).2.map (Token.moved count)) := by
  cases segment with
  | nil => rfl
  | cons token rest =>
    by_cases documented : token.kind = .string <;> simp [splitDocumentation, documented]

theorem string_or_mem_splitDocumentation {token : Token} (member : token ∈ segment) :
    token.kind = .string ∨ token ∈ (splitDocumentation segment).2 := by
  cases segment with
  | nil => cases member
  | cons first rest =>
    by_cases documented : first.kind = .string
    · rcases List.mem_cons.1 member with rfl | later
      · exact .inl documented
      · exact .inr (by simpa [splitDocumentation, documented] using later)
    · exact .inr (by simpa [splitDocumentation, documented] using member)

theorem kind_ne_punct_of_denotes {selector : Selector}
    (denotes : Selector.Denotes (splitDocumentation segment).2 selector) :
    ∀ token ∈ segment, token.kind ≠ .punct := by
  intro token member
  rcases string_or_mem_splitDocumentation member with string | inside
  · simp [string]
  · exact denotes.kind_ne_punct token inside

theorem lexical_splitDocumentation (lexical : ∀ token ∈ segment, token.IsLexical) :
    ∀ token ∈ (splitDocumentation segment).2, token.IsLexical :=
  fun token member => lexical token ((splitDocumentation_suffix rfl).subset member)

end Items

section Readers
variable {α : Type}

/-- A reader of single items. It takes nothing for an item that is no tokens, or that has a quote
left open, and does not ask where the tokens stand. -/
structure ReadsItems (read : List Token → Except Malformation α) : Prop where
  present : ∀ value, read [] ≠ .ok value
  kind_ne_punct : ∀ tokens value, (∀ token ∈ tokens, token.IsLexical) →
    read tokens = .ok value → ∀ token ∈ tokens, token.kind ≠ .punct
  moved : ∀ tokens value count, (∀ token ∈ tokens, token.IsLexical) →
    read tokens = .ok value → read (tokens.map (Token.moved count)) = .ok value

theorem readsItems_nameEntry : ReadsItems nameEntry where
  present := by
    rintro value ⟨⟩
  kind_ne_punct := by
    intro tokens entry lexical read
    obtain ⟨named, token, same, found⟩ := nameEntry_eq_ok read
    have inside : token.IsLexical := lexical_splitDocumentation lexical token (by simp [found])
    rw [← same, Selector.isName_eq_isIdentifier inside.lexeme.endsSolid] at named
    have denotes : Selector.Denotes (splitDocumentation tokens).2 (.name token.text) := by
      rw [found]
      exact .name (inside.ident named) named
    exact kind_ne_punct_of_denotes denotes
  moved := by
    intro tokens entry count _ read
    obtain ⟨named, token, same, found⟩ := nameEntry_eq_ok read
    rw [nameEntry, splitDocumentation_moved, found]
    simp [same, named]

theorem membershipEntry_eq_ok {segment : List Token} {entry : MembershipEntry}
    (lexical : ∀ token ∈ segment, token.IsLexical) (read : membershipEntry segment = .ok entry) :
    (splitDocumentation segment).1 = entry.documentation ∧
      Selector.Denotes (splitDocumentation segment).2 entry.selector := by
  obtain ⟨selector, denoted, read⟩ := bind_eq_ok read
  cases read
  exact ⟨rfl, Selector.denotes_of_parse (lexical_splitDocumentation lexical) denoted⟩

theorem readsItems_membershipEntry : ReadsItems membershipEntry where
  present := fun _ read =>
    (membershipEntry_eq_ok (List.forall_mem_nil _) read).2.isItem.present rfl
  kind_ne_punct := fun _ _ lexical read =>
    kind_ne_punct_of_denotes (membershipEntry_eq_ok lexical read).2
  moved := by
    intro tokens entry count lexical read
    obtain ⟨documented, denotes⟩ := membershipEntry_eq_ok lexical read
    rw [membershipEntry, splitDocumentation_moved]
    dsimp only
    rw [(denotes.moved count).parse, documented]
    rfl

def Lists (read : List Token → Except Malformation α) (tokens : List Token) (values : List α) :
    Prop :=
  ∃ pairs : List (List Token × α), pairs.map Prod.snd = values ∧
    Listed Token.IsComma (pairs.map Prod.fst) tokens ∧
      ∀ pair ∈ pairs, IsItem pair.1 ∧ read pair.1 = .ok pair.2

variable {read : List Token → Except Malformation α} {tokens others : List Token}
  {values more : List α}

theorem lists_iff (reads : ReadsItems read) :
    Lists read tokens values ↔
      Balanced tokens ∧ (splitTopLevel tokens).mapM read = .ok values := by
  constructor
  · rintro ⟨pairs, rfl, listed, each⟩
    have items : ∀ item ∈ pairs.map Prod.fst, IsItem item :=
      List.forall_mem_map.2 fun pair member => (each pair member).1
    rw [splitTopLevel_listed listed items]
    exact ⟨listed.balanced items,
      mapM_map_of_ok Prod.fst Prod.snd fun pair member => (each pair member).2⟩
  · rintro ⟨balanced, taken⟩
    obtain ⟨pairs, segments, values, each⟩ := pairs_of_mapM_ok taken
    refine ⟨pairs, values, segments ▸ listed_splitTopLevel tokens, fun pair member => ?_⟩
    have segment : pair.1 ∈ segmentsFrom 0 tokens :=
      mem_segmentsFrom_of_mem_splitTopLevel (segments ▸ List.mem_map_of_mem member)
    refine ⟨⟨fun empty => ?_, balanced_of_mem_segmentsFrom tokens balanced _ segment,
      undivided_of_mem_segmentsFrom tokens _ segment⟩, each pair member⟩
    exact reads.present pair.2 (empty ▸ each pair member)

namespace Lists

theorem lexical_of_mem {pairs : List (List Token × α)}
    (listed : Listed Token.IsComma (pairs.map Prod.fst) tokens)
    (lexical : ∀ token ∈ tokens, token.IsLexical) :
    ∀ pair ∈ pairs, ∀ token ∈ pair.1, token.IsLexical :=
  fun pair member token inside => lexical token
    ((listed.contiguous pair.1 (List.mem_map_of_mem member)).subset inside)

theorem kind_ne_punct (lists : Lists read tokens values) (reads : ReadsItems read)
    (lexical : ∀ token ∈ tokens, token.IsLexical) : ∀ token ∈ tokens, token.kind ≠ .punct := by
  obtain ⟨pairs, -, listed, each⟩ := lists
  intro token member
  rcases listed.separates_or_mem member with comma | ⟨item, among, inside⟩
  · simp [show token.kind = .comma from comma]
  · obtain ⟨pair, stands, rfl⟩ := List.mem_map.1 among
    exact reads.kind_ne_punct pair.1 pair.2 (lexical_of_mem listed lexical pair stands)
      (each pair stands).2 token inside

theorem moved (lists : Lists read tokens values) (reads : ReadsItems read)
    (lexical : ∀ token ∈ tokens, token.IsLexical) (count : Nat) :
    Lists read (tokens.map (Token.moved count)) values := by
  obtain ⟨pairs, rfl, listed, each⟩ := lists
  refine ⟨pairs.map (Prod.map (List.map (Token.moved count)) id), List.map_map, ?_, ?_⟩
  · have parts : Listed Token.IsComma _ _ :=
      listed.map (Token.moved count) fun _ comma => comma
    rwa [List.map_map] at parts ⊢
  · refine List.forall_mem_map.2 fun pair member => ?_
    obtain ⟨item, taken⟩ := each pair member
    exact ⟨item.moved count, reads.moved pair.1 pair.2 count
      (lexical_of_mem listed lexical pair member) taken⟩

theorem append {comma last : Token} (lists : Lists read tokens values)
    (ends : tokens.getLast? = some last) (solid : ¬ last.IsComma) (between : comma.IsComma)
    (behind : Lists read others more) :
    Lists read (tokens ++ comma :: others) (values ++ more) := by
  obtain ⟨pairs, rfl, listed, each⟩ := lists
  obtain ⟨further, rfl, following, every⟩ := behind
  have joined : Joined Token.IsComma (pairs.map Prod.fst) tokens := by
    generalize pairs.map Prod.fst = items at listed
    cases listed with
    | none => cases ends
    | joined joined => exact joined
    | closed joined final =>
      rw [List.getLast?_concat, Option.some.injEq] at ends
      exact absurd (ends ▸ final) solid
  refine ⟨pairs ++ further, List.map_append, ?_, List.forall_mem_append.2 ⟨each, every⟩⟩
  rw [List.map_append]
  exact joined.append_listed between following

end Lists

end Readers

section Texts
variable {α : Type} {read : List Token → Except Malformation α} {one other : String}

theorem directiveKind_listing (text : String) :
    directiveKind? (listing text) = some .membership := by
  have bare : ∀ c ∈ ([] : List Char), isBlank c = true := List.forall_mem_nil _
  have spaced : Spaced [DirectiveKind.membership.path, "(", text ++ ")"] (listing text).toList := by
    have words := @Spaced.word _ _ DirectiveKind.membership.path _ bare <|
      @Spaced.word _ _ "(" _ bare <| @Spaced.word _ _ (text ++ ")") _ bare <| .done bare
    simpa [listing, String.toList_append] using words
  rw [directiveKind?, leadingPath_of_spaced spaced (isIdentifier_path .membership)]
  rfl

theorem body_listing_iff {text found : String} :
    body DirectiveKind.membership.path (listing text) = .ok found ↔
      found = text ∧ Balanced (tokenize text) := by
  constructor
  · intro inside
    obtain ⟨opener, inner, closer, encloses, rfl⟩ := encloses_of_body inside
    have split := encloses.split
    rw [listing, behindPath_append (isIdentifier_path .membership), tokenize_parentheses] at split
    obtain ⟨rfl, behind⟩ := List.cons.inj split
    obtain ⟨rfl, last⟩ := List.append_inj' behind rfl
    obtain ⟨rfl, -⟩ := List.cons.inj last
    rw [listing, behindPath_append (isIdentifier_path .membership)]
    exact ⟨slice_middle "(" text ")", encloses.within.congr (shapes_moved 1 _)⟩
  · rintro ⟨rfl, balanced⟩
    exact body_parentheses (isIdentifier_path .membership) balanced

theorem tokenize_comma (other : String) (closed : ∀ token ∈ tokenize one, token.kind ≠ .punct) :
    ∃ comma, comma.IsComma ∧ tokenize (one ++ "," ++ other) =
      tokenize one ++ comma :: (tokenize other).map (Token.moved (one.length + 1)) := by
  have unquoted : ∀ token ∈ scan 0 one.toList, token.text ≠ "\"" := by
    intro token member quote
    have lone : IsLexeme .punct token.text.toList := quote ▸ ⟨'"', [], rfl, by decide, rfl⟩
    exact closed token member ((isLexical_of_mem_tokenize member).kind_eq lone)
  refine ⟨⟨.comma, ",", one.length, one.length + 1⟩, rfl, ?_⟩
  rw [tokenize, String.toList_append, String.toList_append, List.append_assoc]
  change scan 0 (one.toList ++ ',' :: other.toList) = _
  rw [scan_comma _ unquoted, Nat.zero_add, String.length_toList, tokenize, tokenize, ← scan_moved,
    Nat.zero_add]

def itemsOf (read : List Token → Except Malformation α) (note : String) :
    Except Malformation (List α) := do
  (splitTopLevel (tokenize (← body DirectiveKind.membership.path note))).mapM read

theorem declaredNames_eq (note : String) : declaredNames note = itemsOf nameEntry note := rfl

theorem membership_eq (note : String) : membership note = itemsOf membershipEntry note := rfl

variable {values more : List α}

/-- A text can be listed if its tokens are a list, and has the items of this list then. -/
theorem itemsOf_listing_iff (reads : ReadsItems read) {text : String} :
    itemsOf read (listing text) = .ok values ↔ Lists read (tokenize text) values := by
  rw [lists_iff reads]
  constructor
  · intro taken
    obtain ⟨found, inside, items⟩ := bind_eq_ok taken
    obtain ⟨rfl, balanced⟩ := body_listing_iff.1 inside
    exact ⟨balanced, items⟩
  · rintro ⟨balanced, taken⟩
    rw [itemsOf, body_listing_iff.2 ⟨rfl, balanced⟩]
    exact taken

theorem itemsOf_listing_append {last : Token} (reads : ReadsItems read)
    (ends : (tokenize one).getLast? = some last) (solid : ¬ last.IsComma)
    (first : itemsOf read (listing one) = .ok values)
    (second : itemsOf read (listing other) = .ok more) :
    itemsOf read (listing (one ++ "," ++ other)) = .ok (values ++ more) := by
  rw [itemsOf_listing_iff reads] at first second ⊢
  have lexical : ∀ text, ∀ token ∈ tokenize text, token.IsLexical :=
    fun _ _ => isLexical_of_mem_tokenize
  obtain ⟨comma, isComma, tokens⟩ :=
    tokenize_comma other (first.kind_ne_punct reads (lexical one))
  rw [tokens]
  exact first.append ends solid isComma (second.moved reads (lexical other) _)

end Texts

end RecordProjection.Directive
