import SqlTree.Proofs.Phrase.Expr

/-! Data types, columns and table definitions are phrases. -/
namespace SqlTree
open Doc

private theorem measure_phrase {k : String} {n : Option UInt64} (hk : Phrase (text k) []) :
    Phrase (text k ++ Doc.measure n) [] := by
  cases n with
  | none => simpa [Doc.measure, Doc.optional] using hk
  | some n => exact .thenParen hk (.paren (.uint n))

theorem Collation.phrase (c : Collation) : Phrase c.doc c.atoms :=
  .lead (.word (.ofList rfl)) c.name.phrase

theorem CharacterType.phrase (t : CharacterType) : Phrase t.doc t.atoms := by
  have hset : Word "CHARACTER SET" := .ofList rfl
  have hlength : Phrase (Doc.keyword t.kind
      ++ Doc.optional t.length (fun n => paren (uint n ++ after t.unit Doc.keyword))) [] := by
    cases t.length with
    | none => simpa [Doc.optional] using Phrase.keyword t.kind
    | some n =>
      have hn := Phrase.afterFixed (v := t.unit) (.uint n) fun u _ => .keyword u
      exact .thenParen (.keyword t.kind) hn.paren
  exact (hlength.clause hset (·.phrase)).after (·.phrase)

theorem BinaryType.phrase (t : BinaryType) : Phrase t.doc [] :=
  measure_phrase (.keyword t.kind)

theorem NumericType.phrase (t : NumericType) : Phrase t.doc [] := by
  unfold NumericType.doc
  cases t.precision with
  | none => simpa [Doc.optional] using Phrase.keyword t.kind
  | some p =>
    refine .thenParen (.keyword t.kind) (.paren ?_)
    cases t.scale with
    | none => simpa [Doc.optional] using Phrase.uint p
    | some s =>
      have h := Phrase.join .comma (.uint p) (.uint s)
      simpa [Doc.optional] using h

theorem DateTimeType.phrase (t : DateTimeType) : Phrase t.doc [] := by
  refine (measure_phrase (.keyword t.kind)).afterFixed fun zoned _ => ?_
  cases zoned <;> exact .word (.ofList rfl)

theorem DateTimeField.phrase (f : DateTimeField) : Phrase f.doc [] :=
  measure_phrase (.keyword f.kind)

theorem IntervalType.phrase (t : IntervalType) : Phrase t.doc [] := by
  have hinterval : Word "INTERVAL" := .ofList rfl
  exact ((Phrase.word hinterval).trail t.start.phrase).clauseFixed (.ofList rfl) (·.phrase)

mutual

theorem DataType.phrase : ∀ t : DataType, Phrase t.doc t.atoms
  | .character t => t.phrase
  | .binary t => t.phrase
  | .numeric t => t.phrase
  | .integer t => .keyword t
  | .boolean t => .keyword t
  | .dateTime t => t.phrase
  | .interval t => t.phrase
  | .array element capacity => by
    have harray : Word "ARRAY" := .ofList rfl
    have hcapacity : Phrase (bracket (Doc.optional capacity uint)) [] := by
      cases capacity with
      | none => exact .hollow .square
      | some n => exact .enclose .square (.uint n)
    have h := (element.phrase.trail (.word harray)).thenBracket hcapacity
    simpa [DataType.doc, DataType.atoms] using h
  | .multiset element => element.phrase.trail (.word (.ofList rfl))
  | .row fields => by
    have hrow : Word "ROW" := .ofList rfl
    have hfields := Phrase.required "ROW type" "field" (RowField.phrases fields)
    exact .lead (.word hrow) hfields.paren
  | .named name => name.phrase

theorem RowField.phrase : ∀ f : RowField, Phrase f.doc f.atoms
  | { name, type } => .join .space (.name name) type.phrase

theorem RowField.phrases : ∀ fs : List RowField, Phrases (RowField.docs fs) (RowField.atomsAll fs)
  | [] => .nil
  | f :: fs => .cons f.phrase (RowField.phrases fs)

end

theorem SequenceOption.phrase (o : SequenceOption) : Phrase o.doc [] := by
  cases o with
  | startWith n => exact .lead (.word (.ofList rfl)) (.int n)
  | incrementBy n => exact .lead (.word (.ofList rfl)) (.int n)
  | maxValue bound =>
    cases bound with
    | none => exact .word (.ofList rfl)
    | some n => exact .lead (.word (.ofList rfl)) (.int n)
  | minValue bound =>
    cases bound with
    | none => exact .word (.ofList rfl)
    | some n => exact .lead (.word (.ofList rfl)) (.int n)
  | cycle wraps => cases wraps <;> exact .word (.ofList rfl)

theorem Identity.phrase (i : Identity) : Phrase i.doc [] := by
  have hgenerated : Word "GENERATED" := .ofList rfl
  have hidentity : Word "AS IDENTITY" := .ofList rfl
  have hhead := (Phrase.word hgenerated).trail (.keyword i.generated) |>.trail (.word hidentity)
  exact hhead.afterParens (.fixed i.options fun o _ => o.phrase)

theorem ClockValue.phrase (v : ClockValue) : Phrase v.doc [] := by
  unfold ClockValue.doc
  split
  · simpa using Phrase.keyword v.kind
  · exact measure_phrase (.keyword v.kind)

theorem DefaultOption.phrase (o : DefaultOption) : Phrase o.doc o.atoms := by
  have harray : Word "ARRAY" := .ofList rfl
  have hmultiset : Word "MULTISET" := .ofList rfl
  cases o with
  | value v => exact v.phrase
  | raw s => exact .verbatim s
  | session v => exact .keyword v
  | clock v => exact v.phrase
  | emptyArray => exact .thenBracket (d := []) (.word harray) (.hollow .square)
  | emptyMultiset => exact .thenBracket (d := []) (.word hmultiset) (.hollow .square)

theorem DefaultClause.phrase (d : DefaultClause) : Phrase d.doc d.atoms :=
  .lead (.word (.ofList rfl)) d.option.phrase

theorem ColumnValue.phrase (v : ColumnValue) : Phrase v.doc v.atoms := by
  cases v with
  | default clause => exact clause.phrase
  | identity i => exact i.phrase
  | generated e => exact .lead (.word (.ofList rfl)) e.phrase.paren
  | rowStart => exact .word (.ofList rfl)
  | rowEnd => exact .word (.ofList rfl)

theorem Characteristics.keywords_phrases (c : Characteristics) :
    Phrases (c.keywords.map text) [] :=
  .fixed c.keywords fun s hs => .word (c.keywords_word s hs)

theorem Characteristics.phrase {c : Characteristics} (h : c.isEmpty = false) :
    Phrase c.doc [] := by
  refine c.keywords_phrases.joined .space ?_
  intro hnil
  simp only [List.map_eq_nil_iff, keywords, List.append_eq_nil_iff, Option.toList_eq_nil_iff,
    Option.map_eq_none_iff] at hnil
  simp [isEmpty, hnil] at h

theorem References.phrase (r : References) : Phrase r.doc r.atoms := by
  have hreferences : Word "REFERENCES" := .ofList rfl
  have hmatch : Word "MATCH" := .ofList rfl
  have hupdate : Word "ON UPDATE" := .ofList rfl
  have hdelete : Word "ON DELETE" := .ofList rfl
  have htable := Phrase.lead (.word hreferences) r.table.phrase
  exact (htable.afterParens (.names r.columns)).clauseFixed hmatch (.keyword ·)
    |>.clauseFixed hupdate (.keyword ·) |>.clauseFixed hdelete (.keyword ·)

private theorem checkDoc_phrase (condition : Expr) : Phrase (checkDoc condition) condition.atoms :=
  .lead (.word (.ofList rfl)) condition.phrase.paren

theorem ColumnRule.phrase (r : ColumnRule) : Phrase r.doc r.atoms := by
  cases r with
  | notNull => exact .word (.ofList rfl)
  | unique kind => exact .keyword kind
  | references target => exact target.phrase
  | check condition => exact checkDoc_phrase condition

theorem TableRule.phrase (r : TableRule) : Phrase r.doc r.atoms := by
  cases r with
  | unique kind columns =>
    have hcolumns := Phrase.required "table constraint" "column" (.names columns)
    exact .lead (.keyword kind) hcolumns.paren
  | foreignKey columns target =>
    have hkey : Word "FOREIGN KEY" := .ofList rfl
    have hcolumns := Phrase.required "foreign key" "column" (.names columns)
    exact .join .space (.lead (.word hkey) hcolumns.paren) target.phrase
  | check condition => exact checkDoc_phrase condition

/-- Characteristics that say nothing are left out, so those that are written are no empty part. -/
theorem Constraint.phrase {Rule : Type} {rule : Rule → Doc} {atoms : Rule → List Atom}
    (h : ∀ r, Phrase (rule r) (atoms r)) (c : Constraint Rule) :
    Phrase (c.doc rule) (c.atoms atoms) := by
  have hconstraint : Word "CONSTRAINT" := .ofList rfl
  have hname (n : QualifiedName) : Phrase (text "CONSTRAINT" ++ space ++ n.doc) n.atoms :=
    .lead (.word hconstraint) n.phrase
  refine (Phrase.before .space hname (h c.rule)).afterFixed fun k hk => ?_
  have hpresent := (Option.mem_filter_iff.1 hk).2
  exact Characteristics.phrase (by simpa using hpresent)

theorem ColumnConstraint.phrase (c : ColumnConstraint) : Phrase c.doc c.atoms :=
  Constraint.phrase ColumnRule.phrase c

theorem TableConstraint.phrase (c : TableConstraint) : Phrase c.doc c.atoms :=
  Constraint.phrase TableRule.phrase c

theorem ColumnDef.phrase (c : ColumnDef) : Phrase c.doc c.atoms :=
  (Phrase.name c.name).after (·.phrase) |>.after (·.phrase)
    |>.trailing (.map c.constraints (·.phrase)) |>.after (·.phrase)

theorem ColumnOptions.phrase (c : ColumnOptions) : Phrase c.doc c.atoms := by
  unfold ColumnOptions.doc
  split
  · exact .failure _ _
  · have hoptions : Word "WITH OPTIONS" := .ofList rfl
    exact ((Phrase.name c.name).trail (.word hoptions)).clause (.ofList rfl) (·.phrase)
      |>.after (·.phrase) |>.trailing (.map c.constraints (·.phrase))

theorem PeriodName.phrase (n : PeriodName) : Phrase n.doc n.atoms := by
  cases n with
  | systemTime => exact .word (.ofList rfl)
  | application name => exact .name name

theorem Period.phrase (p : Period) : Phrase p.doc p.atoms := by
  have hperiod : Word "PERIOD FOR" := .ofList rfl
  have hbounds := Phrase.join .comma (.name p.start) (.name p.stop)
  exact .join .space (.lead (.word hperiod) p.name.phrase) hbounds.paren

theorem LikeOption.phrase (o : LikeOption) : Phrase o.doc [] := by
  unfold LikeOption.doc
  refine .lead ?_ (.keyword o.property)
  split <;> exact .word (.ofList rfl)

theorem Like.phrase (l : Like) : Phrase l.doc l.table.atoms := by
  have hlike : Word "LIKE" := .ofList rfl
  have htable := Phrase.lead (.word hlike) l.table.phrase
  simpa [Like.doc] using htable.trailing (.fixed l.options fun o _ => o.phrase)

theorem TableElement.phrase (e : TableElement) : Phrase e.doc e.atoms := by
  cases e with
  | column c => exact c.phrase
  | constraint c => exact TableConstraint.phrase c
  | period p => exact p.phrase
  | like l => exact l.phrase

theorem SelfReference.phrase (s : SelfReference) : Phrase s.doc [.name s.name] :=
  (Phrase.lead (.word (.ofList rfl)) (.name s.name)).afterFixed fun g _ => .keyword g

theorem TypedElement.phrase (e : TypedElement) : Phrase e.doc e.atoms := by
  cases e with
  | column c => exact c.phrase
  | constraint c => exact TableConstraint.phrase c
  | selfReference s => exact s.phrase

theorem TypedTable.phrase (t : TypedTable) : Phrase t.doc t.atoms := by
  have htype : Phrase (text "OF" ++ space ++ t.type.doc) t.type.atoms :=
    .lead (.word (.ofList rfl)) t.type.phrase
  have helements := Phrase.block (.map t.elements (·.phrase))
  unfold TypedTable.doc TypedTable.atoms
  split
  · rename_i hnil
    simpa [List.isEmpty_iff.1 hnil] using htype
  · simpa using Phrase.join .space htype helements

theorem TableContent.phrase (c : TableContent) : Phrase c.doc c.atoms := by
  cases c with
  | elements items => exact .block (.map items (·.phrase))
  | typed t => exact t.phrase

private theorem TableContent.atoms_of_isEmpty {c : TableContent} (h : c.isEmpty = true) :
    c.atoms = [] := by
  cases c with
  | elements items => simp [TableContent.atoms, List.isEmpty_iff.1 h]
  | typed t => cases h

theorem CreateTable.phrase (t : CreateTable) : Phrase t.doc t.atoms := by
  have hcreate : Word "CREATE" := .ofList rfl
  have htable : Word "TABLE" := .ofList rfl
  have hhead := (Phrase.word hcreate).afterFixed (v := t.scope) fun s _ => .keyword s
  have hname := (hhead.lead (.word htable)).lead t.name.phrase
  have hbody : Phrase (text "CREATE" ++ after t.scope Doc.keyword ++ space ++ text "TABLE" ++ space
      ++ t.name.doc ++ (if t.content.isEmpty then [] else space ++ t.content.doc)) t.atoms := by
    unfold CreateTable.atoms
    split
    · rename_i hempty
      simpa [TableContent.atoms_of_isEmpty hempty] using hname
    · simpa using Phrase.join .space hname t.content.phrase
  exact (hbody.clauseFixed (.ofList rfl) (.keyword ·)).clauseFixed (.ofList rfl) (.keyword ·)

end SqlTree
