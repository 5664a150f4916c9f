import SqlTree.Construct
import SqlTree.Proofs.Rendering

/-! What a construct is put together from: the constructs inside of it and the texts that it takes
as they are. Each construct inside is written just as it is written on its own. -/
namespace SqlTree
open Doc

def ColumnRule.parts : ColumnRule → List Construct
  | .notNull => []
  | .unique _ => []
  | .references target => [.references target]
  | .check condition => [.expr condition]

def TableRule.parts : TableRule → List Construct
  | .unique _ _ => []
  | .foreignKey _ target => [.references target]
  | .check condition => [.expr condition]

/-- Characteristics that say nothing are no part, since they are not written. -/
def Constraint.parts {Rule : Type} (rule : Rule → List Construct) (c : Constraint Rule) :
    List Construct :=
  c.name.toList.map .qualifiedName ++ rule c.rule
    ++ (c.characteristics.filter (!·.isEmpty)).toList.map .characteristics

def SelectItem.parts : SelectItem → List Construct
  | .all => []
  | .allOf table => [.tableName table]
  | .expr e _ => [.expr e]

def NamedTable.parts (t : NamedTable) : List Construct :=
  [.tableName t.name] ++ t.alias.toList.map .alias ++ t.sample.toList.map .tableSample

def DataType.parts : DataType → List Construct
  | .character t => [.characterType t]
  | .binary t => [.binaryType t]
  | .numeric t => [.numericType t]
  | .integer _ => []
  | .boolean _ => []
  | .dateTime t => [.dateTimeType t]
  | .interval t => [.intervalType t]
  | .array element _ => [.dataType element]
  | .multiset element => [.dataType element]
  | .row fields => fields.map .rowField
  | .named name => [.qualifiedName name]

def Expr.parts : Expr → List Construct
  | .raw _ => []
  | .column c => [.columnRef c]
  | .value v => [.value v]
  | .call _ arguments => arguments.map .expr
  | .binary left _ right => [.expr left, .expr right]
  | .not operand => [.expr operand]
  | .isNull operand _ => [.expr operand]
  | .inList operand values => [.expr operand] ++ values.map .expr
  | .nested inner => [.expr inner]
  | .over operand _ => [.expr operand]

def TableRef.parts : TableRef → List Construct
  | .table t => t.parts
  | .derived query label => [.query query] ++ label.toList.map .alias
  | .nested inner label => [.tableRef inner] ++ label.toList.map .alias
  | .cross left right => [.tableRef left, .tableRef right]
  | .qualified left _ right spec => [.tableRef left, .tableRef right, .joinSpec spec]
  | .natural left _ right => [.tableRef left, .tableRef right]

def Query.parts (q : Query) : List Construct :=
  q.items.map .selectItem ++ q.tables.map .tableRef ++ q.condition.toList.map .expr
    ++ q.groupBy.toList.map .groupBy ++ q.having.toList.map .expr ++ q.windows.map .windowDef
    ++ q.orderBy.map .sortKey ++ q.offset.toList.map .offset ++ q.fetch.toList.map .fetch
    ++ q.lock.toList.map .lock

namespace Construct

/-- The constructs that a construct is put together from, keywords aside. -/
def parts : Construct → List Construct
  | .qualifiedName n => n.schema.toList.map .schemaName
  | .tableName (.locally n) => [.localName n]
  | .tableName (.qualified n) => [.qualifiedName n]
  | .columnRef c => c.table.toList.map .tableName
  | .value (.row values) => values.map .value
  | .expr e => e.parts
  | .collation c => [.qualifiedName c.name]
  | .characterType t => t.charset.toList.map .qualifiedName ++ t.collation.toList.map .collation
  | .intervalType t => [.dateTimeField t.start] ++ t.stop.toList.map .dateTimeField
  | .rowField f => [.dataType f.type]
  | .dataType t => t.parts
  | .identity i => i.options.map .sequenceOption
  | .defaultOption (.value v) => [.value v]
  | .defaultOption (.clock v) => [.clockValue v]
  | .defaultClause d => [.defaultOption d.option]
  | .columnValue (.default clause) => [.defaultClause clause]
  | .columnValue (.identity i) => [.identity i]
  | .columnValue (.generated e) => [.expr e]
  | .columnDef c =>
    c.type.toList.map .dataType ++ c.value.toList.map .columnValue
      ++ c.constraints.map .columnConstraint ++ c.collation.toList.map .collation
  | .columnOptions c =>
    c.scope.toList.map .tableName ++ c.default.toList.map .defaultClause
      ++ c.constraints.map .columnConstraint
  | .references r => [.tableName r.table]
  | .columnConstraint c => c.parts ColumnRule.parts
  | .tableConstraint c => c.parts TableRule.parts
  | .like l => [.tableName l.table] ++ l.options.map .likeOption
  | .tableElement (.column c) => [.columnDef c]
  | .tableElement (.constraint c) => [.tableConstraint c]
  | .tableElement (.period p) => [.period p]
  | .tableElement (.like l) => [.like l]
  | .typedElement (.column c) => [.columnOptions c]
  | .typedElement (.constraint c) => [.tableConstraint c]
  | .typedElement (.selfReference s) => [.selfReference s]
  | .typedTable t => [.qualifiedName t.type] ++ t.elements.map .typedElement
  | .tableContent (.elements items) => items.map .tableElement
  | .tableContent (.typed t) => [.typedTable t]
  | .createTable t =>
    [.tableName t.name] ++ if t.content.isEmpty then [] else [.tableContent t.content]
  | .tableSample s => [.expr s.percent] ++ s.seed.toList.map .expr
  | .joinSpec (.on condition) => [.expr condition]
  | .tableRef t => t.parts
  | .selectItem i => i.parts
  | .sortKey k => [.expr k.expr]
  | .groupingElement (.columns cs) => cs.map .columnRef
  | .groupingElement (.rollup cs) => cs.map .columnRef
  | .groupingElement (.cube cs) => cs.map .columnRef
  | .groupingElement (.sets elements) => elements.map .groupingElement
  | .groupBy g => g.elements.map .groupingElement
  | .frameBound (.preceding distance) => [.expr distance]
  | .frameBound (.following distance) => [.expr distance]
  | .windowFrame f => [.frameBound f.start] ++ f.stop.toList.map .frameBound
  | .windowSpec w =>
    w.partitionBy.map .columnRef ++ w.orderBy.map .sortKey ++ w.frame.toList.map .windowFrame
  | .windowDef w => [.windowSpec w.spec]
  | .lock l => l.tables.map .tableName
  | .query q => q.parts
  | .insertSource (.values rows) => rows.flatten.map .expr
  | .insertSource (.query q) => [.query q]
  | .insert i => [.tableName i.table, .insertSource i.source]
  | .assignment (.column _ e) => [.expr e]
  | .assignment (.row _ e) => [.expr e]
  | .rowFilter (.search condition) => [.expr condition]
  | .update u =>
    [.tableName u.table] ++ u.assignments.map .assignment ++ u.filter.toList.map .rowFilter
  | .delete d => [.tableName d.table] ++ d.filter.toList.map .rowFilter
  | .truncate t => t.tables.map .tableName
  | .matchedAction (.update assignments) => assignments.map .assignment
  | .whenMatched w => w.condition.toList.map .expr ++ [.matchedAction w.action]
  | .mergeInsert i => i.values.toList.flatten.map .expr
  | .notMatchedAction (.insert i) => [.mergeInsert i]
  | .whenNotMatched w => w.condition.toList.map .expr ++ [.notMatchedAction w.action]
  | .mergeWhen (.matched w) => [.whenMatched w]
  | .mergeWhen (.notMatched w) => [.whenNotMatched w]
  | .mergeClauses ws => ws.map .mergeWhen
  | .merge m =>
    [.tableName m.target] ++ m.source.toList.map .tableRef ++ m.on.toList.map .expr
      ++ m.clauses.map .mergeWhen
  | _ => []

/-- The texts that a construct itself takes as they are, the names of functions aside. -/
def texts : Construct → List String
  | .expr (.raw s) => [s]
  | .expr (.binary _ operator _) => [operator]
  | .defaultOption (.raw s) => [s]
  | .assignment (.raw s) => [s]
  | _ => []

/-- A construct stands in itself and in whatever has it as a part of a part. -/
inductive Occurs (m : Construct) : Construct → Prop where
  | here : Occurs m m
  | inside {p n : Construct} : p ∈ n.parts → Occurs m p → Occurs m n

/-- No text that is taken as it is is empty, at any depth. Functions may lack a name. -/
inductive Filled : Construct → Prop where
  | intro {n : Construct} : (∀ s ∈ n.texts, s ≠ "") → (∀ p ∈ n.parts, Filled p) → Filled n

end Construct

def Piece.isVerbatim : Piece → Bool
  | .verbatim _ => true
  | _ => false

namespace Doc
variable {α : Type} {f : α → Doc} {sep : Doc}

/-- Whether nothing in a document is taken as it is. -/
def isOwn (d : Doc) : Bool :=
  d.all (!·.isVerbatim)

/-- Documents of which the shape tells that nothing in them is taken as it is. -/
class Own (d : Doc) : Prop where
  isOwn : d.isOwn = true

@[simp] theorem isOwn_eq_true (d : Doc) [Own d] : isOwn d = true := Own.isOwn

@[simp] theorem isOwn_append (d e : Doc) : isOwn (d ++ e) = (isOwn d && isOwn e) :=
  List.all_append

private theorem isOwn_flatMap {ds : List Doc} {f : Doc → Doc} (h : ∀ d ∈ ds, isOwn (f d) = true) :
    isOwn (ds.flatMap f) = true := by
  induction ds with
  | nil => rfl
  | cons d ds ih =>
    rw [List.flatMap_cons, isOwn_append, h d List.mem_cons_self, Bool.true_and]
    exact ih fun e he => h e (List.mem_cons_of_mem d he)

theorem isOwn_joined [Own sep] {ds : List Doc} (h : ∀ d ∈ ds, isOwn d = true) :
    isOwn (joined sep ds) = true := by
  cases ds with
  | nil => rfl
  | cons d ds =>
    rw [joined, isOwn_append, h d List.mem_cons_self, Bool.true_and]
    exact isOwn_flatMap fun e he => by simp [h e (List.mem_cons_of_mem d he)]

private theorem Own.single {p : Piece} (h : p.isVerbatim = false) :
    Own [p] := ⟨by simp [Doc.isOwn, h]⟩

section
variable (s : String) (xs : List α) (v : Option α)

instance : Own [] := ⟨rfl⟩
instance (d e : Doc) [Own d] [Own e] : Own (d ++ e) := ⟨by simp⟩
instance : Own space := .single rfl
instance : Own separator := .single rfl
instance (i : Ident) : Own (ident i) := .single rfl
instance : Own (literal s) := .single rfl
instance : Own (text s) := .single rfl
instance : Own dot := .single rfl
instance [Spelled α] (a : α) : Own (keyword a) := .single rfl
instance (n : Int64) : Own (int n) := .single rfl
instance (n : UInt64) : Own (uint n) := .single rfl
instance (node child : String) : Own (missing node child) := .single rfl
instance (node : String) (problem : Problem) : Own (invalid node problem) := .single rfl

instance (x : Float) : Own (float x) where
  isOwn := by
    unfold float
    split <;> rfl

instance : Own comma := inferInstanceAs (Own (separator ++ space))
instance (d : Doc) [Own d] : Own (paren d) := inferInstanceAs (Own (text "(" ++ d ++ text ")"))
instance (d : Doc) [Own d] : Own (bracket d) := inferInstanceAs (Own (text "[" ++ d ++ text "]"))

instance (p : Prop) [Decidable p] (d e : Doc) [Own d] [Own e] : Own (if p then d else e) where
  isOwn := by split <;> simp

instance [h : ∀ a, Own (f a)] : Own (optional v f) where
  isOwn := by
    cases v with
    | none => rfl
    | some a => exact (h a).isOwn

instance [∀ a, Own (f a)] : Own (after v f) :=
  inferInstanceAs (Own (optional v (space ++ f ·)))

instance (k : String) [∀ a, Own (f a)] : Own (clause k v f) :=
  inferInstanceAs (Own (after v (text k ++ space ++ f ·)))

instance [∀ a, Own (f a)] : Own (list (xs.map f)) := ⟨isOwn_joined (by simp)⟩

instance (node child : String) [∀ a, Own (f a)] : Own (required node child (xs.map f)) where
  isOwn := by simp [required]

instance [∀ a, Own (f a)] : Own (afterParens (xs.map f)) where
  isOwn := by simp [afterParens]

instance (n : Option UInt64) : Own (measure n) :=
  inferInstanceAs (Own (optional n fun n => paren (uint n)))

instance (is : List Ident) (overriding : Option Overriding) :
    Own (insertColumns is overriding) where
  isOwn := by simp [insertColumns]

instance (k : JoinKind) : Own k.joinDoc where
  isOwn := by simp [JoinKind.joinDoc]

end

/-- How a document is put together from texts that are taken as they are, from constructs and from
other pieces. The name of a function, which may be empty, stands before its arguments. -/
inductive Composed : Doc → List String → List Construct → Prop where
  | nil : Composed [] [] []
  | piece {p : Piece} : p.isVerbatim = false → Composed [p] [] []
  | verbatim (s : String) : Composed (verbatim s) [s] []
  | part (m : Construct) : Composed m.doc [] [m]
  | call (function : String) {e : Doc} {ss : List String} {ms : List Construct} :
      Composed (paren e) ss ms → Composed (verbatim function ++ paren e) ss ms
  | append {d e : Doc} {ss ts : List String} {ms ns : List Construct} :
      Composed d ss ms → Composed e ts ns → Composed (d ++ e) (ss ++ ts) (ms ++ ns)

/-- How the documents of a list are put together from constructs. -/
inductive ComposedAll : List Doc → List Construct → Prop where
  | nil : ComposedAll [] []
  | cons {d : Doc} {ds : List Doc} {ms ns : List Construct} :
      Composed d [] ms → ComposedAll ds ns → ComposedAll (d :: ds) (ms ++ ns)

end Doc

section
variable {α : Type} {d e sep : Doc} {ds es : List Doc} {ss ts : List String}
  {ms ns : List Construct}

namespace Doc.Composed

theorem own (h : isOwn d = true) : Composed d [] [] := by
  induction d with
  | nil => exact .nil
  | cons p d ih =>
    rw [isOwn, List.all_cons, Bool.and_eq_true] at h
    exact .append (.piece (by simpa using h.1)) (ih h.2)

theorem left (hd : Composed d ss ms) [Own e] : Composed (d ++ e) ss ms := by
  simpa using hd.append (own (isOwn_eq_true e))

theorem right (he : Composed e ss ms) [Own d] : Composed (d ++ e) ss ms := by
  simpa using (own (isOwn_eq_true d)).append he

theorem paren (h : Composed d ss ms) : Composed (paren d) ss ms :=
  h.right.left

theorem optional {f : α → Doc} (g : α → Construct) (v : Option α)
    (h : ∀ a, Composed (f a) [] [g a]) : Composed (Doc.optional v f) [] (v.toList.map g) := by
  cases v with
  | none => exact .nil
  | some a => exact h a

theorem after (g : α → Construct) (v : Option α) :
    Composed (Doc.after v fun a => (g a).doc) [] (v.toList.map g) :=
  optional g v fun a => (Composed.part (g a)).right

theorem clause (k : String) (g : α → Construct) (v : Option α) :
    Composed (Doc.clause k v fun a => (g a).doc) [] (v.toList.map g) :=
  optional g v fun a => (Composed.part (g a)).right.right

theorem requiredPart (node child : String) (g : α → Construct) (v : Option α) :
    Composed (Doc.requiredPart node child v fun a => (g a).doc) [] (v.toList.map g) := by
  cases v with
  | none => exact own rfl
  | some a => exact .part (g a)

end Doc.Composed

namespace Doc.ComposedAll

theorem map (g : α → Construct) (xs : List α) :
    ComposedAll (xs.map fun x => (g x).doc) (xs.map g) := by
  induction xs with
  | nil => exact .nil
  | cons x xs ih => exact .cons (.part (g x)) ih

theorem append (hd : ComposedAll ds ms) (he : ComposedAll es ns) :
    ComposedAll (ds ++ es) (ms ++ ns) := by
  induction hd with
  | nil => exact he
  | cons h _ ih =>
    rw [List.append_assoc]
    exact .cons h ih

private theorem flatMap {f : Doc → Doc} (h : ComposedAll ds ms)
    (hf : ∀ {d ms}, Composed d [] ms → Composed (f d) [] ms) :
    Composed (ds.flatMap f) [] ms := by
  induction h with
  | nil => exact .nil
  | cons hd _ ih => exact (hf hd).append ih

theorem joined (h : ComposedAll ds ms) [Own sep] : Composed (Doc.joined sep ds) [] ms := by
  cases h with
  | nil => exact .nil
  | cons hd h => exact hd.append (h.flatMap fun he => he.right)

theorem required {node child : String} (h : ComposedAll ds ms) :
    Composed (Doc.required node child ds) [] ms := by
  cases h with
  | nil => exact .own rfl
  | cons hd h => exact (cons hd h).joined

theorem listClause {k : String} (h : ComposedAll ds ms) :
    Composed (Doc.listClause k ds) [] ms := by
  cases h with
  | nil => exact .nil
  | cons hd h => exact (cons hd h).joined.right.right

theorem phrase {k : String} (h : ComposedAll ds ms) :
    ComposedAll (Doc.phrase k ds).toList ms := by
  cases h with
  | nil => exact .nil
  | @cons d ds ms ns hd h =>
    have hlist : Composed (text k ++ space ++ list (d :: ds)) [] (ms ++ ns) :=
      (cons hd h).joined.right
    rw [← List.append_nil (ms ++ ns)]
    exact .cons hlist .nil

theorem afterParens (h : ComposedAll ds ms) : Composed (Doc.afterParens ds) [] ms := by
  cases h with
  | nil => exact .nil
  | cons hd h => exact (cons hd h).joined.paren.right

theorem trailing (h : ComposedAll ds ms) : Composed (Doc.trailing ds) [] ms :=
  h.flatMap fun hd => hd.right

theorem lines (h : ComposedAll ds ms) : Composed (Doc.lines ds) [] ms := by
  cases h with
  | nil => exact .nil
  | cons hd h => exact hd.right.append (h.flatMap fun he => he.right.right)

theorem block (h : ComposedAll ds ms) : Composed (Doc.block ds) [] ms :=
  h.lines.left.paren

end Doc.ComposedAll

theorem Doc.failure?_mono (h : d <:+: e) (hf : e.failure? = none) : d.failure? = none := by
  obtain ⟨before, behind, rfl⟩ := h
  simp only [failure?_append, Option.or_eq_none_iff] at hf
  exact hf.1.2

/-- Every part stands in the document, written as it is on its own. -/
theorem Doc.Composed.infix_doc (h : Composed d ss ms) : ∀ m ∈ ms, m.doc <:+: d := by
  induction h with
  | nil => simp
  | piece _ => simp
  | verbatim s => simp
  | part m => simp
  | call function _ ih => exact fun m hm => List.infix_append_of_infix_right (ih m hm)
  | append _ _ ihd ihe =>
    refine List.forall_mem_append.mpr ⟨?_, ?_⟩
    · exact fun m hm => List.infix_append_of_infix_left (ihd m hm)
    · exact fun m hm => List.infix_append_of_infix_right (ihe m hm)

end
end SqlTree
