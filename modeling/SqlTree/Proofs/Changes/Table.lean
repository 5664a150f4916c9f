import SqlTree.Proofs.Changes
import SqlTree.Renderer
import SqlTree.Statement.CreateTable

/-! The options of columns and tables: what a list of them leaves of each field, and that nothing
else of the list matters. -/
namespace SqlTree
open Changes

namespace ColumnDef

attribute [ext] ColumnDef

inductive Field where
  | type | value | constraints | collation
  deriving DecidableEq

namespace Change

def field : Change → Field
  | type _ => .type
  | value _ => .value
  | constraint _ => .constraints
  | collation _ => .collation

def type? : Change → Option DataType
  | type t => some t
  | _ => none

def value? : Change → Option ColumnValue
  | value v => some v
  | _ => none

def constraint? : Change → Option ColumnConstraint
  | constraint k => some k
  | _ => none

def collation? : Change → Option Collation
  | collation k => some k
  | _ => none

variable {k : Change}

private theorem type?_eq_none (h : k.field ≠ .type) : k.type? = none := by
  cases k <;> first | rfl | exact absurd rfl h

private theorem value?_eq_none (h : k.field ≠ .value) : k.value? = none := by
  cases k <;> first | rfl | exact absurd rfl h

private theorem constraint?_eq_none (h : k.field ≠ .constraints) : k.constraint? = none := by
  cases k <;> first | rfl | exact absurd rfl h

private theorem collation?_eq_none (h : k.field ≠ .collation) : k.collation? = none := by
  cases k <;> first | rfl | exact absurd rfl h

end Change

section
variable (c : ColumnDef) (k : Change)

private theorem name_change : (c.change k).name = c.name := by
  cases k <;> rfl

private theorem type_change : (c.change k).type = k.type?.or c.type := by
  cases k <;> rfl

private theorem value_change : (c.change k).value = k.value?.or c.value := by
  cases k <;> rfl

private theorem constraints_change :
    (c.change k).constraints = c.constraints ++ k.constraint?.toList := by
  cases k <;> simp [change, Change.constraint?]

private theorem collation_change : (c.change k).collation = k.collation?.or c.collation := by
  cases k <;> rfl

end

variable (name : Ident) (changes : List Change)

/-- The last type, value and collation that are given, and all constraints. -/
def given : ColumnDef :=
  { name
    type := last? Change.type? changes
    value := last? Change.value? changes
    constraints := changes.filterMap Change.constraint?
    collation := last? Change.collation? changes }

theorem build_eq_given : build name changes = given name changes := by
  ext1
  case name => exact foldl_kept change changes { name } ColumnDef.name name_change
  case type => exact foldl_given change changes { name } ColumnDef.type Change.type? rfl type_change
  case value =>
    exact foldl_given change changes { name } ColumnDef.value Change.value? rfl value_change
  case constraints =>
    exact foldl_added change changes { name } ColumnDef.constraints Change.constraint?
      constraints_change
  case collation =>
    exact foldl_given change changes { name } ColumnDef.collation Change.collation? rfl
      collation_change

variable {options options' : List Change}

private theorem given_congr (h : SameByField Change.field options options') :
    given name options = given name options' := by
  rw [given, given, h.last? fun _ => Change.type?_eq_none, h.last? fun _ => Change.value?_eq_none,
    h.filterMap fun _ => Change.constraint?_eq_none, h.last? fun _ => Change.collation?_eq_none]

end ColumnDef

namespace TableContent

/-- The elements that a table has of its own. -/
def items : TableContent → List TableElement
  | elements items => items
  | typed _ => []

private theorem push_eq (c : TableContent) (e : TableElement) :
    c.push e = elements (c.items ++ [e]) := by
  cases c <;> rfl

end TableContent

namespace CreateTable

attribute [ext] CreateTable

inductive Field where
  | scope | content | versioning | onCommit
  deriving DecidableEq

namespace Change

def field : Change → Field
  | scope _ => .scope
  | onCommit _ => .onCommit
  | versioning _ => .versioning
  | of .. => .content
  | element _ => .content

def scope? : Change → Option TableScope
  | scope s => some s
  | _ => none

def onCommit? : Change → Option CommitAction
  | onCommit a => some a
  | _ => none

def versioning? : Change → Option SystemVersioning
  | versioning v => some v
  | _ => none

def typed? : Change → Option TableContent
  | of type elements => some (.typed { type, elements })
  | _ => none

def element? : Change → Option TableElement
  | element e => some e
  | _ => none

variable {k : Change}

private theorem items_of_typed? {c : TableContent} (h : k.typed? = some c) : c.items = [] := by
  cases k <;> cases h
  rfl

private theorem scope?_eq_none (h : k.field ≠ .scope) : k.scope? = none := by
  cases k <;> first | rfl | exact absurd rfl h

private theorem onCommit?_eq_none (h : k.field ≠ .onCommit) : k.onCommit? = none := by
  cases k <;> first | rfl | exact absurd rfl h

private theorem versioning?_eq_none (h : k.field ≠ .versioning) : k.versioning? = none := by
  cases k <;> first | rfl | exact absurd rfl h

private theorem typed?_eq_none (h : k.field ≠ .content) : k.typed? = none := by
  cases k <;> first | rfl | exact absurd rfl h

private theorem element?_eq_none (h : k.field ≠ .content) : k.element? = none := by
  cases k <;> first | rfl | exact absurd rfl h

end Change

section
variable (t : CreateTable) (k : Change)

private theorem name_change : (t.change k).name = t.name := by
  cases k <;> rfl

private theorem scope_change : (t.change k).scope = k.scope?.or t.scope := by
  cases k <;> rfl

private theorem onCommit_change : (t.change k).onCommit = k.onCommit?.or t.onCommit := by
  cases k <;> rfl

private theorem versioning_change : (t.change k).versioning = k.versioning?.or t.versioning := by
  cases k <;> rfl

private theorem content_change :
    (t.change k).content =
      k.typed?.getD (k.element?.elim t.content fun e => .elements (t.content.items ++ [e])) := by
  cases k with
  | element e => exact t.content.push_eq e
  | _ => rfl

end

variable (name : TableName) (changes : List Change)

/-- The elements that are given behind the last type. -/
def ownElements : List TableElement :=
  (since Change.typed? changes).filterMap Change.element?

/-- The elements behind the last type, or that type if there are none. -/
def givenContent : TableContent :=
  if (ownElements changes).isEmpty then (last? Change.typed? changes).getD (.elements [])
  else .elements (ownElements changes)

/-- The last scope, commit action and versioning that are given, and the content. -/
def given : CreateTable :=
  { scope := last? Change.scope? changes
    name
    content := givenContent changes
    versioning := last? Change.versioning? changes
    onCommit := last? Change.onCommit? changes }

private theorem content_build : (build name changes).content = givenContent changes :=
  foldl_renewed change changes { name } CreateTable.content Change.typed? Change.element?
    TableContent.items .elements (fun _ => rfl) rfl (fun _ _ => Change.items_of_typed?)
    content_change

theorem build_eq_given : build name changes = given name changes := by
  ext1
  case name => exact foldl_kept change changes { name } CreateTable.name name_change
  case content => exact content_build name changes
  case scope =>
    exact foldl_given change changes { name } CreateTable.scope Change.scope? rfl scope_change
  case versioning =>
    exact foldl_given change changes { name } CreateTable.versioning Change.versioning? rfl
      versioning_change
  case onCommit =>
    exact foldl_given change changes { name } CreateTable.onCommit Change.onCommit? rfl
      onCommit_change

variable {options options' : List Change}

private theorem givenContent_congr (h : SameByField Change.field options options') :
    givenContent options = givenContent options' := by
  have hown : ownElements options = ownElements options' :=
    h.since (fun _ => Change.typed?_eq_none) fun _ => Change.element?_eq_none
  rw [givenContent, givenContent, hown, h.last? fun _ => Change.typed?_eq_none]

private theorem given_congr (h : SameByField Change.field options options') :
    given name options = given name options' := by
  rw [given, given, h.last? fun _ => Change.scope?_eq_none, givenContent_congr h,
    h.last? fun _ => Change.versioning?_eq_none, h.last? fun _ => Change.onCommit?_eq_none]

end CreateTable

/-- Columns and tables hold what their options give: the last value of each field that is replaced,
all constraints, and the elements behind the last type of the table. A temporary table differs from
it in its scope only. So options of different fields may change places, and the text stays the
same. -/
theorem build_by_field (column : Ident) (options : List ColumnDef.Change) (table : TableName)
    (changes : List CreateTable.Change) :
    ColumnDef.build column options = ColumnDef.given column options ∧
    CreateTable.build table changes = CreateTable.given table changes ∧
    CreateTable.temporary table changes =
      { CreateTable.given table changes with scope := some .temporary } ∧
    (∀ options', SameByField ColumnDef.Change.field options options' →
      ColumnDef.build column options = ColumnDef.build column options' ∧
      ∀ c, (ColumnDef.build column options).doc.render c =
        (ColumnDef.build column options').doc.render c) ∧
    ∀ changes', SameByField CreateTable.Change.field changes changes' →
      CreateTable.build table changes = CreateTable.build table changes' ∧
      CreateTable.temporary table changes = CreateTable.temporary table changes' ∧
      ∀ c, (CreateTable.build table changes).doc.render c =
          (CreateTable.build table changes').doc.render c ∧
        (CreateTable.temporary table changes).doc.render c =
          (CreateTable.temporary table changes').doc.render c := by
  refine ⟨ColumnDef.build_eq_given column options, CreateTable.build_eq_given table changes, ?_,
    ?_, ?_⟩
  · rw [CreateTable.temporary, CreateTable.build_eq_given]
  · intro options' h
    have hbuild : ColumnDef.build column options = ColumnDef.build column options' := by
      rw [ColumnDef.build_eq_given, ColumnDef.build_eq_given, ColumnDef.given_congr column h]
    exact ⟨hbuild, fun c => by rw [hbuild]⟩
  · intro changes' h
    have hbuild : CreateTable.build table changes = CreateTable.build table changes' := by
      rw [CreateTable.build_eq_given, CreateTable.build_eq_given, CreateTable.given_congr table h]
    have htemporary : CreateTable.temporary table changes =
        CreateTable.temporary table changes' := by
      rw [CreateTable.temporary, CreateTable.temporary, hbuild]
    exact ⟨hbuild, htemporary, fun c => ⟨by rw [hbuild], by rw [htemporary]⟩⟩

/-- The element before the type is lost, and the later one makes the table untyped again. The scope
may stand anywhere. -/
theorem build_by_field_untyped :
    SameByField ColumnDef.Change.field [.rule .notNull, .rowStart] [.rowStart, .rule .notNull] ∧
    SameByField CreateTable.Change.field
      [.element (.like { table := .qualified { name := ⟨"a"⟩ } }), .of { name := ⟨"t"⟩ } [],
        .scope .localTemporary, .element (.like { table := .qualified { name := ⟨"b"⟩ } })]
      [.scope .localTemporary, .element (.like { table := .qualified { name := ⟨"a"⟩ } }),
        .of { name := ⟨"t"⟩ } [], .element (.like { table := .qualified { name := ⟨"b"⟩ } })] ∧
    ColumnDef.build ⟨"c"⟩ [.rule .notNull, .rowStart] =
      ColumnDef.build ⟨"c"⟩ [.rowStart, .rule .notNull] ∧
    CreateTable.build (.qualified { name := ⟨"d"⟩ })
        [.scope .localTemporary, .element (.like { table := .qualified { name := ⟨"a"⟩ } }),
          .of { name := ⟨"t"⟩ } [], .element (.like { table := .qualified { name := ⟨"b"⟩ } })] =
      { name := .qualified { name := ⟨"d"⟩ }
        scope := some .localTemporary
        content := .elements [.like { table := .qualified { name := ⟨"b"⟩ } }] } := by
  have hoptions : SameByField ColumnDef.Change.field [.rule .notNull, .rowStart]
      [.rowStart, .rule .notNull] := by
    intro f
    cases f <;> rfl
  have hchanges : SameByField CreateTable.Change.field
      [.element (.like { table := .qualified { name := ⟨"a"⟩ } }), .of { name := ⟨"t"⟩ } [],
        .scope .localTemporary, .element (.like { table := .qualified { name := ⟨"b"⟩ } })]
      [.scope .localTemporary, .element (.like { table := .qualified { name := ⟨"a"⟩ } }),
        .of { name := ⟨"t"⟩ } [], .element (.like { table := .qualified { name := ⟨"b"⟩ } })] := by
    intro f
    cases f <;> rfl
  obtain ⟨-, hgiven, -, hcolumn, htable⟩ :=
    build_by_field ⟨"c"⟩ [.rule .notNull, .rowStart] (.qualified { name := ⟨"d"⟩ })
      [.element (.like { table := .qualified { name := ⟨"a"⟩ } }), .of { name := ⟨"t"⟩ } [],
        .scope .localTemporary, .element (.like { table := .qualified { name := ⟨"b"⟩ } })]
  refine ⟨hoptions, hchanges, (hcolumn _ hoptions).1, ?_⟩
  exact (htable _ hchanges).1.symm.trans hgiven

end SqlTree
