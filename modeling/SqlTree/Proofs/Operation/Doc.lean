import SqlTree.Proofs.Operation

/-! What operations write together, and the documents that the recurring ones write. -/
namespace SqlTree

/-- What the operations write one after the other. -/
def Operation.docAll (ops : List Operation) : Doc :=
  (Node.performing ops).doc

/-- Most parts of a tree are present whenever they are given. -/
@[simp] theorem filter_true {α : Type} (value : Option α) :
    value.filter (fun _ => true) = value := by
  cases value <;> rfl

attribute [simp] Node.doc Node.docs Node.guarded Node.isAbsent Construct.doc Construct.isAbsent
  Primitive.doc

namespace Node

@[simp] theorem docs_map_doc {α : Type} (f : α → Node) (as : List α) :
    docs (as.map f) = as.map fun a => (f a).doc :=
  docs_map (fun _ => rfl) as

section
variable {α : Type} [Spelled α] (s : String) (a : α) (i : Ident)

@[simp] theorem isAbsent_word : (word s).isAbsent = false := rfl
@[simp] theorem isAbsent_spelled : (spelled a).isAbsent = false := rfl
@[simp] theorem isAbsent_name : (name i).isAbsent = false := rfl

@[simp] theorem doc_word : (word s).doc = Doc.text s := rfl
@[simp] theorem doc_spelled : (spelled a).doc = Doc.keyword a := rfl
@[simp] theorem doc_name : (name i).doc = Doc.ident i := rfl

end
end Node

namespace Operation
variable {α : Type} (s : String)

@[simp] theorem docAll_nil : docAll [] = [] := rfl

@[simp] theorem docAll_cons (op : Operation) (ops : List Operation) :
    docAll (op :: ops) = op.node.doc ++ docAll ops := rfl

@[simp] theorem docAll_append (ops ops' : List Operation) :
    docAll (ops ++ ops') = docAll ops ++ docAll ops' := by
  induction ops with
  | nil => rfl
  | cons op ops ih => rw [List.cons_append, docAll_cons, docAll_cons, ih, List.append_assoc]

@[simp] theorem docAll_given (value : Option α) (ops : α → List Operation) :
    docAll (given value ops) = Doc.optional value fun a => docAll (ops a) := by
  cases value <;> rfl

/-- A loop that writes `sep` before all items but the first. -/
@[simp] theorem docAll_between (sep : Operation) (items : List (List Operation)) :
    docAll (between sep items) = Doc.joined sep.node.doc (items.map docAll) := by
  rw [Doc.joined_eq_intercalate, between]
  induction items with
  | nil => rfl
  | cons ops items ih =>
    cases items with
    | nil => simp
    | cons ops' items =>
      rw [List.intercalate_cons_cons, docAll_append, docAll_append, ih, List.map_cons,
        List.map_cons, List.map_cons, List.intercalate_cons_cons, docAll_cons, docAll_nil,
        List.append_nil]

@[simp] theorem doc_primitive (p : Primitive) : (primitive p).node.doc = p.doc := rfl
@[simp] theorem doc_keyword : (keyword s).node.doc = Doc.text s := rfl
@[simp] theorem doc_space : space.node.doc = Doc.space := rfl
@[simp] theorem doc_token (c : Char) : (token c).node.doc = Doc.text c.toString := rfl
@[simp] theorem doc_name (i : Ident) : (name i).node.doc = Doc.ident i := rfl
@[simp] theorem doc_fail (e : RenderError) : (fail e).node.doc = Doc.fail e := rfl
@[simp] theorem doc_accept (n : Node) : (accept n).node.doc = n.doc := rfl
@[simp] theorem doc_construct (c : Construct) : (construct c).node.doc = c.doc := rfl

@[simp] theorem doc_visit (n : Node) : (visit [n]).node.doc = if n.isAbsent then [] else n.doc := by
  simp [node]

@[simp] theorem doc_join (f : α → Node) (as : List α) (d : Doc) :
    (join (as.map f) (.leaf d)).node.doc = Doc.joined d (as.map fun a => (f a).doc) := by
  simp [node]

@[simp] theorem doc_list (f : α → Node) (as : List α) :
    (list (as.map f)).node.doc = Doc.list (as.map fun a => (f a).doc) := by
  simp [node]

@[simp] theorem doc_block (f : α → Node) (as : List α) :
    (block (as.map f)).node.doc = Doc.block (as.map fun a => (f a).doc) := by
  simp [node]

@[simp] theorem doc_paren (n : Node) :
    (paren [n]).node.doc = Doc.paren (if n.isAbsent then [] else n.doc) := by
  simp [paren, node, Doc.paren]

@[simp] theorem doc_bracket (n : Node) :
    (bracket [n]).node.doc = Doc.bracket (if n.isAbsent then [] else n.doc) := by
  simp [bracket, node, Doc.bracket]

@[simp] theorem doc_after (value : Option α) (f : α → Node) :
    (after (.part value f)).node.doc =
      Doc.after (value.filter fun a => !(f a).isAbsent) fun a => (f a).doc := by
  cases value with
  | none => rfl
  | some a =>
    cases h : (f a).isAbsent <;>
      simp [after, Node.part, node, Doc.after, Doc.optional, Option.filter_some, h]

@[simp] theorem doc_clause (value : Option α) (f : α → Node) :
    (clause s (.part value f)).node.doc =
      Doc.clause s (value.filter fun a => !(f a).isAbsent) fun a => (f a).doc := by
  cases value with
  | none => rfl
  | some a =>
    cases h : (f a).isAbsent <;>
      simp [clause, Node.part, node, Doc.clause, Doc.after, Doc.optional, Option.filter_some, h]

@[simp] theorem doc_clause_items (f : α → Node) (as : List α) :
    (clause s (.items as f)).node.doc = Doc.listClause s (as.map fun a => (f a).doc) := by
  cases as with
  | nil => rfl
  | cons a as =>
    simp [clause, Node.items, node, Doc.listClause, Doc.phrase, Doc.after, Doc.optional]

theorem doc_require (node child : String) (n : Node) :
    (require node child n).node.doc = if n.isAbsent then Doc.missing node child else n.doc := rfl

@[simp] theorem doc_require_items (f : α → Node) (node child : String) (as : List α) :
    (require node child (.items as f)).node.doc =
      Doc.required node child (as.map fun a => (f a).doc) := by
  simp [doc_require, Node.items, Doc.required]

@[simp] theorem doc_require_part (f : α → Node) (node child : String) (value : Option α) :
    (require node child (.part value f)).node.doc =
      Doc.requiredPart node child (value.filter fun a => !(f a).isAbsent) fun a => (f a).doc := by
  cases value with
  | none => rfl
  | some a =>
    cases h : (f a).isAbsent <;>
      simp [doc_require, Node.part, Doc.requiredPart, Option.filter_some, h]

@[simp] theorem docAll_requireParen (f : α → Node) (node child : String) (as : List α) :
    docAll (requireParen node child (.items as f)) =
      Doc.paren (Doc.required node child (as.map fun a => (f a).doc)) := by
  simp [requireParen, Doc.paren]

@[simp] theorem docAll_trailing (f : α → Node) (as : List α) :
    docAll (trailing (as.map f)) = Doc.trailing (as.map fun a => (f a).doc) := by
  cases as with
  | nil => rfl
  | cons a as => simp [trailing, node, Doc.trailing, Doc.joined]

@[simp] theorem docAll_afterParens (f : α → Node) (as : List α) :
    docAll (afterParens as f) = Doc.afterParens (as.map fun a => (f a).doc) := by
  cases as with
  | nil => rfl
  | cons a as => simp [afterParens, Node.items, Doc.afterParens]

end Operation

namespace Renderer

/-- Operations leave what they write together, and do not look at what was written before. -/
theorem run_eq_write (r : Renderer) (ops : List Operation) :
    r.run ops = r.write (Operation.docAll ops) :=
  (accept_performing ops).symm

/-- Documents with the same text and the same error are written alike. -/
theorem write_congr (r : Renderer) {d e : Doc} (hspell : ∀ c, d.spell c = e.spell c)
    (hfailure : d.failure? = e.failure?) : r.write d = r.write e := by
  rw [write_eq, write_eq, hspell, hfailure]

end Renderer
end SqlTree
