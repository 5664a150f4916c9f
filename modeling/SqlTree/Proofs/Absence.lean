import SqlTree.Node
import SqlTree.Proofs.Rendering

/-! Absent nodes are silent: visited directly they write nothing and report nothing. The one
exception is the table without elements, which counts as absent and writes its brackets. -/
namespace SqlTree

/-- The constructs that may be absent, and what each of them writes then. -/
theorem Construct.doc_of_isAbsent {c : Construct} (h : c.isAbsent = true) :
    c.doc = if c matches .tableContent _ then Doc.block [] else [] := by
  cases c
  case characteristics c =>
    simp only [isAbsent, Characteristics.isEmpty, Bool.and_eq_true, Option.isNone_iff_eq_none] at h
    obtain ⟨⟨hcheck, hdeferrable⟩, henforced⟩ := h
    simp [doc, Characteristics.doc, Characteristics.keywords, hcheck, hdeferrable, henforced,
      Doc.spaced, Doc.joined]
  case tableContent c =>
    cases c with
    | elements items =>
      obtain rfl : items = [] := List.isEmpty_iff.mp h
      rfl
    | typed t => cases h
  case mergeClauses ws =>
    obtain rfl : ws = [] := List.isEmpty_iff.mp h
    rfl
  all_goals cases h

namespace Node

/-- A table without elements, also inside of nodes that hand on whatever they hold. -/
def isEmptyTable : Node → Bool
  | .construct (.tableContent c) => c.isEmpty
  | .optional (some n) => n.isEmptyTable
  | .either (.inl n) => n.isEmptyTable
  | .either (.inr n) => n.isEmptyTable
  | _ => false

private theorem isAbsent_of_isEmptyTable : ∀ n : Node, n.isEmptyTable = true → n.isAbsent = true
  | .construct c, h => by
    cases c
    case tableContent c => exact h
    all_goals cases h
  | .optional none, _ => rfl
  | .optional (some n), h => isAbsent_of_isEmptyTable n h
  | .either (.inl n), h => isAbsent_of_isEmptyTable n h
  | .either (.inr n), h => isAbsent_of_isEmptyTable n h
  | .absent, _ => rfl

/-- Nodes that hand on what they hold are absent together with it, and write the same. -/
theorem doc_of_isAbsent : ∀ n : Node, n.isAbsent = true →
    n.doc = if n.isEmptyTable then Doc.block [] else []
  | .construct c, h => by
    have hdoc := Construct.doc_of_isAbsent h
    cases c
    case tableContent c =>
      have hempty : c.isEmpty = true := h
      simpa [doc, isEmptyTable, hempty] using hdoc
    all_goals exact hdoc
  | .list items, h => by
    obtain rfl : items = [] := List.isEmpty_iff.mp h
    rfl
  | .optional none, _ => rfl
  | .optional (some n), h => doc_of_isAbsent n h
  | .either (.inl n), h => doc_of_isAbsent n h
  | .either (.inr n), h => doc_of_isAbsent n h
  | .absent, _ => rfl

end Node

namespace Renderer
variable (r : Renderer)

private theorem write_nil : r.write [] = r := rfl

private theorem write_block_nil : r.write (Doc.block []) = { r with text := r.text ++ "()" } := by
  have hspell : Doc.spell r.config (Doc.block []) = "()" := by
    simp [Doc.block, Doc.paren, Doc.lines, Doc.spell_append]
  have hfailure : Doc.failure? (Doc.block []) = none := rfl
  rw [write_eq, hspell, hfailure, Option.or_none]

/-- A group of one node is that node, unless the node is absent. -/
theorem accept_group (n : Node) :
    r.accept (.group [n]) = if n.isAbsent then r else r.accept n := by
  cases h : n.isAbsent <;> simp [accept, Node.doc, Node.docs, Node.guarded, h, write_nil]

/-- A table without elements is the only absent node that is heard. -/
theorem accept_eq_ite_isEmptyTable {n : Node} (h : n.isAbsent = true) :
    r.accept n = if n.isEmptyTable then { r with text := r.text ++ "()" } else r := by
  rw [accept, Node.doc_of_isAbsent n h]
  cases n.isEmptyTable
  · exact r.write_nil
  · exact r.write_block_nil

private theorem accept_ne_self {n : Node} (h : n.isEmptyTable = true) : r.accept n ≠ r := by
  rw [accept_eq_ite_isEmptyTable r (n.isAbsent_of_isEmptyTable h), if_pos h]
  intro heq
  have hlength := congrArg (·.text.length) heq
  simp at hlength

private theorem accept_group_eq_iff (n : Node) :
    r.accept (.group [n]) = r.accept n ↔ n.isEmptyTable = false := by
  rw [accept_group]
  cases habsent : n.isAbsent with
  | false =>
    have hfull : n.isEmptyTable ≠ true := fun hempty => by
      rw [n.isAbsent_of_isEmptyTable hempty] at habsent
      cases habsent
    simpa using hfull
  | true =>
    cases hempty : n.isEmptyTable with
    | false => simp [accept_eq_ite_isEmptyTable r habsent, hempty]
    | true => simpa using (r.accept_ne_self hempty).symm

/-- Absent nodes leave every renderer as it is, with its text and its error, except for a table
without elements, which adds its brackets. So to accept a node and to visit it in a group are the
same for all nodes but this one. -/
theorem accept_of_isAbsent {n : Node} (h : n.isAbsent = true) :
    r.accept n = (if n.isEmptyTable then { r with text := r.text ++ "()" } else r) ∧
    (∀ m : Node, r.accept (.group [m]) = r.accept m ↔ m.isEmptyTable = false) :=
  ⟨r.accept_eq_ite_isEmptyTable h, r.accept_group_eq_iff⟩

/-- Characteristics that say nothing stay silent in a renderer that has failed already. -/
theorem accept_of_isAbsent_characteristics :
    (Node.optional (some (.construct (.characteristics {})))).isAbsent = true ∧
    Renderer.accept ⟨.default, "x", some (.missing "IN" "value")⟩
        (.optional (some (.construct (.characteristics {})))) =
      ⟨.default, "x", some (.missing "IN" "value")⟩ := by
  have h : (Node.optional (some (.construct (.characteristics {})))).isAbsent = true := rfl
  exact ⟨h, (accept_of_isAbsent _ h).1⟩

/-- A table without elements is absent, and yet it is heard. -/
theorem accept_emptyTable_writes :
    (Node.construct (.tableContent (.elements []))).isAbsent = true ∧
    Renderer.accept {} (.construct (.tableContent (.elements []))) ≠ {} ∧
    (Node.construct (.tableContent (.elements []))).doc.render .default = .ok "()" := by
  refine ⟨rfl, ?_, rfl⟩
  intro h
  have htext : "()" = "" := congrArg Renderer.text h
  exact absurd htext (by decide)

end Renderer

end SqlTree
