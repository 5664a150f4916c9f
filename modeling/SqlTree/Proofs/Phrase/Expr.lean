import SqlTree.Proofs.Phrase

/-! Names, values and expressions are phrases. -/
namespace SqlTree
open Doc

theorem SchemaName.phrase (s : SchemaName) : Phrase s.doc s.atoms :=
  .before .dot (fun c => .name c) (.name s.schema)

theorem QualifiedName.phrase (n : QualifiedName) : Phrase n.doc n.atoms :=
  .before .dot (fun s => s.phrase) (.name n.name)

theorem LocalName.phrase (n : LocalName) : Phrase n.doc [.name n.name] := by
  unfold LocalName.doc
  split
  · have hmodule : Word "MODULE" := .ofList rfl
    exact .join .dot (.word hmodule) (.name n.name)
  · exact .name n.name

theorem TableName.phrase (t : TableName) : Phrase t.doc t.atoms := by
  cases t with
  | locally n => exact n.phrase
  | qualified n => exact n.phrase

theorem ColumnRef.phrase (c : ColumnRef) : Phrase c.doc c.atoms :=
  .before .dot (fun t => t.phrase) (.name c.name)

mutual

theorem Value.phrase : ∀ v : Value, Phrase v.doc v.atoms
  | .null => .word (.ofList rfl)
  | .default => .word (.ofList rfl)
  | .bool true => .word (.ofList rfl)
  | .bool false => .word (.ofList rfl)
  | .int n => .int n
  | .uint n => .uint n
  | .float x => .float x
  | .text s => .literal s
  | .blob bs => .bytes bs
  | .row values => by
    have hrow : Word "ROW" := .ofList rfl
    exact .thenParen (.word hrow) (.parenJoined .comma (Value.phrases values))

theorem Value.phrases : ∀ vs : List Value, Phrases (Value.docs vs) (Value.atomsAll vs)
  | [] => .nil
  | v :: vs => .cons v.phrase (Value.phrases vs)

end

mutual

theorem Expr.phrase : ∀ e : Expr, Phrase e.doc e.atoms
  | .raw s => .verbatim s
  | .column c => c.phrase
  | .value v => v.phrase
  | .call function arguments =>
    .call function (.parenJoined .comma (Expr.phrases arguments))
  | .binary left operator right =>
    .join .space (.join .space left.phrase (.verbatim operator)) right.phrase
  | .not operand => .lead (.word (.ofList rfl)) operand.phrase
  | .isNull operand negated => by
    have his : Word "IS" := .ofList rfl
    have hnot : Word "NOT" := .ofList rfl
    have hnull : Word "NULL" := .ofList rfl
    have hrest := Phrase.mark (b := negated) hnot (.word hnull)
    have h := Phrase.trail (operand.phrase.trail (.word his)) hrest
    simpa [Expr.doc, Expr.atoms] using h
  | .inList operand values => by
    have hin : Word "IN" := .ofList rfl
    have hvalues := Phrase.required "IN" "value" (Expr.phrases values)
    exact .join .space (operand.phrase.trail (.word hin)) hvalues.paren
  | .nested inner => inner.phrase.paren
  | .over operand window => by
    have hover : Word "OVER" := .ofList rfl
    exact .join .space (operand.phrase.trail (.word hover)) (.name window)

theorem Expr.phrases : ∀ es : List Expr, Phrases (Expr.docs es) (Expr.atomsAll es)
  | [] => .nil
  | e :: es => .cons e.phrase (Expr.phrases es)

end

end SqlTree
