import SqlTree.Proofs.Operation

/-! Lists as a renderer writes them. What the items and the separator add on their own decides all
that is added, whatever kind of nodes they are. -/
namespace SqlTree

/-- What a node adds to a renderer. -/
@[ext] structure Output where
  text : String
  failure? : Option RenderError := none

namespace Output

/-- The texts one after the other, and the first failure. -/
def concat (os : List Output) : Output where
  text := String.join (os.map (·.text))
  failure? := os.findSome? (·.failure?)

/-- A fixed text. -/
def mark (s : String) : Output where
  text := s

/-- What a document adds. -/
def ofDoc (c : Setting) (d : Doc) : Output where
  text := d.spell c
  failure? := d.failure?

/-- A document that adds just this. -/
def doc (o : Output) : Doc :=
  Doc.verbatim o.text ++ o.failure?.elim [] Doc.fail

private theorem concat_cons (o : Output) (os : List Output) :
    concat (o :: os) = concat [o, concat os] := by
  ext1
  · simp [concat]
  · cases h : o.failure? <;> simp [concat, h]

variable (c : Setting)

private theorem ofDoc_append (d e : Doc) : ofDoc c (d ++ e) = concat [ofDoc c d, ofDoc c e] := by
  ext1
  · simp [ofDoc, concat, Doc.spell_append]
  · cases h : d.failure? <;> simp [ofDoc, concat, h]

private theorem ofDoc_flatten (ds : List Doc) : ofDoc c ds.flatten = concat (ds.map (ofDoc c)) := by
  induction ds with
  | nil => rfl
  | cons d ds ih => rw [List.flatten_cons, ofDoc_append, ih, List.map_cons, ← concat_cons]

private theorem ofDoc_doc (o : Output) : ofDoc c o.doc = o := by
  obtain ⟨text, failure?⟩ := o
  cases failure? <;> simp [ofDoc, doc, Doc.spell_append]

private theorem ofDoc_text (s : String) : ofDoc c (Doc.text s) = mark s := by
  simp [ofDoc, mark]

private theorem ofDoc_separator : ofDoc c Doc.separator = mark c.separator.toString := by
  simp [ofDoc, mark]

private theorem ofDoc_comma :
    ofDoc c Doc.comma = mark (c.separator.toString ++ c.whitespace.toString) := by
  simp [ofDoc, mark, Doc.comma, Doc.spell_append]

end Output

private theorem map_intersperse {α β : Type} (f : α → β) (s : α) (xs : List α) :
    (xs.intersperse s).map f = (xs.map f).intersperse (f s) := by
  induction xs with
  | nil => rfl
  | cons x xs ih =>
    cases xs with
    | nil => rfl
    | cons y ys =>
      rw [List.intersperse_cons_cons, List.map_cons, List.map_cons, ih]
      rfl

namespace Output
variable (c : Setting)

/-- Separators stand between the items. -/
private theorem ofDoc_joined (sep : Doc) (ds : List Doc) :
    ofDoc c (Doc.joined sep ds) =
      concat ((ds.map (ofDoc c)).intersperse (ofDoc c sep)) := by
  rw [Doc.joined_eq_intercalate, List.intercalate, ofDoc_flatten, map_intersperse]

/-- An item on a line of its own. -/
def line (o : Output) : Output :=
  concat [mark "\n", mark "\t", o]

/-- The items on their lines, with what opens and closes them. -/
def block (sep : Output) (os : List Output) : List Output :=
  mark "(" :: (os.map line).intersperse sep ++
    (if os.isEmpty then [] else [mark "\n"]) ++ [mark ")"]

private theorem ofDoc_line (d : Doc) : ofDoc c (Doc.lines.line d) = (ofDoc c d).line := by
  rw [Doc.lines.line, ofDoc_append, ofDoc_append, ofDoc_text, ofDoc_text, line]
  ext1
  · simp [concat, String.append_assoc]
  · simp [concat, mark]

private theorem ofDoc_block (ds : List Doc) :
    ofDoc c (Doc.block ds) =
      concat (block (mark c.separator.toString) (ds.map (ofDoc c))) := by
  have hblock : Doc.block ds = (Doc.text "(" :: (ds.map Doc.lines.line).intersperse Doc.separator ++
      (if ds.isEmpty then [] else [Doc.text "\n"]) ++ [Doc.text ")"]).flatten := by
    rw [Doc.block, Doc.paren, Doc.lines_eq_joined, Doc.joined_eq_intercalate, List.intercalate]
    cases ds <;> simp
  have hlines : (ds.map Doc.lines.line).map (ofDoc c) = (ds.map (ofDoc c)).map line := by
    rw [List.map_map, List.map_map]
    exact List.map_congr_left fun d _ => ofDoc_line c d
  rw [hblock, ofDoc_flatten, block, List.map_append, List.map_append, List.map_cons,
    map_intersperse, hlines, ofDoc_separator, ofDoc_text]
  cases ds <;> simp [ofDoc_text]

end Output

/-- In every state the node adds the same. -/
def Writer.Appends (c : Setting) (w : Writer) (o : Output) : Prop :=
  ∀ before earlier?,
    w.accept ⟨c, before, earlier?⟩ = ⟨c, before ++ o.text, earlier?.or o.failure?⟩

namespace Renderer

/-- The renderer with one more output behind its text. -/
def add (r : Renderer) (o : Output) : Renderer :=
  { r with text := r.text ++ o.text, failure? := r.failure?.or o.failure? }

variable {c : Setting} {r : Renderer} {items : List Writer} {outputs : List Output}
  {sep : Writer} {between : Output}

private theorem write_eq_add (r : Renderer) (d : Doc) : r.write d = r.add (.ofDoc r.config d) := by
  rw [write_eq]
  rfl

private theorem Writes.eq_add {f : Renderer → Renderer} {d : Doc} (h : Writes r.config f d) :
    f r = r.add (.ofDoc r.config d) := by
  rw [h r rfl, write_eq_add]

private theorem writes_doc {w : Writer} {o : Output} (h : w.Appends c o) :
    Writes c w.accept o.doc := by
  rintro ⟨config, before, earlier?⟩ rfl
  rw [h, write_eq_add, Output.ofDoc_doc]
  rfl

private theorem appends_writer (n : Node) : n.writer.Appends c (.ofDoc c n.doc) :=
  fun before earlier? => accept_eq_append before earlier? n

/-- A joined list adds what its items add, in order, and between two of them what the separator
adds, and fails with the first failure in that order. A list has the separator and the space of the
configuration there, and a block stands in parentheses with each item on a line of its own. A group
adds what its members add, and nothing if one of them is absent, whatever the others are. -/
theorem join_interleaves (hitems : List.Forall₂ (Writer.Appends r.config) items outputs)
    (hsep : sep.Appends r.config between) :
    r.join items sep = r.add (.concat (outputs.intersperse between)) ∧
    (outputs.intersperse between).length = 2 * items.length - 1 ∧
    r.list items = r.add (.concat (outputs.intersperse
      (.mark (r.config.separator.toString ++ r.config.whitespace.toString)))) ∧
    r.block items =
      r.add (.concat (Output.block (.mark r.config.separator.toString) outputs)) ∧
    r.visit items = (if items.any (·.isAbsent) then r else r.add (.concat outputs)) ∧
    ∀ (ns : List Node) (n : Node),
      r.accept (.joined ns n) = r.join (ns.map Node.writer) n.writer := by
  have hdocs : List.Forall₂ (fun w d => Writes r.config w.accept d) items
      (outputs.map Output.doc) :=
    List.forall₂_map_right_iff.mpr (hitems.imp fun _ _ => writes_doc)
  have houtputs : (outputs.map Output.doc).map (Output.ofDoc r.config) = outputs := by
    simp [Function.comp_def, Output.ofDoc_doc]
  refine ⟨?_, ?_, ?_, ?_, ?_, ?_⟩
  · rw [(Writes.join hdocs (writes_doc hsep)).eq_add, Output.ofDoc_joined, houtputs,
      Output.ofDoc_doc]
  · rw [List.length_intersperse, hitems.length_eq]
  · have hlist : Writes r.config (·.list items) _ := .join hdocs (.accept (.leaf Doc.comma))
    rw [hlist.eq_add, Output.ofDoc_joined, houtputs, Node.doc, Output.ofDoc_comma]
  · rw [(Writes.block hdocs).eq_add, Output.ofDoc_block, houtputs]
  · split
    · rename_i habsent
      rw [visit, if_pos habsent]
    · rename_i hpresent
      rw [(Writes.visit hdocs).eq_add, if_neg hpresent, Output.ofDoc_flatten, houtputs]
  · intro ns n
    exact ((Writes.perform (.join ns n)) r rfl).symm

/-- The separator fails before the last item does, and an absent item has separators around it. -/
theorem join_interleaves_failing :
    let early : RenderError := .missing "a" "b"
    let late : RenderError := .missing "c" "d"
    let r : Renderer := { config := .default, text := "x" }
    let items : List Writer :=
      [.leaf (.text "a"), .absent, .leaf (.text "b" ++ .fail late)].map Node.writer
    let outputs : List Output :=
      [{ text := "a" }, { text := "" }, { text := "b", failure? := late }]
    let sep : Writer := (Node.leaf (.text "|" ++ .fail early)).writer
    List.Forall₂ (Writer.Appends r.config) items outputs ∧
      sep.Appends r.config { text := "|", failure? := early } ∧
      r.join items sep = { config := .default, text := "xa||b", failure? := early } ∧
      r.list items = { config := .default, text := "xa, , b", failure? := late } ∧
      r.block items =
        { config := .default, text := "x(\n\ta,\n\t,\n\tb\n)", failure? := late } ∧
      r.visit items = r := by
  intro early late r items outputs sep
  have hitems : List.Forall₂ (Writer.Appends r.config) items outputs :=
    .cons (appends_writer (.leaf (.text "a"))) <| .cons (appends_writer .absent) <|
      .cons (appends_writer (.leaf (.text "b" ++ .fail late))) .nil
  have hsep : sep.Appends r.config { text := "|", failure? := early } :=
    appends_writer (.leaf (.text "|" ++ .fail early))
  obtain ⟨hjoin, -, hlist, hblock, hvisit, -⟩ := join_interleaves hitems hsep
  exact ⟨hitems, hsep, hjoin, hlist, hblock, hvisit⟩

end Renderer

end SqlTree
