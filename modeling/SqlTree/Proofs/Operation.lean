import Mathlib.Data.List.Forall2
import SqlTree.Proofs.Delimiter
import SqlTree.Renderer.Operation

/-! Operations of a renderer. Each of them writes a document that does not depend on what was
written before, and so does a tree. -/
namespace SqlTree
variable {c : Setting} {r : Renderer} {d e sep : Doc} {docs : List Doc} {items : List Writer}

namespace Renderer

theorem write_append (r : Renderer) (d e : Doc) : r.write (d ++ e) = (r.write d).write e :=
  List.foldl_append

private theorem config_write (r : Renderer) (d : Doc) : (r.write d).config = r.config := by
  rw [write_eq]

/-- What leaves the same document in every state under a configuration. -/
def Writes (c : Setting) (f : Renderer → Renderer) (d : Doc) : Prop :=
  ∀ r : Renderer, r.config = c → f r = r.write d

namespace Writes
variable {f g : Renderer → Renderer}

private theorem nothing : Writes c id [] := fun _ _ => rfl

private theorem write (d : Doc) : Writes c (·.write d) d := fun _ _ => rfl

theorem accept (n : Node) : Writes c n.writer.accept n.doc := fun _ _ => rfl

private theorem followed (hf : Writes c f d) (hg : Writes c g e) :
    Writes c (fun r => g (f r)) (d ++ e) := by
  intro r hr
  have hrest := hg (r.write d) ((config_write r d).trans hr)
  rw [write_append, ← hrest, ← hf r hr]

private theorem choice (b : Bool) (hf : Writes c f d) (hg : Writes c g e) :
    Writes c (fun r => if b then f r else g r) (if b then d else e) := by
  cases b
  · exact hg
  · exact hf

private theorem foldl {α : Type} {step : Renderer → α → Renderer} {as : List α}
    (h : List.Forall₂ (fun a d => Writes c (step · a) d) as docs) :
    Writes c (as.foldl step ·) docs.flatten := by
  induction h with
  | nil => exact nothing
  | cons hstep _ ih => exact hstep.followed ih

section
variable {between : Renderer → Renderer} {each : Writer → Renderer → Renderer}

/-- Only the first item has nothing before it. -/
private theorem interleave_cons (w : Writer) :
    r.interleave (w :: items) between each =
      items.foldl (fun r w => each w (between r)) (each w r) := by
  -- from the second item on the count is never zero
  have hlater (n : Nat) (s : Renderer) :
      (items.zipIdx (n + 1)).foldl
          (fun r item => each item.1 (if item.2 > 0 then between r else r)) s =
        items.foldl (fun r w => each w (between r)) s := by
    induction items generalizing n s with
    | nil => rfl
    | cons v items ih => simpa using ih (n + 1) _
  exact hlater 0 _

private theorem interleave (hbetween : Writes c between sep)
    (h : List.Forall₂ (fun w d => Writes c (each w) d) items docs) :
    Writes c (·.interleave items between each) (Doc.joined sep docs) := by
  cases h with
  | nil => exact nothing
  | cons hfirst hrest =>
    intro r hr
    have hlater := foldl <| List.forall₂_map_right_iff.mpr <|
      hrest.imp fun _ _ hitem => hbetween.followed hitem
    exact (interleave_cons _).trans (hfirst.followed hlater r hr)

end

section
variable (h : List.Forall₂ (fun w d => Writes c w.accept d) items docs)
include h

theorem visit :
    Writes c (·.visit items) (if items.any (·.isAbsent) then [] else docs.flatten) :=
  nothing.choice _ (foldl h)

theorem join {between : Writer} (hbetween : Writes c between.accept sep) :
    Writes c (·.join items between) (Doc.joined sep docs) :=
  hbetween.interleave h

theorem block : Writes c (·.block items) (Doc.block docs) := by
  have hline : Writes c newLine (Doc.text "\n" ++ Doc.text "\t") := (write _).followed (write _)
  have hlines : Writes c
      (·.interleave items (·.write Doc.separator) fun w r => w.accept r.newLine)
      (Doc.lines docs) := by
    rw [Doc.lines_eq_joined]
    exact (write _).interleave <|
      List.forall₂_map_right_iff.mpr <| h.imp fun _ _ hitem => hline.followed hitem
  have hend : Writes c (fun r => if items.isEmpty then r else r.write (Doc.text "\n"))
      (if docs.isEmpty then [] else Doc.text "\n") := by
    cases h with
    | nil => exact nothing
    | cons _ _ => exact write _
  exact ((write _).followed (hlines.followed hend)).followed (write _)

end

private theorem require {w : Writer} (node child : String) (h : Writes c w.accept d) :
    Writes c (·.require node child w) (if w.isAbsent then Doc.missing node child else d) :=
  (write _).choice _ h

private theorem writers (ns : List Node) :
    List.Forall₂ (fun w d => Writes c w.accept d) (ns.map Node.writer) (Node.docs ns) := by
  induction ns with
  | nil => exact .nil
  | cons n ns ih => exact .cons (accept n) ih

private theorem visit_writers (ns : List Node) :
    Writes c (·.visit (ns.map Node.writer)) (Node.guarded ns (Node.docs ns)) := by
  have hany : (ns.map Node.writer).any (·.isAbsent) = ns.any Node.isAbsent := by
    rw [List.any_map]
    rfl
  rw [Node.guarded, ← hany]
  exact visit (writers ns)

/-- An operation writes what its tree writes. -/
theorem perform (op : Operation) : Writes c (·.perform op) op.node.doc := by
  cases op with
  | primitive p => exact write p.doc
  | accept n => exact accept n
  | visit ns => exact visit_writers ns
  | visitIf condition ns => exact (visit_writers ns).choice condition nothing
  | visitIfElse condition ns otherwise =>
    exact (visit_writers ns).choice condition (visit_writers otherwise)
  | visitIfPresent guard ns => exact nothing.choice guard.isAbsent (visit_writers ns)
  | join ns sep => exact join (writers ns) (accept sep)
  | list ns => exact join (writers ns) (accept (.leaf Doc.comma))
  | delimited opening ns closing => exact ((write _).followed (visit_writers ns)).followed (write _)
  | block ns => exact block (writers ns)
  | require node child value => exact (accept value).require node child

theorem run (ops : List Operation) : Writes c (·.run ops) (Node.performing ops).doc := by
  have hops : List.Forall₂ (fun op d => Writes c (·.perform op) d) ops
      (Node.docs (ops.map Operation.node)) := by
    induction ops with
    | nil => exact .nil
    | cons op ops ih => exact .cons (perform op) ih
  exact foldl hops

private theorem eq_append (h : Writes c f d) (before : String) (earlier? : Option RenderError) :
    f ⟨c, before, earlier?⟩ = ⟨c, before ++ d.spell c, earlier?.or d.failure?⟩ := by
  rw [h _ rfl, write_eq]

end Writes

/-- A tree of operations does them one after the other. -/
theorem accept_performing (ops : List Operation) : r.accept (.performing ops) = r.run ops :=
  (Writes.run ops r rfl).symm

private theorem finish_eq (r : Renderer) : r.finish = r.failure?.elim (.ok r.text) .error := by
  unfold finish
  cases r.failure? <;> rfl

end Renderer

/-- What the operation leaves on an empty renderer. -/
def Operation.alone (c : Setting) (op : Operation) : Renderer :=
  Renderer.perform { config := c } op

namespace Renderer

/-- In any state an operation adds what it leaves on its own. -/
theorem perform_eq_alone (before : String) (earlier? : Option RenderError) (op : Operation) :
    perform ⟨c, before, earlier?⟩ op =
      ⟨c, before ++ (op.alone c).text, earlier?.or (op.alone c).failure?⟩ := by
  have halone : op.alone c = ⟨c, "" ++ op.node.doc.spell c, none.or op.node.doc.failure?⟩ :=
    (Writes.perform op).eq_append "" none
  rw [halone, (Writes.perform op).eq_append]
  simp

theorem run_eq_alone (before : String) (earlier? : Option RenderError) (ops : List Operation) :
    run ⟨c, before, earlier?⟩ ops =
      ⟨c, before ++ String.join (ops.map fun op => (op.alone c).text),
        earlier?.or (ops.findSome? fun op => (op.alone c).failure?)⟩ := by
  induction ops generalizing before earlier? with
  | nil => simp [run]
  | cons op ops ih =>
    have hstep : run ⟨c, before, earlier?⟩ (op :: ops) =
        run (perform ⟨c, before, earlier?⟩ op) ops := rfl
    rw [hstep, perform_eq_alone, ih]
    cases h : (op.alone c).failure? <;> simp [h, String.append_assoc]

theorem accept_eq_append (before : String) (earlier? : Option RenderError) (n : Node) :
    accept ⟨c, before, earlier?⟩ n = ⟨c, before ++ n.doc.spell c, earlier?.or n.doc.failure?⟩ :=
  (Writes.accept n).eq_append before earlier?

end Renderer

/-- What stands in a construct is written there as on its own. -/
theorem Construct.Occurs.render_eq {m n : Construct} {sql : String} (hm : m.Occurs n)
    (h : n.doc.render c = .ok sql) :
    ∃ text, m.doc.render c = .ok text ∧ ∃ before behind, sql = before ++ text ++ behind := by
  obtain ⟨hfine, rfl⟩ := Doc.render_eq_ok_iff.mp h
  obtain ⟨front, back, heq⟩ := hm.doc_infix hfine
  refine ⟨m.doc.spell c, Doc.render_eq_ok_iff.mpr ⟨?_, rfl⟩, Doc.spell c front,
    Doc.spell c back, ?_⟩
  · exact Doc.failure?_mono (hm.doc_infix hfine) hfine
  · rw [← heq, Doc.spell_append, Doc.spell_append]

/-- Whatever is written goes behind what is there, is the same after any text and any failure, and
only the first failure counts. A sequence of operations is as good as a tree, and what stands in a
construct is written as on its own. -/
theorem Renderer.run_appends (c : Setting) :
    (∀ n : Node, ∃ (text : String) (failure? : Option RenderError),
      n.doc.render c = failure?.elim (.ok text) .error ∧
      ∀ before earlier?,
        accept ⟨c, before, earlier?⟩ n = ⟨c, before ++ text, earlier?.or failure?⟩) ∧
    (∀ ops : List Operation, ∃ (text : String) (failure? : Option RenderError),
      text = String.join (ops.map fun op => (op.alone c).text) ∧
      failure? = (ops.findSome? fun op => (op.alone c).failure?) ∧
      ∀ before earlier?,
        run ⟨c, before, earlier?⟩ ops = ⟨c, before ++ text, earlier?.or failure?⟩ ∧
        run ⟨c, before, earlier?⟩ ops = accept ⟨c, before, earlier?⟩ (.performing ops) ∧
        (run ⟨c, before, earlier?⟩ ops).hasFailed = (earlier?.isSome || failure?.isSome) ∧
        (run ⟨c, before, earlier?⟩ ops).finish =
          (earlier?.or failure?).elim (.ok (before ++ text)) .error) ∧
    ∀ (m n : Construct) (sql : String), m.Occurs n → n.doc.render c = .ok sql →
      ∃ text, m.doc.render c = .ok text ∧ ∃ before behind, sql = before ++ text ++ behind := by
  refine ⟨fun n => ?_, fun ops => ?_, fun m n sql => Construct.Occurs.render_eq⟩
  · exact ⟨n.doc.spell c, n.doc.failure?, n.doc.render_eq c, fun _ _ => accept_eq_append _ _ n⟩
  · refine ⟨_, _, rfl, rfl, fun before earlier? => ?_⟩
    rw [accept_performing, run_eq_alone, hasFailed, finish_eq]
    exact ⟨rfl, rfl, Option.isSome_or, rfl⟩

/-- A text in parentheses. -/
theorem Renderer.run_appends_nested :
    (Construct.expr (.raw "a")).Occurs (.expr (.nested (.raw "a"))) ∧
    (Construct.expr (.nested (.raw "a"))).doc.render .default = .ok "(a)" ∧
    ∃ text, (Construct.expr (.raw "a")).doc.render .default = .ok text ∧
      ∃ before behind, "(a)" = before ++ text ++ behind := by
  have hoccurs : (Construct.expr (.raw "a")).Occurs (.expr (.nested (.raw "a"))) :=
    .inside List.mem_cons_self .here
  have hrender : (Construct.expr (.nested (.raw "a"))).doc.render .default = .ok "(a)" := by
    decide
  exact ⟨hoccurs, hrender, (run_appends .default).2.2 _ _ _ hoccurs hrender⟩

end SqlTree
