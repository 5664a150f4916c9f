import SqlTree.Renderer

/-! What a renderer makes of a document: the texts of all pieces one after the other, and the error
of the first piece that fails. -/
namespace SqlTree

namespace Doc

/-- The first error in writing order. -/
def failure? (d : Doc) : Option RenderError :=
  d.findSome? Piece.error?

/-- The texts of all pieces, whether or not one of them fails. -/
def spell (c : Setting) (d : Doc) : String :=
  String.join (d.map (·.render c))

@[simp] theorem spell_nil (c : Setting) : spell c [] = "" := by simp [spell]

theorem spell_cons (c : Setting) (p : Piece) (d : Doc) :
    spell c (p :: d) = p.render c ++ spell c d := by simp [spell]

theorem spell_append (c : Setting) (d e : Doc) : spell c (d ++ e) = spell c d ++ spell c e := by
  simp [spell]

@[simp] theorem failure?_nil : failure? [] = none := rfl

theorem failure?_cons (p : Piece) (d : Doc) :
    failure? (p :: d) = p.error?.or (failure? d) := by
  cases h : p.error? <;> simp [failure?, h]

@[simp] theorem failure?_append (d e : Doc) :
    failure? (d ++ e) = (failure? d).or (failure? e) := by
  simp [failure?]

variable (c : Setting) (s : String)

@[simp] theorem spell_space : spell c space = c.whitespace.toString := by
  simp [spell, space, Piece.render]

@[simp] theorem spell_separator : spell c separator = c.separator.toString := by
  simp [spell, separator, Piece.render]

@[simp] theorem spell_ident (i : Ident) : spell c (ident i) = i.escape c.quote c.alphabet := by
  simp [spell, ident, Piece.render]

@[simp] theorem spell_literal : spell c (literal s) = Text.Quoted.literal s := by
  simp [spell, literal, Piece.render]

@[simp] theorem spell_text : spell c (text s) = s := by simp [spell, text, Piece.render]

@[simp] theorem spell_verbatim : spell c (verbatim s) = s := by
  simp [spell, verbatim, Piece.render]

@[simp] theorem spell_fail (e : RenderError) : spell c (fail e) = "" := by
  simp [spell, fail, Piece.render]

@[simp] theorem failure?_space : failure? space = none := rfl
@[simp] theorem failure?_separator : failure? separator = none := rfl
@[simp] theorem failure?_ident (i : Ident) : failure? (ident i) = none := rfl
@[simp] theorem failure?_literal : failure? (literal s) = none := rfl
@[simp] theorem failure?_text : failure? (text s) = none := rfl
@[simp] theorem failure?_verbatim : failure? (verbatim s) = none := rfl
@[simp] theorem failure?_fail (e : RenderError) : failure? (fail e) = some e := rfl

theorem joined_eq_intercalate (sep : Doc) (ds : List Doc) :
    joined sep ds = sep.intercalate ds := by
  induction ds with
  | nil => rfl
  | cons d ds ih =>
    cases ds with
    | nil => simp [joined]
    | cons e ds =>
      rw [List.intercalate_cons_cons, ← ih]
      simp [joined]

theorem lines_eq_joined (ds : List Doc) : lines ds = joined separator (ds.map lines.line) := by
  cases ds with
  | nil => rfl
  | cons d ds => simp [lines, joined, List.flatMap_map]

theorem spell_joined (sep : Doc) (ds : List Doc) :
    spell c (joined sep ds) = (spell c sep).intercalate (ds.map (spell c)) := by
  rw [joined_eq_intercalate]
  induction ds with
  | nil => rfl
  | cons d ds ih =>
    cases ds with
    | nil => simp
    | cons e ds =>
      rw [List.intercalate_cons_cons, spell_append, spell_append, ih, List.map_cons, List.map_cons,
        List.map_cons, String.intercalate_cons_cons]

end Doc

/-- Writing appends to the text of any renderer and keeps the error it had. -/
theorem Renderer.write_eq (r : Renderer) (d : Doc) :
    r.write d =
      { r with text := r.text ++ d.spell r.config, failure? := r.failure?.or d.failure? } := by
  induction d generalizing r with
  | nil => simp [write]
  | cons p d ih =>
    have step : r.write (p :: d) = (r.put p).write d := rfl
    rw [step, ih]
    simp [put, Doc.spell_cons, Doc.failure?_cons, String.append_assoc, Option.or_assoc]

namespace Doc

/-- The first error, or else the text of all pieces. -/
theorem render_eq (c : Setting) (d : Doc) :
    d.render c = d.failure?.elim (.ok (d.spell c)) .error := by
  cases h : d.failure? <;> simp [render, Renderer.write_eq, Renderer.finish, h]

theorem render_eq_error_iff {c : Setting} {d : Doc} {e : RenderError} :
    d.render c = .error e ↔ d.failure? = some e := by
  rw [render_eq]
  cases d.failure? <;> simp

theorem render_eq_ok_iff {c : Setting} {d : Doc} {sql : String} :
    d.render c = .ok sql ↔ d.failure? = none ∧ d.spell c = sql := by
  rw [render_eq]
  cases d.failure? <;> simp

theorem exists_render_eq_ok_iff {c : Setting} {d : Doc} :
    (∃ sql, d.render c = .ok sql) ↔ d.failure? = none := by
  simp [render_eq_ok_iff]

/-- A document renders like its first part followed by the rest, each rendered on its own. -/
theorem render_append (c : Setting) (d e : Doc) :
    (d ++ e).render c = (do return (← d.render c) ++ (← e.render c)) := by
  simp only [render_eq, failure?_append, spell_append]
  cases d.failure? with
  | some _ => rfl
  | none => cases e.failure? <;> rfl

end Doc

/-- Dialects quote names in their own way, but all of them space and separate alike. -/
theorem Dialect.presets_marks :
    ∀ c ∈ Config.default :: Dialect.presets.map (·.config),
      c.whitespace = ' ' ∧ c.separator = ',' := by
  decide

end SqlTree
