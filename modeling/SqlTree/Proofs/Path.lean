import SqlTree.Name
import SqlTree.Proofs.Failure
import SqlTree.Proofs.Unescape

/-! Names as paths of identifiers. A text is cut at the dots that stand outside of quotes and every
part is read on its own, which gives back the path of the name. Names of different paths have
different texts. -/
namespace SqlTree
open Doc

def SchemaName.path (s : SchemaName) : List Ident :=
  s.catalog.elim [] ([·]) ++ [s.schema]

def QualifiedName.path (n : QualifiedName) : List Ident :=
  n.schema.elim [] (·.path) ++ [n.name]

/-- The mark of a module is written like the name of a schema. -/
def LocalName.path (n : LocalName) : List Ident :=
  (if n.isModule then [⟨"MODULE"⟩] else []) ++ [n.name]

def TableName.path : TableName → List Ident
  | locally name => name.path
  | qualified name => name.path

def ColumnRef.path (c : ColumnRef) : List Ident :=
  c.table.elim [] (·.path) ++ [c.name]

/-- Names of all kinds. -/
inductive Name where
  | schema (n : SchemaName)
  | qualified (n : QualifiedName)
  | locally (n : LocalName)
  | table (n : TableName)
  | column (n : ColumnRef)

namespace Name

def doc : Name → Doc
  | schema n => n.doc
  | qualified n => n.doc
  | locally n => n.doc
  | table n => n.doc
  | column n => n.doc

def path : Name → List Ident
  | schema n => n.path
  | qualified n => n.path
  | locally n => n.path
  | table n => n.path
  | column n => n.path

end Name

namespace Text

/-- The parts of a text between its dots. A dot inside of quotes divides nothing, and a quote that
is written twice ends the quoted text and begins it again. -/
def splitDots (q : Char) (quoted : Bool) : List Char → List (List Char)
  | [] => [[]]
  | c :: cs =>
    if c = q then (splitDots q (!quoted) cs).modifyHead (c :: ·)
    else if c = '.' ∧ quoted = false then [] :: splitDots q quoted cs
    else (splitDots q quoted cs).modifyHead (c :: ·)

/-- Nothing in `cs` divides a text, whatever follows. -/
def Undivided (q : Char) (cs : List Char) : Prop :=
  ∀ rest, splitDots q false (cs ++ rest) = (splitDots q false rest).modifyHead (cs ++ ·)

variable {q : Char} {cs rest : List Char}

private theorem Undivided.plain (hq : q ∉ cs) (hdot : '.' ∉ cs) : Undivided q cs := by
  intro rest
  induction cs with
  | nil => cases hrest : splitDots q false rest <;> simp [hrest]
  | cons c cs ih =>
    rw [List.mem_cons, not_or] at hq hdot
    have hc : ¬ (c = '.' ∧ false = false) := fun h => hdot.1 h.1.symm
    rw [List.cons_append, splitDots, if_neg (Ne.symm hq.1), if_neg hc, ih hq.2 hdot.2,
      List.modifyHead_modifyHead]
    rfl

/-- Doubled quotes leave the quoted text and enter it again, and the last quote ends it. -/
private theorem splitDots_double (cs rest : List Char) :
    splitDots q true (Quoted.double q cs ++ q :: rest) =
      (splitDots q false rest).modifyHead (Quoted.double q cs ++ [q] ++ ·) := by
  induction cs with
  | nil => simp [Quoted.double, splitDots]
  | cons c cs ih =>
    by_cases hc : c = q
    · subst hc
      rw [Quoted.double, if_pos rfl, List.cons_append, List.cons_append, splitDots, if_pos rfl,
        Bool.not_true, splitDots, if_pos rfl, Bool.not_false, ih, List.modifyHead_modifyHead,
        List.modifyHead_modifyHead]
      rfl
    · rw [Quoted.double, if_neg hc, List.cons_append, splitDots, if_neg hc, if_neg (by simp), ih,
        List.modifyHead_modifyHead]
      rfl

private theorem Undivided.enclose (q : Char) (cs : List Char) :
    Undivided q (Quoted.enclose q cs) := by
  intro rest
  have hall : Quoted.enclose q cs ++ rest = q :: (Quoted.double q cs ++ q :: rest) := by
    simp [Quoted.enclose]
  rw [hall, splitDots, if_pos rfl, Bool.not_false, splitDots_double, List.modifyHead_modifyHead]
  simp [Quoted.enclose, Function.comp_def]

private theorem splitDots_of_undivided (h : Undivided q cs) : splitDots q false cs = [cs] := by
  have hall := h []
  simpa [splitDots] using hall

private theorem splitDots_append_dot (hq : q ≠ '.') (h : Undivided q cs) (rest : List Char) :
    splitDots q false (cs ++ '.' :: rest) = cs :: splitDots q false rest := by
  rw [h, splitDots, if_neg (Ne.symm hq), if_pos ⟨rfl, rfl⟩]
  simp

end Text

namespace Ident
variable {q : Char} {abc : Alphabet} {i : Ident} {path : List Ident}

/-- The identifiers that stand between the dots of a text. -/
def path? (q : Char) (abc : Alphabet) (text : String) : Option (List Ident) :=
  (Text.splitDots q false text.toList).mapM fun part => unescape? q (String.ofList part) abc

/-- The identifiers of a path with dots between them. -/
def dotted (q : Char) (abc : Alphabet) (path : List Ident) : String :=
  ".".intercalate (path.map (·.escape q abc))

private theorem undivided_escape (hq : isBareChar q abc = false) (i : Ident) :
    Text.Undivided q (i.escape q abc).toList := by
  cases h : i.needsQuoting abc with
  | true =>
    rw [toList_escape_of_needsQuoting h]
    exact .enclose q _
  | false =>
    have hbare := (needsQuoting_eq_false_iff.mp h).1
    rw [escape_of_bare h]
    refine .plain ?_ ?_
    · intro hmem
      rw [hbare q hmem] at hq
      cases hq
    · intro hmem
      have hdot : isBareChar '.' abc = false := isBareChar_of_isSign abc (by decide)
      rw [hbare '.' hmem] at hdot
      cases hdot

theorem path?_dotted (hq : isBareChar q abc = false) (hdot : q ≠ '.') (hne : path ≠ []) :
    path? q abc (dotted q abc path) = some path := by
  have hread := forall_unescape?_escape_iff.mpr hq
  induction path with
  | nil => exact absurd rfl hne
  | cons i path ih =>
    have hi := undivided_escape hq i
    cases path with
    | nil =>
      have hone : dotted q abc [i] = i.escape q abc := by simp [dotted]
      rw [path?, hone, Text.splitDots_of_undivided hi]
      simp [hread]
    | cons j path =>
      have hcons : (dotted q abc (i :: j :: path)).toList =
          (i.escape q abc).toList ++ '.' :: (dotted q abc (j :: path)).toList := by
        simp [dotted]
      have hrest := ih (by simp)
      rw [path?] at hrest
      rw [path?, hcons, Text.splitDots_append_dot hdot hi, List.mapM_cons, hrest]
      simp [hread]

theorem dotted_inj (hq : isBareChar q abc = false) (hdot : q ≠ '.') {p p' : List Ident}
    (hp : p ≠ []) (hp' : p' ≠ []) (h : dotted q abc p = dotted q abc p') : p = p' := by
  have hread := path?_dotted hq hdot hp
  rw [h, path?_dotted hq hdot hp'] at hread
  exact (Option.some.inj hread).symm

end Ident

section Spelling
variable (c : Setting)

private theorem Ident.dotted_concat (q : Char) (abc : Alphabet) {p : List Ident} (hne : p ≠ [])
    (i : Ident) : dotted q abc (p ++ [i]) = dotted q abc p ++ "." ++ i.escape q abc := by
  induction p with
  | nil => exact absurd rfl hne
  | cons j p ih =>
    cases p with
    | nil => simp [dotted]
    | cons k p =>
      have hrest := ih (by simp)
      simp only [dotted, List.map_cons, List.cons_append, String.intercalate_cons_cons] at hrest ⊢
      rw [hrest]
      simp [String.append_assoc]

/-- What qualifies a name comes before it, with a dot in between. -/
private theorem spell_qualified {α : Type} {f : α → Doc} {g : α → List Ident} (v : Option α)
    (hspell : ∀ a, (f a).spell c = Ident.dotted c.quote c.alphabet (g a)) (hne : ∀ a, g a ≠ [])
    (i : Ident) :
    spell c (Doc.optional v (f · ++ dot) ++ ident i) =
      Ident.dotted c.quote c.alphabet (v.elim [] g ++ [i]) := by
  cases v with
  | none => simp [Doc.optional, Ident.dotted]
  | some a =>
    have hdotted := Ident.dotted_concat c.quote c.alphabet (hne a) i
    simp [Doc.optional, dot, spell_append, hspell, hdotted, String.append_assoc]

private theorem SchemaName.path_ne_nil (s : SchemaName) : s.path ≠ [] := by simp [path]
theorem QualifiedName.path_ne_nil (n : QualifiedName) : n.path ≠ [] := by simp [path]
private theorem LocalName.path_ne_nil (n : LocalName) : n.path ≠ [] := by simp [path]

private theorem TableName.path_ne_nil (t : TableName) : t.path ≠ [] := by
  cases t with
  | locally n => exact n.path_ne_nil
  | qualified n => exact n.path_ne_nil

theorem SchemaName.spell_doc (s : SchemaName) :
    s.doc.spell c = Ident.dotted c.quote c.alphabet s.path :=
  spell_qualified c s.catalog (by simp [Ident.dotted]) (by simp) s.schema

theorem QualifiedName.spell_doc (n : QualifiedName) :
    n.doc.spell c = Ident.dotted c.quote c.alphabet n.path :=
  spell_qualified c n.schema (·.spell_doc c) (·.path_ne_nil) n.name

/-- `MODULE` needs no quotes, so it is written like a name. -/
theorem LocalName.spell_doc (n : LocalName) :
    n.doc.spell c = Ident.dotted c.quote c.alphabet n.path := by
  have hbare : (⟨"MODULE"⟩ : Ident).needsQuoting c.alphabet = false :=
    Ident.needsQuoting_of_isAsciiWord c.alphabet (by decide)
  have hmodule : (⟨"MODULE"⟩ : Ident).escape c.quote c.alphabet = "MODULE" :=
    Ident.escape_of_bare hbare
  have hone : Ident.dotted c.quote c.alphabet [⟨"MODULE"⟩] = "MODULE" := by
    simp [Ident.dotted, hmodule]
  cases h : n.isModule with
  | false => simp [doc, path, h, Ident.dotted]
  | true =>
    simp only [doc, path, h, if_true, dot, spell_append, spell_text, spell_ident,
      Ident.dotted_concat c.quote c.alphabet (List.cons_ne_nil _ _), hone]

theorem TableName.spell_doc (t : TableName) :
    t.doc.spell c = Ident.dotted c.quote c.alphabet t.path := by
  cases t with
  | locally n => exact n.spell_doc c
  | qualified n => exact n.spell_doc c

theorem ColumnRef.spell_doc (r : ColumnRef) :
    r.doc.spell c = Ident.dotted c.quote c.alphabet r.path :=
  spell_qualified c r.table (·.spell_doc c) (·.path_ne_nil) r.name

end Spelling

namespace Name

private theorem path_ne_nil (n : Name) : n.path ≠ [] := by
  cases n with
  | schema n => exact n.path_ne_nil
  | qualified n => exact n.path_ne_nil
  | locally n => exact n.path_ne_nil
  | table n => exact n.path_ne_nil
  | column n => simp [path, ColumnRef.path]

/-- Every name is written as the identifiers of its path with dots between them. -/
theorem render_doc (c : Setting) (n : Name) :
    n.doc.render c = .ok (Ident.dotted c.quote c.alphabet n.path) := by
  rw [render_eq_ok_iff]
  cases n with
  | schema n => exact ⟨n.failure?_doc, n.spell_doc c⟩
  | qualified n => exact ⟨n.failure?_doc, n.spell_doc c⟩
  | locally n => exact ⟨(TableName.locally n).failure?_doc, n.spell_doc c⟩
  | table n => exact ⟨n.failure?_doc, n.spell_doc c⟩
  | column n => exact ⟨n.failure?_doc, n.spell_doc c⟩

theorem render_eq_iff {c : Setting} (hq : Ident.isBareChar c.quote c.alphabet = false)
    (hdot : c.quote ≠ '.') (m n : Name) :
    m.doc.render c = n.doc.render c ↔ m.path = n.path := by
  rw [render_doc, render_doc, Except.ok.injEq]
  constructor
  · exact Ident.dotted_inj hq hdot m.path_ne_nil n.path_ne_nil
  · intro h
    rw [h]

end Name

theorem SchemaName.path_inj {s t : SchemaName} (h : s.path = t.path) : s = t := by
  obtain ⟨catalog, schema⟩ := s
  obtain ⟨catalog', schema'⟩ := t
  cases catalog <;> cases catalog' <;> simp_all [path]

/-- A path of one part has no schema, and of a longer one the last part is the name. -/
theorem QualifiedName.path_inj {m n : QualifiedName} (h : m.path = n.path) : m = n := by
  obtain ⟨schema, name⟩ := m
  obtain ⟨schema', name'⟩ := n
  obtain ⟨hschema, hname⟩ := List.append_inj' h rfl
  obtain rfl : name = name' := by simpa using hname
  cases schema with
  | none =>
    cases schema' with
    | none => rfl
    | some t => exact absurd hschema.symm t.path_ne_nil
  | some s =>
    cases schema' with
    | none => exact absurd hschema s.path_ne_nil
    | some t => rw [SchemaName.path_inj hschema]

/-- Tables of different kinds that are written alike. -/
inductive TableName.Alike : TableName → TableName → Prop where
  | bare (name : Ident) : Alike (.locally { name }) (.qualified { name })
  | module (name : Ident) :
      Alike (.locally { isModule := true, name })
        (.qualified { schema := some { schema := ⟨"MODULE"⟩ }, name })

/-- Each table name is told from all others of its kind, and from those of the other kind unless
they are written alike. -/
theorem TableName.path_eq_iff {s t : TableName} :
    s.path = t.path ↔ s = t ∨ Alike s t ∨ Alike t s := by
  constructor
  · intro h
    cases s with
    | locally m =>
      obtain ⟨inModule, name⟩ := m
      cases t with
      | locally n =>
        obtain ⟨inModule', name'⟩ := n
        cases inModule <;> cases inModule' <;> simp_all [path, LocalName.path]
      | qualified n =>
        cases inModule with
        | false =>
          obtain rfl : n = { name } := QualifiedName.path_inj h.symm
          exact .inr (.inl (.bare name))
        | true =>
          obtain rfl : n = { schema := some { schema := ⟨"MODULE"⟩ }, name } :=
            QualifiedName.path_inj h.symm
          exact .inr (.inl (.module name))
    | qualified m =>
      cases t with
      | locally n =>
        obtain ⟨inModule, name⟩ := n
        cases inModule with
        | false =>
          obtain rfl : m = { name } := QualifiedName.path_inj h
          exact .inr (.inr (.bare name))
        | true =>
          obtain rfl : m = { schema := some { schema := ⟨"MODULE"⟩ }, name } :=
            QualifiedName.path_inj h
          exact .inr (.inr (.module name))
      | qualified n => exact .inl (congrArg _ (QualifiedName.path_inj h))
  · rintro (rfl | halike | halike)
    · rfl
    · cases halike <;> rfl
    · cases halike <;> rfl

/-- A column without a table is told from one with a table by the length of its path. -/
theorem ColumnRef.path_inj {t u : Option QualifiedName} {i j : Ident}
    (h : path { table := t.map .qualified, name := i } =
      path { table := u.map .qualified, name := j }) : t = u ∧ i = j := by
  obtain ⟨htable, hname⟩ := List.append_inj' h rfl
  refine ⟨?_, by simpa using hname⟩
  cases t with
  | none =>
    cases u with
    | none => rfl
    | some n => exact absurd htable.symm n.path_ne_nil
  | some m =>
    cases u with
    | none => exact absurd htable m.path_ne_nil
    | some n => rw [QualifiedName.path_inj htable]

/-- No ambiguity of names. The path of a name is read back from its text, so names are written alike
exactly if they have the same path. Names that are qualified by a schema, and columns of such
tables, are all different, and a table name of another kind is written like one of these only if it
has no qualifier or is marked by `MODULE`. -/
theorem Name.render_unambiguous {c : Setting} (hq : Ident.isBareChar c.quote c.alphabet = false)
    (hdot : c.quote ≠ '.') :
    (∀ n : Name,
      ∃ sql, n.doc.render c = .ok sql ∧ Ident.path? c.quote c.alphabet sql = some n.path) ∧
    (∀ m n : Name, m.doc.render c = n.doc.render c ↔ m.path = n.path) ∧
    (∀ m n : QualifiedName, m.doc.render c = n.doc.render c → m = n) ∧
    (∀ (t u : Option QualifiedName) (i j : Ident),
      (ColumnRef.mk (t.map .qualified) i).doc.render c =
        (ColumnRef.mk (u.map .qualified) j).doc.render c → t = u ∧ i = j) ∧
    (∀ s t : TableName, s.doc.render c = t.doc.render c ↔
      s = t ∨ TableName.Alike s t ∨ TableName.Alike t s) := by
  have hsame : ∀ m n : Name, m.doc.render c = n.doc.render c ↔ m.path = n.path :=
    render_eq_iff hq hdot
  refine ⟨?_, hsame, ?_, ?_, ?_⟩
  · intro n
    exact ⟨_, n.render_doc c, Ident.path?_dotted hq hdot n.path_ne_nil⟩
  · intro m n h
    exact QualifiedName.path_inj ((hsame (.qualified m) (.qualified n)).mp h)
  · intro t u i j h
    exact ColumnRef.path_inj ((hsame (.column ⟨_, i⟩) (.column ⟨_, j⟩)).mp h)
  · intro s t
    exact (hsame (.table s) (.table t)).trans TableName.path_eq_iff

/-- A schema with a dot and a quote in its name, and a module beside a schema called `MODULE`. -/
theorem Name.render_unambiguous_dots :
    Ident.isBareChar '"' = false ∧ '"' ≠ '.' ∧
    (QualifiedName.mk (some ⟨none, ⟨"a.\"b"⟩⟩) ⟨"c"⟩).doc.render Dialect.generic.config =
      .ok "\"a.\"\"b\".c" ∧
    Ident.path? '"' .unicode "\"a.\"\"b\".c" = some [⟨"a.\"b"⟩, ⟨"c"⟩] ∧
    (TableName.locally ⟨true, ⟨"t"⟩⟩).doc.render Dialect.generic.config =
      (TableName.qualified ⟨some ⟨none, ⟨"MODULE"⟩⟩, ⟨"t"⟩⟩).doc.render Dialect.generic.config := by
  have hq : Ident.isBareChar '"' = false := by decide
  have hdot : '"' ≠ '.' := by decide
  obtain ⟨hread, -, -, -, htable⟩ :=
    Name.render_unambiguous (c := Dialect.generic.config) hq hdot
  obtain ⟨sql, hsql, hpath⟩ := hread (.qualified ⟨some ⟨none, ⟨"a.\"b"⟩⟩, ⟨"c"⟩⟩)
  obtain rfl : "\"a.\"\"b\".c" = sql := Except.ok.inj hsql
  exact ⟨hq, hdot, hsql, hpath, (htable _ _).mpr (.inr (.inl (.module _)))⟩

end SqlTree
