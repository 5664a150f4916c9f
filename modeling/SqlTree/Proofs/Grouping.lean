import SqlTree.Proofs.Part.Construct
import SqlTree.Proofs.Tells

/-! Groupings read from their text. A column may be called like a keyword, but a keyword has a space
behind it and a column has none. -/
namespace SqlTree
open Doc

/-- What may follow an element of a grouping. -/
def groupingEnds : List String := [", ", ")"]

namespace ColumnRef
variable {abc : Alphabet} {c d : ColumnRef} {w : Ident} {r s : List Char}

/-- The column has no table, or one that is not local. -/
def IsGlobal (c : ColumnRef) : Prop :=
  ∃ t : Option QualifiedName, c.table = t.map .qualified

private theorem path_ne_nil (c : ColumnRef) : c.path ≠ [] := by simp [path]

theorem chars_doc (abc : Alphabet) (c : ColumnRef) :
    c.doc.chars abc = (Ident.dotted '\x60' abc c.path).toList := by
  rw [chars, spell_doc]
  rfl

private theorem exists_chars_eq_cons (abc : Alphabet) (c : ColumnRef) :
    ∃ a as, c.doc.chars abc = a :: as ∧ ∀ d, Ident.isSign d = true → d ≠ '\x60' → a ≠ d := by
  obtain ⟨i, path, hpath⟩ := List.exists_cons_of_ne_nil c.path_ne_nil
  obtain ⟨a, as, has, ha⟩ := i.exists_escape_eq_cons '\x60' abc
  rw [chars_doc, hpath, Ident.toList_dotted_cons, has]
  exact ⟨a, _, rfl, ha⟩

private theorem eq_of_path_eq (hc : c.IsGlobal) (hd : d.IsGlobal) (h : c.path = d.path) :
    c = d := by
  obtain ⟨table, name⟩ := c
  obtain ⟨table', name'⟩ := d
  obtain ⟨t, rfl⟩ := hc
  obtain ⟨u, rfl⟩ := hd
  obtain ⟨rfl, rfl⟩ := path_inj h
  rfl

private theorem over_of_groupingEnds (hr : Continues groupingEnds r) :
    Ident.Over '\x60' abc r ∧ r.head? ≠ some '.' :=
  Ident.path_over (by decide) hr

theorem tells (hc : c.IsGlobal) (hd : d.IsGlobal) :
    Tells (Continues groupingEnds) (c = d) (c.doc.chars abc) (d.doc.chars abc) := by
  have hquote : Ident.isBareChar '\x60' abc = false := Ident.isBareChar_of_isSign abc (by decide)
  have hpath := Ident.tells_dotted hquote (by decide) c.path_ne_nil d.path_ne_nil
  rw [chars_doc, chars_doc]
  exact (hpath.mono fun _ => over_of_groupingEnds).imp (eq_of_path_eq hc hd)

/-- A word with a space behind it is no column. -/
private theorem chars_ne_word (c : ColumnRef) (hw : w.isAsciiWord = true)
    (hr : Continues groupingEnds r) : c.doc.chars abc ++ r ≠ w.name.toList ++ ' ' :: s := by
  have hword : (Ident.dotted '\x60' abc [w]).toList = w.name.toList := by
    simp [Ident.dotted, Ident.escape_of_bare (Ident.needsQuoting_of_isAsciiWord abc hw)]
  have hstart : Continues [" "] (' ' :: s) := .append List.mem_cons_self s
  have hspace : Ident.Over '\x60' abc (' ' :: s) ∧ (' ' :: s).head? ≠ some '.' :=
    Ident.path_over (by decide) hstart
  have hquote : Ident.isBareChar '\x60' abc = false := Ident.isBareChar_of_isSign abc (by decide)
  have hpath := Ident.tells_dotted hquote (by decide) c.path_ne_nil (List.cons_ne_nil w [])
  rw [chars_doc, ← hword]
  intro h
  obtain ⟨-, rfl⟩ := hpath r (' ' :: s) (over_of_groupingEnds hr) hspace h
  have hhead : ∀ a ∈ (' ' :: s).head?, a ≠ ' ' := hr.head (by decide)
  exact hhead ' ' rfl rfl

end ColumnRef

/-- What the parentheses of an element are for. -/
inductive GroupingKind where
  | set | rollup | cube | sets
  deriving DecidableEq

namespace GroupingKind

def opening : GroupingKind → String
  | set => "("
  | rollup => "ROLLUP ("
  | cube => "CUBE ("
  | sets => "GROUPING SETS ("

private theorem eq_of_isPrefix :
    ∀ k l : GroupingKind, k.opening.toList <+: l.opening.toList → k = l := by
  rintro ⟨⟩ ⟨⟩ <;> decide

private theorem not_continues (k : GroupingKind) :
    ∀ r, ¬ Continues [")"] (k.opening.toList ++ r) := by
  have hne : k.opening ≠ "" := by cases k <;> decide
  have hdiffer : ∀ s ∈ [")"], Differ k.opening.toList s.toList := by cases k <;> decide
  exact Continues.not_append hne hdiffer

/-- No column begins like parentheses and the keyword before them. -/
private theorem ne_chars (abc : Alphabet) (k : GroupingKind) (c : ColumnRef) {r : List Char}
    (hr : Continues groupingEnds r) (s : List Char) :
    c.doc.chars abc ++ r ≠ k.opening.toList ++ s := by
  cases k with
  | set =>
    obtain ⟨a, as, has, ha⟩ := c.exists_chars_eq_cons abc
    rw [has]
    intro h
    exact ha '(' (by decide) (by decide) (List.cons.inj h).1
  | rollup => exact c.chars_ne_word (w := ⟨"ROLLUP"⟩) (s := '(' :: s) (by decide) hr
  | cube => exact c.chars_ne_word (w := ⟨"CUBE"⟩) (s := '(' :: s) (by decide) hr
  | sets =>
    exact c.chars_ne_word (w := ⟨"GROUPING"⟩) (s := "SETS (".toList ++ s) (by decide) hr

end GroupingKind

namespace GroupingElement

mutual

/-- The columns of an element, however deep they are nested. -/
def columnRefs : GroupingElement → List ColumnRef
  | .columns cs => cs
  | .rollup cs => cs
  | .cube cs => cs
  | .sets elements => columnRefsAll elements
  | .empty => []

def columnRefsAll : List GroupingElement → List ColumnRef
  | [] => []
  | e :: es => e.columnRefs ++ columnRefsAll es

end

def column (c : ColumnRef) : GroupingElement :=
  .columns [c]

/-- The column of an element without parentheses. -/
def column? : GroupingElement → Option ColumnRef
  | .columns [c] => some c
  | _ => none

def kind : GroupingElement → GroupingKind
  | .columns _ => .set
  | .rollup _ => .rollup
  | .cube _ => .cube
  | .sets _ => .sets
  | .empty => .set

/-- What stands between the parentheses. -/
def items : GroupingElement → List GroupingElement
  | .columns cs => cs.map column
  | .rollup cs => cs.map column
  | .cube cs => cs.map column
  | .sets elements => elements
  | .empty => []

/-- An element that has a text and no local tables. -/
structure Legible (e : GroupingElement) : Prop where
  isGlobal : ∀ c ∈ e.columnRefs, c.IsGlobal
  defect?_eq : e.defect? = none

variable {abc : Alphabet} {e f : GroupingElement} {es : List GroupingElement} {c : ColumnRef}
  {cs : List ColumnRef}

private theorem eq_column_of_column? (h : e.column? = some c) : e = column c := by
  unfold column? at h
  split at h
  · rw [Option.some.inj h, column]
  · cases h

private theorem column_injective : Function.Injective column := by
  intro c d h
  simpa [column] using h

private theorem chars_column (c : ColumnRef) : (column c).doc.chars abc = c.doc.chars abc := by
  simp [column, doc, columnsDoc]

theorem chars_doc (h : e.column? = none) :
    e.doc.chars abc =
      e.kind.opening.toList ++ ((list (e.items.map (·.doc))).chars abc ++ ")".toList) := by
  have hcolumns : ∀ cs : List ColumnRef, (cs.map column).map (·.doc) = cs.map (·.doc) := by
    simp [column, doc, columnsDoc]
  cases e with
  | columns cs =>
    match cs with
    | [] => simp [doc, columnsDoc, kind, GroupingKind.opening, items]
    | [c] => cases h
    | c :: c' :: cs =>
      rw [items, hcolumns]
      simp [doc, columnsDoc, kind, GroupingKind.opening]
  | rollup cs =>
    rw [items, hcolumns]
    simp [doc, kind, GroupingKind.opening]
  | cube cs =>
    rw [items, hcolumns]
    simp [doc, kind, GroupingKind.opening]
  | sets elements => simp [doc, docs_eq_map, kind, GroupingKind.opening, items]
  | empty => simp [doc, kind, GroupingKind.opening, items, list, joined]

private theorem legible_all_iff :
    (∀ c ∈ columnRefsAll es, c.IsGlobal) ∧ defectAll? es = none ↔ ∀ e ∈ es, e.Legible := by
  induction es with
  | nil => simp [columnRefsAll, defectAll?]
  | cons e es ih =>
    have hfirst : e.Legible ↔ (∀ c ∈ e.columnRefs, c.IsGlobal) ∧ e.defect? = none :=
      ⟨fun h => ⟨h.1, h.2⟩, fun h => ⟨h.1, h.2⟩⟩
    rw [columnRefsAll, defectAll?, List.forall_mem_append, Option.or_eq_none_iff,
      List.forall_mem_cons, ← ih, hfirst]
    tauto

private theorem legible_column (hc : c.IsGlobal) : (column c).Legible :=
  ⟨by simpa [column, columnRefs] using hc, rfl⟩

private theorem Legible.items (h : e.Legible) : ∀ x ∈ e.items, x.Legible := by
  have hcolumns : ∀ cs : List ColumnRef, (∀ c ∈ cs, c.IsGlobal) →
      ∀ x ∈ cs.map column, x.Legible := by
    intro cs hcs x hx
    obtain ⟨c, hc, rfl⟩ := List.mem_map.mp hx
    exact legible_column (hcs c hc)
  cases e with
  | columns cs => exact hcolumns cs h.isGlobal
  | rollup cs => exact hcolumns cs h.isGlobal
  | cube cs => exact hcolumns cs h.isGlobal
  | sets elements =>
    have hdefect := h.defect?_eq
    rw [defect?, Option.or_eq_none_iff] at hdefect
    exact legible_all_iff.mp ⟨h.isGlobal, hdefect.2⟩
  | empty => simp [GroupingElement.items]

/-- A set of no columns would look like the group of all rows, but it has no text. -/
private theorem eq_of_items_eq (he : e.Legible) (hf : f.Legible) (hkind : e.kind = f.kind)
    (hitems : e.items = f.items) : e = f := by
  have hempty : ¬ (columns []).Legible := by
    intro h
    have hdefect := h.defect?_eq
    simp [defect?, absent?] at hdefect
  have hcolumns := List.map_injective_iff.mpr column_injective
  cases e <;> cases f <;> simp only [kind, reduceCtorEq] at hkind
  case columns.columns => exact congrArg columns (hcolumns hitems)
  case columns.empty =>
    obtain rfl := List.map_eq_nil_iff.mp hitems
    exact absurd he hempty
  case rollup.rollup => exact congrArg rollup (hcolumns hitems)
  case cube.cube => exact congrArg cube (hcolumns hitems)
  case sets.sets => exact congrArg sets hitems
  case empty.columns =>
    obtain rfl := List.map_eq_nil_iff.mp hitems.symm
    exact absurd hf hempty
  case empty.empty => rfl

/-- No element begins where a parenthesis closes. -/
private theorem not_continues (e : GroupingElement) (r : List Char) :
    ¬ Continues [")"] (e.doc.chars abc ++ r) := by
  cases h : e.column? with
  | some c =>
    obtain ⟨a, as, has, ha⟩ := c.exists_chars_eq_cons abc
    rw [eq_column_of_column? h, chars_column, has]
    intro hclose
    have hhead : ∀ b ∈ (a :: (as ++ r)).head?, b = ')' := hclose.head (by decide)
    exact ha ')' (by decide) (by decide) (hhead a rfl)
  | none =>
    rw [chars_doc h, List.append_assoc]
    exact e.kind.not_continues _

private theorem tells_items {xs ys : List GroupingElement} (h : ∀ x ∈ xs, ∀ y ∈ ys,
      Tells (Continues groupingEnds) (x = y) (x.doc.chars abc) (y.doc.chars abc)) :
    Tells (Continues [")"]) (xs = ys) ((list (xs.map (·.doc))).chars abc)
      ((list (ys.map (·.doc))).chars abc) := by
  -- where an empty list is over, a parenthesis closes
  have hsome : ∀ (z : GroupingElement) (zs : List GroupingElement) (r s : List Char),
      Continues [")"] r → r ≠ (list ((z :: zs).map (·.doc))).chars abc ++ s := by
    intro z zs r s hr he
    rw [chars_list_map_cons, List.append_assoc] at he
    exact z.not_continues _ (he ▸ hr)
  intro r s hr hs he
  cases xs with
  | nil =>
    cases ys with
    | nil => exact ⟨rfl, List.append_cancel_left he⟩
    | cons y ys => exact absurd he (hsome y ys r s hr)
  | cons x xs =>
    cases ys with
    | nil => exact absurd he.symm (hsome x xs s r hs)
    | cons y ys =>
      have hlist := tells_list (g := id) (List.cons_ne_nil x xs) (List.cons_ne_nil y ys) h
      simpa using hlist r s hr hs he

private theorem tells_column (hc : c.IsGlobal) (hf : f.Legible) :
    Tells (Continues groupingEnds) (column c = f) ((column c).doc.chars abc) (f.doc.chars abc) := by
  cases h : f.column? with
  | some d =>
    obtain rfl := eq_column_of_column? h
    have hd : d.IsGlobal := hf.isGlobal d (by simp [column, columnRefs])
    rw [chars_column, chars_column]
    exact (ColumnRef.tells hc hd).imp (congrArg column)
  | none =>
    intro r s hr hs he
    rw [chars_column, chars_doc h, List.append_assoc] at he
    exact absurd he (f.kind.ne_chars abc c hr _)

private theorem tells_of_items (he : e.Legible) (hf : f.Legible) (hcolumn : e.column? = none)
    (h : ∀ x ∈ e.items, ∀ y : GroupingElement, y.Legible →
      Tells (Continues groupingEnds) (x = y) (x.doc.chars abc) (y.doc.chars abc)) :
    Tells (Continues groupingEnds) (e = f) (e.doc.chars abc) (f.doc.chars abc) := by
  cases hd : f.column? with
  | some d =>
    obtain rfl := eq_column_of_column? hd
    intro r s hr hs he
    rw [chars_column, chars_doc hcolumn, List.append_assoc] at he
    exact absurd he.symm (e.kind.ne_chars abc d hs _)
  | none =>
    have hkind : Tells (fun _ => True) (e.kind = f.kind) _ _ :=
      .of_isPrefix GroupingKind.eq_of_isPrefix e.kind f.kind
    have hitems := tells_items fun x hx y hy => h x hx y (hf.items y hy)
    have hclose : ∀ r : List Char, Continues groupingEnds r → Continues [")"] (")".toList ++ r) :=
      fun r _ => .append (by decide) r
    rw [chars_doc hcolumn, chars_doc hd]
    refine (hkind.append (hitems.before _ hclose) (fun _ _ => trivial) fun _ _ => trivial).imp ?_
    rintro ⟨hkind, hitems⟩
    exact eq_of_items_eq he hf hkind hitems

/-- Columns stand between the parentheses of all elements but the grouping sets, which hold elements
of any depth. -/
private theorem tells_columns (hcs : ∀ c ∈ cs, c.IsGlobal) :
    ∀ x ∈ cs.map column, ∀ y : GroupingElement,
    y.Legible → Tells (Continues groupingEnds) (x = y) (x.doc.chars abc) (y.doc.chars abc) := by
  intro x hx y hy
  obtain ⟨c, hc, rfl⟩ := List.mem_map.mp hx
  exact tells_column (hcs c hc) hy

mutual

theorem tells : ∀ {e f : GroupingElement}, e.Legible → f.Legible →
    Tells (Continues groupingEnds) (e = f) (e.doc.chars abc) (f.doc.chars abc)
  | .columns cs, f, he, hf => by
    cases h : (columns cs).column? with
    | some c =>
      have hcolumn := eq_column_of_column? h
      rw [hcolumn] at he ⊢
      exact tells_column (he.isGlobal c (by simp [column, columnRefs])) hf
    | none => exact tells_of_items he hf h (tells_columns he.isGlobal)
  | .rollup _, _, he, hf => tells_of_items he hf rfl (tells_columns he.isGlobal)
  | .cube _, _, he, hf => tells_of_items he hf rfl (tells_columns he.isGlobal)
  | .sets elements, _, he, hf => by
    have helements : ∀ x ∈ elements, x.Legible := he.items
    exact tells_of_items he hf rfl fun x hx _ hy => tells_all helements x hx hy
  | .empty, _, he, hf => tells_of_items he hf rfl (by simp [items])

private theorem tells_all : ∀ {es : List GroupingElement}, (∀ e ∈ es, e.Legible) → ∀ e ∈ es,
    ∀ {f : GroupingElement}, f.Legible →
      Tells (Continues groupingEnds) (e = f) (e.doc.chars abc) (f.doc.chars abc)
  | [], _, _, he, _, _ => by simp at he
  | d :: es, hall, e, he, f, hf => by
    obtain heq | he := List.mem_cons.mp he
    · rw [heq]
      exact tells (hall d List.mem_cons_self) hf
    · exact tells_all (fun e he => hall e (List.mem_cons_of_mem d he)) e he hf

end

end GroupingElement

namespace GroupBy
variable {abc : Alphabet} {g h : GroupBy} {es fs : List GroupingElement}

def columnRefs (g : GroupBy) : List ColumnRef :=
  GroupingElement.columnRefsAll g.elements

/-- The quantifier and the space behind it. -/
def quantifierText (q : Option SetQuantifier) : List Char :=
  q.elim [] fun q => (Spelled.keyword q).toList ++ [' ']

theorem chars_doc (abc : Alphabet) (g : GroupBy) :
    g.doc.chars abc = "GROUP BY ".toList ++
      (quantifierText g.quantifier ++ (list (g.elements.map (·.doc))).chars abc) := by
  obtain ⟨quantifier, elements⟩ := g
  cases quantifier <;> simp [doc, quantifierText, GroupingElement.docs_eq_map, Doc.optional]

private theorem legible_elements (hg : ∀ c ∈ g.columnRefs, c.IsGlobal)
    (hfine : g.doc.failure? = none) : g.elements ≠ [] ∧ ∀ e ∈ g.elements, e.Legible := by
  rw [failure?_doc, defect?, Option.or_eq_none_iff] at hfine
  obtain ⟨hne, hdefect⟩ := hfine
  refine ⟨?_, GroupingElement.legible_all_iff.mp ⟨hg, hdefect⟩⟩
  intro hnil
  simp [hnil, absent?] at hne

/-- The elements do not begin like a quantifier. Behind a column of that name there is no space. -/
private theorem elements_ne_quantifier (hes : es ≠ []) (q : SetQuantifier) (s : List Char) :
    (list (es.map (·.doc))).chars abc ≠ (Spelled.keyword q).toList ++ ' ' :: s := by
  obtain ⟨e, es, rfl⟩ := List.exists_cons_of_ne_nil hes
  have hrest : Continues groupingEnds (es.flatMap fun f => ", ".toList ++ f.doc.chars abc) := by
    cases es with
    | nil => exact .nil
    | cons f es =>
      rw [List.flatMap_cons, List.append_assoc]
      exact .append (by decide) _
  rw [chars_list_map_cons]
  cases hc : e.column? with
  | some c =>
    have hq : (⟨Spelled.keyword q⟩ : Ident).isAsciiWord = true := by cases q <;> decide
    rw [GroupingElement.eq_column_of_column? hc, GroupingElement.chars_column]
    exact c.chars_ne_word hq hrest
  | none =>
    have hdiffer : Differ e.kind.opening.toList (Spelled.keyword q).toList := by
      cases e.kind <;> cases q <;> decide
    rw [GroupingElement.chars_doc hc, List.append_assoc]
    intro h
    exact hdiffer.not_isPrefix (List.prefix_append _ _) ⟨' ' :: s, h.symm⟩

/-- Whether there is a quantifier, and which, is told by what stands before the elements. -/
private theorem quantifier_told {q q' : Option SetQuantifier} (hes : es ≠ []) (hfs : fs ≠ [])
    (h : quantifierText q ++ (list (es.map (·.doc))).chars abc =
      quantifierText q' ++ (list (fs.map (·.doc))).chars abc) :
    q = q' ∧ (list (es.map (·.doc))).chars abc = (list (fs.map (·.doc))).chars abc := by
  cases q with
  | none =>
    cases q' with
    | none => exact ⟨rfl, h⟩
    | some b =>
      rw [quantifierText, quantifierText, Option.elim_some, List.append_assoc] at h
      exact absurd h (elements_ne_quantifier hes b _)
  | some a =>
    cases q' with
    | none =>
      rw [quantifierText, quantifierText, Option.elim_some, List.append_assoc] at h
      exact absurd h.symm (elements_ne_quantifier hfs a _)
    | some b =>
      have hkeyword : Tells (fun _ => True) (a = b) (quantifierText a) (quantifierText b) :=
        .of_isPrefix (f := fun q => quantifierText (some q)) (by rintro ⟨⟩ ⟨⟩ <;> decide) a b
      obtain ⟨hab, hlist⟩ := hkeyword _ _ trivial trivial h
      exact ⟨congrArg some hab, hlist⟩

/-- Under the default configuration, the text of a grouping tells its quantifier and all of its
elements, unless it names columns of local tables. -/
theorem render_tells_grouping (hg : ∀ c ∈ g.columnRefs, c.IsGlobal)
    (hh : ∀ c ∈ h.columnRefs, c.IsGlobal) {sql : String}
    (hrender : g.doc.render (.default abc) = .ok sql) :
    h.doc.render (.default abc) = .ok sql ↔ g = h := by
  constructor
  · intro hrender'
    obtain ⟨hfine, hsql⟩ := render_eq_ok_iff.mp hrender
    obtain ⟨hfine', hsql'⟩ := render_eq_ok_iff.mp hrender'
    obtain ⟨hne, hlegible⟩ := legible_elements hg hfine
    obtain ⟨hne', hlegible'⟩ := legible_elements hh hfine'
    have htext : g.doc.chars abc = h.doc.chars abc := by rw [chars, chars, hsql, hsql']
    rw [chars_doc, chars_doc] at htext
    obtain ⟨hquantifier, hlist⟩ := quantifier_told hne hne' (List.append_cancel_left htext)
    have htells : Tells (Continues [")"]) (g.elements = h.elements)
        ((list (g.elements.map (·.doc))).chars abc) ((list (h.elements.map (·.doc))).chars abc) :=
      GroupingElement.tells_items fun e he f hf =>
        GroupingElement.tells (hlegible e he) (hlegible' f hf)
    obtain ⟨helements, -⟩ := htells [] [] .nil .nil (by rw [hlist])
    obtain ⟨quantifier, elements⟩ := g
    obtain ⟨quantifier', elements'⟩ := h
    obtain rfl : quantifier = quantifier' := hquantifier
    obtain rfl : elements = elements' := helements
    rfl
  · rintro rfl
    exact hrender

/-- Columns that are called like a quantifier and like the keywords of elements. -/
theorem render_tells_grouping_keywords :
    let column (name : String) : ColumnRef := { name := ⟨name⟩ }
    let named : GroupBy :=
      { elements := [.columns [column "ALL"], .columns [column "ROLLUP"],
          .sets [.columns [column "GROUPING", column "SETS"], .empty, .cube [column "CUBE"]]] }
    let other : GroupBy :=
      { quantifier := some .all, elements := [.rollup [column "GROUPING", column "SETS"]] }
    let sql := "GROUP BY ALL, ROLLUP, GROUPING SETS ((GROUPING, SETS), (), CUBE (CUBE))"
    (∀ c ∈ named.columnRefs, c.IsGlobal) ∧ (∀ c ∈ other.columnRefs, c.IsGlobal) ∧
      named.doc.render .default = .ok sql ∧ other.doc.render .default ≠ .ok sql := by
  intro column named other sql
  have hbare : ∀ name, (column name).IsGlobal := fun _ => ⟨none, rfl⟩
  have hnamed : ∀ c ∈ named.columnRefs, c.IsGlobal := by
    simp [named, columnRefs, GroupingElement.columnRefsAll, GroupingElement.columnRefs, hbare]
  have hother : ∀ c ∈ other.columnRefs, c.IsGlobal := by
    simp [other, columnRefs, GroupingElement.columnRefsAll, GroupingElement.columnRefs, hbare]
  have hrender : named.doc.render .default = .ok sql := by decide
  refine ⟨hnamed, hother, hrender, fun hrender' => ?_⟩
  have heq := (render_tells_grouping hnamed hother hrender).mp hrender'
  simp [named, other] at heq

end GroupBy

end SqlTree
