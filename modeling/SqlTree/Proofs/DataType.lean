import SqlTree.Proofs.DataType.Scalar
import SqlTree.Proofs.Failure.Table
import SqlTree.Proofs.Part.Construct

/-! Data types of any depth, read from their text. What stands before the arrays and multisets
begins with its own keyword; the wrappers follow one after the other. -/
namespace SqlTree
open Doc

mutual

/-- No part of the type is called by a name of the user's. -/
def DataType.isBuiltIn : DataType → Bool
  | .array element _ => element.isBuiltIn
  | .multiset element => element.isBuiltIn
  | .row fields => RowField.areBuiltIn fields
  | .named _ => false
  | _ => true

def RowField.areBuiltIn : List RowField → Bool
  | [] => true
  | { type, .. } :: fs => type.isBuiltIn && RowField.areBuiltIn fs

end

mutual

/-- The type without the parts that are never written. -/
def DataType.written : DataType → DataType
  | .character t => .character t.written
  | .numeric t => .numeric t.written
  | .array element capacity => .array element.written capacity
  | .multiset element => .multiset element.written
  | .row fields => .row (RowField.writtenAll fields)
  | t => t

def RowField.written : RowField → RowField
  | { name, type } => { name, type := type.written }

def RowField.writtenAll : List RowField → List RowField
  | [] => []
  | f :: fs => f.written :: RowField.writtenAll fs

end

/-- What arrays and multisets write behind the type of their elements. -/
inductive TypeWrapper where
  | array (capacity : Option UInt64)
  | multiset
  deriving DecidableEq

namespace TypeWrapper

def wrap (t : DataType) : TypeWrapper → DataType
  | array capacity => .array t capacity
  | multiset => .multiset t

def doc : TypeWrapper → Doc
  | array capacity => space ++ text "ARRAY" ++ bracket (optional capacity uint)
  | multiset => space ++ text "MULTISET"

def opening : TypeWrapper → String
  | array _ => " ARRAY["
  | multiset => " MULTISET"

def rest : TypeWrapper → List Char
  | array capacity => capacity.elim [] digits ++ [']']
  | multiset => []

def chars (w : TypeWrapper) : List Char :=
  w.opening.toList ++ w.rest

@[simp] theorem chars_doc (abc : Alphabet) (w : TypeWrapper) : w.doc.chars abc = w.chars := by
  cases w <;> simp [doc, chars, opening, rest, bracket]

private theorem tells_capacity {F : List Char → Prop} (m n : Option UInt64) :
    Tells F (m = n) (array m).rest (array n).rest := by
  have hnot : ∀ (n : UInt64) (cs ds : List Char), [']'] ++ cs ≠ digits n ++ ds := by
    intro n cs ds h
    obtain ⟨d, _, hrepr, hd⟩ := exists_repr_eq_cons n.toNat
    rw [digits, hrepr] at h
    obtain rfl : ']' = d := (List.cons.inj h).1
    cases hd
  intro r s hr hs h
  cases m with
  | none =>
    cases n with
    | none => exact ⟨rfl, List.append_cancel_left h⟩
    | some n => exact absurd (by simpa [rest] using h) (hnot n r ([']'] ++ s))
  | some m =>
    cases n with
    | none => exact absurd (by simpa [rest] using h.symm) (hnot m s ([']'] ++ r))
    | some n =>
      have hclose : ∀ r : List Char, Detached ([']'] ++ r) := fun r =>
        detached_cons (c := ']') (by decide) (by decide) r
      obtain ⟨hmn, hrs⟩ := (tells_digits m n).before [']'] (fun r _ => hclose r) r s hr hs h
      exact ⟨congrArg some hmn, hrs⟩

theorem tells {F : List Char → Prop} (v w : TypeWrapper) :
    Tells F (v = w) v.chars w.chars := by
  intro r s hr hs h
  cases v with
  | array m =>
    cases w with
    | array n =>
      obtain ⟨hmn, hrs⟩ := (tells_capacity m n).behind " ARRAY[".toList r s hr hs h
      exact ⟨congrArg array hmn, hrs⟩
    | multiset => simp [chars, opening] at h
  | multiset =>
    cases w with
    | array n => simp [chars, opening] at h
    | multiset => exact ⟨rfl, List.append_cancel_left h⟩

private theorem continues (w : TypeWrapper) (r : List Char) :
    Continues typeEnds (w.chars ++ r) := by
  have hopening : w.opening ∈ typeEnds := by cases w <;> simp [opening, typeEnds]
  rw [chars, List.append_assoc]
  exact .append hopening _

private theorem head?_chars (w : TypeWrapper) (r : List Char) :
    (w.chars ++ r).head? = some ' ' := by
  cases w <;> simp [chars, opening]

end TypeWrapper

private theorem RowField.writtenAll_eq_map (fs : List RowField) :
    RowField.writtenAll fs = fs.map (·.written) := by
  induction fs with
  | nil => rfl
  | cons f fs ih => rw [RowField.writtenAll, ih, List.map_cons]

namespace DataType

/-- The type inside all the arrays and multisets. -/
def core : DataType → DataType
  | .array element _ => element.core
  | .multiset element => element.core
  | t => t

/-- The arrays and multisets around the core, the innermost one first. -/
def wrappers : DataType → List TypeWrapper
  | .array element capacity => element.wrappers ++ [.array capacity]
  | .multiset element => element.wrappers ++ [.multiset]
  | _ => []

private theorem doc_eq_core : ∀ t : DataType, t.doc = t.core.doc ++ t.wrappers.flatMap (·.doc)
  | .array element capacity => by
    simp [doc, core, wrappers, doc_eq_core element, TypeWrapper.doc]
  | .multiset element => by
    simp [doc, core, wrappers, doc_eq_core element, TypeWrapper.doc]
  | .character _ | .binary _ | .numeric _ | .integer _ | .boolean _ | .dateTime _
  | .interval _ | .row _ | .named _ => by simp [core, wrappers]

private theorem written_eq_core :
    ∀ t : DataType, t.written = t.wrappers.foldl TypeWrapper.wrap t.core.written
  | .array element capacity => by
    simp [written, core, wrappers, written_eq_core element, TypeWrapper.wrap]
  | .multiset element => by
    simp [written, core, wrappers, written_eq_core element, TypeWrapper.wrap]
  | .character _ | .binary _ | .numeric _ | .integer _ | .boolean _ | .dateTime _
  | .interval _ | .row _ | .named _ => by simp [core, wrappers]

variable {abc : Alphabet}

/-- The wrappers are told one by one once the core is. -/
private theorem tells_of_core {t u : DataType} (hcore : Tells (Continues typeEnds)
      (t.core.written = u.core.written) (t.core.doc.chars abc) (u.core.doc.chars abc)) :
    Tells (Continues [",", ")"]) (t.written = u.written) (t.doc.chars abc) (u.doc.chars abc) := by
  have hnot : ∀ (w : TypeWrapper) (r : List Char), ¬ Continues [",", ")"] (w.chars ++ r) := by
    intro w r hr
    have hhead : ∀ c ∈ (w.chars ++ r).head?, c ≠ ' ' := hr.head (by decide)
    exact hhead ' ' (w.head?_chars r) rfl
  have hend : ∀ r, Continues [",", ")"] r → Continues typeEnds r := fun r hr => hr.mono (by decide)
  have hwrappers : Tells (Continues [",", ")"]) (t.wrappers.map id = u.wrappers.map id)
      (t.wrappers.flatMap (·.chars)) (u.wrappers.flatMap (·.chars)) :=
    .flatMap (fun v _ w _ => TypeWrapper.tells v w) hnot TypeWrapper.continues hend
  have hrest := Tells.follows_flatMap TypeWrapper.continues hend
  rw [doc_eq_core t, doc_eq_core u, chars_append, chars_append, chars_flatMap, chars_flatMap]
  simp only [TypeWrapper.chars_doc]
  refine (hcore.append hwrappers (hrest _) (hrest _)).imp ?_
  rintro ⟨hcore, hwrappers⟩
  rw [List.map_id, List.map_id] at hwrappers
  rw [written_eq_core t, written_eq_core u, hcore, hwrappers]

/-- Types that have a text in which all names of types are keywords. -/
def Legible (t : DataType) : Prop :=
  t.isBuiltIn = true ∧ t.defect? = none

private theorem legible_array_iff {element : DataType} {capacity : Option UInt64} :
    (array element capacity).Legible ↔ element.Legible := by
  simp [Legible, isBuiltIn, defect?]

private theorem legible_multiset_iff {element : DataType} :
    (multiset element).Legible ↔ element.Legible := by
  simp [Legible, isBuiltIn, defect?]

private theorem Legible.core : ∀ {t : DataType}, t.Legible → t.core.Legible
  | .array _ _, h => (legible_array_iff.mp h).core
  | .multiset _, h => (legible_multiset_iff.mp h).core
  | .character _, h | .binary _, h | .numeric _, h | .integer _, h | .boolean _, h
  | .dateTime _, h | .interval _, h | .row _, h | .named _, h => h

private theorem legible_row_iff {fs : List RowField} :
    (row fs).Legible ↔ fs ≠ [] ∧ ∀ f ∈ fs, f.type.Legible := by
  have hall : RowField.areBuiltIn fs = true ∧ RowField.defectAll? fs = none ↔
      ∀ f ∈ fs, f.type.Legible := by
    induction fs with
    | nil => simp [RowField.areBuiltIn, RowField.defectAll?]
    | cons f fs ih =>
      obtain ⟨name, type⟩ := f
      simp only [RowField.areBuiltIn, RowField.defectAll?, RowField.defect?, Bool.and_eq_true,
        Option.or_eq_none_iff, List.forall_mem_cons, Legible] at ih ⊢
      rw [← ih]
      tauto
  rw [← hall]
  cases fs <;> simp [Legible, isBuiltIn, defect?, absent?]

/-- The keyword of a core. -/
def head? : DataType → Option TypeHead
  | .character t => some (.character t.kind)
  | .binary t => some (.binary t.kind)
  | .numeric t => some (.numeric t.kind)
  | .integer t => some (.integer t)
  | .boolean t => some (.boolean t)
  | .dateTime t => some (.dateTime t.kind)
  | .interval _ => some .interval
  | .row _ => some .row
  | _ => none

/-- What a core writes behind its keyword. -/
def tail (abc : Alphabet) : DataType → List Char
  | .character t => t.tail abc
  | .binary t => measured t.length
  | .numeric t => t.tail
  | .dateTime t => t.tail
  | .interval t => t.tail
  | .row fields => " (".toList ++ (chars abc (list (fields.map (·.doc))) ++ ")".toList)
  | _ => []

private theorem exists_head?_core :
    ∀ {t : DataType}, t.isBuiltIn = true → ∃ h, t.core.head? = some h
  | .array element _, h => exists_head?_core (t := element) (by simpa [isBuiltIn] using h)
  | .multiset element, h => exists_head?_core (t := element) (by simpa [isBuiltIn] using h)
  | .character _, _ | .binary _, _ | .numeric _, _ | .integer _, _ | .boolean _, _
  | .dateTime _, _ | .interval _, _ | .row _, _ => ⟨_, rfl⟩
  | .named _, h => by simp [isBuiltIn] at h

theorem chars_doc {t : DataType} {h : TypeHead} (ht : t.head? = some h) :
    t.doc.chars abc = (Spelled.keyword h).toList ++ t.tail abc := by
  cases t with
  | character t => cases ht; exact t.chars_doc
  | binary t => cases ht; exact t.chars_doc abc
  | numeric t => cases ht; exact t.chars_doc abc
  | integer t => cases ht; simp [doc, tail, Spelled.keyword]
  | boolean t => cases ht; simp [doc, tail, Spelled.keyword]
  | dateTime t => cases ht; exact t.chars_doc abc
  | interval t => cases ht; exact t.chars_doc abc
  | row fields =>
    cases ht
    simp [doc, tail, RowField.docs_eq_map, chars_required, Spelled.keyword]
  | array | multiset | named => cases ht

theorem continues_tail (t : DataType) {r : List Char} (hr : Continues typeEnds r) :
    Continues TypeHead.starts (t.tail abc ++ r) := by
  have hempty : Continues TypeHead.starts ([] ++ r) := hr.mono (by decide)
  cases t with
  | character t => exact t.continues_tail hr
  | binary t => exact continues_measured t.length hr
  | numeric t => exact t.continues_tail hr
  | integer | boolean | array | multiset | named => exact hempty
  | dateTime t => exact t.continues_tail hr
  | interval t => exact t.continues_tail
  | row fields =>
    rw [tail, List.append_assoc]
    exact .append (by decide) _

/-- Cores are told by their keywords and by what follows them. -/
private theorem tells_of_head {t u : DataType} {h k : TypeHead} (ht : t.head? = some h)
    (hu : u.head? = some k)
    (htail : h = k →
      Tells (Continues typeEnds) (t.written = u.written) (t.tail abc) (u.tail abc)) :
    Tells (Continues typeEnds) (t.written = u.written) (t.doc.chars abc) (u.doc.chars abc) := by
  rw [chars_doc ht, chars_doc hu]
  intro r s hr hs he
  rw [List.append_assoc, List.append_assoc] at he
  obtain ⟨hhk, he⟩ := h.tells k _ _ (t.continues_tail hr) (u.continues_tail hs) he
  exact htail hhk r s hr hs he

private theorem tells_row_tail {fs gs : List RowField} (hfs : fs ≠ []) (hgs : gs ≠ [])
    (h : ∀ f ∈ fs, ∀ g ∈ gs,
      Tells (Continues [", ", ")"]) (f.written = g.written) (f.doc.chars abc) (g.doc.chars abc)) :
    Tells (Continues typeEnds) ((row fs).written = (row gs).written) ((row fs).tail abc)
      ((row gs).tail abc) := by
  have hclose : ∀ r : List Char, Continues typeEnds r → Continues [")"] (")".toList ++ r) :=
    fun r _ => .append (by decide) r
  refine (((tells_list hfs hgs h).before _ hclose).behind _).imp fun hall => ?_
  rw [written, written, RowField.writtenAll_eq_map, RowField.writtenAll_eq_map, hall]

private theorem tells_field {f g : RowField} (h : Tells (Continues [",", ")"])
      (f.type.written = g.type.written) (f.type.doc.chars abc) (g.type.doc.chars abc)) :
    Tells (Continues [", ", ")"]) (f.written = g.written) (f.doc.chars abc) (g.doc.chars abc) := by
  have hover : ∀ cs : List Char, Ident.Over '\x60' abc (' ' :: cs) := by
    intro cs
    have hspace : Continues [" "] (' ' :: cs) := .append List.mem_cons_self cs
    exact Ident.over_of_continues (by decide) hspace
  have hends : ∀ r, Continues [", ", ")"] r → Continues [",", ")"] r := fun r hr =>
    hr.mono (by decide)
  have htype := (h.mono hends).behind [' ']
  have hboth := (tells_ident f.name g.name).append htype (fun r _ => hover _) (fun r _ => hover _)
  cases f
  cases g
  simp only [RowField.doc, chars_append, chars_space, List.append_assoc]
  refine hboth.imp ?_
  rintro ⟨hname, htype⟩
  simp_all [RowField.written]

/-- A core that is no row is told from every other one. -/
private theorem tells_scalar {t u : DataType} {h k : TypeHead} (hrow : h ≠ .row)
    (ht : t.head? = some h) (hu : u.head? = some k) :
    Tells (Continues typeEnds) (t.written = u.written) (t.doc.chars abc) (u.doc.chars abc) := by
  refine tells_of_head ht hu fun hhk => ?_
  subst hhk
  have hnil : ∀ {P : Prop}, P → Tells (Continues typeEnds) P [] [] := fun hP _ _ _ _ he => ⟨hP, he⟩
  -- both are of the kind that the keyword names
  cases t <;> cases ht <;> cases u <;> simp only [head?, Option.some.injEq, reduceCtorEq,
    TypeHead.character.injEq, TypeHead.binary.injEq, TypeHead.numeric.injEq,
    TypeHead.integer.injEq, TypeHead.boolean.injEq, TypeHead.dateTime.injEq] at hu
  case character.refl.character t u =>
    exact (CharacterType.tells_tail hu.symm).imp (congrArg character)
  case binary.refl.binary t u => exact (BinaryType.tells_tail hu.symm).imp (congrArg binary)
  case numeric.refl.numeric t u => exact (NumericType.tells_tail hu.symm).imp (congrArg numeric)
  case integer.refl.integer t u => exact hnil (congrArg integer hu.symm)
  case boolean.refl.boolean t u => exact hnil (congrArg boolean hu.symm)
  case dateTime.refl.dateTime t u => exact (DateTimeType.tells_tail hu.symm).imp (congrArg dateTime)
  case interval.refl.interval t u => exact (IntervalType.tells_tail t u).imp (congrArg interval)
  case row.refl.row => exact absurd rfl hrow

-- The recursion follows the first type down to its core. The second is a core already, and taken
-- anew for every field of a row.
mutual

private theorem tells_core :
    ∀ {t u : DataType} {k : TypeHead}, t.Legible → u.Legible → u.head? = some k →
    Tells (Continues typeEnds) (t.core.written = u.written) (t.core.doc.chars abc) (u.doc.chars abc)
  | .array element _, _, _, ht, hu, hk =>
    tells_core (t := element) (legible_array_iff.mp ht) hu hk
  | .multiset element, _, _, ht, hu, hk =>
    tells_core (t := element) (legible_multiset_iff.mp ht) hu hk
  | .row fields, u, k, ht, hu, hk => by
    obtain ⟨hne, hfields⟩ := legible_row_iff.mp ht
    refine tells_of_head rfl hk fun hrow => ?_
    cases u with
    | row others =>
      obtain ⟨hne', hothers⟩ := legible_row_iff.mp hu
      exact tells_row_tail hne hne' (tells_fields hfields hothers)
    | array | multiset | named => cases hk
    | character | binary | numeric | integer | boolean | dateTime | interval =>
      cases hk
      cases hrow
  | .character _, _, _, _, _, hk | .binary _, _, _, _, _, hk | .numeric _, _, _, _, _, hk
  | .integer _, _, _, _, _, hk | .boolean _, _, _, _, _, hk | .dateTime _, _, _, _, _, hk
  | .interval _, _, _, _, _, hk => tells_scalar (by simp) rfl hk
  | .named _, _, _, ht, _, _ => by simp [Legible, isBuiltIn] at ht

private theorem tells_fields : ∀ {fs gs : List RowField}, (∀ f ∈ fs, f.type.Legible) →
    (∀ g ∈ gs, g.type.Legible) → ∀ f ∈ fs, ∀ g ∈ gs,
      Tells (Continues [", ", ")"]) (f.written = g.written) (f.doc.chars abc) (g.doc.chars abc)
  | [], _, _, _, _, hf, _, _ => by simp at hf
  | { name, type } :: fs, gs, hfs, hgs, f, hf, g, hg => by
    obtain rfl | hf := List.mem_cons.mp hf
    · have htype : type.Legible := hfs _ List.mem_cons_self
      obtain ⟨k, hk⟩ := exists_head?_core (hgs g hg).1
      have hcore := tells_core htype (hgs g hg).core hk
      exact tells_field (tells_of_core hcore)
    · exact tells_fields (fun f hf => hfs f (List.mem_cons_of_mem _ hf)) hgs f hf g hg

end

theorem tells (t u : DataType) (ht : t.Legible) (hu : u.Legible) :
    Tells (Continues [",", ")"]) (t.written = u.written) (t.doc.chars abc) (u.doc.chars abc) := by
  obtain ⟨k, hk⟩ := exists_head?_core hu.1
  exact tells_of_core (tells_core ht hu.core hk)

mutual

/-- Only what is not written is left out. -/
theorem doc_written : ∀ t : DataType, t.written.doc = t.doc
  | .character t => by
    obtain ⟨kind, length, unit, charset, collation⟩ := t
    cases length <;> rfl
  | .numeric t => by
    obtain ⟨kind, precision, scale⟩ := t
    cases precision <;> rfl
  | .array element capacity => by rw [written, doc, doc, doc_written element]
  | .multiset element => by rw [written, doc, doc, doc_written element]
  | .row fields => by rw [written, doc, doc, docs_written fields]
  | .binary _ | .integer _ | .boolean _ | .dateTime _ | .interval _ | .named _ => rfl

private theorem docs_written :
    ∀ fs : List RowField, RowField.docs (RowField.writtenAll fs) = RowField.docs fs
  | [] => rfl
  | { name, type } :: fs => by
    rw [RowField.writtenAll, RowField.docs, RowField.docs, docs_written fs, RowField.written,
      RowField.doc, RowField.doc, doc_written type]

end

/-- Under the default configuration, the text of a type without names of the user's tells the whole
type but for a scale without a precision and a unit without a length. -/
theorem render_eq_iff_written_eq {t u : DataType} (ht : t.isBuiltIn = true)
    (hu : u.isBuiltIn = true) {sql : String} (hrender : t.doc.render (.default abc) = .ok sql) :
    u.doc.render (.default abc) = .ok sql ↔ t.written = u.written := by
  rw [render_eq_ok_iff] at hrender
  constructor
  · intro hrender'
    rw [render_eq_ok_iff] at hrender'
    have htext : t.doc.chars abc ++ [] = u.doc.chars abc ++ [] := by
      rw [chars, chars, hrender.2, hrender'.2]
    have hlegible : t.Legible := ⟨ht, by rw [← failure?_doc, hrender.1]⟩
    have hlegible' : u.Legible := ⟨hu, by rw [← failure?_doc, hrender'.1]⟩
    exact (tells t u hlegible hlegible' [] [] .nil .nil htext).1
  · intro hwritten
    rw [render_eq_ok_iff, ← doc_written u, ← hwritten, doc_written]
    exact hrender

/-- The order of an array and a multiset is told, whatever the names around them spell. -/
theorem render_eq_iff_written_eq_nested :
    let collated : DataType := .character
      { kind := .char, length := some 3, unit := some .octets,
        charset := some { name := ⟨"COLLATE"⟩ }, collation := some ⟨{ name := ⟨"ARRAY"⟩ }⟩ }
    let number : RowField := { name := ⟨"DEC"⟩, type := .numeric (.numeric 5 2) }
    let inner : DataType :=
      .row [{ name := ⟨"ROW"⟩, type := .multiset (.array collated (some 2)) }, number]
    let outer : DataType :=
      .row [{ name := ⟨"ROW"⟩, type := .array (.multiset collated) (some 2) }, number]
    let sql :=
      "ROW (ROW CHAR(3 OCTETS) CHARACTER SET COLLATE COLLATE ARRAY ARRAY[2] MULTISET, " ++
        "DEC NUMERIC(5, 2))"
    inner.doc.render .default = .ok sql ∧ outer.doc.render .default ≠ .ok sql := by
  intro collated number inner outer sql
  have hrender : inner.doc.render .default = .ok sql := by decide
  refine ⟨hrender, fun hrender' => ?_⟩
  have hwritten := (render_eq_iff_written_eq rfl rfl hrender).mp hrender'
  simp [inner, outer, number, written, RowField.writtenAll, RowField.written] at hwritten

end DataType

end SqlTree
