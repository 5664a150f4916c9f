import SqlTree.DataType
import SqlTree.Proofs.Tells

/-! Types that are built from no others, read from their text. The first keyword says what kind of
type follows, and every kind says where it ends. -/
namespace SqlTree
open Doc

/-- A unit counts only with a length. -/
def CharacterType.written (t : CharacterType) : CharacterType :=
  { t with unit := t.length.bind fun _ => t.unit }

/-- A scale counts only with a precision. -/
def NumericType.written (t : NumericType) : NumericType :=
  { t with scale := t.precision.bind fun _ => t.scale }

/-- The keywords that types begin with. -/
inductive TypeHead where
  | character (k : CharacterKind)
  | binary (k : BinaryKind)
  | numeric (k : NumericKind)
  | integer (t : IntegerType)
  | boolean (t : BooleanType)
  | dateTime (k : DateTimeKind)
  | interval
  | row
  deriving DecidableEq

namespace TypeHead

instance : Spelled TypeHead where
  keyword
    | .character k => Spelled.keyword k
    | .binary k => Spelled.keyword k
    | .numeric k => Spelled.keyword k
    | .integer t => Spelled.keyword t
    | .boolean t => Spelled.keyword t
    | .dateTime k => Spelled.keyword k
    | .interval => "INTERVAL"
    | .row => "ROW"

/-- What may follow the first keyword of a type. -/
def starts : List String :=
  ["(", " A", " C", " D", " H", " M", " S", " W", " Y", " (", ",", ")"]

def all : List TypeHead :=
  [.character .character, .character .char, .character .characterVarying, .character .charVarying,
    .character .varChar, .character .characterLargeObject, .character .charLargeObject,
    .character .clob, .character .text, .character .nationalCharacter, .character .nationalChar,
    .character .nChar, .character .nationalCharacterVarying, .character .nationalCharVarying,
    .character .nCharVarying, .character .nationalCharacterLargeObject,
    .character .nCharLargeObject, .character .nClob,
    .binary .binary, .binary .binaryVarying, .binary .varBinary, .binary .binaryLargeObject,
    .binary .blob,
    .numeric .numeric, .numeric .decimal, .numeric .dec, .numeric .float, .numeric .real,
    .numeric .doublePrecision, .numeric .decFloat, .numeric .smallSerial, .numeric .serial,
    .numeric .bigSerial,
    .integer .tinyInt, .integer .smallInt, .integer .mediumInt, .integer .int, .integer .integer,
    .integer .bigInt, .boolean .boolean, .boolean .bit,
    .dateTime .date, .dateTime .smallDateTime, .dateTime .dateTime, .dateTime .dateTime2,
    .dateTime .year, .dateTime .time, .dateTime .timestamp, .interval, .row]

private theorem mem_all (h : TypeHead) : h ∈ all := by
  cases h with
  | character k => cases k <;> decide
  | binary k => cases k <;> decide
  | numeric k => cases k <;> decide
  | integer t => cases t <;> decide
  | boolean t => cases t <;> decide
  | dateTime k => cases k <;> decide
  | interval => decide
  | row => decide

/-- Some keywords begin with others, but what follows a type does not make one of the other. -/
theorem tells (h k : TypeHead) :
    Tells (Continues starts) (h = k) (Spelled.keyword h).toList (Spelled.keyword k).toList := by
  have hall : ∀ h ∈ all, ∀ k ∈ all, (Spelled.keyword h).toList <+: (Spelled.keyword k).toList →
      h = k ∨ ∀ s ∈ starts,
        Differ ((Spelled.keyword h).toList ++ s.toList) (Spelled.keyword k).toList := by
    decide +kernel
  exact Spelled.tells (by decide) (fun h k => hall h h.mem_all k k.mem_all) h k

end TypeHead

/-- What may follow a type that is not wrapped in others. -/
def typeEnds : List String := [" ARRAY[", " MULTISET", ",", ")"]

/-! Each kind of type is told by what it writes after its first keyword. -/

section Counted
variable {α : Type} {starts : List String} {r : List Char}

/-- A count in parentheses, with a further part that is written only with the count. -/
def counted (k : String) (f : α → List Char) (n : Option UInt64) (v : Option α) : List Char :=
  n.elim [] fun n =>
    "(".toList ++ (digits n ++ (v.elim [] (k.toList ++ f ·) ++ ")".toList))

/-- A count in parentheses and nothing else. -/
def measured (n : Option UInt64) : List Char :=
  counted ", " (fun _ : Unit => []) n none

@[simp] theorem chars_measure (abc : Alphabet) (n : Option UInt64) :
    (Doc.measure n).chars abc = measured n := by
  simp [Doc.measure, measured, counted]

private theorem continues_counted {k : String} {f : α → List Char} (h : Continues starts r)
    (n : Option UInt64) (v : Option α) : Continues ("(" :: starts) (counted k f n v ++ r) :=
  h.option n

private theorem detached_of_continues
    (hall : ∀ s ∈ starts, Begins (fun c => c.isDigit = false ∧ c ≠ '\x27') s.toList)
    (h : Continues starts r) : Detached r :=
  h.head hall

private theorem tells_count {F : List Char → Prop} {k : String} {f : α → List Char} (hk : k ≠ "")
    (hclose : Differ k.toList ")".toList)
    (hnext : Begins (fun c => c.isDigit = false ∧ c ≠ '\x27') k.toList)
    (hf : ∀ a b, Tells (Continues [")"]) (a = b) (f a) (f b)) (m n : UInt64) (v w : Option α) :
    Tells F (m = n ∧ v = w) (digits m ++ (v.elim [] (k.toList ++ f ·) ++ ")".toList))
      (digits n ++ (w.elim [] (k.toList ++ f ·) ++ ")".toList)) := by
  have hend : ∀ r, Continues [")"] (")".toList ++ r) := .append (by decide)
  have hpart : Tells F (v.map id = w.map id) (v.elim [] (k.toList ++ f ·) ++ ")".toList)
      (w.elim [] (k.toList ++ f ·) ++ ")".toList) :=
    (Tells.option hk (by simpa using hclose) hf).before _ fun r _ => hend r
  have hcount : ∀ (v : Option α) (r : List Char),
      Detached (v.elim [] (k.toList ++ f ·) ++ ")".toList ++ r) := by
    intro v r
    rw [List.append_assoc]
    refine detached_of_continues (fun s hs => ?_) ((hend r).option v)
    obtain rfl | hs := List.mem_cons.mp hs
    · exact hnext
    · obtain rfl := List.mem_singleton.mp hs
      decide
  refine ((tells_digits m n).append hpart (fun r _ => hcount v r) (fun r _ => hcount w r)).imp ?_
  simp

private theorem tells_counted {k : String} {f : α → List Char} (hk : k ≠ "")
    (hclose : Differ k.toList ")".toList)
    (hnext : Begins (fun c => c.isDigit = false ∧ c ≠ '\x27') k.toList)
    (hf : ∀ a b, Tells (Continues [")"]) (a = b) (f a) (f b))
    (hall : ∀ s ∈ starts, Differ "(".toList s.toList) (m n : Option UInt64) (v w : Option α) :
    Tells (Continues starts) (m = n ∧ (m.bind fun _ => v) = n.bind fun _ => w)
      (counted k f m v) (counted k f n w) := by
  have hboth : Tells (Continues starts) (m.map (·, v) = n.map (·, w)) (counted k f m v)
      (counted k f n w) :=
    .option (by decide) hall fun m n =>
      (tells_count hk hclose hnext hf m n v w).imp fun ⟨hmn, hvw⟩ => by rw [hmn, hvw]
  refine hboth.imp fun h => ?_
  cases m <;> cases n <;> simp_all

private theorem tells_measured
    (hall : ∀ s ∈ starts, Differ "(".toList s.toList) (m n : Option UInt64) :
    Tells (Continues starts) (m = n) (measured m) (measured n) := by
  have hunit : ∀ a b : Unit, Tells (Continues [")"]) (a = b) [] [] := fun _ _ _ _ _ _ h => ⟨rfl, h⟩
  have hcounted := tells_counted (k := ", ") (by decide) (by decide) (by decide) hunit hall m n
    none none
  exact hcounted.imp And.left

end Counted

/-- Whatever may follow a type ends the name before it. -/
private theorem QualifiedName.tells_before {starts : List String} (hall : ∀ s ∈ starts,
      Begins (fun c => (Ident.isSign c = true ∧ c ≠ '\x60') ∧ c ≠ '.') s.toList)
    (abc : Alphabet) (m n : QualifiedName) :
    Tells (Continues starts) (m = n) (m.doc.chars abc) (n.doc.chars abc) :=
  (tells abc m n).mono fun _ hr => Ident.path_over hall hr

namespace CharacterType
variable {abc : Alphabet}

def tail (abc : Alphabet) (t : CharacterType) : List Char :=
  counted " " (fun u => (Spelled.keyword u).toList) t.length t.unit
    ++ (t.charset.elim [] (" CHARACTER SET ".toList ++ ·.doc.chars abc)
      ++ t.collation.elim [] (" COLLATE ".toList ++ ·.name.doc.chars abc))

theorem chars_doc (t : CharacterType) :
    t.doc.chars abc = (Spelled.keyword t.kind).toList ++ t.tail abc := by
  simp [doc, tail, counted, after, clause, Collation.doc]

theorem tells_tail {t u : CharacterType} (hkind : t.kind = u.kind) :
    Tells (Continues typeEnds) (t.written = u.written) (t.tail abc) (u.tail abc) := by
  have hunit : ∀ a b : LengthUnit, Tells (Continues [")"]) (a = b) (Spelled.keyword a).toList
      (Spelled.keyword b).toList :=
    Spelled.tells (by decide) (by intro a b; cases a <;> cases b <;> decide)
  have hlength : Tells (Continues (" CHARACTER SET " :: " COLLATE " :: typeEnds)) _ _ _ :=
    tells_counted (k := " ") (by decide) (by decide) (by decide) hunit (by decide) t.length
      u.length t.unit u.unit
  have hcharset : Tells (Continues (" COLLATE " :: typeEnds))
      (t.charset.map id = u.charset.map id) _ _ :=
    .option (k := " CHARACTER SET ") (by decide) (by decide)
      (QualifiedName.tells_before (by decide) abc)
  have hcollation : Tells (Continues typeEnds)
      (t.collation.map (·.name) = u.collation.map (·.name)) _ _ :=
    .option (k := " COLLATE ") (by decide) (by decide) fun a b =>
      QualifiedName.tells_before (by decide) abc a.name b.name
  have hrest := hcharset.append hcollation (fun r hr => hr.option _) (fun r hr => hr.option _)
  refine (hlength.append hrest ?_ ?_).imp ?_
  · intro r hr
    rw [List.append_assoc]
    exact (hr.option _).option _
  · intro r hr
    rw [List.append_assoc]
    exact (hr.option _).option _
  · rintro ⟨⟨hlen, hunits⟩, hset, hcol⟩
    have hname : Function.Injective Collation.name := fun a b hab => by
      cases a; cases b; exact congrArg Collation.mk hab
    rw [Option.map_id_fun, id, id] at hset
    have hcol : t.collation = u.collation := Option.map_injective hname hcol
    simp only [written, hkind, hlen, hset, hcol, CharacterType.mk.injEq, true_and, and_true]
    rw [← hunits, hlen]

theorem continues_tail (t : CharacterType) {r : List Char} (hr : Continues typeEnds r) :
    Continues TypeHead.starts (t.tail abc ++ r) := by
  rw [tail, List.append_assoc, List.append_assoc]
  exact (continues_counted ((hr.option _).option _) _ _).mono (by decide)

end CharacterType

theorem continues_measured (n : Option UInt64) {r : List Char} (hr : Continues typeEnds r) :
    Continues TypeHead.starts (measured n ++ r) :=
  (continues_counted hr n none).mono (by decide)

theorem BinaryType.chars_doc (abc : Alphabet) (t : BinaryType) :
    t.doc.chars abc = (Spelled.keyword t.kind).toList ++ measured t.length := by
  simp [doc]

theorem BinaryType.tells_tail {t u : BinaryType} (hkind : t.kind = u.kind) :
    Tells (Continues typeEnds) (t = u) (measured t.length) (measured u.length) := by
  refine (tells_measured (by decide) t.length u.length).imp fun hlength => ?_
  cases t
  cases u
  simp_all

namespace NumericType

def tail (t : NumericType) : List Char :=
  counted ", " digits t.precision t.scale

theorem chars_doc (abc : Alphabet) (t : NumericType) :
    t.doc.chars abc = (Spelled.keyword t.kind).toList ++ t.tail := by
  simp [doc, tail, counted]

theorem tells_tail {t u : NumericType} (hkind : t.kind = u.kind) :
    Tells (Continues typeEnds) (t.written = u.written) t.tail u.tail := by
  have hscale : ∀ m n : UInt64, Tells (Continues [")"]) (m = n) (digits m) (digits n) :=
    fun m n => (tells_digits m n).mono fun r => detached_of_continues (by decide)
  have hcounted : Tells (Continues typeEnds) _ _ _ :=
    tells_counted (k := ", ") (by decide) (by decide) (by decide) hscale (by decide) t.precision
      u.precision t.scale u.scale
  refine hcounted.imp fun ⟨hprecision, hscales⟩ => ?_
  simp only [written, hkind, hprecision, NumericType.mk.injEq, true_and]
  rw [← hscales, hprecision]

theorem continues_tail (t : NumericType) {r : List Char} (hr : Continues typeEnds r) :
    Continues TypeHead.starts (t.tail ++ r) :=
  (continues_counted hr _ _).mono (by decide)

end NumericType

namespace DateTimeType

def tail (t : DateTimeType) : List Char :=
  measured t.precision ++ t.timeZone.elim [] fun zoned =>
    " WITH".toList ++ (if zoned then " TIME ZONE" else "OUT TIME ZONE").toList

theorem chars_doc (abc : Alphabet) (t : DateTimeType) :
    t.doc.chars abc = (Spelled.keyword t.kind).toList ++ t.tail := by
  obtain ⟨kind, precision, _ | _ | _⟩ := t <;> simp [doc, tail, after]

theorem tells_tail {t u : DateTimeType} (hkind : t.kind = u.kind) :
    Tells (Continues typeEnds) (t = u) t.tail u.tail := by
  have hzoned : ∀ a b : Bool, Tells (Continues typeEnds) (a = b)
      (if a then " TIME ZONE" else "OUT TIME ZONE").toList
      (if b then " TIME ZONE" else "OUT TIME ZONE").toList := by
    intro a b r s _ _ h
    cases a <;> cases b <;> simp_all
  have hzone : Tells (Continues typeEnds) (t.timeZone.map id = u.timeZone.map id) _ _ :=
    .option (k := " WITH") (by decide) (by decide) hzoned
  have hprecision : Tells (Continues (" WITH" :: typeEnds)) _ _ _ :=
    tells_measured (by decide) t.precision u.precision
  refine (hprecision.append hzone (fun r hr => hr.option _) (fun r hr => hr.option _)).imp ?_
  rintro ⟨hprecision, hzone⟩
  cases t
  cases u
  simp_all

theorem continues_tail (t : DateTimeType) {r : List Char} (hr : Continues typeEnds r) :
    Continues TypeHead.starts (t.tail ++ r) := by
  rw [tail, List.append_assoc]
  exact (continues_counted (hr.option _) _ _).mono (by decide)

end DateTimeType

namespace DateTimeField

def chars (f : DateTimeField) : List Char :=
  (Spelled.keyword f.kind).toList ++ measured f.precision

@[simp] theorem chars_doc (abc : Alphabet) (f : DateTimeField) : f.doc.chars abc = f.chars := by
  simp [doc, chars]

theorem tells (f g : DateTimeField) :
    Tells (Continues (" TO " :: typeEnds)) (f = g) f.chars g.chars := by
  have hkind : Tells (Continues ("(" :: " TO " :: typeEnds)) (f.kind = g.kind)
      (Spelled.keyword f.kind).toList (Spelled.keyword g.kind).toList :=
    Spelled.tells (by decide) (by intro a b; cases a <;> cases b <;> decide) _ _
  have hprecision : Tells (Continues (" TO " :: typeEnds)) _ _ _ :=
    tells_measured (by decide) f.precision g.precision
  have hall := hkind.append hprecision
    (fun r hr => continues_counted hr _ _) (fun r hr => continues_counted hr _ _)
  refine hall.imp ?_
  rintro ⟨hkind, hprecision⟩
  cases f
  cases g
  simp_all

end DateTimeField

namespace IntervalType

def tail (t : IntervalType) : List Char :=
  " ".toList ++ (t.start.chars ++ t.stop.elim [] (" TO ".toList ++ ·.chars))

theorem chars_doc (abc : Alphabet) (t : IntervalType) :
    t.doc.chars abc = "INTERVAL".toList ++ t.tail := by
  simp [doc, tail, clause, after]

theorem tells_tail (t u : IntervalType) :
    Tells (Continues typeEnds) (t = u) t.tail u.tail := by
  have hends : ∀ r, Continues typeEnds r → Continues (" TO " :: typeEnds) r :=
    fun r hr => hr.mono (by decide)
  have hstop : Tells (Continues typeEnds) (t.stop.map id = u.stop.map id) _ _ :=
    .option (k := " TO ") (by decide) (by decide) fun f g =>
      (DateTimeField.tells f g).mono hends
  have hall := (DateTimeField.tells t.start u.start).append hstop (fun r hr => hr.option _)
    (fun r hr => hr.option _)
  refine (hall.behind _).imp ?_
  rintro ⟨hstart, hstop⟩
  cases t
  cases u
  simp_all

theorem continues_tail (t : IntervalType) {r : List Char} :
    Continues TypeHead.starts (t.tail ++ r) := by
  have hfield : ∀ k : FieldKind, ∃ s ∈ TypeHead.starts,
      s.toList <+: " ".toList ++ (Spelled.keyword k).toList := by
    intro k
    cases k <;> decide
  obtain ⟨s, hs, hpre⟩ := hfield t.start.kind
  refine .inr ⟨s, hs, hpre.trans ?_⟩
  simp [tail, DateTimeField.chars]

end IntervalType

end SqlTree
