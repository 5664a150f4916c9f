import SqlTree.Proofs.Failure
import SqlTree.Proofs.Tells
import SqlTree.Query.TableRef

/-! Joins read from their text. A qualified join says where its right operand ends. The others do
not, so a join on their right is read as one on their left. -/
namespace SqlTree
open Doc

/-- What joins two tables. -/
inductive Link where
  | cross
  | natural (kind : JoinKind)
  | qualified (kind : JoinKind) (spec : JoinSpec)

namespace Link

/-- Nothing is written behind the right operand. -/
def isOpen : Link → Bool
  | qualified .. => false
  | _ => true

def opening : Link → Doc
  | cross => space ++ text "CROSS JOIN" ++ space
  | natural kind => space ++ text "NATURAL" ++ space ++ kind.joinDoc ++ space
  | qualified kind _ => space ++ kind.joinDoc ++ space

def closing : Link → Doc
  | qualified _ spec => space ++ spec.doc
  | _ => []

/-- A qualified join lists its columns. -/
def IsPlain : Link → Prop
  | qualified _ (.using columns) => columns ≠ []
  | qualified _ (.on _) => False
  | _ => True

/-- The keywords of a join and the spaces around them. -/
inductive Word where
  | cross
  | natural (kind : JoinKind)
  | qualified (kind : JoinKind)
  deriving DecidableEq

def Word.text : Word → String
  | cross => " CROSS JOIN "
  | natural .inner => " NATURAL JOIN "
  | natural .left => " NATURAL LEFT JOIN "
  | natural .right => " NATURAL RIGHT JOIN "
  | natural .full => " NATURAL FULL JOIN "
  | qualified .inner => " JOIN "
  | qualified .left => " LEFT JOIN "
  | qualified .right => " RIGHT JOIN "
  | qualified .full => " FULL JOIN "

def word : Link → Word
  | cross => .cross
  | natural kind => .natural kind
  | qualified kind _ => .qualified kind

private theorem chars_opening (abc : Alphabet) (k : Link) :
    k.opening.chars abc = k.word.text.toList := by
  have hkind : ∀ kind : JoinKind, kind.joinDoc.chars abc =
      (kind.keyword?.elim [] fun s => s.toList ++ [' ']) ++ "JOIN".toList := by
    simp [JoinKind.joinDoc]
  cases k with
  | cross => simp [opening, word, Word.text]
  | natural kind => cases kind <;> simp [opening, word, Word.text, hkind, JoinKind.keyword?]
  | qualified kind => cases kind <;> simp [opening, word, Word.text, hkind, JoinKind.keyword?]

private theorem Word.eq_of_isPrefix : ∀ v w : Word, v.text.toList <+: w.text.toList → v = w := by
  rintro (_ | ⟨⟨⟩⟩ | ⟨⟨⟩⟩) (_ | ⟨⟨⟩⟩ | ⟨⟨⟩⟩) <;> decide

private theorem Word.space_isPrefix (w : Word) : " ".toList <+: w.text.toList := by
  rcases w with _ | ⟨⟨⟩⟩ | ⟨⟨⟩⟩ <;> decide

/-- What may follow joined tables. -/
def ends : List String := [" USING (", ")"]

private theorem Word.not_continues (w : Word) : ∀ r, ¬ Continues ends (w.text.toList ++ r) := by
  have hne : w.text ≠ "" := by
    rcases w with _ | ⟨⟨⟩⟩ | ⟨⟨⟩⟩ <;> decide
  have hdiffer : ∀ s ∈ ends, Differ w.text.toList s.toList := by
    rcases w with _ | ⟨⟨⟩⟩ | ⟨⟨⟩⟩ <;> decide
  exact Continues.not_append hne hdiffer

private theorem closing_of_isOpen {k : Link} (h : k.isOpen = true) : k.closing = [] := by
  cases k with
  | cross | natural => rfl
  | qualified => cases h

private theorem eq_of_word_eq {k k' : Link} (h : k.isOpen = true) (hword : k.word = k'.word) :
    k = k' := by
  cases k <;> cases k' <;> simp_all [word, isOpen]

private theorem exists_using_of_word {k : Link} {kind : JoinKind} (h : k.IsPlain)
    (hword : k.word = .qualified kind) : ∃ cs, cs ≠ [] ∧ k = .qualified kind (.using cs) := by
  cases k with
  | cross | natural => cases hword
  | qualified kind spec =>
    cases hword
    cases spec with
    | on condition => exact h.elim
    | «using» cs => exact ⟨cs, h, rfl⟩

private theorem exists_word_of_not_isOpen {k : Link} (h : k.isOpen = false) :
    ∃ kind, k.word = .qualified kind := by
  cases k with
  | cross | natural => cases h
  | qualified kind spec => exact ⟨kind, rfl⟩

private theorem chars_closing_using (abc : Alphabet) (kind : JoinKind) (cs : List Ident) :
    (qualified kind (.using cs)).closing.chars abc =
      " USING (".toList ++ (chars abc (list (cs.map ident)) ++ ")".toList) := by
  simp [closing, JoinSpec.doc]

private theorem continues_closing_using (abc : Alphabet) (kind : JoinKind) (cs : List Ident)
    (r : List Char) :
    Continues ends ((qualified kind (.using cs)).closing.chars abc ++ r) := by
  rw [chars_closing_using, List.append_assoc]
  exact .append (by decide) _

private theorem tells_closing_using {F : List Char → Prop} (abc : Alphabet) (kind : JoinKind)
    {cs ds : List Ident} (hcs : cs ≠ []) (hds : ds ≠ []) :
    Tells F (cs = ds) ((qualified kind (.using cs)).closing.chars abc)
      ((qualified kind (.using ds)).closing.chars abc) := by
  have hcolumn : ∀ c ∈ cs, ∀ d ∈ ds,
      Tells (Continues [", ", ")"]) (id c = id d) (chars abc (ident c)) (chars abc (ident d)) :=
    fun c _ d _ => (tells_ident c d).mono fun r hr => Ident.over_of_continues (by decide) hr
  have hclose : ∀ r : List Char, Continues [")"] (")".toList ++ r) := .append (by decide)
  have hlist := (tells_list hcs hds hcolumn).before ")".toList (F := F) fun r _ => hclose r
  rw [chars_closing_using, chars_closing_using]
  refine (hlist.behind _).imp fun h => ?_
  rwa [List.map_id, List.map_id] at h

end Link

namespace TableRef

def join (left : TableRef) (k : Link) (right : TableRef) : TableRef :=
  match k with
  | .cross => .cross left right
  | .natural kind => .natural left kind right
  | .qualified kind spec => .qualified left kind right spec

/-- A join without parentheses around it. -/
def isJoin : TableRef → Bool
  | .cross .. => true
  | .natural .. => true
  | .qualified .. => true
  | _ => false

/-- Tables that go by an unqualified name, with joins and parentheses. -/
inductive IsPlain : TableRef → Prop
  | table (i : Ident) : IsPlain (.ofName (.qualified { name := i }))
  | nest {t : TableRef} : IsPlain t → IsPlain t.nest
  | join {l : TableRef} {k : Link} {r : TableRef} :
    IsPlain l → k.IsPlain → IsPlain r → IsPlain (l.join k r)

/-- No cross or natural join has a bare join on its right. -/
def isWrapped : TableRef → Bool
  | .cross l r => l.isWrapped && r.isWrapped && !r.isJoin
  | .natural l _ r => l.isWrapped && r.isWrapped && !r.isJoin
  | .qualified l _ r _ => l.isWrapped && r.isWrapped
  | .nested t _ => t.isWrapped
  | _ => true

/-- A bare join on the right of an open one is moved to its left, somewhere in the tree. -/
inductive Rotates : TableRef → TableRef → Prop
  | here {l a b : TableRef} {k k' : Link} : k.isOpen = true →
    Rotates (l.join k (a.join k' b)) ((l.join k a).join k' b)
  | left {l l' r : TableRef} {k : Link} : Rotates l l' → Rotates (l.join k r) (l'.join k r)
  | right {l r r' : TableRef} {k : Link} : Rotates r r' → Rotates (l.join k r) (l.join k r')
  | nested {t u : TableRef} {label : Option Alias} :
    Rotates t u → Rotates (.nested t label) (.nested u label)

section
variable {l l' r r' t u : TableRef} {k k' : Link}

@[simp] theorem isJoin_join : (l.join k r).isJoin = true := by cases k <;> rfl

private theorem exists_join_of_isJoin (h : t.isJoin = true) :
    ∃ (l : TableRef) (k : Link) (r : TableRef), t = l.join k r := by
  cases t with
  | cross l r => exact ⟨l, .cross, r, rfl⟩
  | natural l kind r => exact ⟨l, .natural kind, r, rfl⟩
  | qualified l kind r spec => exact ⟨l, .qualified kind spec, r, rfl⟩
  | table | derived | nested => cases h

private theorem join_inj (h : l.join k r = l'.join k' r') : l = l' ∧ k = k' ∧ r = r' := by
  cases k <;> cases k' <;> simp_all [join]

private theorem join_ne_left : l.join k r ≠ l := by
  intro h
  have hsize := congrArg sizeOf h
  cases k <;> simp [join] at hsize <;> omega

private theorem isWrapped_join :
    (l.join k r).isWrapped = (l.isWrapped && r.isWrapped && (!k.isOpen || !r.isJoin)) := by
  cases k <;> simp [join, isWrapped, Link.isOpen]

private theorem doc_join : (l.join k r).doc = l.doc ++ (k.opening ++ (r.doc ++ k.closing)) := by
  cases k <;> simp [join, doc, Link.opening, Link.closing]

private theorem isPlain_join_iff : (l.join k r).IsPlain ↔ l.IsPlain ∧ k.IsPlain ∧ r.IsPlain := by
  constructor
  · intro h
    generalize ht : l.join k r = t at h
    cases h with
    | table i => cases k <;> simp [join, ofName] at ht
    | nest h => cases k <;> simp [join, TableRef.nest] at ht
    | join hl hk hr =>
      obtain ⟨rfl, rfl, rfl⟩ := join_inj ht
      exact ⟨hl, hk, hr⟩
  · rintro ⟨hl, hk, hr⟩
    exact .join hl hk hr

private theorem isPlain_nested_iff {label : Option Alias} :
    (nested t label).IsPlain ↔ t.IsPlain ∧ label = none := by
  constructor
  · intro h
    generalize hu : nested t label = u at h
    cases h with
    | table i => simp [ofName] at hu
    | nest h =>
      obtain ⟨rfl, rfl⟩ := nested.inj hu
      exact ⟨h, rfl⟩
    | @join _ k => cases k <;> simp [join] at hu
  · rintro ⟨h, rfl⟩
    exact h.nest

namespace Rotates

private theorem doc_eq (h : Rotates t u) : u.doc = t.doc := by
  induction h with
  | here hk => simp [doc_join, Link.closing_of_isOpen hk]
  | left _ ih => simp only [doc_join, ih]
  | right _ ih => simp only [doc_join, ih]
  | nested _ ih => simp only [doc, ih]

private theorem ne (h : Rotates t u) : u ≠ t := by
  induction h with
  | here => exact fun he => join_ne_left (join_inj he).1
  | left _ ih => exact fun he => ih (join_inj he).1
  | right _ ih => exact fun he => ih (join_inj he).2.2
  | nested _ ih => exact fun he => ih (nested.inj he).1

private theorem isPlain (h : Rotates t u) (ht : t.IsPlain) : u.IsPlain := by
  induction h with
  | here =>
    obtain ⟨hl, hk, hr⟩ := isPlain_join_iff.mp ht
    obtain ⟨ha, hk', hb⟩ := isPlain_join_iff.mp hr
    exact .join (.join hl hk ha) hk' hb
  | left _ ih =>
    obtain ⟨hl, hk, hr⟩ := isPlain_join_iff.mp ht
    exact .join (ih hl) hk hr
  | right _ ih =>
    obtain ⟨hl, hk, hr⟩ := isPlain_join_iff.mp ht
    exact .join hl hk (ih hr)
  | nested _ ih =>
    obtain ⟨hinner, rfl⟩ := isPlain_nested_iff.mp ht
    exact (ih hinner).nest

private theorem isWrapped_eq_false (h : Rotates t u) : t.isWrapped = false := by
  induction h with
  | here hk => simp [isWrapped_join, hk]
  | left _ ih => simp [isWrapped_join, ih]
  | right _ ih => simp [isWrapped_join, ih]
  | nested _ ih => exact ih

end Rotates

private theorem exists_rotates (ht : t.IsPlain) (h : t.isWrapped = false) : ∃ u, Rotates t u := by
  induction ht with
  | table i => cases h
  | nest _ ih =>
    obtain ⟨u, hu⟩ := ih h
    exact ⟨_, hu.nested⟩
  | @join l k r _ _ _ ihl ihr =>
    rw [isWrapped_join] at h
    cases hl : l.isWrapped with
    | false =>
      obtain ⟨l', hl'⟩ := ihl hl
      exact ⟨_, hl'.left⟩
    | true =>
      cases hr : r.isWrapped with
      | false =>
        obtain ⟨r', hr'⟩ := ihr hr
        exact ⟨_, hr'.right⟩
      | true =>
        have hhere : k.isOpen = true ∧ r.isJoin = true := by simpa [hl, hr] using h
        obtain ⟨a, k', b, rfl⟩ := exists_join_of_isJoin hhere.2
        exact ⟨_, .here hhere.1⟩

/-- What stands before the first bare join. -/
def operand : TableRef → TableRef
  | .cross l _ => l.operand
  | .natural l _ _ => l.operand
  | .qualified l _ _ _ => l.operand
  | t => t

/-- The joins behind the operand, each with what it joins. -/
def joins : TableRef → List (Link × TableRef)
  | .cross l r => l.joins ++ [(.cross, r)]
  | .natural l kind r => l.joins ++ [(.natural kind, r)]
  | .qualified l kind r spec => l.joins ++ [(.qualified kind spec, r)]
  | _ => []

def joinDoc (j : Link × TableRef) : Doc :=
  j.1.opening ++ (j.2.doc ++ j.1.closing)

private theorem operand_join : (l.join k r).operand = l.operand := by cases k <;> rfl

private theorem joins_join : (l.join k r).joins = l.joins ++ [(k, r)] := by cases k <;> rfl

private theorem parts_of_not_isJoin (h : t.isJoin = false) : t.operand = t ∧ t.joins = [] := by
  cases t with
  | table | derived | nested => exact ⟨rfl, rfl⟩
  | cross | natural | qualified => cases h

/-- Along the left sides, down to the operand. -/
@[elab_as_elim]
theorem left_induction {P : TableRef → Prop} (operand : ∀ t : TableRef, t.isJoin = false → P t)
    (join : ∀ (l : TableRef) (k : Link) (r : TableRef), P l → P (l.join k r)) :
    ∀ t : TableRef, P t
  | .cross l r => join l .cross r (left_induction operand join l)
  | .natural l kind r => join l (.natural kind) r (left_induction operand join l)
  | .qualified l kind r spec => join l (.qualified kind spec) r (left_induction operand join l)
  | .table _ | .derived _ _ | .nested _ _ => operand _ rfl

private theorem doc_eq_parts (t : TableRef) : t.doc = t.operand.doc ++ t.joins.flatMap joinDoc := by
  induction t using left_induction with
  | operand t h =>
    obtain ⟨hoperand, hjoins⟩ := parts_of_not_isJoin h
    simp [hoperand, hjoins]
  | join l k r ih => simp [doc_join, operand_join, joins_join, ih, joinDoc]

private theorem eq_foldl_parts (t : TableRef) :
    t = t.joins.foldl (fun t j => t.join j.1 j.2) t.operand := by
  induction t using left_induction with
  | operand t h =>
    obtain ⟨hoperand, hjoins⟩ := parts_of_not_isJoin h
    simp [hoperand, hjoins]
  | join l k r ih => simp [operand_join, joins_join, ← ih]

private theorem parts_inj (hoperand : t.operand = u.operand) (hjoins : t.joins = u.joins) :
    t = u := by
  rw [eq_foldl_parts t, eq_foldl_parts u, hoperand, hjoins]

/-- What may follow an operand. -/
def operandEnds : List String := [" ", ")"]

/-- A join with nothing bare on its right that its text would not tell. -/
def IsTold (j : Link × TableRef) : Prop :=
  j.1.IsPlain ∧ j.2.IsPlain ∧ j.2.isWrapped = true ∧ (j.1.isOpen = true → j.2.isJoin = false)

private theorem isWrapped_join_iff : (l.join k r).isWrapped = true ↔
    l.isWrapped = true ∧ r.isWrapped = true ∧ (k.isOpen = true → r.isJoin = false) := by
  rw [isWrapped_join]
  cases k.isOpen <;> cases r.isJoin <;> simp

private theorem IsPlain.parts (ht : t.IsPlain) (hw : t.isWrapped = true) :
    (t.operand.IsPlain ∧ t.operand.isWrapped = true ∧ t.operand.isJoin = false) ∧
      ∀ j ∈ t.joins, IsTold j := by
  induction ht with
  | table i => exact ⟨⟨.table i, rfl, rfl⟩, by simp [ofName, joins]⟩
  | nest h => exact ⟨⟨h.nest, hw, rfl⟩, by simp [TableRef.nest, joins]⟩
  | join hl hk hr ihl ihr =>
    obtain ⟨hwl, hwr, hopen⟩ := isWrapped_join_iff.mp hw
    obtain ⟨hoperand, hjoins⟩ := ihl hwl
    rw [operand_join, joins_join]
    refine ⟨hoperand, List.forall_mem_append.mpr ⟨hjoins, ?_⟩⟩
    exact List.forall_mem_singleton.mpr ⟨hk, hr, hwr, hopen⟩

/-- The operand and the joins of a tree are told from all others. -/
structure Reads (abc : Alphabet) (t : TableRef) : Prop where
  operand : ∀ u : TableRef, u.IsPlain → u.isWrapped = true → u.isJoin = false →
    Tells (Continues operandEnds) (t.operand = u) (t.operand.doc.chars abc) (u.doc.chars abc)
  joins : ∀ j ∈ t.joins, ∀ j', IsTold j' →
    Tells (Continues operandEnds) (j = j') ((joinDoc j).chars abc) ((joinDoc j').chars abc)

private theorem chars_joinDoc (j : Link × TableRef) : (joinDoc j).chars abc =
    j.1.word.text.toList ++ (j.2.doc.chars abc ++ j.1.closing.chars abc) := by
  simp [joinDoc, Link.chars_opening]

theorem Reads.tells (h : Reads abc t) (hu : u.IsPlain) (hw : u.isWrapped = true) :
    Tells (Continues Link.ends) (t = u) (t.doc.chars abc) (u.doc.chars abc) := by
  obtain ⟨⟨hplain, hwrapped, hjoin⟩, htold⟩ := hu.parts hw
  have hnot : ∀ (j : Link × TableRef) (r : List Char),
      ¬ Continues Link.ends ((joinDoc j).chars abc ++ r) := by
    intro j r
    rw [chars_joinDoc, List.append_assoc]
    exact j.1.word.not_continues _
  have hnext : ∀ (j : Link × TableRef) (r : List Char),
      Continues operandEnds ((joinDoc j).chars abc ++ r) := by
    intro j r
    rw [chars_joinDoc, List.append_assoc]
    exact .inr ⟨" ", by decide, j.1.word.space_isPrefix.trans (List.prefix_append _ _)⟩
  have hend : ∀ r, Continues Link.ends r → Continues operandEnds r :=
    fun r hr => hr.mono (by decide)
  have hjoins : Tells (Continues Link.ends) (t.joins.map id = u.joins.map id) _ _ :=
    .flatMap (fun j hj j' hj' => h.joins j hj j' (htold j' hj')) hnot hnext hend
  have hrest := Tells.follows_flatMap hnext hend
  rw [doc_eq_parts t, doc_eq_parts u, chars_append, chars_append, chars_flatMap, chars_flatMap]
  refine ((h.operand _ hplain hwrapped hjoin).append hjoins (hrest _) (hrest _)).imp ?_
  rintro ⟨hoperand, hjoins⟩
  exact parts_inj hoperand (by simpa using hjoins)

private theorem doc_table (i : Ident) : (ofName (.qualified { name := i })).doc = ident i := by
  simp [ofName, doc, NamedTable.doc, TableName.doc, QualifiedName.doc, Doc.optional, Doc.after]

private theorem chars_nest (t : TableRef) :
    t.nest.doc.chars abc = "(".toList ++ (t.doc.chars abc ++ ")".toList) := by
  simp [nest, doc, after]

/-- No name begins like a tree in parentheses. -/
private theorem table_ne_nest (i : Ident) (t : TableRef) (r s : List Char) :
    chars abc (ident i) ++ r ≠ t.nest.doc.chars abc ++ s := by
  obtain ⟨c, cs, hcs, hc⟩ := i.exists_escape_eq_cons '\x60' abc
  rw [chars_ident, hcs, chars_nest]
  intro h
  exact hc '(' (by decide) (by decide) (List.cons.inj h).1

private theorem reads_of_not_isJoin (h : t.isJoin = false)
    (htells : ∀ u : TableRef, u.IsPlain → u.isWrapped = true → u.isJoin = false →
      Tells (Continues operandEnds) (t = u) (t.doc.chars abc) (u.doc.chars abc)) : Reads abc t := by
  obtain ⟨hoperand, hjoins⟩ := parts_of_not_isJoin h
  exact ⟨by rwa [hoperand], by simp [hjoins]⟩

private theorem reads_table (i : Ident) : Reads abc (ofName (.qualified { name := i })) := by
  refine reads_of_not_isJoin rfl fun u hu _ hjoin => ?_
  cases hu with
  | table j =>
    rw [doc_table, doc_table]
    have hij : Tells (Continues operandEnds) (i = j) (chars abc (ident i)) (chars abc (ident j)) :=
      (tells_ident i j).mono fun r hr => Ident.over_of_continues (by decide) hr
    exact hij.imp fun h => by rw [h]
  | nest =>
    intro r s _ _ he
    rw [doc_table] at he
    exact absurd he (table_ne_nest i _ r s)
  | join => simp at hjoin

private theorem reads_nest (h : Reads abc t) : Reads abc t.nest := by
  refine reads_of_not_isJoin rfl fun u hu hw hjoin => ?_
  cases hu with
  | table i =>
    intro r s _ _ he
    rw [doc_table] at he
    exact absurd he.symm (table_ne_nest i t s r)
  | nest hu =>
    have hclose : ∀ r : List Char, Continues Link.ends (")".toList ++ r) := .append (by decide)
    rw [chars_nest, chars_nest]
    exact (((h.tells hu hw).before _ fun r _ => hclose r).behind _).imp (congrArg TableRef.nest)
  | join => simp at hjoin

/-- Two joins with the same keywords are told by what follows those. -/
private theorem tells_right (hr : Reads abc r) (hk : k.IsPlain)
    (hopen : k.isOpen = true → r.isJoin = false)
    {j : Link × TableRef} (hj : IsTold j) (hword : k.word = j.1.word) :
    Tells (Continues operandEnds) ((k, r) = j) (r.doc.chars abc ++ k.closing.chars abc)
      (j.2.doc.chars abc ++ j.1.closing.chars abc) := by
  obtain ⟨k', r'⟩ := j
  obtain ⟨hk', hplain, hwrapped, hopen'⟩ := hj
  cases hk_open : k.isOpen with
  | true =>
    -- nothing is bare on the right, so the right operand is its own operand
    obtain rfl := Link.eq_of_word_eq hk_open hword
    have hright := hr.operand r' hplain hwrapped (hopen' hk_open)
    rw [(parts_of_not_isJoin (hopen hk_open)).1] at hright
    rw [Link.closing_of_isOpen hk_open]
    simpa [chars] using hright
  | false =>
    obtain ⟨kind, hkind⟩ := Link.exists_word_of_not_isOpen hk_open
    obtain ⟨cs, hcs, rfl⟩ := Link.exists_using_of_word hk hkind
    obtain ⟨cs', hcs', rfl⟩ := Link.exists_using_of_word hk' (hword.symm.trans hkind)
    -- the right operand is over where its own list of columns begins
    refine ((hr.tells hplain hwrapped).append (Link.tells_closing_using abc kind hcs hcs')
      (fun s _ => Link.continues_closing_using abc kind cs s)
      (fun s _ => Link.continues_closing_using abc kind cs' s)).imp ?_
    rintro ⟨rfl, rfl⟩
    rfl

private theorem reads_join (hl : Reads abc l) (hr : Reads abc r) (hk : k.IsPlain)
    (hopen : k.isOpen = true → r.isJoin = false) : Reads abc (l.join k r) := by
  have hlast : ∀ j, IsTold j →
      Tells (Continues operandEnds) ((k, r) = j) ((joinDoc (k, r)).chars abc)
        ((joinDoc j).chars abc) := by
    intro j hj s s' hs hs' he
    rw [chars_joinDoc, chars_joinDoc] at he
    have hwords : Tells (fun _ => True) (k.word = j.1.word) _ _ :=
      .of_isPrefix Link.Word.eq_of_isPrefix k.word j.1.word
    obtain ⟨hword, he⟩ := hwords _ _ trivial trivial (by simpa using he)
    exact tells_right hr hk hopen hj hword s s' hs hs' (by simpa using he)
  constructor
  · rw [operand_join]
    exact hl.operand
  · rw [joins_join]
    exact List.forall_mem_append.mpr ⟨hl.joins, List.forall_mem_singleton.mpr hlast⟩

theorem IsPlain.reads (ht : t.IsPlain) (hw : t.isWrapped = true) : Reads abc t := by
  induction ht with
  | table i => exact reads_table i
  | nest _ ih => exact reads_nest (ih hw)
  | join _ hk _ ihl ihr =>
    obtain ⟨hwl, hwr, hopen⟩ := isWrapped_join_iff.mp hw
    exact reads_join (ihl hwl) (ihr hwr) hk hopen

theorem IsPlain.failure?_doc (ht : t.IsPlain) : t.doc.failure? = none := by
  induction ht with
  | table i => simp [doc_table]
  | nest _ ih => simpa [TableRef.nest, doc] using ih
  | @join l k r _ hk _ ihl ihr =>
    have hopening : k.opening.failure? = none := by
      cases k <;> simp [Link.opening, JoinKind.joinDoc]
    have hclosing : k.closing.failure? = none := by
      cases hk_open : k.isOpen with
      | true => rw [Link.closing_of_isOpen hk_open, failure?_nil]
      | false =>
        obtain ⟨kind, hkind⟩ := Link.exists_word_of_not_isOpen hk_open
        obtain ⟨cs, hcs, rfl⟩ := Link.exists_using_of_word hk hkind
        simp [Link.closing, JoinSpec.failure?_doc, JoinSpec.defect?, absent?, hcs]
    simp [doc_join, ihl, ihr, hopening, hclosing]

/-- Under the default configuration the text of plain joins tells their tree unless a cross or
natural join has a bare join on its right, and there a tree with that join moved to the left has
the same text. -/
theorem render_keeps_shape (abc : Alphabet) :
    (∀ t : TableRef, t.IsPlain → ∃ sql, t.doc.render (.default abc) = .ok sql) ∧
    (∀ t u : TableRef, t.IsPlain → u.IsPlain → t.isWrapped = true → u.isWrapped = true →
      t.doc.render (.default abc) = u.doc.render (.default abc) → t = u) ∧
    (∀ t : TableRef, t.IsPlain → (t.isWrapped = false ↔ ∃ u, Rotates t u)) ∧
    ∀ t u : TableRef, t.IsPlain → Rotates t u →
      u ≠ t ∧ u.IsPlain ∧ ∀ c, u.doc.render c = t.doc.render c := by
  refine ⟨fun t ht => exists_render_eq_ok_iff.mpr ht.failure?_doc, ?_, ?_, ?_⟩
  · intro t u ht hu hwt hwu he
    obtain ⟨sql, hsql⟩ := exists_render_eq_ok_iff (c := .default abc).mpr ht.failure?_doc
    have htext : t.doc.chars abc ++ [] = u.doc.chars abc ++ [] := by
      rw [chars, chars, (render_eq_ok_iff.mp hsql).2, (render_eq_ok_iff.mp (he ▸ hsql)).2]
    exact ((ht.reads hwt).tells hu hwu [] [] .nil .nil htext).1
  · intro t ht
    constructor
    · exact exists_rotates ht
    · rintro ⟨u, hu⟩
      exact hu.isWrapped_eq_false
  · intro t u ht hrotates
    exact ⟨hrotates.ne, hrotates.isPlain ht, fun c => by rw [hrotates.doc_eq]⟩

/-- What is bare on the right of a cross join moves to its left, what is in parentheses stays. -/
theorem render_keeps_shape_cross :
    let table (name : String) : TableRef := ofName (.qualified { name := ⟨name⟩ })
    let right : TableRef := .qualified (table "b") .inner (table "c") (.using [⟨"id"⟩])
    let bare : TableRef := .cross (table "a") right
    let moved : TableRef :=
      .qualified (.cross (table "a") (table "b")) .inner (table "c") (.using [⟨"id"⟩])
    bare.doc.render .default = .ok "a CROSS JOIN b JOIN c USING (id)" ∧
      moved.doc.render .default = .ok "a CROSS JOIN b JOIN c USING (id)" ∧
      (TableRef.cross (table "a") right.nest).doc.render .default ≠ moved.doc.render .default := by
  intro table right bare moved
  let columns : Link := .qualified .inner (.using [⟨"id"⟩])
  have htable : ∀ name, (table name).IsPlain := fun name => .table ⟨name⟩
  have hcolumns : columns.IsPlain := List.cons_ne_nil _ _
  have hright : right.IsPlain := .join (k := columns) (htable "b") hcolumns (htable "c")
  have hbare : bare.IsPlain := .join (k := .cross) (htable "a") trivial hright
  have hnested : (TableRef.cross (table "a") right.nest).IsPlain :=
    .join (k := .cross) (htable "a") trivial hright.nest
  have hrender : bare.doc.render .default = .ok "a CROSS JOIN b JOIN c USING (id)" := by rfl
  have hrotates : Rotates ((table "a").join .cross ((table "b").join columns (table "c")))
      (((table "a").join .cross (table "b")).join columns (table "c")) := .here rfl
  obtain ⟨-, htells, -, hmoved⟩ := render_keeps_shape .unicode
  obtain ⟨-, hplain, hsame⟩ := hmoved bare moved hbare hrotates
  refine ⟨hrender, (hsame .default).trans hrender, fun he => ?_⟩
  simpa [moved] using htells _ moved hnested hplain rfl rfl he

end
end TableRef

end SqlTree
