import SqlTree.Proofs.Decoder
import SqlTree.Proofs.Failure

/-! Literal values read back from their text. A decoder that knows nothing of the value returns it,
up to whether a number was stored with room for a sign, and stops where the literal ends. -/
namespace SqlTree
open Doc

namespace Doc
variable (c : Setting) (d e : Doc) (ds : List Doc)

private theorem spell_list_singleton : spell c (list [d]) = spell c d := by
  simp [list, joined]

private theorem spell_list_cons_cons :
    spell c (list (d :: e :: ds)) =
      spell c d ++
        (c.separator.toString ++ (c.whitespace.toString ++ spell c (list (e :: ds)))) := by
  simp only [list, joined, comma, List.flatMap_cons, spell_append, spell_separator, spell_space,
    String.append_assoc]

end Doc

namespace Value

mutual

/-- The same value, with every signed number that is not negative as an unsigned one. -/
def unsigned : Value → Value
  | .int n => if n.toInt < 0 then .int n else .uint (.ofNat n.toInt.toNat)
  | .row values => .row (unsignedAll values)
  | v => v

def unsignedAll : List Value → List Value
  | [] => []
  | v :: vs => v.unsigned :: unsignedAll vs

end

mutual

def isFloatFree : Value → Bool
  | .float _ => false
  | .row values => areFloatFree values
  | _ => true

def areFloatFree : List Value → Bool
  | [] => true
  | v :: vs => v.isFloatFree && areFloatFree vs

end

/-- Only numbers that are equal are made equal. -/
theorem unsigned_int_eq_uint_iff {n : Int64} {m : UInt64} :
    (int n).unsigned = uint m ↔ n.toInt = m.toNat := by
  have hn := n.toInt_lt
  have hm := m.toNat_lt
  by_cases h : n.toInt < 0
  · simp only [unsigned, if_pos h, reduceCtorEq, false_iff]
    omega
  · simp only [unsigned, if_neg h, uint.injEq]
    rw [← UInt64.toNat_inj, UInt64.toNat_ofNat', Nat.mod_eq_of_lt (by omega)]
    omega

private theorem unsignedAll_eq_map (vs : List Value) : unsignedAll vs = vs.map unsigned := by
  induction vs with
  | nil => rfl
  | cons v vs ih => rw [unsignedAll, ih, List.map_cons]

private theorem areFloatFree_iff {vs : List Value} :
    areFloatFree vs = true ↔ ∀ v ∈ vs, v.isFloatFree = true := by
  induction vs with
  | nil => simp [areFloatFree]
  | cons v vs ih => simp [areFloatFree, ih]

mutual

private theorem defect?_eq_none : ∀ v : Value, v.isFloatFree = true → v.defect? = none
  | .null, _ | .default, _ | .bool _, _ | .int _, _ | .uint _, _ | .text _, _ | .blob _, _ => rfl
  | .float _, h => by simp [isFloatFree] at h
  | .row values, h => defectAll?_eq_none values h

private theorem defectAll?_eq_none :
    ∀ vs : List Value, areFloatFree vs = true → defectAll? vs = none
  | [], _ => rfl
  | v :: vs, h => by
    rw [areFloatFree, Bool.and_eq_true] at h
    have hfirst := defect?_eq_none v h.1
    have hrest := defectAll?_eq_none vs h.2
    rw [defectAll?, hfirst, hrest]
    rfl

end

private theorem doc_int_of_nonneg {n : Int64} (h : ¬ n.toInt < 0) :
    Doc.uint (.ofNat n.toInt.toNat) = Doc.int n := by
  have hlt := n.toInt_lt
  have hsize : (UInt64.ofNat n.toInt.toNat).toNat = n.toInt.toNat := by
    rw [UInt64.toNat_ofNat', Nat.mod_eq_of_lt (by omega)]
  have habs : n.toInt.natAbs = n.toInt.toNat := by omega
  rw [Doc.uint, Doc.int, hsize, Decimal.integer, Decimal.signed, if_neg (by simpa using h), habs]

mutual

/-- A number is written alike whether or not it could be negative. -/
private theorem doc_unsigned : ∀ v : Value, v.unsigned.doc = v.doc
  | .null | .default | .bool _ | .uint _ | .float _ | .text _ | .blob _ => rfl
  | .int n => by
    by_cases h : n.toInt < 0
    · rw [unsigned, if_pos h]
    · rw [unsigned, if_neg h, doc, doc, doc_int_of_nonneg h]
  | .row values => by
    have hvalues := docs_unsignedAll values
    rw [unsigned, doc, hvalues, doc]

private theorem docs_unsignedAll : ∀ vs : List Value, docs (unsignedAll vs) = docs vs
  | [] => rfl
  | v :: vs => by
    have hfirst := doc_unsigned v
    have hrest := docs_unsignedAll vs
    rw [unsignedAll, docs, hfirst, hrest, docs]

end

private theorem spell_int_of_neg (c : Setting) {n : Int64} (h : n.toInt < 0) :
    (spell c (Doc.int n)).toList = '-' :: n.toInt.natAbs.repr.toList := by
  rw [Doc.int, spell_text, Decimal.integer, Decimal.signed, if_pos (decide_eq_true h),
    String.toList_append]
  rfl

/-! A literal is read back whatever it is inside of. -/

section Read
variable {c : Setting}

private theorem toList_spell_row (vs : List Value) :
    (spell c (row vs).doc).toList =
      "ROW(".toList ++ ((spell c (list (docs vs))).toList ++ [')']) := by
  simp [doc, paren, spell_append]

private theorem toList_spell_docs (hc : c.whitespace = ' ' ∧ c.separator = ',') (v w : Value)
    (vs : List Value) :
    (spell c (list (docs (v :: w :: vs)))).toList =
      (spell c v.doc).toList ++ ',' :: ' ' :: (spell c (list (docs (w :: vs)))).toList := by
  simp [docs, spell_list_cons_cons, hc.1, hc.2]

mutual

theorem read?_spell (hc : c.whitespace = ' ' ∧ c.separator = ',') :
    ∀ (v : Value) (fuel : Nat) (rest : List Char), v.isFloatFree = true →
    (spell c v.doc).toList.length ≤ fuel → Detached rest →
    read? (fuel + 1) ((spell c v.doc).toList ++ rest) = some (v.unsigned, rest)
  | .null => fun fuel rest _ _ _ => by
    have hword : ("NULL", null) ∈ words := by simp [words]
    rw [doc, spell_text]
    exact read?_word fuel hword
  | .default => fun fuel rest _ _ _ => by
    have hword : ("DEFAULT", default) ∈ words := by simp [words]
    rw [doc, spell_text]
    exact read?_word fuel hword
  | .bool b => fun fuel rest _ _ _ => by
    have hword : (if b then "TRUE" else "FALSE", bool b) ∈ words := by cases b <;> simp [words]
    rw [doc, spell_text]
    exact read?_word fuel hword
  | .int n => fun fuel rest _ _ hrest => by
    by_cases hn : n.toInt < 0
    · rw [unsigned, if_pos hn, doc, spell_int_of_neg c hn]
      exact read?_negative fuel hn hrest
    · rw [unsigned, if_neg hn, doc, ← doc_int_of_nonneg hn, Doc.uint, spell_text]
      exact read?_uint fuel _ hrest
  | .uint n => fun fuel rest _ _ hrest => by
    rw [doc, Doc.uint, spell_text]
    exact read?_uint fuel n hrest
  | .float _ => fun _ _ hfloat _ _ => by simp [isFloatFree] at hfloat
  | .text s => fun fuel rest _ _ hrest => by
    rw [doc, spell_literal]
    exact read?_text fuel s hrest
  | .blob bytes => fun fuel rest _ _ hrest => by
    rw [doc, spell_append, spell_text, spell_literal, String.toList_append]
    exact read?_blob fuel bytes hrest
  | .row [] => fun fuel rest _ _ _ => by
    have htext : (spell c (row []).doc).toList = "ROW()".toList := by
      rw [toList_spell_row]
      simp [docs, list, joined]
    rw [htext]
    exact read?_row_nil fuel
  | .row (v :: vs) => fun fuel rest hfloat hfuel _ => by
    have hopen : "ROW(".toList.length = 4 := by decide
    rw [toList_spell_row] at hfuel ⊢
    simp only [List.length_append, List.length_cons, List.length_nil, hopen] at hfuel
    -- The word and the parentheses pay for the steps to the first item.
    have hitems := readItems?_spell hc (v :: vs) (by simp) (fuel - 2) rest hfloat (by omega)
    rw [show fuel - 2 + 2 = fuel by omega] at hitems
    rw [List.append_assoc, List.append_assoc, List.singleton_append]
    exact read?_row fuel hitems

private theorem readItems?_spell (hc : c.whitespace = ' ' ∧ c.separator = ',') :
    ∀ vs : List Value, vs ≠ [] → ∀ (fuel : Nat) (rest : List Char),
    areFloatFree vs = true → (spell c (list (docs vs))).toList.length ≤ fuel →
    readItems? (fuel + 2) ((spell c (list (docs vs))).toList ++ ')' :: rest) =
      some (unsignedAll vs, rest)
  | [], hne => absurd rfl hne
  | [v], _ => fun fuel rest hfloat hfuel => by
    rw [areFloatFree, Bool.and_eq_true] at hfloat
    rw [docs, docs, spell_list_singleton] at hfuel ⊢
    have hend : Detached (')' :: rest) := detached_cons (by decide) (by decide) rest
    exact readItems?_last _ (read?_spell hc v fuel _ hfloat.1 hfuel hend)
  | v :: w :: vs, _ => fun fuel rest hfloat hfuel => by
    rw [areFloatFree, Bool.and_eq_true] at hfloat
    rw [toList_spell_docs hc] at hfuel ⊢
    simp only [List.length_append, List.length_cons] at hfuel
    have hnext : ∀ cs, Detached (',' :: cs) := detached_cons (by decide) (by decide)
    -- The separator pays for the step to the next item.
    have hothers := readItems?_spell hc (w :: vs) (by simp) (fuel - 1) rest hfloat.2 (by omega)
    rw [show fuel - 1 + 2 = fuel + 1 by omega] at hothers
    have hfirst := read?_spell hc v fuel _ hfloat.1 (by omega)
      (hnext (' ' :: ((spell c (list (docs (w :: vs)))).toList ++ ')' :: rest)))
    rw [List.append_assoc]
    exact readItems?_cons _ hfirst hothers

end

theorem decode?_spell (hc : c.whitespace = ' ' ∧ c.separator = ',') {v : Value}
    (hv : v.isFloatFree = true) {rest : String} (hrest : Detached rest.toList) :
    decode? (spell c v.doc ++ rest) = some (v.unsigned, rest) := by
  have hread := read?_spell hc v (spell c v.doc ++ rest).toList.length rest.toList hv
    (by rw [String.toList_append, List.length_append]; omega) hrest
  rw [← String.toList_append] at hread
  simp only [decode?, hread, Option.map_some, String.ofList_toList]

theorem decodeList?_spell (hc : c.whitespace = ' ' ∧ c.separator = ',') {vs : List Value}
    (hvs : ∀ v ∈ vs, v.isFloatFree = true) :
    decodeList? (spell c (list (docs vs))) = some (vs.map unsigned) := by
  have hrow : (row vs).isFloatFree = true := areFloatFree_iff.mpr hvs
  have htext : spell c (row vs).doc = "ROW(" ++ spell c (list (docs vs)) ++ ")" := by
    simp only [doc, paren, spell_append, spell_text, String.append_assoc]
    rfl
  have hdecode := decode?_spell hc hrow detached_empty
  rw [String.append_empty, htext, unsigned, unsignedAll_eq_map] at hdecode
  simp only [decodeList?, hdecode, if_pos]

theorem spell_eq_iff (hc : c.whitespace = ' ' ∧ c.separator = ',') {v w : Value}
    (hv : v.isFloatFree = true) (hw : w.isFloatFree = true) :
    spell c v.doc = spell c w.doc ↔ v.unsigned = w.unsigned := by
  constructor
  · intro htext
    have hdecode := decode?_spell hc hv detached_empty
    rw [htext, decode?_spell hc hw detached_empty] at hdecode
    simpa using hdecode.symm
  · intro hvalue
    rw [← doc_unsigned v, hvalue, doc_unsigned w]

end Read

theorem render_doc (c : Setting) {v : Value} (hv : v.isFloatFree = true) :
    v.doc.render c = .ok (spell c v.doc) := by
  rw [render_eq_ok_iff, failure?_doc, defect?_eq_none v hv]
  exact ⟨rfl, rfl⟩

private theorem render_docs (c : Setting) {vs : List Value} (hvs : ∀ v ∈ vs, v.isFloatFree = true) :
    (list (docs vs)).render c = .ok (spell c (list (docs vs))) := by
  have hdefect := defectAll?_eq_none vs (areFloatFree_iff.mpr hvs)
  rw [render_eq_ok_iff, failure?_list, failure?_docs, hdefect]
  exact ⟨rfl, rfl⟩

/-- One decoder reads the literals of all dialects. It reads the value back, with a number that
could have been negative as an unsigned one, and leaves what follows. So different values have
different texts, and a list of values can be taken apart in one way. -/
theorem decode_render {c : Setting}
    (hc : c.toConfig ∈ Config.default :: Dialect.presets.map (·.config)) :
    (∀ (v : Value) (rest : String), v.isFloatFree = true → Detached rest.toList →
      ∃ sql, v.doc.render c = .ok sql ∧ decode? (sql ++ rest) = some (v.unsigned, rest)) ∧
    (∀ v w : Value, v.isFloatFree = true → w.isFloatFree = true →
      (v.doc.render c = w.doc.render c ↔ v.unsigned = w.unsigned)) ∧
    ∀ vs : List Value, (∀ v ∈ vs, v.isFloatFree = true) →
      ∃ sql, (list (docs vs)).render c = .ok sql ∧ decodeList? sql = some (vs.map unsigned) := by
  have hmarks := Dialect.presets_marks c.toConfig hc
  refine ⟨fun v rest hv hrest => ?_, fun v w hv hw => ?_, fun vs hvs => ?_⟩
  · exact ⟨_, render_doc c hv, decode?_spell hmarks hv hrest⟩
  · rw [render_doc c hv, render_doc c hw, Except.ok.injEq, spell_eq_iff hmarks hv hw]
  · exact ⟨_, render_docs c hvs, decodeList?_spell hmarks hvs⟩

/-- A quote and a parenthesis inside a text, and rows inside a row. -/
theorem decode_render_nested :
    Config.default ∈ Config.default :: Dialect.presets.map (·.config) ∧
    decode? ("ROW(-1, 2, 'it''s)', X'00FF', ROW(), ROW(NULL))" ++ ", 7") =
      some (row [.int (-1), .uint 2, .text "it's)", .blob [0, 255], .row [], .row [.null]],
        ", 7") := by
  have hc : Config.default ∈ Config.default :: Dialect.presets.map (·.config) := by decide
  obtain ⟨hread, -, -⟩ := decode_render (c := .default) hc
  have hnext : Detached ", 7".toList := by simp [Detached]
  obtain ⟨sql, hsql, hdecode⟩ :=
    hread (row [.int (-1), .int 2, .text "it's)", .blob [0, 255], .row [], .row [.null]]) ", 7"
      rfl hnext
  obtain rfl : "ROW(-1, 2, 'it''s)', X'00FF', ROW(), ROW(NULL))" = sql := Except.ok.inj hsql
  exact ⟨hc, hdecode⟩

end Value
end SqlTree
