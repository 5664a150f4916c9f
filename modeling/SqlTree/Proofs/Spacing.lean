import SqlTree.Proofs.Glyph
import SqlTree.Proofs.Outside
import SqlTree.Proofs.Part.Construct
import SqlTree.Proofs.Phrase.Construct
import SqlTree.Proofs.Quoted

/-! Whitespace and separators. Whatever optional parts and lists a construct leaves out, no mark is
left over. -/
namespace SqlTree
open Doc Glyph

/-- An empty text that is taken as it is stands only before an opening bracket, as the name of a
function does. -/
def Doc.Filled : Doc → Prop
  | [] => True
  | p :: d => (p = .verbatim "" → d.head? = some (.text "(")) ∧ Filled d

namespace Doc.Filled
variable {d e : Doc} {ss : List String} {ms : List Construct}

private theorem append (hd : Filled d) (he : Filled e) : Filled (d ++ e) := by
  induction d with
  | nil => exact he
  | cons p d ih =>
    refine ⟨fun hp => ?_, ih hd.2⟩
    change (d ++ e).head? = some (.text "(")
    rw [List.head?_append, hd.1 hp]
    rfl

private theorem right (h : Filled (d ++ e)) : Filled e := by
  induction d with
  | nil => exact h
  | cons p d ih => exact ih h.2

/-- What follows decides about the end of the first part only. -/
private theorem left (h : Filled (d ++ e))
    (he : d.getLast? = some (.verbatim "") → e.head? ≠ some (.text "(")) : Filled d := by
  induction d with
  | nil => trivial
  | cons p d ih =>
    cases d with
    | nil => exact ⟨fun hp => absurd (h.1 hp) (he (by simp [hp])), trivial⟩
    | cons q d => exact ⟨fun hp => h.1 hp, ih h.2 (by simpa using he)⟩

private theorem of_composed (h : Composed d ss ms) (hs : ∀ s ∈ ss, s ≠ "")
    (hm : ∀ m ∈ ms, m.doc.Filled) : Filled d := by
  induction h with
  | nil => trivial
  | @piece p hp =>
    refine ⟨?_, trivial⟩
    rintro rfl
    cases hp
  | verbatim s =>
    refine ⟨fun hp => ?_, trivial⟩
    have hempty : s = "" := by simpa using hp
    exact absurd hempty (hs s List.mem_cons_self)
  | part m => exact hm m List.mem_cons_self
  | call function _ ih => exact ⟨fun _ => rfl, ih hs hm⟩
  | append _ _ ihd ihe =>
    exact append (ihd (fun s h => hs s (List.mem_append_left _ h))
        fun m h => hm m (List.mem_append_left _ h))
      (ihe (fun s h => hs s (List.mem_append_right _ h))
        fun m h => hm m (List.mem_append_right _ h))

end Doc.Filled

private theorem Construct.Filled.doc {n : Construct} (h : n.Filled) (hf : n.doc.failure? = none) :
    n.doc.Filled := by
  induction h with
  | @intro n htexts _ ih =>
    have hwhole := whole hf
    exact .of_composed hwhole htexts fun p hp => ih p hp (failure?_mono (hwhole.infix_doc p hp) hf)

private theorem Divider.head?_ne {sep : Doc} (h : Divider sep) (e : Doc) :
    (sep ++ e).head? ≠ some (.text "(") := by
  cases h <;> simp [Doc.space, Doc.comma, separator, SqlTree.dot, text]

private theorem Bracket.head?_ne {opening closing : Doc} (h : Bracket opening closing) :
    closing.head? ≠ some (.text "(") := by
  cases h <;> simp [text]

section
variable {c : Setting}

private theorem Piece.spaced {p : Piece} (hp : p.isMark = false ∧ p.isLayout = false)
    (hne : p.render c ≠ "")
    (hhead : ∀ a ∈ (p.render c).toList.head?, Glyph.isClosing c.quote ⟨p, a⟩ = false)
    (hlast : ∀ a ∈ (p.render c).toList.getLast?, Glyph.isOpening c.quote ⟨p, a⟩ = false) :
    Spaced c.quote (p.glyphs c) := by
  have hitem (a : Char) : Glyph.isItem ⟨p, a⟩ = true := by simp [isItem, hp]
  refine .of_unmarked (by simpa [Piece.glyphs] using hne) ?_ ?_ ?_
  · intro x hx
    rw [Glyph.isMark, piece_of_mem_glyphs hx]
    exact hp.1
  · intro x hx
    rw [Piece.glyphs, List.head?_map, Option.mem_def, Option.map_eq_some_iff] at hx
    obtain ⟨a, ha, rfl⟩ := hx
    exact ⟨hitem a, hhead a ha⟩
  · intro x hx
    rw [Piece.glyphs, List.getLast?_map, Option.mem_def, Option.map_eq_some_iff] at hx
    obtain ⟨a, ha, rfl⟩ := hx
    exact ⟨hitem a, hlast a ha⟩

private theorem Word.spaced {s : String} (h : Word s) : Spaced c.quote ((text s).glyphs c) := by
  have hlayout : (Piece.text s).isLayout = false := by
    obtain ⟨a, cs, hs⟩ := List.exists_cons_of_ne_nil (by simpa using h.ne_empty : s.toList ≠ [])
    have ha := h.inline a (by simp [hs])
    simp [Piece.isLayout, hs, ha]
  rw [text, glyphs_singleton]
  refine Piece.spaced ⟨rfl, hlayout⟩ h.ne_empty ?_ ?_
  · intro a ha
    simp [isClosing, h.nested.isCloser_head a ha]
  · intro a ha
    simp [isOpening, h.nested.closer?_getLast a ha]

private theorem Ident.spaced (i : Ident) : Spaced c.quote ((Doc.ident i).glyphs c) := by
  have hne : (Piece.ident i).render c ≠ "" := by
    cases hneeds : i.needsQuoting c.alphabet with
    | true => simp [Piece.render, escape, hneeds, Text.Quoted.enclose]
    | false =>
      rw [Piece.render, escape, if_neg (by simp [hneeds])]
      intro hempty
      rw [needsQuoting, hempty] at hneeds
      cases hneeds
  -- a quoted name starts and ends with its quote, and a bare one has no bracket
  have hends (a : Char) : a ∈ ((Piece.ident i).render c).toList.head? ∨
      a ∈ ((Piece.ident i).render c).toList.getLast? → a = c.quote ∨ isBracket a = false := by
    cases hneeds : i.needsQuoting c.alphabet with
    | true =>
      intro ha
      rw [Piece.render, escape, if_pos hneeds, String.toList_ofList] at ha
      exact .inl (Text.Quoted.eq_of_end_enclose ha)
    | false =>
      intro ha
      rw [Piece.render, escape, if_neg (by simp [hneeds])] at ha
      have hmem : a ∈ i.name.toList :=
        ha.elim List.mem_of_mem_head? List.mem_of_mem_getLast?
      exact .inr (not_isBracket_of_bare hneeds a hmem)
  rw [Doc.ident, glyphs_singleton]
  refine Piece.spaced ⟨rfl, rfl⟩ hne ?_ ?_
  · intro a ha
    rcases hends a (.inl ha) with rfl | hbracket
    · simp [isClosing, isSet]
    · simp only [isBracket, Bool.or_eq_false_iff] at hbracket
      simp [isClosing, hbracket.2]
  · intro a ha
    rcases hends a (.inr ha) with rfl | hbracket
    · simp [isOpening, isSet]
    · simp only [isBracket, Bool.or_eq_false_iff] at hbracket
      simp [isOpening, hbracket.1]

private theorem spaced_literal (s : String) : Spaced c.quote ((literal s).glyphs c) := by
  have hne : (Piece.literal s).render c ≠ "" := by
    simp [Piece.render, Text.Quoted.literal, Text.Quoted.enclose]
  have hquote (a : Char) : a ∈ ((Piece.literal s).render c).toList.head? ∨
      a ∈ ((Piece.literal s).render c).toList.getLast? → a = '\x27' := by
    intro ha
    rw [Piece.render, Text.Quoted.literal, String.toList_ofList] at ha
    exact Text.Quoted.eq_of_end_enclose ha
  rw [literal, glyphs_singleton]
  refine Piece.spaced ⟨rfl, rfl⟩ hne ?_ ?_
  · intro a ha
    rw [hquote a (.inl ha)]
    rfl
  · intro a ha
    rw [hquote a (.inr ha)]
    rfl

private theorem spaced_verbatim {s : String} (h : s ≠ "") :
    Spaced c.quote ((verbatim s).glyphs c) := by
  rw [verbatim, glyphs_singleton]
  exact Piece.spaced ⟨rfl, rfl⟩ h (fun _ _ => rfl) fun _ _ => rfl

theorem Phrase.spaced {d : Doc} {as : List Atom} (h : Phrase d as) (hfilled : d.Filled)
    (hf : d.failure? = none) : Spaced c.quote (d.glyphs c) := by
  induction h with
  | word hs => exact hs.spaced
  | name i => exact i.spaced
  | literal s => exact spaced_literal s
  | bytes bs =>
    have hx : Word "X" := .ofList rfl
    rw [glyphs_append]
    exact hx.spaced.append (spaced_literal _)
  | verbatim s =>
    refine spaced_verbatim ?_
    rintro rfl
    cases hfilled.1 rfl
  | failure e as => simp at hf
  | breakOff e _ _ => simp at hf
  | @join d sep e as bs hsep _ _ ihd ihe =>
    simp only [failure?_append, Option.or_eq_none_iff] at hf
    have hd : d.Filled := by
      rw [List.append_assoc] at hfilled
      exact hfilled.left fun _ => hsep.head?_ne e
    rw [glyphs_append, glyphs_append]
    exact .join hsep.between (ihd hd hf.1.1) (ihe hfilled.right hf.2)
  | @enclose opening d closing as hb _ ih =>
    simp only [failure?_append, Option.or_eq_none_iff] at hf
    have hd : d.Filled := (hfilled.left fun _ => hb.head?_ne).right
    rw [glyphs_append, glyphs_append]
    exact .enclose hb.frame (ih hd hf.1.2)
  | hollow hb =>
    rw [glyphs_append]
    exact .hollow hb.frame
  | @call e as function _ ih =>
    rw [failure?_append, Option.or_eq_none_iff] at hf
    have harguments : Spaced c.quote ((Doc.paren e).glyphs c) := ih hfilled.right hf.2
    rw [glyphs_append]
    by_cases hname : function = ""
    · subst hname
      exact harguments
    · exact (spaced_verbatim hname).append harguments
  | @follow d e k s as bs _ hs _ ihd ihe =>
    rw [failure?_append, Option.or_eq_none_iff] at hf
    have hd : Doc.Filled (d ++ text k) := hfilled.left (by simp [text])
    rw [glyphs_append]
    exact (ihd hd hf.1).append (ihe hfilled.right hf.2)

/-- Whitespace and separators stand only between items. The brackets meant are those that a
construct, a name or a literal writes. -/
theorem Construct.render_spacing {n : Construct} {sql : String}
    (hmarks : c.whitespace ≠ c.separator)
    (hfree : ∀ p ∈ n.doc, p.isMark = false →
      c.whitespace ∉ (p.render c).toList ∧ c.separator ∉ (p.render c).toList)
    (hfilled : n.Filled) (h : n.doc.render c = .ok sql) :
    (n.doc.glyphs c).map (·.char) = sql.toList ∧
    (∀ a, a ∈ sql.toList.head? ∨ a ∈ sql.toList.getLast? →
      a ≠ c.whitespace ∧ a ≠ c.separator) ∧
    ¬[c.whitespace, c.whitespace] <:+: sql.toList ∧
    ¬[c.whitespace, c.separator] <:+: sql.toList ∧
    (∀ x y : Glyph, [x, y] <:+: n.doc.glyphs c →
      (y.char = c.whitespace ∨ y.char = c.separator → x.isOpening c.quote = false) ∧
      (x.char = c.whitespace ∨ x.char = c.separator → y.isClosing c.quote = false)) ∧
    ∀ (x y : Glyph) (between : List Glyph), x :: between ++ [y] <:+: n.doc.glyphs c →
      x.char = c.separator → y.char = c.separator → ∃ z ∈ between, z.isItem = true := by
  obtain ⟨hf, rfl⟩ := render_eq_ok_iff.mp h
  have hchar {x : Glyph} (hx : x ∈ n.doc.glyphs c) := char_eq_mark_iff hmarks hfree hx
  have hmark {x : Glyph} (hx : x ∈ n.doc.glyphs c) := isMark_of_char hmarks hfree hx
  obtain hphrase | ⟨hdoc, -⟩ := n.phrase
  · have hspaced : Spaced c.quote (n.doc.glyphs c) := hphrase.spaced (hfilled.doc hf) hf
    have hafter {a : Char} (ha : a = c.whitespace ∨ a = c.separator) :
        ¬[c.whitespace, a] <:+: (n.doc.spell c).toList := by
      intro hi
      obtain ⟨x, y, hxy, hx, rfl⟩ := exists_glyphs_of_infix hi
      have hwhitespace := (hchar (hxy.subset (by simp))).1.mp hx
      have hy := hmark (hxy.subset (by simp)) ha
      rw [hspaced.isMark_after_whitespace hxy hwhitespace] at hy
      cases hy
    refine ⟨map_char_glyphs c n.doc, ?_, hafter (.inl rfl), hafter (.inr rfl), ?_, ?_⟩
    · intro a ha
      obtain ⟨x, hx, rfl⟩ := exists_glyph_of_end ha
      rw [← not_or]
      intro hchar
      have hend := hmark (hx.elim List.mem_of_mem_head? List.mem_of_mem_getLast?) hchar
      rw [hspaced.isMark_of_end hx] at hend
      cases hend
    · intro x y hi
      exact ⟨fun hy => ((hspaced.fits hi).1 (hmark (hi.subset (by simp)) hy)).1,
        fun hx => (hspaced.fits hi).2 (hmark (hi.subset (by simp)) hx)⟩
    · intro x y between hi hx hy
      exact hspaced.separated.item_between hi ((hchar (hi.subset (by simp))).2.mp hx)
        ((hchar (hi.subset (by simp))).2.mp hy)
  · simp [hdoc]

private theorem Construct.Filled.raw {s : String} (hs : s ≠ "") :
    (Construct.expr (.raw s)).Filled :=
  .intro (List.forall_mem_singleton.mpr hs) (List.forall_mem_nil _)

/-- The space of the arguments follows the separator, not the bracket. -/
theorem Construct.render_spacing_call :
    let c : Setting := ⟨⟨'~', ';', '"'⟩, .unicode⟩
    (Construct.expr (.call "f" [.raw "a", .raw "b"])).doc.render c = .ok "f(a;~b)" ∧
    ¬['~', ';'] <:+: "f(a;~b)".toList ∧
    ∀ x y : Glyph,
      [x, y] <:+: (Construct.expr (.call "f" [.raw "a", .raw "b"])).doc.glyphs c →
      (y.char = '~' ∨ y.char = ';' → x.isOpening '"' = false) ∧
      (x.char = '~' ∨ x.char = ';' → y.isClosing '"' = false) := by
  intro c
  have hrender : (Construct.expr (.call "f" [.raw "a", .raw "b"])).doc.render c =
      .ok "f(a;~b)" := by rfl
  have hfilled : (Construct.expr (.call "f" [.raw "a", .raw "b"])).Filled := by
    refine .intro (List.forall_mem_nil _) (List.forall_mem_cons.mpr ⟨.raw ?_, ?_⟩)
    · decide
    · exact List.forall_mem_singleton.mpr (.raw (by decide))
  have hall := Construct.render_spacing (c := c) (by decide) (by decide) hfilled hrender
  exact ⟨hrender, hall.2.2.2.1, hall.2.2.2.2.1⟩

/-- The brackets of a text that is taken as it is are no concern of whoever writes the rest. -/
theorem Construct.render_spacing_bracket :
    (Construct.expr (.binary (.raw "(") "+" (.raw "x"))).doc.render .default = .ok "( + x" ∧
    Config.default.whitespace ≠ Config.default.separator ∧
    (∀ p ∈ (Construct.expr (.binary (.raw "(") "+" (.raw "x"))).doc, p.isMark = false →
      Config.default.whitespace ∉ (p.render .default).toList ∧
      Config.default.separator ∉ (p.render .default).toList) ∧
    (Construct.expr (.binary (.raw "(") "+" (.raw "x"))).Filled ∧
    ['(', Config.default.whitespace] <:+: "( + x".toList := by
  have hfilled : (Construct.expr (.binary (.raw "(") "+" (.raw "x"))).Filled := by
    refine .intro (List.forall_mem_singleton.mpr ?_) (List.forall_mem_cons.mpr ⟨.raw ?_, ?_⟩)
    · decide
    · decide
    · exact List.forall_mem_singleton.mpr (.raw (by decide))
  exact ⟨by rfl, by decide, by decide, hfilled, [], ['+', ' ', 'x'], rfl⟩

end
end SqlTree
