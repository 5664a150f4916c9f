import SqlTree.Proofs.Injection

/-! What a text says outside of its strings and quoted names. -/
namespace SqlTree
open Doc

/-- The characters outside of strings and of names that `q` quotes, where `open?` is the quote to
wait for. A doubled quote ends a string or name and starts it again. -/
def outside (q : Char) (open? : Option Char) : List Char → List Char
  | [] => []
  | c :: cs =>
    match open? with
    | none => if c = '\x27' ∨ c = q then outside q (some c) cs else c :: outside q none cs
    | some k => outside q (if c = k then none else some k) cs

section Outside
variable {q k : Char} {cs : List Char} (rest : List Char)

private theorem outside_plain (h : Plain q cs) :
    outside q none (cs ++ rest) = cs ++ outside q none rest := by
  induction cs with
  | nil => rfl
  | cons c cs ih =>
    obtain ⟨hstring, hname⟩ := h
    rw [List.mem_cons, not_or] at hstring hname
    have hc : ¬(c = '\x27' ∨ c = q) := by
      rintro (rfl | rfl)
      · exact hstring.1 rfl
      · exact hname.1 rfl
    rw [List.cons_append, outside, if_neg hc, ih ⟨hstring.2, hname.2⟩]
    rfl

private theorem outside_double (hk : k = '\x27' ∨ k = q) (cs : List Char) :
    outside q (some k) (Text.Quoted.double k cs ++ k :: rest) = outside q none rest := by
  induction cs with
  | nil => simp [Text.Quoted.double, outside]
  | cons c cs ih =>
    by_cases hc : c = k
    · subst hc
      simpa [Text.Quoted.double, outside, hk] using ih
    · simpa [Text.Quoted.double, outside, hc] using ih

/-- Nothing of an enclosed text stands outside, whatever its content is. -/
private theorem outside_enclose (hk : k = '\x27' ∨ k = q) (cs : List Char) :
    outside q none (Text.Quoted.enclose k cs ++ rest) = outside q none rest := by
  have hinside := outside_double rest hk cs
  simpa [Text.Quoted.enclose, outside, hk] using hinside

end Outside

/-- What stands outside of the strings and quoted names that a piece writes. -/
def Piece.code (c : Setting) : Piece → List Char
  | .ident i => if i.needsQuoting c.alphabet then [] else i.name.toList
  | .literal _ => []
  | p => (p.render c).toList

def Doc.code (c : Setting) (d : Doc) : List Char :=
  d.flatMap (Piece.code c)

/-- Whether a piece brings quotes only as a name or a literal. -/
def Piece.IsPlain (q : Char) : Piece → Prop
  | .text s => Plain q s.toList
  | .verbatim s => Plain q s.toList
  | _ => True

namespace Doc
variable (c : Setting) (d e : Doc) (s : String)

@[simp] theorem code_nil : code c [] = [] := rfl

@[simp] theorem code_append : code c (d ++ e) = code c d ++ code c e :=
  List.flatMap_append

@[simp] theorem code_text : code c (text s) = s.toList := List.append_nil _
@[simp] theorem code_verbatim : code c (verbatim s) = s.toList := List.append_nil _
@[simp] theorem code_literal : code c (literal s) = [] := rfl
@[simp] theorem code_fail (e : RenderError) : code c (fail e) = [] := rfl

@[simp] theorem code_space : code c space = [c.whitespace] := by
  simp [code, space, Piece.code, Piece.render]

@[simp] theorem code_separator : code c separator = [c.separator] := by
  simp [code, separator, Piece.code, Piece.render]

end Doc

private theorem Piece.outside_render {c : Setting} {p : Piece} (hc : c.Clear)
    (hp : p.IsPlain c.quote) (rest : List Char) :
    outside c.quote none ((p.render c).toList ++ rest) =
      p.code c ++ outside c.quote none rest := by
  cases p with
  | whitespace => exact outside_plain rest (by simpa [render] using hc.whitespace)
  | separator => exact outside_plain rest (by simpa [render] using hc.separator)
  | ident i =>
    cases hneeds : i.needsQuoting c.alphabet with
    | true =>
      have hname := outside_enclose (q := c.quote) rest (.inr rfl) i.name.toList
      simpa [render, Piece.code, Ident.escape, hneeds] using hname
    | false =>
      have hbare := Ident.bare_unreserved hneeds
      have hplain : Plain c.quote i.name.toList :=
        ⟨hbare.not_mem rfl, hbare.not_mem hc.quote_reserved⟩
      simpa [render, Piece.code, Ident.escape, hneeds] using outside_plain rest hplain
  | literal content =>
    have hstring := outside_enclose (q := c.quote) rest (.inl rfl) content.toList
    simpa [render, Piece.code, Text.Quoted.literal] using hstring
  | text s => exact outside_plain rest hp
  | verbatim s => exact outside_plain rest hp
  | fail e => simp [render, Piece.code]

/-- The code of a text is put together from the code of its pieces. -/
theorem Doc.outside_spell {c : Setting} {d : Doc} (hc : c.Clear) (hd : ∀ p ∈ d, p.IsPlain c.quote) :
    outside c.quote none (d.spell c).toList = d.code c := by
  induction d with
  | nil => rfl
  | cons p d ih =>
    rw [spell_cons, String.toList_append, Piece.outside_render hc (hd p List.mem_cons_self),
      ih fun p' hp => hd p' (List.mem_cons_of_mem p hp)]
    rfl

/-- Where a piece of a phrase comes from: fixed texts are signs, and verbatim texts are atoms. -/
def Piece.From (as : List Atom) : Piece → Prop
  | .text s => Sign s
  | .verbatim s => .verbatim s ∈ as
  | _ => True

namespace Piece.From
variable {as bs : List Atom} {p : Piece}

private theorem mono (h : p.From as) (hsub : as ⊆ bs) : p.From bs := by
  cases p with
  | verbatim s => exact hsub h
  | _ => exact h

private theorem of_fixed {d : Doc} (hd : Fixed d) (hp : p ∈ d) : p.From as := by
  obtain rfl | rfl | ⟨s, hs, rfl⟩ := hd p hp
  · trivial
  · trivial
  · exact hs

end Piece.From

theorem Phrase.pieces {d : Doc} {as : List Atom} (h : Phrase d as) : ∀ p ∈ d, p.From as := by
  induction h with
  | word hs => exact List.forall_mem_singleton.mpr hs.toSign
  | name i => exact List.forall_mem_singleton.mpr trivial
  | literal s => exact List.forall_mem_singleton.mpr trivial
  | bytes bs =>
    have hx : Sign "X" := .ofList rfl
    exact List.forall_mem_cons.mpr ⟨hx, List.forall_mem_singleton.mpr trivial⟩
  | verbatim s => exact List.forall_mem_singleton.mpr List.mem_cons_self
  | failure e as => exact List.forall_mem_singleton.mpr trivial
  | breakOff e _ ih =>
    exact List.forall_mem_append.mpr ⟨ih, List.forall_mem_singleton.mpr trivial⟩
  | join hsep _ _ ihd ihe =>
    simp only [List.forall_mem_append]
    exact ⟨⟨fun p hp => (ihd p hp).mono (List.subset_append_left _ _),
      fun _ => .of_fixed hsep.fixed.1⟩,
      fun p hp => (ihe p hp).mono (List.subset_append_right _ _)⟩
  | enclose hb _ ih =>
    obtain ⟨hopen, hclose, -⟩ := hb.fixed
    simp only [List.forall_mem_append]
    exact ⟨⟨fun _ => .of_fixed hopen, ih⟩, fun _ => .of_fixed hclose⟩
  | hollow hb => exact fun _ => .of_fixed (hb.fixed.1.append hb.fixed.2.1)
  | call function _ ih =>
    refine List.forall_mem_append.mpr ⟨List.forall_mem_singleton.mpr List.mem_cons_self, ?_⟩
    exact fun p hp => (ih p hp).mono (List.subset_append_right _ _)
  | follow _ _ _ ihd ihe =>
    refine List.forall_mem_append.mpr ⟨?_, ?_⟩
    · exact fun p hp => (ihd p hp).mono (List.subset_append_left _ _)
    · exact fun p hp => (ihe p hp).mono (List.subset_append_right _ _)

theorem Construct.pieces (n : Construct) : ∀ p ∈ n.doc, p.From n.atoms := by
  obtain hphrase | ⟨hdoc, -⟩ := n.phrase
  · exact hphrase.pieces
  · simp [hdoc]

private theorem Ident.isBareChar_not_isBracket {abc : Alphabet} {b : Char}
    (h : isBareChar b abc = true) : isBracket b = false := by
  have hne : ∀ d : Char, isSign d = true → b ≠ d := by
    rintro d hd rfl
    rw [isBareChar_of_isSign abc hd] at h
    cases h
  have hopener : closer? b = none := by
    unfold closer?
    split
    · exact absurd rfl (hne '(' (by decide))
    · exact absurd rfl (hne '[' (by decide))
    · rfl
  simp [isBracket, isCloser, hopener, hne ')' (by decide), hne ']' (by decide)]

theorem Ident.not_isBracket_of_bare {abc : Alphabet} {i : Ident} (h : i.needsQuoting abc = false) :
    ∀ b ∈ i.name.toList, isBracket b = false := by
  intro b hb
  rw [needsQuoting, Bool.or_eq_false_iff] at h
  have hchar := List.any_eq_false.mp h.1 b hb
  exact isBareChar_not_isBracket (by simpa using hchar)

theorem Ident.nested_code (c : Setting) (i : Ident) : Nested ((Doc.ident i).code c) := by
  cases hneeds : i.needsQuoting c.alphabet with
  | true => simpa [Doc.code, Doc.ident, Piece.code, hneeds] using Nested.nil
  | false =>
    have hbare := Nested.of_not_isBracket (not_isBracket_of_bare hneeds)
    simpa [Doc.code, Doc.ident, Piece.code, hneeds] using hbare

/-- The marks of a configuration open and close nothing. -/
def Config.Unbracketed (c : Config) : Prop :=
  isBracket c.whitespace = false ∧ isBracket c.separator = false

section Nested
variable {c : Setting} {d sep opening closing : Doc} {as : List Atom} {cs : List Char}

theorem nested_text {s : String} (h : Nested s.toList) : Nested ((text s).code c) := by
  rwa [code_text]

theorem Divider.nested (hc : c.Unbracketed) (h : Divider sep) : Nested (sep.code c) := by
  have hspace : Nested (Doc.space.code c) := .of_not_isBracket (by simpa using hc.1)
  have hseparator : Nested (separator.code c) := .of_not_isBracket (by simpa using hc.2)
  have hnewline : Nested ((text "\n").code c) := nested_text rfl
  have htab : Nested ((text "\t").code c) := nested_text rfl
  cases h with
  | space => exact hspace
  | comma =>
    rw [Doc.comma, code_append]
    exact hseparator.append hspace
  | dot => exact nested_text rfl
  | line =>
    rw [code_append]
    exact hnewline.append htab
  | commaLine =>
    rw [code_append, code_append]
    exact (hseparator.append hnewline).append htab

private theorem Bracket.nested (hb : Bracket opening closing) (hcs : Nested cs) :
    Nested (opening.code c ++ cs ++ closing.code c) := by
  cases hb with
  | paren => simpa using Nested.enclose (c := '(') rfl hcs
  | square => simpa using Nested.enclose (c := '[') rfl hcs
  | block =>
    have hlines : Nested ("\n\t".toList ++ cs ++ "\n".toList) := .append (.append rfl hcs) rfl
    simpa using Nested.enclose (c := '(') rfl hlines

/-- The code of a phrase is nested if each verbatim text in it is. -/
theorem Phrase.nested (hc : c.Unbracketed) (h : Phrase d as)
    (hv : ∀ s, .verbatim s ∈ d → Nested s.toList) : Nested (d.code c) := by
  induction h with
  | word hs => exact nested_text hs.nested
  | name i => exact i.nested_code c
  | literal s => exact .nil
  | bytes bs =>
    rw [code_append, code_literal, List.append_nil]
    exact nested_text rfl
  | verbatim s =>
    rw [code_verbatim]
    exact hv s List.mem_cons_self
  | failure e as => exact .nil
  | breakOff e _ ih =>
    rw [code_append, code_fail, List.append_nil]
    exact ih fun s hs => hv s (List.mem_append_left _ hs)
  | join hsep _ _ ihd ihe =>
    rw [code_append, code_append]
    refine .append (.append (ihd fun s hs => hv s ?_) (hsep.nested hc)) (ihe fun s hs => hv s ?_)
    · exact List.mem_append_left _ (List.mem_append_left _ hs)
    · exact List.mem_append_right _ hs
  | enclose hb _ ih =>
    rw [code_append, code_append]
    refine hb.nested (ih fun s hs => hv s ?_)
    exact List.mem_append_left _ (List.mem_append_right _ hs)
  | hollow hb =>
    rw [code_append]
    simpa using hb.nested (c := c) Nested.nil
  | call function _ ih =>
    rw [code_append, code_verbatim]
    exact .append (hv function List.mem_cons_self)
      (ih fun s hs => hv s (List.mem_append_right _ hs))
  | follow _ _ _ ihd ihe =>
    rw [code_append]
    exact .append (ihd fun s hs => hv s (List.mem_append_left _ hs))
      (ihe fun s hs => hv s (List.mem_append_right _ hs))

end Nested

end SqlTree
