import SqlTree.Proofs.Phrase.Construct
import SqlTree.Proofs.Rendering
import SqlTree.Proofs.Scanner
import SqlTree.Proofs.Unescape

/-! No text of the caller leaves its own token: a scanner finds every literal and every quoted name
of a tree again, and nothing else. -/
namespace SqlTree
open Doc

/-- What a scanner should find of an atom. Bare names and verbatim texts are code. -/
def Atom.token? (abc : Alphabet) : Atom → Option Token
  | .name i => if i.needsQuoting abc then some ⟨.name, i.name⟩ else none
  | .text s => some ⟨.string, s⟩
  | .bytes bs => some ⟨.string, upperHex bs⟩
  | .verbatim _ => none

/-- None of the characters of a configuration can be taken for another. -/
structure Config.Clear (c : Config) : Prop where
  quote_ne : c.quote ≠ '\x27'
  quote_reserved : isReserved c.quote = true
  whitespace : Plain c.quote [c.whitespace]
  separator : Plain c.quote [c.separator]

/-- The dialects share marks and differ in the quote. -/
theorem Dialect.presets_clear :
    ∀ c ∈ Config.default :: Dialect.presets.map (·.config), c.Clear := by
  intro c hc
  have hquote : c = ⟨' ', ',', '\x60'⟩ ∨ c = ⟨' ', ',', '"'⟩ := by
    revert c
    decide
  obtain rfl | rfl := hquote
  · refine ⟨by decide, rfl, ⟨by decide, by decide⟩, ⟨by decide, by decide⟩⟩
  · refine ⟨by decide, rfl, ⟨by decide, by decide⟩, ⟨by decide, by decide⟩⟩

private theorem Ident.isBareChar_unreserved {abc : Alphabet} {c : Char}
    (h : isBareChar c abc = true) : isReserved c = false := by
  cases hr : isReserved c with
  | false => rfl
  | true =>
    simp only [isReserved, Bool.or_eq_true, beq_iff_eq] at hr
    have hsign : isSign c = true := by
      obtain ((rfl | rfl) | rfl) | rfl := hr <;> decide
    rw [isBareChar_of_isSign abc hsign] at h
    cases h

theorem Ident.bare_unreserved {abc : Alphabet} {i : Ident} (h : i.needsQuoting abc = false) :
    Unreserved i.name := by
  intro c hc
  rw [needsQuoting, Bool.or_eq_false_iff] at h
  have hbare := List.any_eq_false.mp h.1 c hc
  exact isBareChar_unreserved (by simpa using hbare)

namespace Config.Clear
variable {c : Setting} {s : String}

theorem plain (hc : c.Clear) (hs : Unreserved s) : Plain c.quote s.toList :=
  ⟨hs.not_mem rfl, hs.not_mem hc.quote_reserved⟩

/-- Fixed texts and the marks of a configuration hold no quotes. -/
private theorem plain_spell (hc : c.Clear) {d : Doc} (hd : Fixed d) :
    Plain c.quote (spell c d).toList := by
  induction d with
  | nil => simp [Plain]
  | cons p d ih =>
    have hrest : Plain c.quote (spell c d).toList :=
      ih fun p' hp => hd p' (List.mem_cons_of_mem p hp)
    have hfirst : Plain c.quote (p.render c).toList := by
      obtain rfl | rfl | ⟨s, hs, rfl⟩ := hd p List.mem_cons_self
      · simpa [Piece.render] using hc.whitespace
      · simpa [Piece.render] using hc.separator
      · exact hc.plain hs.unreserved
    rw [spell_cons, String.toList_append]
    exact hfirst.append hrest

end Config.Clear

/-- Every fixed piece has a text under every configuration. -/
private theorem Doc.Fixed.spell_ne_nil {d : Doc} (hd : Fixed d) (hne : d ≠ []) (c : Setting) :
    (spell c d).toList ≠ [] := by
  cases d with
  | nil => exact absurd rfl hne
  | cons p d =>
    have hfirst : p.render c ≠ "" := by
      obtain rfl | rfl | ⟨s, hs, rfl⟩ := hd p List.mem_cons_self
      · simp [Piece.render]
      · simp [Piece.render]
      · exact hs.ne_empty
    simp [spell_cons, hfirst]

private theorem Ident.reads_escape {q : Char} (hq : q ≠ '\x27') (hr : isReserved q = true)
    (abc : Alphabet)
    (i : Ident) : Reads q (i.escape q abc).toList ([Atom.name i].filterMap (Atom.token? abc)) := by
  cases hneeds : i.needsQuoting abc with
  | true =>
    have henclosed := Reads.enclose .name i.name.toList hq
    simpa [escape, Atom.token?, hneeds, TokenKind.quote] using henclosed
  | false =>
    have hbare := bare_unreserved hneeds
    have hplain : Plain q i.name.toList := ⟨hbare.not_mem rfl, hbare.not_mem hr⟩
    simpa [escape, Atom.token?, hneeds] using Reads.plain hplain

private theorem reads_literal {q : Char} (hq : q ≠ '\x27') (s : String) :
    Reads q (Text.Quoted.literal s).toList [⟨.string, s⟩] := by
  have henclosed := Reads.enclose .string s.toList hq
  simpa [Text.Quoted.literal, TokenKind.quote] using henclosed

/-- A scanner reads a phrase as the tokens of its atoms, whatever stands in them. -/
theorem Phrase.reads {c : Setting} {d : Doc} {as : List Atom} (hc : c.Clear) (h : Phrase d as)
    (hv : ∀ s, .verbatim s ∈ as → Plain c.quote s.toList) (hf : d.failure? = none) :
    Reads c.quote (d.spell c).toList (as.filterMap (Atom.token? c.alphabet)) := by
  induction h with
  | word hs =>
    rw [spell_text]
    exact .plain (hc.plain hs.unreserved)
  | name i =>
    rw [spell_ident]
    exact i.reads_escape hc.quote_ne hc.quote_reserved c.alphabet
  | literal s =>
    rw [spell_literal]
    exact reads_literal hc.quote_ne s
  | bytes bs =>
    have hx : Plain c.quote (spell c (text "X")).toList :=
      hc.plain_spell (.sign (.ofList rfl))
    have hhex := Reads.lead hx (reads_literal hc.quote_ne (upperHex bs))
    rw [spell_append, spell_literal, String.toList_append]
    simpa [Atom.token?] using hhex
  | verbatim s =>
    rw [spell_verbatim]
    exact .plain (hv s (by simp))
  | failure e as => simp at hf
  | breakOff e _ _ => simp at hf
  | @join d sep e as bs hsep _ _ ihd ihe =>
    simp only [failure?_append, Option.or_eq_none_iff] at hf
    obtain ⟨hfixed, hne⟩ := hsep.fixed
    have hd := ihd (fun s hs => hv s (by simp [hs])) hf.1.1
    have he := ihe (fun s hs => hv s (by simp [hs])) hf.2
    simp only [spell_append, String.toList_append, List.filterMap_append]
    exact hd.join (hc.plain_spell hfixed) (hfixed.spell_ne_nil hne c) he
  | @enclose opening d closing as hb _ ih =>
    simp only [failure?_append, Option.or_eq_none_iff] at hf
    obtain ⟨hopen, hclose, hne⟩ := hb.fixed
    have hd := ih hv hf.1.2
    simp only [spell_append, String.toList_append]
    exact .enclosed (hc.plain_spell hopen) hd (hc.plain_spell hclose) (hclose.spell_ne_nil hne c)
  | hollow hb =>
    obtain ⟨hopen, hclose, -⟩ := hb.fixed
    exact .plain (hc.plain_spell (hopen.append hclose))
  | @call e as function _ ih =>
    rw [failure?_append, failure?_verbatim, Option.none_or] at hf
    have hname : Plain c.quote function.toList := hv function (by simp)
    have he := ih (fun s hs => hv s (by simp [hs])) hf
    rw [spell_append, spell_verbatim, String.toList_append]
    exact Reads.lead hname he
  | @follow d e k s as bs _ hs _ ihd ihe =>
    rw [failure?_append, Option.or_eq_none_iff] at hf
    have hd := ihd (fun s hs => hv s (by simp [hs])) hf.1
    have he := ihe (fun s hs => hv s (by simp [hs])) hf.2
    have hfirst : (spell c (.text s :: e)).toList = s.toList ++ (spell c e).toList := by
      rw [spell_cons, String.toList_append]
      rfl
    have hne : s.toList ≠ [] := by simpa using hs.ne_empty
    have hapart : Apart c.quote (s.toList ++ (spell c e).toList) :=
      (hc.plain hs.unreserved).apart.append hne
    rw [hfirst] at he
    rw [spell_append, String.toList_append, List.filterMap_append, hfirst]
    exact hd.append he hapart (by simp [hne])

/-- No injection. When the texts that are taken as they are hold no quote, a scanner of the output
is back in code at the end and has found the literals and the quoted names of the tree, in order and
with their exact contents. -/
theorem Construct.scan_render {c : Setting} {n : Construct} {sql : String}
    (hc : c.toConfig ∈ Config.default :: Dialect.presets.map (·.config))
    (hv : ∀ s, .verbatim s ∈ n.atoms → '\x27' ∉ s.toList ∧ c.quote ∉ s.toList)
    (h : n.doc.render c = .ok sql) :
    scan c.quote .code sql.toList = (.code, n.atoms.filterMap (Atom.token? c.alphabet)) := by
  obtain ⟨hf, rfl⟩ := render_eq_ok_iff.mp h
  have hclear : c.Clear := Dialect.presets_clear c.toConfig hc
  have hreads :
      Reads c.quote (n.doc.spell c).toList (n.atoms.filterMap (Atom.token? c.alphabet)) := by
    obtain hphrase | ⟨hdoc, hatoms⟩ := n.phrase
    · exact hphrase.reads hclear hv hf
    · rw [hdoc, hatoms, spell_nil]
      exact .plain .nil
  have hend : Apart c.quote [] := by simp [Apart]
  have hall := hreads [] .code [] hend rfl
  simpa using hall

/-- A string and a name that hold their own quotes, next to a text that is taken as it is. -/
theorem Construct.scan_render_quotes :
    (Construct.query { items := [.expr (.value (.text "it's")) (some ⟨"a\"b"⟩),
        .expr (.raw "now()") none] }).doc.render Dialect.generic.config =
      .ok "SELECT 'it''s' AS \"a\"\"b\", now()" ∧
    scan '"' .code "SELECT 'it''s' AS \"a\"\"b\", now()".toList =
      (.code, [⟨.string, "it's"⟩, ⟨.name, "a\"b"⟩]) := by
  refine ⟨by rfl, ?_⟩
  refine Construct.scan_render (c := Dialect.generic.config) (n := .query
    { items := [.expr (.value (.text "it's")) (some ⟨"a\"b"⟩), .expr (.raw "now()") none] })
    (by decide) ?_ (by rfl)
  intro s hs
  have hraw : s = "now()" := by
    simpa [Construct.atoms, Query.atoms, SelectItem.atoms, Expr.atoms, Value.atoms,
      TableRef.atomsAll] using hs
  subst hraw
  decide

end SqlTree
