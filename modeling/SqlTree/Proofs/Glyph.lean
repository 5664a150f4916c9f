import Mathlib.Data.List.Chain
import SqlTree.Proofs.Phrase
import SqlTree.Proofs.Rendering

/-! The characters of a text with the pieces that write them, and where whitespace and separators
may stand among them. -/
namespace SqlTree
open Doc

namespace Piece

/-- The marks of a configuration. -/
def isMark : Piece → Bool
  | whitespace => true
  | separator => true
  | _ => false

/-- Line breaks and the indentation after them. -/
def isLayout : Piece → Bool
  | text s => s.toList.all isBreak
  | _ => false

end Piece

structure Glyph where
  piece : Piece
  char : Char

namespace Glyph

variable (q : Char)

def isMark (x : Glyph) : Bool :=
  x.piece.isMark

/-- Whether a character belongs to what a text says. -/
def isItem (x : Glyph) : Bool :=
  !x.piece.isMark && !x.piece.isLayout

/-- Whether a character comes neither from the configuration, where `q` is the quote, nor from a
text that is taken as it is. -/
def isSet (x : Glyph) : Bool :=
  match x.piece with
  | .text _ => true
  | .literal _ => true
  | .ident _ => x.char != q
  | _ => false

def isOpening (x : Glyph) : Bool :=
  x.isSet q && (closer? x.char).isSome

def isClosing (x : Glyph) : Bool :=
  x.isSet q && isCloser x.char

/-- With what a text may start. -/
def Starts (x : Glyph) : Prop :=
  x.isItem = true ∧ x.isClosing q = false

def Ends (x : Glyph) : Prop :=
  x.isItem = true ∧ x.isOpening q = false

/-- Whether `y` may follow `x`. A mark follows an item, or else it is the whitespace after a
separator, and it does not stand at the inner side of a bracket. -/
def Fits (x y : Glyph) : Prop :=
  (y.isMark = true → x.isOpening q = false ∧
    (x.isMark = true → x.piece = .separator ∧ y.piece = .whitespace)) ∧
  (x.isMark = true → y.isClosing q = false)

/-- An item comes before any separator. -/
def Leads (g : List Glyph) : Prop :=
  ∃ (between : List Glyph) (z : Glyph) (rest : List Glyph),
    g = between ++ z :: rest ∧ z.isItem = true ∧ ∀ y ∈ between, y.piece ≠ .separator

/-- After each separator there is an item before the next one. -/
def Separated : List Glyph → Prop
  | [] => True
  | x :: g => (x.piece = .separator → Leads g) ∧ Separated g

variable {q}

private theorem isMark_of_isItem {x : Glyph} (h : x.isItem = true) : x.isMark = false := by
  rw [isItem, Bool.and_eq_true, Bool.not_eq_true'] at h
  exact h.1

private theorem piece_ne_separator {x : Glyph} (h : x.isMark = false) : x.piece ≠ .separator := by
  intro hp
  rw [isMark, hp] at h
  cases h

private theorem fits_of_unmarked {x y : Glyph} (hx : x.isMark = false) (hy : y.isMark = false) :
    Fits q x y := by
  simp [Fits, hx, hy]

private theorem fits_of_ends {x : Glyph} (h : x.Ends q) (y : Glyph) : Fits q x y := by
  have hx : x.isMark = false := isMark_of_isItem h.1
  simp [Fits, hx, h.2]

private theorem fits_of_starts (x : Glyph) {y : Glyph} (h : y.Starts q) : Fits q x y := by
  have hy : y.isMark = false := isMark_of_isItem h.1
  simp [Fits, hy, h.2]

section
variable {g h : List Glyph}

private theorem Leads.append (hg : Leads g) (h : List Glyph) : Leads (g ++ h) := by
  obtain ⟨between, z, rest, rfl, hz, hbetween⟩ := hg
  exact ⟨between, z, rest ++ h, by simp, hz, hbetween⟩

private theorem Separated.append (hg : Separated g) (hh : Separated h) : Separated (g ++ h) := by
  induction g with
  | nil => exact hh
  | cons x g ih => exact ⟨fun hx => (hg.1 hx).append h, ih hg.2⟩

private theorem Separated.of_unmarked (hg : ∀ x ∈ g, x.isMark = false) : Separated g := by
  induction g with
  | nil => trivial
  | cons x g ih =>
    refine ⟨fun hx => ?_, ih fun y hy => hg y (List.mem_cons_of_mem x hy)⟩
    exact absurd hx (piece_ne_separator (hg x List.mem_cons_self))

private theorem Separated.leads {before rest : List Glyph} {x : Glyph}
    (h : Separated (before ++ x :: rest)) (hx : x.piece = .separator) : Leads rest := by
  induction before with
  | nil => exact h.1 hx
  | cons y before ih => exact ih h.2

theorem Separated.item_between {between : List Glyph} {x y : Glyph} (h : Separated g)
    (hi : x :: between ++ [y] <:+: g) (hx : x.piece = .separator) (hy : y.piece = .separator) :
    ∃ z ∈ between, z.isItem = true := by
  obtain ⟨before, behind, rfl⟩ := hi
  have hsplit : Separated (before ++ x :: (between ++ y :: behind)) := by simpa using h
  have hleads : Leads (between ++ y :: behind) := hsplit.leads hx
  obtain ⟨skipped, z, rest, hrest, hz, hskipped⟩ := hleads
  have hzy : z ≠ y := by
    rintro rfl
    exact piece_ne_separator (isMark_of_isItem hz) hy
  -- `y` cannot stand before `z`, so `z` stands before `y`
  rcases List.append_eq_append_iff.mp hrest with ⟨more, rfl, hmore⟩ | ⟨more, rfl, hmore⟩
  · cases more with
    | nil => exact absurd (List.cons.inj hmore).1.symm hzy
    | cons y' more =>
      obtain ⟨rfl, -⟩ := List.cons.inj hmore
      exact absurd hy (hskipped y (by simp))
  · cases more with
    | nil => exact absurd (List.cons.inj hmore).1 hzy
    | cons z' more =>
      obtain ⟨rfl, -⟩ := List.cons.inj hmore
      exact ⟨z, by simp, hz⟩

private theorem chain_append_of_unmarked (hg : g.IsChain (Fits q)) (hh : h.IsChain (Fits q))
    (hlast : ∀ x ∈ g.getLast?, x.isMark = false) (hhead : ∀ y ∈ h.head?, y.isMark = false) :
    (g ++ h).IsChain (Fits q) :=
  List.isChain_append.mpr
    ⟨hg, hh, fun x hx y hy => fits_of_unmarked (hlast x hx) (hhead y hy)⟩

private theorem chain_of_unmarked (hg : ∀ x ∈ g, x.isMark = false) : g.IsChain (Fits q) := by
  induction g with
  | nil => exact .nil
  | cons x g ih =>
    have hrest := ih fun y hy => hg y (List.mem_cons_of_mem x hy)
    refine chain_append_of_unmarked (g := [x]) (.singleton x) hrest ?_ ?_
    · intro y hy
      obtain rfl : x = y := by simpa using hy
      exact hg x List.mem_cons_self
    · exact fun y hy => hg y (List.mem_cons_of_mem x (List.mem_of_mem_head? hy))

end

/-- What may stand around a text. -/
structure Frame (q : Char) (opening closing : List Glyph) : Prop where
  opening_ne_nil : opening ≠ []
  closing_ne_nil : closing ≠ []
  unmarked : ∀ x ∈ opening ++ closing, x.isMark = false
  head : ∀ x ∈ opening.head?, x.Starts q
  last : ∀ x ∈ closing.getLast?, x.Ends q

/-- What may stand between two texts. -/
structure Between (q : Char) (sep : List Glyph) : Prop where
  chain {x y : Glyph} : x.Ends q → y.Starts q → (x :: (sep ++ [y])).IsChain (Fits q)
  separated {y : Glyph} {rest : List Glyph} :
    y.isItem = true → Separated (y :: rest) → Separated (sep ++ y :: rest)

/-- The texts of phrases: they start and end with an item, and each mark in them fits. -/
structure Spaced (q : Char) (g : List Glyph) : Prop where
  ne_nil : g ≠ []
  head : ∀ x ∈ g.head?, x.Starts q
  last : ∀ x ∈ g.getLast?, x.Ends q
  chain : g.IsChain (Fits q)
  separated : Separated g

namespace Spaced
variable {g h sep opening closing : List Glyph}

theorem of_unmarked (hne : g ≠ []) (hg : ∀ x ∈ g, x.isMark = false)
    (hhead : ∀ x ∈ g.head?, x.Starts q) (hlast : ∀ x ∈ g.getLast?, x.Ends q) : Spaced q g :=
  ⟨hne, hhead, hlast, chain_of_unmarked hg, .of_unmarked hg⟩

theorem append (hg : Spaced q g) (hh : Spaced q h) : Spaced q (g ++ h) := by
  refine ⟨by simp [hg.ne_nil], ?_, ?_, ?_, hg.separated.append hh.separated⟩
  · rw [List.head?_append_of_ne_nil _ hg.ne_nil]
    exact hg.head
  · rw [List.getLast?_append_of_ne_nil _ hh.ne_nil]
    exact hh.last
  · exact chain_append_of_unmarked hg.chain hh.chain
      (fun x hx => isMark_of_isItem (hg.last x hx).1)
      (fun y hy => isMark_of_isItem (hh.head y hy).1)

theorem hollow (hframe : Frame q opening closing) : Spaced q (opening ++ closing) := by
  refine of_unmarked (by simp [hframe.opening_ne_nil]) hframe.unmarked ?_ ?_
  · rw [List.head?_append_of_ne_nil _ hframe.opening_ne_nil]
    exact hframe.head
  · rw [List.getLast?_append_of_ne_nil _ hframe.closing_ne_nil]
    exact hframe.last

theorem enclose (hframe : Frame q opening closing) (hg : Spaced q g) :
    Spaced q (opening ++ g ++ closing) := by
  have hopen : ∀ x ∈ opening, x.isMark = false :=
    fun x hx => hframe.unmarked x (List.mem_append_left _ hx)
  have hclose : ∀ x ∈ closing, x.isMark = false :=
    fun x hx => hframe.unmarked x (List.mem_append_right _ hx)
  have hhead : ∀ x ∈ g.head?, x.isMark = false := fun x hx => isMark_of_isItem (hg.head x hx).1
  have hlast : ∀ x ∈ (opening ++ g).getLast?, x.isMark = false := by
    rw [List.getLast?_append_of_ne_nil _ hg.ne_nil]
    exact fun x hx => isMark_of_isItem (hg.last x hx).1
  refine ⟨by simp [hg.ne_nil], ?_, ?_, ?_, ?_⟩
  · rw [List.append_assoc, List.head?_append_of_ne_nil _ hframe.opening_ne_nil]
    exact hframe.head
  · rw [List.getLast?_append_of_ne_nil _ hframe.closing_ne_nil]
    exact hframe.last
  · have hfront := chain_append_of_unmarked (chain_of_unmarked hopen) hg.chain
      (fun x hx => hopen x (List.mem_of_mem_getLast? hx)) hhead
    exact chain_append_of_unmarked hfront (chain_of_unmarked hclose) hlast
      fun y hy => hclose y (List.mem_of_mem_head? hy)
  · exact ((Separated.of_unmarked hopen).append hg.separated).append (.of_unmarked hclose)

theorem join (hsep : Between q sep) (hg : Spaced q g) (hh : Spaced q h) :
    Spaced q (g ++ sep ++ h) := by
  obtain ⟨front, x, rfl⟩ : ∃ front x, g = front ++ [x] :=
    ⟨_, _, (List.dropLast_append_getLast hg.ne_nil).symm⟩
  obtain ⟨y, back, rfl⟩ := List.exists_cons_of_ne_nil hh.ne_nil
  have hx : x.Ends q := hg.last x (by simp)
  have hy : y.Starts q := hh.head y (by simp)
  refine ⟨by simp, ?_, ?_, ?_, ?_⟩
  · rw [List.append_assoc, List.head?_append_of_ne_nil _ hg.ne_nil]
    exact hg.head
  · rw [List.getLast?_append_of_ne_nil _ hh.ne_nil]
    exact hh.last
  · have hback : (x :: (sep ++ y :: back)).IsChain (Fits q) := by
      rw [← List.cons_append, List.isChain_split]
      exact ⟨hsep.chain hx hy, hh.chain⟩
    have hall := List.isChain_split.mpr ⟨hg.chain, hback⟩
    simpa using hall
  · rw [List.append_assoc]
    exact hg.separated.append (hsep.separated hy.1 hh.separated)

variable {x y : Glyph}

theorem isMark_of_end (hg : Spaced q g) (h : x ∈ g.head? ∨ x ∈ g.getLast?) : x.isMark = false := by
  rcases h with hhead | hlast
  · exact isMark_of_isItem (hg.head x hhead).1
  · exact isMark_of_isItem (hg.last x hlast).1

theorem fits (hg : Spaced q g) (h : [x, y] <:+: g) : Fits q x y :=
  List.isChain_pair.mp <| List.IsChain.infix hg.chain h

theorem isMark_after_whitespace (hg : Spaced q g) (h : [x, y] <:+: g)
    (hx : x.piece = .whitespace) : y.isMark = false := by
  cases hy : y.isMark with
  | false => rfl
  | true =>
    have hmark : x.isMark = true := by rw [isMark, hx, Piece.isMark]
    have hpieces := ((hg.fits h).1 hy).2 hmark
    rw [hx] at hpieces
    cases hpieces.1

end Spaced
end Glyph

def Piece.glyphs (c : Setting) (p : Piece) : List Glyph :=
  (p.render c).toList.map (⟨p, ·⟩)

def Doc.glyphs (c : Setting) (d : Doc) : List Glyph :=
  d.flatMap (Piece.glyphs c)

namespace Doc
variable (c : Setting) (d e : Doc)

@[simp] theorem glyphs_nil : glyphs c [] = [] := rfl

@[simp] theorem glyphs_append : glyphs c (d ++ e) = glyphs c d ++ glyphs c e :=
  List.flatMap_append

theorem glyphs_singleton (p : Piece) : glyphs c [p] = p.glyphs c := by simp [glyphs]

/-- Without the pieces, the text is left. -/
theorem map_char_glyphs : (glyphs c d).map (·.char) = (spell c d).toList := by
  induction d with
  | nil => rfl
  | cons p d ih =>
    have hsplit : glyphs c (p :: d) = p.glyphs c ++ glyphs c d := rfl
    rw [hsplit, List.map_append, ih, spell_cons, String.toList_append]
    simp [Piece.glyphs, Function.comp_def]

variable {c d}

theorem exists_glyph_of_end {a : Char}
    (h : a ∈ (spell c d).toList.head? ∨ a ∈ (spell c d).toList.getLast?) :
    ∃ x : Glyph, (x ∈ (glyphs c d).head? ∨ x ∈ (glyphs c d).getLast?) ∧ x.char = a := by
  rw [← map_char_glyphs, List.head?_map, List.getLast?_map] at h
  rcases h with hhead | hlast
  · obtain ⟨x, hx, rfl⟩ := Option.map_eq_some_iff.mp hhead
    exact ⟨x, .inl hx, rfl⟩
  · obtain ⟨x, hx, rfl⟩ := Option.map_eq_some_iff.mp hlast
    exact ⟨x, .inr hx, rfl⟩

theorem exists_glyphs_of_infix {a b : Char} (h : [a, b] <:+: (spell c d).toList) :
    ∃ x y : Glyph, [x, y] <:+: glyphs c d ∧ x.char = a ∧ y.char = b := by
  rw [← map_char_glyphs, List.infix_map_iff] at h
  obtain ⟨g, hg, hchars⟩ := h
  obtain ⟨x, y, rfl⟩ := List.length_eq_two.mp (by simpa using congrArg List.length hchars.symm)
  obtain ⟨rfl, rfl⟩ : a = x.char ∧ b = y.char := by simpa using hchars
  exact ⟨x, y, hg, rfl, rfl⟩

end Doc

open Glyph

theorem Piece.piece_of_mem_glyphs {c : Setting} {p : Piece} {x : Glyph} (h : x ∈ p.glyphs c) :
    x.piece = p := by
  obtain ⟨a, -, rfl⟩ := List.mem_map.mp h
  rfl

section
variable {c : Setting} {d sep opening closing : Doc}

private theorem Doc.of_mem_glyphs {x : Glyph} (h : x ∈ d.glyphs c) :
    x.piece ∈ d ∧ x.char ∈ (x.piece.render c).toList := by
  obtain ⟨p, hp, hx⟩ := List.mem_flatMap.mp h
  obtain ⟨a, ha, rfl⟩ := List.mem_map.mp hx
  exact ⟨hp, ha⟩

/-- Where nothing else writes the marks, they are known by their characters. -/
theorem Doc.char_eq_mark_iff (hmarks : c.whitespace ≠ c.separator)
    (hfree : ∀ p ∈ d, p.isMark = false →
      c.whitespace ∉ (p.render c).toList ∧ c.separator ∉ (p.render c).toList)
    {x : Glyph} (hx : x ∈ d.glyphs c) :
    (x.char = c.whitespace ↔ x.piece = .whitespace) ∧
      (x.char = c.separator ↔ x.piece = .separator) := by
  obtain ⟨p, a⟩ := x
  obtain ⟨hp, ha⟩ : p ∈ d ∧ a ∈ (p.render c).toList := of_mem_glyphs hx
  cases hmark : p.isMark with
  | true =>
    cases p with
    | whitespace =>
      obtain rfl : a = c.whitespace := by simpa [Piece.render] using ha
      simpa using hmarks
    | separator =>
      obtain rfl : a = c.separator := by simpa [Piece.render] using ha
      simpa using hmarks.symm
    | _ => cases hmark
  | false =>
    obtain ⟨hwhitespace, hseparator⟩ := hfree p hp hmark
    have hchar : a ≠ c.whitespace ∧ a ≠ c.separator := by
      constructor <;> rintro rfl <;> contradiction
    have hpiece : p ≠ .whitespace ∧ p ≠ .separator := by
      constructor <;> rintro rfl <;> cases hmark
    simp [hchar, hpiece]

theorem Doc.isMark_of_char (hmarks : c.whitespace ≠ c.separator)
    (hfree : ∀ p ∈ d, p.isMark = false →
      c.whitespace ∉ (p.render c).toList ∧ c.separator ∉ (p.render c).toList)
    {x : Glyph} (hx : x ∈ d.glyphs c) (h : x.char = c.whitespace ∨ x.char = c.separator) :
    x.isMark = true := by
  obtain ⟨hwhitespace, hseparator⟩ := char_eq_mark_iff hmarks hfree hx
  rw [hwhitespace, hseparator] at h
  rcases h with hpiece | hpiece <;> rw [isMark, hpiece] <;> rfl

@[simp] theorem glyphs_space : space.glyphs c = [⟨.whitespace, c.whitespace⟩] := by
  simp [glyphs, space, Piece.glyphs, Piece.render]

@[simp] theorem glyphs_separator : separator.glyphs c = [⟨.separator, c.separator⟩] := by
  simp [glyphs, separator, Piece.glyphs, Piece.render]

@[simp] theorem glyphs_text (s : String) :
    (text s).glyphs c = s.toList.map (⟨.text s, ·⟩) := by
  simp [glyphs, text, Piece.glyphs, Piece.render]

theorem Divider.between (h : Divider sep) : Between c.quote (sep.glyphs c) := by
  have hbreak : Fits c.quote ⟨.text "\n", '\n'⟩ ⟨.text "\t", '\t'⟩ := fits_of_unmarked rfl rfl
  cases h with
  | space =>
    rw [glyphs_space]
    refine ⟨fun hx hy => ?_, fun _ h => ⟨by simp, h⟩⟩
    simp [fits_of_ends hx, fits_of_starts _ hy]
  | comma =>
    have hmarks : Fits c.quote ⟨.separator, c.separator⟩ ⟨.whitespace, c.whitespace⟩ := by
      simp [Fits, isMark, isOpening, isClosing, isSet]
    rw [Doc.comma, glyphs_append, glyphs_separator, glyphs_space]
    refine ⟨fun hx hy => ?_, fun {y rest} hy h => ⟨fun _ => ?_, by simp, h⟩⟩
    · simp [fits_of_ends hx, hmarks, fits_of_starts _ hy]
    · exact ⟨[⟨.whitespace, c.whitespace⟩], y, rest, rfl, hy, by simp⟩
  | dot =>
    have hdot : Doc.glyphs c SqlTree.dot = [⟨.text ".", '.'⟩] := by simp [SqlTree.dot]
    rw [hdot]
    refine ⟨fun hx hy => ?_, fun _ h => ⟨by simp, h⟩⟩
    simp [fits_of_ends hx, fits_of_starts _ hy]
  | line =>
    have hline : Doc.glyphs c (text "\n" ++ text "\t") =
        [⟨.text "\n", '\n'⟩, ⟨.text "\t", '\t'⟩] := by simp
    rw [hline]
    refine ⟨fun hx hy => ?_, fun _ h => ⟨by simp, by simp, h⟩⟩
    simp [fits_of_ends hx, hbreak, fits_of_starts _ hy]
  | commaLine =>
    have hline : Doc.glyphs c (separator ++ text "\n" ++ text "\t") =
        [⟨.separator, c.separator⟩, ⟨.text "\n", '\n'⟩, ⟨.text "\t", '\t'⟩] := by simp
    have hmark : Fits c.quote ⟨.separator, c.separator⟩ ⟨.text "\n", '\n'⟩ := by
      simp [Fits, isMark, isClosing, Piece.isMark, isCloser]
    rw [hline]
    refine ⟨fun hx hy => ?_, fun {y rest} hy h => ⟨fun _ => ?_, by simp, by simp, h⟩⟩
    · simp [fits_of_ends hx, hmark, hbreak, fits_of_starts _ hy]
    · exact ⟨[⟨.text "\n", '\n'⟩, ⟨.text "\t", '\t'⟩], y, rest, rfl, hy, by simp⟩

theorem Bracket.frame (h : Bracket opening closing) :
    Frame c.quote (opening.glyphs c) (closing.glyphs c) := by
  have hopen : Starts c.quote ⟨.text "(", '('⟩ := ⟨rfl, rfl⟩
  have hclose : Ends c.quote ⟨.text ")", ')'⟩ := ⟨rfl, rfl⟩
  have hopenSquare : Starts c.quote ⟨.text "[", '['⟩ := ⟨rfl, rfl⟩
  have hcloseSquare : Ends c.quote ⟨.text "]", ']'⟩ := ⟨rfl, rfl⟩
  cases h with
  | paren =>
    refine ⟨by simp, by simp, ?_, by simp [hopen], by simp [hclose]⟩
    simp [isMark, Piece.isMark]
  | square =>
    refine ⟨by simp, by simp, ?_, by simp [hopenSquare], by simp [hcloseSquare]⟩
    simp [isMark, Piece.isMark]
  | block =>
    refine ⟨by simp, by simp, ?_, by simp [hopen], by simp [hclose]⟩
    simp [isMark, Piece.isMark]

end
end SqlTree
