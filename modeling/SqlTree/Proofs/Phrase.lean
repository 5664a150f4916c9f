import SqlTree.Proofs.Atom
import SqlTree.Proofs.Word

/-! The grammar of documents. A phrase starts and ends with something to say, and its parts are
kept apart by dividers and brackets. -/
namespace SqlTree
open Doc

/-- What stands between two parts of a phrase. -/
inductive Divider : Doc → Prop where
  | space : Divider space
  | comma : Divider comma
  | dot : Divider dot
  | line : Divider (text "\n" ++ text "\t")
  | commaLine : Divider (separator ++ text "\n" ++ text "\t")

/-- What stands around a phrase. -/
inductive Bracket : Doc → Doc → Prop where
  | paren : Bracket (text "(") (text ")")
  | square : Bracket (text "[") (text "]")
  | block : Bracket (text "(" ++ text "\n" ++ text "\t") (text "\n" ++ text ")")

/-- Documents that hold nothing of the caller's. -/
def Doc.Fixed (d : Doc) : Prop :=
  ∀ p ∈ d, p = .whitespace ∨ p = .separator ∨ ∃ s, Sign s ∧ p = .text s

namespace Doc.Fixed
variable {d e : Doc}

theorem append (hd : Fixed d) (he : Fixed e) : Fixed (d ++ e) := by
  intro p hp
  rw [List.mem_append] at hp
  exact hp.elim (hd p) (he p)

theorem space : Fixed Doc.space := by
  intro p hp
  exact .inl (List.mem_singleton.mp hp)

theorem separator : Fixed Doc.separator := by
  intro p hp
  exact .inr (.inl (List.mem_singleton.mp hp))

theorem sign {s : String} (hs : Sign s) : Fixed (Doc.text s) := by
  intro p hp
  exact .inr (.inr ⟨s, hs, List.mem_singleton.mp hp⟩)

end Doc.Fixed

theorem Divider.fixed {sep : Doc} (h : Divider sep) : Fixed sep ∧ sep ≠ [] := by
  have hnewline : Fixed (text "\n") := .sign (.ofList rfl)
  have htab : Fixed (text "\t") := .sign (.ofList rfl)
  cases h with
  | space => exact ⟨.space, List.cons_ne_nil _ _⟩
  | comma => exact ⟨.append .separator .space, List.cons_ne_nil _ _⟩
  | dot => exact ⟨.sign (.ofList rfl), List.cons_ne_nil _ _⟩
  | line => exact ⟨.append hnewline htab, List.cons_ne_nil _ _⟩
  | commaLine => exact ⟨.append (.append .separator hnewline) htab, List.cons_ne_nil _ _⟩

theorem Bracket.fixed {opening closing : Doc} (h : Bracket opening closing) :
    Fixed opening ∧ Fixed closing ∧ closing ≠ [] := by
  have hnewline : Fixed (text "\n") := .sign (.ofList rfl)
  have htab : Fixed (text "\t") := .sign (.ofList rfl)
  have hopen : Fixed (text "(") := .sign (.ofList rfl)
  have hclose : Fixed (text ")") := .sign (.ofList rfl)
  cases h with
  | paren => exact ⟨hopen, hclose, List.cons_ne_nil _ _⟩
  | square => exact ⟨.sign (.ofList rfl), .sign (.ofList rfl), List.cons_ne_nil _ _⟩
  | block =>
    exact ⟨.append (.append hopen hnewline) htab, .append hnewline hclose, List.cons_ne_nil _ _⟩

/-- The phrases that say some atoms. A document that fails has no text, so it may stand for
any atoms. -/
inductive Phrase : Doc → List Atom → Prop where
  | word {s : String} : Word s → Phrase (text s) []
  | name (i : Ident) : Phrase (ident i) [.name i]
  | literal (s : String) : Phrase (literal s) [.text s]
  | bytes (bs : List UInt8) : Phrase (text "X" ++ literal (upperHex bs)) [.bytes bs]
  | verbatim (s : String) : Phrase (verbatim s) [.verbatim s]
  | failure (e : RenderError) (as : List Atom) : Phrase (fail e) as
  | breakOff {d : Doc} {as : List Atom} (e : RenderError) : Phrase d as → Phrase (d ++ fail e) as
  | join {d sep e : Doc} {as bs : List Atom} :
      Divider sep → Phrase d as → Phrase e bs → Phrase (d ++ sep ++ e) (as ++ bs)
  | enclose {opening d closing : Doc} {as : List Atom} :
      Bracket opening closing → Phrase d as → Phrase (opening ++ d ++ closing) as
  | hollow {opening closing : Doc} : Bracket opening closing → Phrase (opening ++ closing) []
  /-- The name of a function before its arguments. -/
  | call {e : Doc} {as : List Atom} (function : String) :
      Phrase (paren e) as → Phrase (verbatim function ++ paren e) ([.verbatim function] ++ as)
  /-- Only a sign may follow without a divider, and only after a fixed text. -/
  | follow {d e : Doc} {k s : String} {as bs : List Atom} :
      Phrase (d ++ text k) as → Sign s → Phrase (.text s :: e) bs →
      Phrase (d ++ text k ++ .text s :: e) (as ++ bs)

/-- The phrases of a list and what they say one after the other. -/
inductive Phrases : List Doc → List Atom → Prop where
  | nil : Phrases [] []
  | cons {d : Doc} {ds : List Doc} {as bs : List Atom} :
      Phrase d as → Phrases ds bs → Phrases (d :: ds) (as ++ bs)

section
variable {α : Type} {d e sep : Doc} {ds es : List Doc} {as bs cs : List Atom}

namespace Phrases

theorem append (hd : Phrases ds as) (he : Phrases es bs) : Phrases (ds ++ es) (as ++ bs) := by
  induction hd with
  | nil => exact he
  | cons h _ ih =>
    rw [List.append_assoc]
    exact .cons h ih

theorem single (h : Phrase d as) : Phrases [d] as := by
  simpa using Phrases.cons h .nil

theorem map {f : α → Doc} {g : α → List Atom} (xs : List α) (h : ∀ x, Phrase (f x) (g x)) :
    Phrases (xs.map f) (xs.flatMap g) := by
  induction xs with
  | nil => exact .nil
  | cons x xs ih => exact .cons (h x) ih

theorem names (is : List Ident) : Phrases (is.map ident) (is.map .name) := by
  induction is with
  | nil => exact .nil
  | cons i is ih => exact .cons (.name i) ih

theorem fixed {f : α → Doc} (xs : List α) (h : ∀ x ∈ xs, Phrase (f x) []) :
    Phrases (xs.map f) [] := by
  induction xs with
  | nil => exact .nil
  | cons x xs ih =>
    have hx := h x List.mem_cons_self
    exact .cons hx (ih fun y hy => h y (List.mem_cons_of_mem x hy))

theorem option {f : α → Doc} {g : α → List Atom} (v : Option α) (h : ∀ a, Phrase (f a) (g a)) :
    Phrases (v.map f).toList (v.elim [] g) := by
  cases v with
  | none => exact .nil
  | some a => exact single (h a)

private theorem joined_from (hs : Divider sep) (hd : Phrase d as) (h : Phrases ds bs) :
    Phrase (d ++ ds.flatMap (sep ++ ·)) (as ++ bs) := by
  induction h generalizing d as with
  | nil => simpa using hd
  | cons he _ ih => simpa using ih (.join hs hd he)

theorem joined (hs : Divider sep) (h : Phrases ds as) (hne : ds ≠ []) :
    Phrase (joined sep ds) as := by
  cases h with
  | nil => exact absurd rfl hne
  | cons hd h => exact joined_from hs hd h

theorem joined_or_nil (hs : Divider sep) (h : Phrases ds as) :
    Phrase (Doc.joined sep ds) as ∨ Doc.joined sep ds = [] ∧ as = [] := by
  cases h with
  | nil => exact .inr ⟨rfl, rfl⟩
  | cons hd h => exact .inl (joined_from hs hd h)

end Phrases

namespace Phrase

/-- A keyword that says nothing of the caller's before the rest. -/
theorem lead (hd : Phrase d []) (he : Phrase e as) : Phrase (d ++ space ++ e) as :=
  .join .space hd he

theorem trail (hd : Phrase d as) (he : Phrase e []) : Phrase (d ++ space ++ e) as := by
  simpa using Phrase.join .space hd he

theorem keyword [Spelled α] [SpelledByWords α] (a : α) : Phrase (keyword a) [] :=
  .word (SpelledByWords.word a)

theorem int (n : Int64) : Phrase (int n) [] := .word (Decimal.integer_word _)

theorem uint (n : UInt64) : Phrase (uint n) [] := .word (Decimal.repr_word _)

theorem float (x : Float) : Phrase (float x) [] := by
  unfold Doc.float
  split
  · rename_i h
    exact .word (Decimal.float_word h)
  · exact .failure _ _

theorem paren (h : Phrase d as) : Phrase (paren d) as := .enclose .paren h

theorem thenParen {k : String} (hd : Phrase (text k) as) (he : Phrase (Doc.paren e) bs) :
    Phrase (text k ++ Doc.paren e) (as ++ bs) :=
  .follow (d := []) hd (.ofList rfl) he

theorem thenBracket {k : String} (hd : Phrase (d ++ text k) as) (he : Phrase (bracket e) bs) :
    Phrase (d ++ text k ++ bracket e) (as ++ bs) :=
  .follow hd (.ofList rfl) he

theorem parenJoined (hs : Divider sep) (h : Phrases ds as) :
    Phrase (Doc.paren (joined sep ds)) as := by
  cases h with
  | nil => exact .hollow .paren
  | cons hd h => exact paren (Phrases.joined hs (.cons hd h) (by simp))

theorem required (node child : String) (h : Phrases ds as) :
    Phrase (required node child ds) as := by
  cases h with
  | nil => exact .failure _ _
  | cons hd h => exact Phrases.joined .comma (.cons hd h) (by simp)

theorem requiredPart {v : Option α} {f : α → Doc} {g : α → List Atom} (node child : String)
    (h : ∀ a, Phrase (f a) (g a)) : Phrase (requiredPart node child v f) (v.elim [] g) := by
  cases v with
  | none => exact .failure _ _
  | some a => exact h a

theorem after {v : Option α} {f : α → Doc} {g : α → List Atom} (hd : Phrase d as)
    (h : ∀ a, Phrase (f a) (g a)) : Phrase (d ++ after v f) (as ++ v.elim [] g) := by
  cases v with
  | none => simpa [Doc.after, Doc.optional] using hd
  | some a => simpa [Doc.after, Doc.optional] using Phrase.join .space hd (h a)

theorem afterFixed {v : Option α} {f : α → Doc} (hd : Phrase d as)
    (h : ∀ a ∈ v, Phrase (f a) []) : Phrase (d ++ Doc.after v f) as := by
  cases v with
  | none => simpa [Doc.after, Doc.optional] using hd
  | some a => simpa [Doc.after, Doc.optional] using trail hd (h a rfl)

theorem clause {k : String} {v : Option α} {f : α → Doc} {g : α → List Atom} (hd : Phrase d as)
    (hk : Word k) (h : ∀ a, Phrase (f a) (g a)) :
    Phrase (d ++ clause k v f) (as ++ v.elim [] g) :=
  after hd fun a => lead (.word hk) (h a)

theorem clauseFixed {k : String} {v : Option α} {f : α → Doc} (hd : Phrase d as) (hk : Word k)
    (h : ∀ a, Phrase (f a) []) : Phrase (d ++ Doc.clause k v f) as :=
  afterFixed hd fun a _ => lead (.word hk) (h a)

theorem listClause {k : String} (hd : Phrase d as) (hk : Word k) (h : Phrases ds bs) :
    Phrase (d ++ listClause k ds) (as ++ bs) := by
  cases h with
  | nil => simpa [Doc.listClause, Doc.phrase, Doc.after, Doc.optional] using hd
  | cons he h =>
    have hl := Phrases.joined .comma (.cons he h) (by simp)
    have hc := Phrase.join .space hd (lead (.word hk) hl)
    simpa [Doc.listClause, Doc.phrase, Doc.after, Doc.optional, Doc.list] using hc

theorem afterParens (hd : Phrase d as) (h : Phrases ds bs) :
    Phrase (d ++ afterParens ds) (as ++ bs) := by
  cases h with
  | nil => simpa [Doc.afterParens] using hd
  | cons he h =>
    have hp := Phrase.join .space hd (parenJoined .comma (.cons he h))
    simpa [Doc.afterParens, list] using hp

theorem trailing (hd : Phrase d as) (h : Phrases ds bs) : Phrase (d ++ trailing ds) (as ++ bs) :=
  Phrases.joined_from .space hd h

/-- An optional part that brings its own divider before the rest. -/
theorem before {v : Option α} {f : α → Doc} {g : α → List Atom} (hs : Divider sep)
    (h : ∀ a, Phrase (f a) (g a)) (he : Phrase e bs) :
    Phrase (optional v (f · ++ sep) ++ e) (v.elim [] g ++ bs) := by
  cases v with
  | none => exact he
  | some a => exact .join hs (h a) he

theorem beforeFixed {v : Option α} {f : α → Doc} (hs : Divider sep)
    (h : ∀ a ∈ v, Phrase (f a) []) (he : Phrase e bs) :
    Phrase (optional v (f · ++ sep) ++ e) bs := by
  cases v with
  | none => exact he
  | some a => exact .join hs (h a rfl) he

/-- A keyword that stands before the rest on a condition. -/
theorem mark {k : String} {b : Bool} (hk : Word k) (he : Phrase e bs) :
    Phrase ((if b then text k ++ space else []) ++ e) bs := by
  cases b with
  | false => exact he
  | true => exact lead (.word hk) he

/-- Each item on a line of its own after the first words. -/
theorem lines (hd : Phrase d as) (h : Phrases ds bs) : Phrase (d ++ lines ds) (as ++ bs) := by
  cases h with
  | nil => simpa [Doc.lines] using hd
  | cons he h =>
    have hl := Phrases.joined_from .commaLine (Phrase.join .line hd he) h
    simpa [Doc.lines, Doc.lines.line] using hl

theorem block (h : Phrases ds as) : Phrase (block ds) as := by
  cases h with
  | nil => exact .hollow .paren
  | cons hd h =>
    have hl := Phrases.joined_from .commaLine hd h
    simpa [Doc.block, Doc.paren, Doc.lines, Doc.lines.line] using Phrase.enclose .block hl

end Phrase

end
end SqlTree
