import SqlTree.Proofs.Phrase.Construct
import SqlTree.Proofs.Quoted
import SqlTree.Proofs.Rendering

/-! Configurations decide how a text looks and nothing else: every output is one list of marks,
which a configuration replaces one by one. -/
namespace SqlTree
open Doc

inductive Mark where
  | whitespace
  | separator
  /-- A name before any quoting. -/
  | name (i : Ident)
  /-- A text that a node brings along. -/
  | fixed (s : String)
  /-- A text of the caller; literals stand in their quotes. -/
  | given (s : String)
  deriving DecidableEq

namespace Mark

def spell (c : Setting) : Mark → String
  | whitespace => c.whitespace.toString
  | separator => c.separator.toString
  | name i => i.escape c.quote c.alphabet
  | fixed s => s
  | given s => s

/-- Whether a mark comes from the caller. -/
def isGiven : Mark → Bool
  | name _ => true
  | given _ => true
  | _ => false

end Mark

/-- The digits of binary data are not taken from the caller as they are. -/
def Atom.mark? : Atom → Option Mark
  | .name i => some (.name i)
  | .text s => some (.given (Text.Quoted.literal s))
  | .bytes _ => none
  | .verbatim s => some (.given s)

/-- No separator and no quote of a name. -/
def Neutral (s : String) : Prop :=
  ',' ∉ s.toList ∧ '\x60' ∉ s.toList ∧ '"' ∉ s.toList

private theorem Unreserved.neutral {s : String} (h : Unreserved s) : Neutral s :=
  ⟨h.not_mem rfl, h.not_mem rfl, h.not_mem rfl⟩

private theorem Neutral.literal {s : String} (h : Neutral s) : Neutral (Text.Quoted.literal s) := by
  have hmem : ∀ c ≠ '\x27', c ∉ s.toList → c ∉ (Text.Quoted.literal s).toList := by
    intro c hc hs hl
    simp only [Text.Quoted.literal, Text.Quoted.enclose, String.toList_ofList, List.cons_append,
      List.mem_cons, List.mem_append, List.not_mem_nil, or_false] at hl
    obtain hl | hl | hl := hl
    · exact hc hl
    · exact hs (Text.Quoted.mem_double.mp hl)
    · exact hc hl
  obtain ⟨hcomma, hback, hdouble⟩ := h
  refine ⟨hmem _ (by decide) hcomma, hmem _ (by decide) hback, hmem _ (by decide) hdouble⟩

/-- The marks of a document that says some atoms. What comes from the caller comes from an atom, and
nothing is left out unless the document fails. -/
structure Doc.Marked (d : Doc) (as : List Atom) (marks : List Mark) : Prop where
  spell_eq (c : Setting) : d.spell c = String.join (marks.map (·.spell c))
  neutral (s : String) : .fixed s ∈ marks → Neutral s
  sublist : (marks.filter (·.isGiven)).Sublist (as.filterMap Atom.mark?)
  complete : d.failure? = none → marks.filter (·.isGiven) = as.filterMap Atom.mark?

namespace Doc.Marked
variable {d e : Doc} {as bs : List Atom} {ms ns : List Mark}

private theorem append (hd : d.Marked as ms) (he : e.Marked bs ns) :
    (d ++ e).Marked (as ++ bs) (ms ++ ns) := by
  refine ⟨?_, ?_, ?_, ?_⟩
  · intro c
    simp [spell_append, hd.spell_eq, he.spell_eq]
  · intro s hs
    exact (List.mem_append.mp hs).elim (hd.neutral s) (he.neutral s)
  · rw [List.filter_append, List.filterMap_append]
    exact hd.sublist.append he.sublist
  · intro hf
    rw [failure?_append, Option.or_eq_none_iff] at hf
    rw [List.filter_append, List.filterMap_append, hd.complete hf.1, he.complete hf.2]

/-- One piece, one mark. -/
private theorem single {p : Piece} {m : Mark} (hspell : ∀ c, p.render c = m.spell c)
    (hneutral : ∀ s, m = .fixed s → Neutral s)
    (hgiven : [m].filter (·.isGiven) = as.filterMap Atom.mark?) : Doc.Marked [p] as [m] := by
  refine ⟨?_, ?_, ?_, fun _ => hgiven⟩
  · intro c
    simp [Doc.spell, hspell]
  · intro s hs
    exact hneutral s (List.mem_singleton.mp hs).symm
  · exact hgiven ▸ List.Sublist.refl _

/-- A document that fails says nothing that would have to be complete. -/
private theorem fail (e : RenderError) (as : List Atom) : (Doc.fail e).Marked as [] := by
  refine ⟨fun c => by simp, by simp, List.nil_sublist _, ?_⟩
  intro hf
  simp at hf

private theorem text {s : String} (hs : Unreserved s) : (Doc.text s).Marked [] [.fixed s] := by
  refine single (fun _ => rfl) ?_ rfl
  rintro t ⟨⟩
  exact hs.neutral

private theorem of_fixed (hd : Fixed d) : ∃ ms, d.Marked [] ms := by
  induction d with
  | nil => exact ⟨[], fun c => by simp, by simp, List.Sublist.refl _, fun _ => rfl⟩
  | cons p d ih =>
    obtain ⟨ms, hms⟩ := ih fun p' hp => hd p' (List.mem_cons_of_mem p hp)
    have hfirst : ∃ m, Doc.Marked [p] [] [m] := by
      obtain rfl | rfl | ⟨s, hs, rfl⟩ := hd p List.mem_cons_self
      · exact ⟨.whitespace, single (fun _ => rfl) (fun _ h => by cases h) rfl⟩
      · exact ⟨.separator, single (fun _ => rfl) (fun _ h => by cases h) rfl⟩
      · exact ⟨.fixed s, text hs.unreserved⟩
    obtain ⟨m, hm⟩ := hfirst
    exact ⟨m :: ms, hm.append hms⟩

end Doc.Marked

/-- Every phrase is a list of marks, with the texts of its atoms among them in order. -/
theorem Phrase.marked {d : Doc} {as : List Atom} (h : Phrase d as) : ∃ ms, d.Marked as ms := by
  induction h with
  | word hs => exact ⟨_, .text hs.unreserved⟩
  | name i => exact ⟨[.name i], .single (fun _ => rfl) (fun _ h => by cases h) rfl⟩
  | literal s =>
    exact ⟨[.given (Text.Quoted.literal s)], .single (fun _ => rfl) (fun _ h => by cases h) rfl⟩
  | bytes bs =>
    have hx : (text "X").Marked [] [.fixed "X"] := .text (.ofList rfl)
    have hhex : (Doc.literal (upperHex bs)).Marked [.bytes bs]
        [.fixed (Text.Quoted.literal (upperHex bs))] := by
      refine .single (fun _ => rfl) ?_ rfl
      rintro s ⟨⟩
      exact (upperHex_unreserved bs).neutral.literal
    exact ⟨_, hx.append hhex⟩
  | verbatim s => exact ⟨[.given s], .single (fun _ => rfl) (fun _ h => by cases h) rfl⟩
  | failure e as => exact ⟨[], .fail e as⟩
  | @breakOff d as e _ ih =>
    obtain ⟨ms, hms⟩ := ih
    have hall := hms.append (.fail e [])
    rw [List.append_nil] at hall
    exact ⟨_, hall⟩
  | join hsep _ _ ihd ihe =>
    obtain ⟨ms, hms⟩ := ihd
    obtain ⟨ns, hns⟩ := ihe
    obtain ⟨between, hbetween⟩ := Doc.Marked.of_fixed hsep.fixed.1
    have hall := (hms.append hbetween).append hns
    rw [List.append_nil] at hall
    exact ⟨_, hall⟩
  | enclose hb _ ih =>
    obtain ⟨ms, hms⟩ := ih
    obtain ⟨before, hbefore⟩ := Doc.Marked.of_fixed hb.fixed.1
    obtain ⟨behind, hbehind⟩ := Doc.Marked.of_fixed hb.fixed.2.1
    have hall := (hbefore.append hms).append hbehind
    rw [List.append_nil, List.nil_append] at hall
    exact ⟨_, hall⟩
  | hollow hb => exact Doc.Marked.of_fixed (hb.fixed.1.append hb.fixed.2.1)
  | call function _ ih =>
    obtain ⟨ms, hms⟩ := ih
    have hname : (Doc.verbatim function).Marked [.verbatim function] [.given function] :=
      .single (fun _ => rfl) (fun _ h => by cases h) rfl
    exact ⟨_, hname.append hms⟩
  | follow _ _ _ ihd ihe =>
    obtain ⟨ms, hms⟩ := ihd
    obtain ⟨ns, hns⟩ := ihe
    exact ⟨_, hms.append hns⟩

/-- One list of marks and one error answer for every configuration. Fixed marks hold no separators
and no quotes of names, and the other ones are the texts and names of the tree in their order. -/
theorem Construct.render_eq_marks (n : Construct) :
    ∃ (marks : List Mark) (error : Option RenderError),
      (∀ c : Setting,
        n.doc.render c = error.elim (.ok (String.join (marks.map (·.spell c)))) .error) ∧
      (∀ s, .fixed s ∈ marks → Neutral s) ∧
      (marks.filter (·.isGiven)).Sublist (n.atoms.filterMap Atom.mark?) ∧
      (error = none → marks.filter (·.isGiven) = n.atoms.filterMap Atom.mark?) := by
  have hmarked : ∃ marks, n.doc.Marked n.atoms marks := by
    obtain hphrase | ⟨hdoc, hatoms⟩ := n.phrase
    · exact hphrase.marked
    · have hnothing : Fixed [] := fun _ h => by cases h
      rw [hdoc, hatoms]
      exact Doc.Marked.of_fixed hnothing
  obtain ⟨marks, hmarks⟩ := hmarked
  refine ⟨marks, n.doc.failure?, ?_, hmarks.neutral, hmarks.sublist, hmarks.complete⟩
  intro c
  rw [render_eq, hmarks.spell_eq]

end SqlTree
