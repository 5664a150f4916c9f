import SqlTree.Proofs.Decoder
import SqlTree.Proofs.Path

/-! Texts that tell what was written. Two texts that agree, whatever is written behind them, were
written for the same thing and end at the same place; the laws here put such texts together. -/
namespace SqlTree

/-- If `cs` and `ds` begin the same text and `F` holds of what follows, then `P` holds and the same
follows. -/
def Tells (F : List Char → Prop) (P : Prop) (cs ds : List Char) : Prop :=
  ∀ r s, F r → F s → cs ++ r = ds ++ s → P ∧ r = s

/-- A text is over or goes on with one of `starts`. -/
def Continues (starts : List String) (cs : List Char) : Prop :=
  cs = [] ∨ ∃ s ∈ starts, s.toList <+: cs

/-- Neither text begins with the other. -/
def Differ (cs ds : List Char) : Prop :=
  ¬ cs <+: ds ∧ ¬ ds <+: cs

instance (cs ds : List Char) : Decidable (Differ cs ds) :=
  inferInstanceAs (Decidable (_ ∧ _))

/-- The text is not empty, and `p` holds of its first character. -/
def Begins (p : Char → Prop) : List Char → Prop
  | [] => False
  | c :: _ => p c

instance (p : Char → Prop) [DecidablePred p] : DecidablePred (Begins p)
  | [] => inferInstanceAs (Decidable False)
  | c :: _ => inferInstanceAs (Decidable (p c))

theorem Differ.not_isPrefix {cs ds es : List Char} (h : Differ cs ds) (hcs : cs <+: es) :
    ¬ ds <+: es := by
  intro hds
  exact (List.prefix_or_prefix_of_prefix hcs hds).elim h.1 h.2

namespace Continues
variable {starts others : List String} {s k : String} {cs : List Char}

theorem nil : Continues starts [] := .inl rfl

theorem append (h : s ∈ starts) (cs : List Char) : Continues starts (s.toList ++ cs) :=
  .inr ⟨s, h, List.prefix_append _ _⟩

theorem mono (h : Continues starts cs)
    (hall : ∀ s ∈ starts, ∃ t ∈ others, t.toList <+: s.toList) : Continues others cs := by
  obtain rfl | ⟨s, hs, hcs⟩ := h
  · exact nil
  · obtain ⟨t, ht, hts⟩ := hall s hs
    exact .inr ⟨t, ht, hts.trans hcs⟩

theorem head {p : Char → Prop} (h : Continues starts cs)
    (hall : ∀ s ∈ starts, Begins p s.toList) : ∀ c ∈ cs.head?, p c := by
  obtain rfl | ⟨s, hs, t, rfl⟩ := h
  · simp
  · have hbegins := hall s hs
    intro d hd
    cases hcs : s.toList with
    | nil =>
      rw [hcs] at hbegins
      exact hbegins.elim
    | cons c cs =>
      rw [hcs] at hbegins hd
      obtain rfl : c = d := by simpa using hd
      exact hbegins

/-- A text with another beginning is not a continuation. -/
theorem not_append (hk : k ≠ "") (hall : ∀ s ∈ starts, Differ k.toList s.toList) (cs : List Char) :
    ¬ Continues starts (k.toList ++ cs) := by
  rintro (h | ⟨s, hs, hcs⟩)
  · simp [hk] at h
  · exact (hall s hs).not_isPrefix (List.prefix_append _ _) hcs

/-- An optional part is one more way to go on. -/
theorem option {α : Type} {f : α → List Char} (h : Continues starts cs) (v : Option α) :
    Continues (k :: starts) (v.elim [] (k.toList ++ f ·) ++ cs) := by
  cases v with
  | none =>
    obtain rfl | ⟨s, hs, hcs⟩ := h
    · exact nil
    · exact .inr ⟨s, List.mem_cons_of_mem k hs, hcs⟩
  | some a =>
    rw [Option.elim_some, List.append_assoc]
    exact append List.mem_cons_self _

end Continues

namespace Tells
variable {α β : Type} {F G : List Char → Prop} {P Q : Prop} {cs cs' ds ds' : List Char}

theorem mono (h : Tells F P cs ds) (hF : ∀ r, G r → F r) : Tells G P cs ds :=
  fun r s hr hs => h r s (hF r hr) (hF s hs)

theorem imp (h : Tells F P cs ds) (hPQ : P → Q) : Tells F Q cs ds := by
  intro r s hr hs he
  obtain ⟨hP, hrs⟩ := h r s hr hs he
  exact ⟨hPQ hP, hrs⟩

theorem append (hc : Tells G P cs ds) (hd : Tells F Q cs' ds') (hcs : ∀ r, F r → G (cs' ++ r))
    (hds : ∀ r, F r → G (ds' ++ r)) : Tells F (P ∧ Q) (cs ++ cs') (ds ++ ds') := by
  intro r s hr hs h
  rw [List.append_assoc, List.append_assoc] at h
  obtain ⟨hP, h⟩ := hc _ _ (hcs r hr) (hds s hs) h
  obtain ⟨hQ, h⟩ := hd r s hr hs h
  exact ⟨⟨hP, hQ⟩, h⟩

theorem behind (h : Tells F P cs ds) (es : List Char) : Tells F P (es ++ cs) (es ++ ds) := by
  intro r s hr hs he
  rw [List.append_assoc, List.append_assoc] at he
  exact h r s hr hs (List.append_cancel_left he)

theorem before (h : Tells G P cs ds) (es : List Char) (hes : ∀ r, F r → G (es ++ r)) :
    Tells F P (cs ++ es) (ds ++ es) := by
  intro r s hr hs he
  rw [List.append_assoc, List.append_assoc] at he
  obtain ⟨hP, he⟩ := h _ _ (hes r hr) (hes s hs) he
  exact ⟨hP, List.append_cancel_left he⟩

/-- Whether an optional part is there is told by its first characters. -/
theorem option {starts : List String} {k : String} {f f' : α → List Char} {g g' : α → β}
    {v w : Option α} (hk : k ≠ "") (hstarts : ∀ s ∈ starts, Differ k.toList s.toList)
    (h : ∀ a b, Tells (Continues starts) (g a = g' b) (f a) (f' b)) :
    Tells (Continues starts) (v.map g = w.map g') (v.elim [] (k.toList ++ f ·))
      (w.elim [] (k.toList ++ f' ·)) := by
  have hnot := Continues.not_append hk hstarts
  intro r s hr hs he
  cases v with
  | none =>
    cases w with
    | none => exact ⟨rfl, he⟩
    | some b =>
      rw [Option.elim_none, Option.elim_some, List.nil_append, List.append_assoc] at he
      exact absurd (he ▸ hr) (hnot _)
  | some a =>
    cases w with
    | none =>
      rw [Option.elim_none, Option.elim_some, List.nil_append, List.append_assoc] at he
      exact absurd (he ▸ hs) (hnot _)
    | some b =>
      obtain ⟨hab, hrs⟩ := (h a b).behind k.toList r s hr hs he
      exact ⟨congrArg some hab, hrs⟩

/-- Whatever may follow an item follows the first of several ones, too. -/
theorem follows_flatMap {f : α → List Char} (hnext : ∀ x r, G (f x ++ r)) (hend : ∀ r, F r → G r)
    (xs : List α) (r : List Char) (hr : F r) : G (xs.flatMap f ++ r) := by
  cases xs with
  | nil => exact hend r hr
  | cons x xs =>
    rw [List.flatMap_cons, List.append_assoc]
    exact hnext x _

/-- Items one after the other, until something follows that begins no item. -/
theorem flatMap {f : α → List Char} {g : α → β} {xs ys : List α}
    (hitem : ∀ x ∈ xs, ∀ y ∈ ys, Tells G (g x = g y) (f x) (f y))
    (hnot : ∀ x r, ¬ F (f x ++ r)) (hnext : ∀ x r, G (f x ++ r)) (hend : ∀ r, F r → G r) :
    Tells F (xs.map g = ys.map g) (xs.flatMap f) (ys.flatMap f) := by
  have hrest := follows_flatMap hnext hend
  induction xs generalizing ys with
  | nil =>
    cases ys with
    | nil => exact fun r s _ _ he => ⟨rfl, he⟩
    | cons y ys =>
      intro r s hr hs he
      rw [List.flatMap_nil, List.nil_append, List.flatMap_cons, List.append_assoc] at he
      exact absurd (he ▸ hr) (hnot y _)
  | cons x xs ih =>
    cases ys with
    | nil =>
      intro r s hr hs he
      rw [List.flatMap_nil, List.nil_append, List.flatMap_cons, List.append_assoc] at he
      exact absurd (he ▸ hs) (hnot x _)
    | cons y ys =>
      have hhead := hitem x List.mem_cons_self y List.mem_cons_self
      have htail := ih fun x' hx y' hy =>
        hitem x' (List.mem_cons_of_mem x hx) y' (List.mem_cons_of_mem y hy)
      have hall := hhead.append htail (hrest xs) (hrest ys)
      exact hall.imp fun ⟨hxy, hxys⟩ => congrArg₂ List.cons hxy hxys

/-- Items with `sep` between them, until something else follows. -/
theorem separated {f : α → List Char} {g : α → β} {sep : List Char} {x y : α} {xs ys : List α}
    (hitem : ∀ x' ∈ x :: xs, ∀ y' ∈ y :: ys, Tells G (g x' = g y') (f x') (f y'))
    (hnot : ∀ r, ¬ F (sep ++ r)) (hnext : ∀ r, G (sep ++ r)) (hend : ∀ r, F r → G r) :
    Tells F ((x :: xs).map g = (y :: ys).map g) (f x ++ xs.flatMap (sep ++ f ·))
      (f y ++ ys.flatMap (sep ++ f ·)) := by
  have hnot' : ∀ z r, ¬ F (sep ++ f z ++ r) := by
    intro z r
    rw [List.append_assoc]
    exact hnot _
  have hnext' : ∀ z r, G (sep ++ f z ++ r) := by
    intro z r
    rw [List.append_assoc]
    exact hnext _
  have hhead := hitem x List.mem_cons_self y List.mem_cons_self
  have htail : Tells F (xs.map g = ys.map g) (xs.flatMap (sep ++ f ·))
      (ys.flatMap (sep ++ f ·)) :=
    flatMap (fun x' hx y' hy => (hitem x' (List.mem_cons_of_mem x hx) y'
      (List.mem_cons_of_mem y hy)).behind sep) hnot' hnext' hend
  have hrest := follows_flatMap hnext' hend
  exact (hhead.append htail (hrest xs) (hrest ys)).imp
    fun ⟨hxy, hxys⟩ => congrArg₂ List.cons hxy hxys

end Tells

/-- Texts none of which begins with another one are told whatever follows. -/
theorem Tells.of_isPrefix {α : Type} {F : List Char → Prop} {f : α → List Char}
    (h : ∀ a b, f a <+: f b → a = b) (a b : α) : Tells F (a = b) (f a) (f b) := by
  intro r s _ _ he
  have hab : a = b := by
    have hpre : f a <+: f b ++ s := ⟨r, he⟩
    obtain hab | hba := List.prefix_or_prefix_of_prefix hpre (List.prefix_append _ _)
    · exact h a b hab
    · exact (h b a hba).symm
  subst hab
  exact ⟨rfl, List.append_cancel_left he⟩

/-- A keyword that begins another one is told from it by what may follow. -/
theorem Spelled.tells {α : Type} [Spelled α] {starts : List String} (hne : starts ≠ [])
    (h : ∀ a b : α, (keyword a).toList <+: (keyword b).toList → a = b ∨
      ∀ s ∈ starts, Differ ((keyword a).toList ++ s.toList) (keyword b).toList) (a b : α) :
    Tells (Continues starts) (a = b) (keyword a).toList (keyword b).toList := by
  have hinj : ∀ a b : α, (keyword a).toList = (keyword b).toList → a = b := by
    intro a b hab
    obtain heq | hdiffer := h a b (hab ▸ List.prefix_refl _)
    · exact heq
    · obtain ⟨s, hs⟩ := List.exists_mem_of_ne_nil starts hne
      exact absurd (hab ▸ List.prefix_append _ _) (hdiffer s hs).2
  -- the shorter keyword and the start of what follows it cannot begin the longer one
  have hshort : ∀ {a b : α} {r s : List Char}, Continues starts r →
      (keyword a).toList ++ r = (keyword b).toList ++ s →
      (keyword a).toList <+: (keyword b).toList → a = b := by
    intro a b r s hr he hab
    obtain heq | hdiffer := h a b hab
    · exact heq
    · obtain rfl | ⟨start, hstart, rest, rfl⟩ := hr
      · have hba : (keyword b).toList <+: (keyword a).toList := ⟨s, by rw [← he, List.append_nil]⟩
        exact hinj a b (hab.eq_of_length_le hba.length_le)
      · have hboth : (keyword a).toList ++ start.toList <+: (keyword b).toList ++ s :=
          ⟨rest, by rw [← he, List.append_assoc]⟩
        exact absurd (List.prefix_append _ _) ((hdiffer start hstart).not_isPrefix hboth)
  intro r s hr hs he
  have hab : a = b := by
    have hpre : (keyword a).toList <+: (keyword b).toList ++ s := ⟨r, he⟩
    obtain hab | hba := List.prefix_or_prefix_of_prefix hpre (List.prefix_append _ _)
    · exact hshort hr he hab
    · exact (hshort hs he.symm hba).symm
  subst hab
  exact ⟨rfl, List.append_cancel_left he⟩

/-! Names, numbers and lists under the default configuration. -/

namespace Ident
variable {q : Char} {abc : Alphabet} {i j : Ident}

/-- A name is over: neither a character of a bare name nor a quote follows. -/
def Over (q : Char) (abc : Alphabet) (cs : List Char) : Prop :=
  ∀ c ∈ cs.head?, isBareChar c abc = false ∧ c ≠ q

/-- What begins with a sign other than the quote ends a name in every alphabet. -/
theorem over_of_continues {starts : List String} {cs : List Char}
    (hall : ∀ s ∈ starts, Begins (fun c => isSign c = true ∧ c ≠ q) s.toList)
    (h : Continues starts cs) : Over q abc cs := by
  intro c hc
  obtain ⟨hsign, hquote⟩ := h.head hall c hc
  exact ⟨isBareChar_of_isSign abc hsign, hquote⟩

/-- What begins neither with a part of a name nor with a dot ends a path. -/
theorem path_over {starts : List String} {cs : List Char}
    (hall : ∀ s ∈ starts, Begins (fun c => (isSign c = true ∧ c ≠ q) ∧ c ≠ '.') s.toList)
    (h : Continues starts cs) : Over q abc cs ∧ cs.head? ≠ some '.' := by
  have hhead := h.head hall
  refine ⟨fun c hc => ?_, fun hdot => (hhead '.' hdot).2 rfl⟩
  obtain ⟨⟨hsign, hquote⟩, -⟩ := hhead c hc
  exact ⟨isBareChar_of_isSign abc hsign, hquote⟩

private theorem bare_tells (hi : i.needsQuoting abc = false) (hj : j.needsQuoting abc = false) :
    Tells (Over q abc) (i = j) i.name.toList j.name.toList := by
  have hread : ∀ {i : Ident} {r : List Char}, i.needsQuoting abc = false → Over q abc r →
      (i.name.toList ++ r).takeWhile (isBareChar · abc) = i.name.toList := by
    intro i r hi hr
    rw [List.takeWhile_append_of_pos (needsQuoting_eq_false_iff.mp hi).1]
    cases r with
    | nil => simp
    | cons c r => simp [(hr c rfl).1]
  intro r s hr hs h
  have hname : i.name.toList = j.name.toList := by rw [← hread hi hr, h, hread hj hs]
  rw [hname] at h
  exact ⟨congrArg mk (String.toList_inj.mp hname), List.append_cancel_left h⟩

private theorem not_bare_eq_quoted (hq : isBareChar q abc = false) (hi : i.needsQuoting abc = false)
    (hj : j.needsQuoting abc = true) (r s : List Char) :
    i.name.toList ++ r ≠ (j.escape q abc).toList ++ s := by
  obtain ⟨hbare, c, hc, -⟩ := needsQuoting_eq_false_iff.mp hi
  rw [toList_escape_of_needsQuoting hj, Text.Quoted.enclose]
  cases hname : i.name.toList with
  | nil => simp [hname] at hc
  | cons d ds =>
    rintro h
    obtain rfl : d = q := (List.cons.inj h).1
    rw [hbare d (by simp [hname])] at hq
    cases hq

private theorem tells_escape (hq : isBareChar q abc = false) (i j : Ident) :
    Tells (Over q abc) (i = j) (i.escape q abc).toList (j.escape q abc).toList := by
  cases hi : i.needsQuoting abc <;> cases hj : j.needsQuoting abc
  · rw [escape_of_bare hi, escape_of_bare hj]
    exact bare_tells hi hj
  · intro r s _ _ h
    rw [escape_of_bare hi] at h
    exact absurd h (not_bare_eq_quoted hq hi hj r s)
  · intro r s _ _ h
    rw [escape_of_bare hj] at h
    exact absurd h.symm (not_bare_eq_quoted hq hj hi s r)
  · have hread : ∀ {i : Ident} {r : List Char}, i.needsQuoting abc = true → Over q abc r →
        ∃ cs, (i.escape q abc).toList ++ r = q :: cs ∧
          Text.Quoted.content? q cs = some (i.name.toList, r) := by
      intro i r hi hr
      have hend : r.head? ≠ some q := fun hhead => (hr q hhead).2 rfl
      refine ⟨_, ?_, Text.Quoted.content?_double i.name.toList hend⟩
      simp [toList_escape_of_needsQuoting hi, Text.Quoted.enclose]
    intro r s hr hs h
    obtain ⟨cs, hcs, hcontent⟩ := hread hi hr
    obtain ⟨ds, hds, hcontent'⟩ := hread hj hs
    obtain rfl : cs = ds := by simpa [hcs, hds] using h
    rw [hcontent] at hcontent'
    obtain ⟨hname, hrs⟩ := Prod.mk.inj (Option.some.inj hcontent')
    exact ⟨congrArg mk (String.toList_inj.mp hname), hrs⟩

/-- No name begins with a sign other than the quote. -/
theorem exists_escape_eq_cons (q : Char) (abc : Alphabet) (i : Ident) :
    ∃ c cs, (i.escape q abc).toList = c :: cs ∧ ∀ d, isSign d = true → d ≠ q → c ≠ d := by
  cases h : i.needsQuoting abc with
  | true =>
    rw [toList_escape_of_needsQuoting h, Text.Quoted.enclose]
    exact ⟨q, _, rfl, fun _ _ hd => hd.symm⟩
  | false =>
    obtain ⟨hbare, c, hc, -⟩ := needsQuoting_eq_false_iff.mp h
    rw [escape_of_bare h]
    cases hname : i.name.toList with
    | nil => simp [hname] at hc
    | cons d ds =>
      refine ⟨d, ds, rfl, ?_⟩
      rintro _ hsign - rfl
      have hchar := hbare d (by simp [hname])
      rw [isBareChar_of_isSign abc hsign] at hchar
      cases hchar

theorem toList_dotted_cons (q : Char) (abc : Alphabet) (i : Ident) (path : List Ident) :
    (dotted q abc (i :: path)).toList =
      (i.escape q abc).toList ++ path.flatMap fun j => ['.'] ++ (j.escape q abc).toList := by
  induction path generalizing i with
  | nil => simp [dotted]
  | cons j path ih =>
    rw [List.flatMap_cons, List.append_assoc, ← ih j]
    simp [dotted]

/-- A path goes on with a dot, so it is over where a name is over and no dot follows. -/
theorem tells_dotted (hq : isBareChar q abc = false) (hdot : q ≠ '.') {p p' : List Ident}
    (hp : p ≠ []) (hp' : p' ≠ []) :
    Tells (fun cs => Over q abc cs ∧ cs.head? ≠ some '.') (p = p') (dotted q abc p).toList
      (dotted q abc p').toList := by
  have hnext : ∀ r, Over q abc (['.'] ++ r) := by
    intro r c hc
    obtain rfl : '.' = c := by simpa using hc
    exact ⟨isBareChar_of_isSign abc (by decide), Ne.symm hdot⟩
  obtain ⟨i, path, rfl⟩ := List.exists_cons_of_ne_nil hp
  obtain ⟨i', path', rfl⟩ := List.exists_cons_of_ne_nil hp'
  have hpath : Tells (fun cs => Over q abc cs ∧ cs.head? ≠ some '.')
      ((i :: path).map id = (i' :: path').map id) _ _ :=
    .separated (fun j _ j' _ => tells_escape hq j j') (by simp) hnext (fun _ hr => hr.1)
  rw [toList_dotted_cons, toList_dotted_cons]
  simpa using hpath

end Ident

namespace Doc
variable {α β : Type} {abc : Alphabet} (d e : Doc)

/-- The characters of a document under the default configuration. -/
def chars (abc : Alphabet) (d : Doc) : List Char :=
  (d.spell (.default abc)).toList

@[simp] theorem chars_append : chars abc (d ++ e) = chars abc d ++ chars abc e := by
  simp [chars, spell_append]

@[simp] theorem chars_text (s : String) : chars abc (text s) = s.toList := by simp [chars]

@[simp] theorem chars_keyword [Spelled α] (a : α) :
    chars abc (keyword a) = (Spelled.keyword a).toList := by
  simp [keyword]

@[simp] theorem chars_space : chars abc space = [' '] := by
  simp [chars, Setting.default]

@[simp] theorem chars_comma : chars abc comma = ", ".toList := by
  simp [chars, comma, spell_append, Setting.default]

theorem chars_ident (i : Ident) : chars abc (ident i) = (i.escape '\x60' abc).toList := by
  simp [chars, Setting.default]

@[simp] theorem chars_paren : chars abc (paren d) = "(".toList ++ chars abc d ++ ")".toList := by
  simp [paren]

@[simp] theorem chars_optional (v : Option α) (f : α → Doc) :
    chars abc (optional v f) = v.elim [] fun a => chars abc (f a) := by
  cases v <;> simp [optional, chars]

theorem chars_flatMap (f : α → Doc) (xs : List α) :
    chars abc (xs.flatMap f) = xs.flatMap fun a => chars abc (f a) := by
  induction xs with
  | nil => simp [chars]
  | cons a xs ih => simp [ih]

theorem chars_list_map_cons (f : α → Doc) (a : α) (as : List α) :
    chars abc (list ((a :: as).map f)) =
      chars abc (f a) ++ as.flatMap fun b => ", ".toList ++ chars abc (f b) := by
  simp [list, joined, chars_flatMap, List.flatMap_map]

/-- A missing list writes as little as an empty one. -/
@[simp] theorem chars_required (node child : String) (items : List Doc) :
    chars abc (required node child items) = chars abc (list items) := by
  cases items <;> simp [required, missing, chars, list, joined]

theorem tells_ident (i j : Ident) :
    Tells (Ident.Over '\x60' abc) (i = j) (chars abc (ident i)) (chars abc (ident j)) := by
  rw [chars_ident, chars_ident]
  exact Ident.tells_escape (Ident.isBareChar_of_isSign abc (by decide)) i j

/-- The decimal digits of a number. -/
def digits (n : UInt64) : List Char :=
  n.toNat.repr.toList

@[simp] theorem chars_uint (n : UInt64) : chars abc (uint n) = digits n :=
  chars_text _

theorem tells_digits (m n : UInt64) : Tells Detached (m = n) (digits m) (digits n) := by
  intro r s hr hs h
  rw [digits, digits] at h
  have hread := natural?_repr m.toNat hr
  rw [h, natural?_repr n.toNat hs] at hread
  obtain ⟨hnm, hrs⟩ := Prod.mk.inj (Option.some.inj hread)
  exact ⟨UInt64.toNat_inj.mp hnm.symm, hrs.symm⟩

/-- Lists between parentheses are told apart by their items. -/
theorem tells_list {f : α → Doc} {g : α → β} {xs ys : List α} (hxs : xs ≠ []) (hys : ys ≠ [])
    (h : ∀ x ∈ xs, ∀ y ∈ ys,
      Tells (Continues [", ", ")"]) (g x = g y) (chars abc (f x)) (chars abc (f y))) :
    Tells (Continues [")"]) (xs.map g = ys.map g) (chars abc (list (xs.map f)))
      (chars abc (list (ys.map f))) := by
  obtain ⟨x, xs, rfl⟩ := List.exists_cons_of_ne_nil hxs
  obtain ⟨y, ys, rfl⟩ := List.exists_cons_of_ne_nil hys
  have hnot : ∀ r, ¬ Continues [")"] (", ".toList ++ r) :=
    Continues.not_append (by decide) (by decide)
  have hnext : ∀ r, Continues [", ", ")"] (", ".toList ++ r) := .append (by decide)
  have hend : ∀ r, Continues [")"] r → Continues [", ", ")"] r := fun r hr => hr.mono (by decide)
  rw [chars_list_map_cons, chars_list_map_cons]
  exact Tells.separated h hnot hnext hend

end Doc

/-- A qualified name is over where a name is over and no dot follows. -/
theorem QualifiedName.tells (abc : Alphabet) (m n : QualifiedName) :
    Tells (fun cs => Ident.Over '\x60' abc cs ∧ cs.head? ≠ some '.') (m = n) (m.doc.chars abc)
      (n.doc.chars abc) := by
  have hquote : Ident.isBareChar '\x60' abc = false := Ident.isBareChar_of_isSign abc (by decide)
  have hpath := Ident.tells_dotted hquote (by decide) m.path_ne_nil n.path_ne_nil
  simp only [Doc.chars, QualifiedName.spell_doc]
  exact hpath.imp QualifiedName.path_inj

end SqlTree
