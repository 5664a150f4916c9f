import SqlTree.Proofs.Phrase.Expr

/-! Table references and queries are phrases. -/
namespace SqlTree
open Doc

theorem Alias.phrase (a : Alias) : Phrase a.doc a.atoms := by
  have has : Word "AS" := .ofList rfl
  exact (Phrase.lead (.word has) (.name a.name)).afterParens (.names a.columns)

theorem TableSample.phrase (s : TableSample) : Phrase s.doc s.atoms := by
  have hsample : Word "TABLESAMPLE" := .ofList rfl
  have hmethod := (Phrase.word hsample).trail (.keyword s.method)
  exact (hmethod.lead s.percent.phrase.paren).clause (.ofList rfl) (·.phrase.paren)

theorem NamedTable.phrase (t : NamedTable) : Phrase t.doc t.atoms := by
  have honly : Word "ONLY" := .ofList rfl
  exact (Phrase.mark honly t.name.phrase).after (·.phrase) |>.after (·.phrase)

theorem JoinKind.phrase (k : JoinKind) : Phrase k.joinDoc [] := by
  have hjoin : Word "JOIN" := .ofList rfl
  exact .beforeFixed .space (fun s hs => .word (k.keyword?_word s hs)) (.word hjoin)

theorem JoinSpec.phrase (s : JoinSpec) : Phrase s.doc s.atoms := by
  cases s with
  | on condition => exact .lead (.word (.ofList rfl)) condition.phrase
  | «using» columns =>
    have husing : Word "USING" := .ofList rfl
    exact .lead (.word husing) (Phrase.required "USING" "column" (.names columns)).paren

theorem SelectItem.phrase (i : SelectItem) : Phrase i.doc i.atoms := by
  have hstar : Word "*" := .ofList rfl
  cases i with
  | all => exact .word hstar
  | allOf table =>
    simpa [SelectItem.doc, SelectItem.atoms] using Phrase.join .dot table.phrase (.word hstar)
  | expr e label => exact e.phrase.clause (.ofList rfl) .name

theorem SortKey.phrase (k : SortKey) : Phrase k.doc k.atoms :=
  (k.expr.phrase.afterFixed fun d _ => .keyword d).afterFixed fun n _ => .keyword n

private theorem GroupingElement.columnsDoc_phrase (cs : List ColumnRef) :
    Phrase (columnsDoc cs) (cs.flatMap (·.atoms)) := by
  unfold columnsDoc
  split
  · rename_i c
    simpa using c.phrase
  · exact (Phrase.required _ _ (.map cs (·.phrase))).paren

mutual

theorem GroupingElement.phrase : ∀ e : GroupingElement, Phrase e.doc e.atoms
  | .columns cs => columnsDoc_phrase cs
  | .rollup cs => by
    have hrollup : Word "ROLLUP" := .ofList rfl
    exact .lead (.word hrollup) (Phrase.required _ _ (.map cs (·.phrase))).paren
  | .cube cs => by
    have hcube : Word "CUBE" := .ofList rfl
    exact .lead (.word hcube) (Phrase.required _ _ (.map cs (·.phrase))).paren
  | .sets elements => by
    have hsets : Word "GROUPING SETS" := .ofList rfl
    exact .lead (.word hsets) (Phrase.required _ _ (GroupingElement.phrases elements)).paren
  | .empty => .hollow .paren

theorem GroupingElement.phrases :
    ∀ es : List GroupingElement, Phrases (docs es) (atomsAll es)
  | [] => .nil
  | e :: es => .cons e.phrase (GroupingElement.phrases es)

end

theorem GroupBy.phrase (g : GroupBy) : Phrase g.doc g.atoms := by
  have hgroup : Word "GROUP BY" := .ofList rfl
  have helements := Phrase.required "GROUP BY" "grouping element"
    (GroupingElement.phrases g.elements)
  have hrest := Phrase.beforeFixed (v := g.quantifier) .space (fun q _ => .keyword q) helements
  simpa [GroupBy.doc, GroupBy.atoms] using Phrase.lead (.word hgroup) hrest

theorem FrameBound.phrase (b : FrameBound) : Phrase b.doc b.atoms := by
  cases b with
  | unboundedPreceding => exact .word (.ofList rfl)
  | preceding distance => exact distance.phrase.trail (.word (.ofList rfl))
  | currentRow => exact .word (.ofList rfl)
  | following distance => exact distance.phrase.trail (.word (.ofList rfl))
  | unboundedFollowing => exact .word (.ofList rfl)

private theorem WindowFrame.boundsDoc_phrase (f : WindowFrame) : Phrase f.boundsDoc f.atoms := by
  unfold boundsDoc WindowFrame.atoms
  cases f.stop with
  | none => simpa using f.start.phrase
  | some stop =>
    have hbetween : Word "BETWEEN" := .ofList rfl
    have hand : Word "AND" := .ofList rfl
    have hstart := (Phrase.lead (.word hbetween) f.start.phrase).trail (.word hand)
    exact .join .space hstart stop.phrase

theorem WindowFrame.phrase (f : WindowFrame) : Phrase f.doc f.atoms := by
  unfold WindowFrame.doc
  split
  · exact .failure _ _
  · exact (Phrase.lead (.keyword f.units) f.boundsDoc_phrase).afterFixed fun e _ => .keyword e

private theorem phrase_phrases {k : String} {ds : List Doc} {as : List Atom} (hk : Word k)
    (h : Phrases ds as) : Phrases (phrase k ds).toList as := by
  cases h with
  | nil => exact .nil
  | cons hd h =>
    have hlist := Phrases.joined .comma (.cons hd h) (by simp)
    exact .single (.lead (.word hk) hlist)

theorem WindowSpec.parts_phrases (w : WindowSpec) : Phrases w.parts w.atoms := by
  have hexisting := Phrases.option w.existing .name
  have hpartition := phrase_phrases (k := "PARTITION BY") (.ofList rfl)
    (.map w.partitionBy (·.phrase))
  have horder := phrase_phrases (k := "ORDER BY") (.ofList rfl) (.map w.orderBy (·.phrase))
  exact ((hexisting.append hpartition).append horder).append (.option w.frame (·.phrase))

theorem WindowDef.phrase (w : WindowDef) : Phrase w.doc w.atoms := by
  have has : Word "AS" := .ofList rfl
  have hhead := (Phrase.name w.name).trail (.word has)
  exact .join .space hhead (.parenJoined .space w.spec.parts_phrases)

theorem Offset.phrase (o : Offset) : Phrase o.doc [] := by
  have hoffset : Word "OFFSET" := .ofList rfl
  exact ((Phrase.word hoffset).trail (.uint o.count)).afterFixed fun s _ => .keyword s

theorem Fetch.phrase (f : Fetch) : Phrase f.doc [] := by
  have hfetch : Word "FETCH NEXT" := .ofList rfl
  have hpercent : Word "PERCENT" := .ofList rfl
  have hhead := (Phrase.word hfetch).trail (.uint f.count)
  have hcount : Phrase (text "FETCH NEXT" ++ space ++ uint f.count
      ++ (if f.percent then space ++ text "PERCENT" else [])) [] := by
    split
    · simpa using hhead.trail (.word hpercent)
    · simpa using hhead
  have htail : Word (if f.withTies then "WITH TIES" else "ONLY") := by
    split <;> exact .ofList rfl
  exact (hcount.trail (.keyword (RowsKeyword.ofCount f.count))).trail (.word htail)

theorem LockWait.phrase (w : LockWait) : Phrase w.doc [] := by
  cases w with
  | seconds n => exact .lead (.word (.ofList rfl)) (.uint n)
  | noWait => exact .word (.ofList rfl)
  | skipLocked => exact .word (.ofList rfl)

theorem Lock.phrase (l : Lock) : Phrase l.doc l.atoms := by
  have hfor : Word "FOR" := .ofList rfl
  have hof : Word "OF" := .ofList rfl
  have hmode := (Phrase.word hfor).trail (.keyword l.mode)
  exact (hmode.listClause hof (.map l.tables (·.phrase))).afterFixed fun w _ => w.phrase

mutual

theorem TableRef.phrase : ∀ t : TableRef, Phrase t.doc t.atoms
  | .table t => t.phrase
  | .derived query label =>
    .join .space query.phrase.paren (.requiredPart "derived table" "alias" (·.phrase))
  | .nested inner label => inner.phrase.paren.after (·.phrase)
  | .cross left right =>
    .join .space (left.phrase.trail (.word (.ofList rfl))) right.phrase
  | .qualified left kind right spec =>
    .join .space (.join .space (left.phrase.trail kind.phrase) right.phrase) spec.phrase
  | .natural left kind right => by
    have hnatural : Word "NATURAL" := .ofList rfl
    exact .join .space ((left.phrase.trail (.word hnatural)).trail kind.phrase) right.phrase

theorem TableRef.phrases : ∀ ts : List TableRef, Phrases (TableRef.docs ts) (TableRef.atomsAll ts)
  | [] => .nil
  | t :: ts => .cons t.phrase (TableRef.phrases ts)

theorem Query.phrase : ∀ q : Query, Phrase q.doc q.atoms
  | { quantifier, items, tables, condition, groupBy, having, windows, orderBy, limit, offset,
      fetch, lock } => by
    have hselect : Word "SELECT" := .ofList rfl
    have hlimit : Word "LIMIT" := .ofList rfl
    have hitems := Phrase.required "SELECT" "select list" (.map items (·.phrase))
    have hhead := (Phrase.word hselect).afterFixed (v := quantifier) fun q _ => .keyword q
    exact hhead.lead hitems
      |>.listClause (k := "FROM") (.ofList rfl) (TableRef.phrases tables)
      |>.clause (k := "WHERE") (.ofList rfl) (·.phrase)
      |>.after (·.phrase)
      |>.clause (k := "HAVING") (.ofList rfl) (·.phrase)
      |>.listClause (k := "WINDOW") (.ofList rfl) (.map windows (·.phrase))
      |>.listClause (k := "ORDER BY") (.ofList rfl) (.map orderBy (·.phrase))
      |>.clauseFixed hlimit (.uint ·)
      |>.afterFixed (fun o _ => o.phrase)
      |>.afterFixed (fun f _ => f.phrase)
      |>.after (·.phrase)

end

end SqlTree
