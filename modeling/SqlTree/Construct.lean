import SqlTree.Keyword
import SqlTree.Statement.Merge
import SqlTree.Statement.Update

/-! All that this library can write, from names to whole statements. -/
namespace SqlTree

inductive Construct where
  | schemaName (n : SchemaName)
  | qualifiedName (n : QualifiedName)
  | localName (n : LocalName)
  | tableName (n : TableName)
  | columnRef (c : ColumnRef)
  | value (v : Value)
  | expr (e : Expr)
  | collation (c : Collation)
  | characterType (t : CharacterType)
  | binaryType (t : BinaryType)
  | numericType (t : NumericType)
  | dateTimeType (t : DateTimeType)
  | dateTimeField (f : DateTimeField)
  | intervalType (t : IntervalType)
  | rowField (f : RowField)
  | dataType (t : DataType)
  | keyword (k : Keyword)
  | sequenceOption (o : SequenceOption)
  | identity (i : Identity)
  | clockValue (v : ClockValue)
  | defaultOption (o : DefaultOption)
  | defaultClause (d : DefaultClause)
  | columnValue (v : ColumnValue)
  | columnDef (c : ColumnDef)
  | columnOptions (c : ColumnOptions)
  | characteristics (c : Characteristics)
  | references (r : References)
  | columnConstraint (c : ColumnConstraint)
  | tableConstraint (c : TableConstraint)
  | period (p : Period)
  | likeOption (o : LikeOption)
  | like (l : Like)
  | tableElement (e : TableElement)
  | selfReference (s : SelfReference)
  | typedElement (e : TypedElement)
  | typedTable (t : TypedTable)
  | tableContent (c : TableContent)
  | createTable (t : CreateTable)
  | «alias» (a : Alias)
  | tableSample (s : TableSample)
  | joinSpec (s : JoinSpec)
  | tableRef (t : TableRef)
  | selectItem (i : SelectItem)
  | sortKey (k : SortKey)
  | groupingElement (e : GroupingElement)
  | groupBy (g : GroupBy)
  | frameBound (b : FrameBound)
  | windowFrame (f : WindowFrame)
  | windowSpec (w : WindowSpec)
  | windowDef (w : WindowDef)
  | offset (o : Offset)
  | fetch (f : Fetch)
  | lock (l : Lock)
  | query (q : Query)
  | insertSource (s : InsertSource)
  | insert (i : Insert)
  | assignment (a : Assignment)
  | rowFilter (f : RowFilter)
  | update (u : Update)
  | delete (d : Delete)
  | truncate (t : Truncate)
  | matchedAction (a : MatchedAction)
  | whenMatched (w : WhenMatched)
  | mergeInsert (i : MergeInsert)
  | notMatchedAction (a : NotMatchedAction)
  | whenNotMatched (w : WhenNotMatched)
  | mergeWhen (w : MergeWhen)
  | mergeClauses (ws : List MergeWhen)
  | merge (m : Merge)

namespace Construct

def doc : Construct → Doc
  | .schemaName n => n.doc
  | .qualifiedName n => n.doc
  | .localName n => n.doc
  | .tableName n => n.doc
  | .columnRef c => c.doc
  | .value v => v.doc
  | .expr e => e.doc
  | .collation c => c.doc
  | .characterType t => t.doc
  | .binaryType t => t.doc
  | .numericType t => t.doc
  | .dateTimeType t => t.doc
  | .dateTimeField f => f.doc
  | .intervalType t => t.doc
  | .rowField f => f.doc
  | .dataType t => t.doc
  | .keyword k => Doc.keyword k
  | .sequenceOption o => o.doc
  | .identity i => i.doc
  | .clockValue v => v.doc
  | .defaultOption o => o.doc
  | .defaultClause d => d.doc
  | .columnValue v => v.doc
  | .columnDef c => c.doc
  | .columnOptions c => c.doc
  | .characteristics c => c.doc
  | .references r => r.doc
  | .columnConstraint c => c.doc
  | .tableConstraint c => c.doc
  | .period p => p.doc
  | .likeOption o => o.doc
  | .like l => l.doc
  | .tableElement e => e.doc
  | .selfReference s => s.doc
  | .typedElement e => e.doc
  | .typedTable t => t.doc
  | .tableContent c => c.doc
  | .createTable t => t.doc
  | .«alias» a => a.doc
  | .tableSample s => s.doc
  | .joinSpec s => s.doc
  | .tableRef t => t.doc
  | .selectItem i => i.doc
  | .sortKey k => k.doc
  | .groupingElement e => e.doc
  | .groupBy g => g.doc
  | .frameBound b => b.doc
  | .windowFrame f => f.doc
  | .windowSpec w => w.doc
  | .windowDef w => w.doc
  | .offset o => o.doc
  | .fetch f => f.doc
  | .lock l => l.doc
  | .query q => q.doc
  | .insertSource s => s.doc
  | .insert i => i.doc
  | .assignment a => a.doc
  | .rowFilter f => f.doc
  | .update u => u.doc
  | .delete d => d.doc
  | .truncate t => t.doc
  | .matchedAction a => a.doc
  | .whenMatched w => w.doc
  | .mergeInsert i => i.doc
  | .notMatchedAction a => a.doc
  | .whenNotMatched w => w.doc
  | .mergeWhen w => w.doc
  | .mergeClauses ws => MergeWhen.docAll ws
  | .merge m => m.doc

/-- Constructs that a statement leaves out together with the words around them. -/
def isAbsent : Construct → Bool
  | .characteristics c => c.isEmpty
  | .tableContent c => c.isEmpty
  | .mergeClauses ws => ws.isEmpty
  | _ => false

end Construct
end SqlTree
