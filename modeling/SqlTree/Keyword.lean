import SqlTree.Query
import SqlTree.Statement.CreateTable
import SqlTree.Statement.Insert
import SqlTree.Statement.Truncate

/-! The alternatives that SQL spells by a keyword. -/
namespace SqlTree

inductive Keyword where
  | binaryKind (k : BinaryKind)
  | booleanType (t : BooleanType)
  | characterKind (k : CharacterKind)
  | checkTime (t : CheckTime)
  | clockKind (k : ClockKind)
  | commitAction (a : CommitAction)
  | dateTimeKind (k : DateTimeKind)
  | dropBehavior (b : DropBehavior)
  | fieldKind (k : FieldKind)
  | frameExclusion (e : FrameExclusion)
  | frameUnits (u : FrameUnits)
  | generated (g : Generated)
  | identityRestart (r : IdentityRestart)
  | integerType (t : IntegerType)
  | lengthUnit (u : LengthUnit)
  | likeProperty (p : LikeProperty)
  | matchType (t : MatchType)
  | numericKind (k : NumericKind)
  | overriding (o : Overriding)
  | referenceGeneration (g : ReferenceGeneration)
  | referentialAction (a : ReferentialAction)
  | sampleMethod (m : SampleMethod)
  | sessionValue (v : SessionValue)
  | setQuantifier (q : SetQuantifier)
  | systemTime
  | systemVersioning (v : SystemVersioning)
  | tableScope (s : TableScope)
  | uniqueKind (k : UniqueKind)
  deriving DecidableEq

instance : Spelled Keyword where
  keyword
    | .binaryKind k => Spelled.keyword k
    | .booleanType t => Spelled.keyword t
    | .characterKind k => Spelled.keyword k
    | .checkTime t => Spelled.keyword t
    | .clockKind k => Spelled.keyword k
    | .commitAction a => Spelled.keyword a
    | .dateTimeKind k => Spelled.keyword k
    | .dropBehavior b => Spelled.keyword b
    | .fieldKind k => Spelled.keyword k
    | .frameExclusion e => Spelled.keyword e
    | .frameUnits u => Spelled.keyword u
    | .generated g => Spelled.keyword g
    | .identityRestart r => Spelled.keyword r
    | .integerType t => Spelled.keyword t
    | .lengthUnit u => Spelled.keyword u
    | .likeProperty p => Spelled.keyword p
    | .matchType t => Spelled.keyword t
    | .numericKind k => Spelled.keyword k
    | .overriding o => Spelled.keyword o
    | .referenceGeneration g => Spelled.keyword g
    | .referentialAction a => Spelled.keyword a
    | .sampleMethod m => Spelled.keyword m
    | .sessionValue v => Spelled.keyword v
    | .setQuantifier q => Spelled.keyword q
    | .systemTime => "SYSTEM_TIME"
    | .systemVersioning v => Spelled.keyword v
    | .tableScope s => Spelled.keyword s
    | .uniqueKind k => Spelled.keyword k

end SqlTree
