import SqlTree.DataType.Scalar

/-! Types of dates, times and intervals. -/
namespace SqlTree
open Doc

inductive DateTimeKind where
  | date | smallDateTime | dateTime | dateTime2 | year | time | timestamp
  deriving DecidableEq

instance : Spelled DateTimeKind where
  keyword
    | .date => "DATE"
    | .smallDateTime => "SMALLDATETIME"
    | .dateTime => "DATETIME"
    | .dateTime2 => "DATETIME2"
    | .year => "YEAR"
    | .time => "TIME"
    | .timestamp => "TIMESTAMP"

structure DateTimeType where
  kind : DateTimeKind
  precision : Option UInt64 := none
  /-- Whether the type has a time zone; `none` leaves it to the database. -/
  timeZone : Option Bool := none
  deriving DecidableEq

def DateTimeType.doc (t : DateTimeType) : Doc :=
  keyword t.kind ++ measure t.precision
    ++ after t.timeZone fun zoned => text (if zoned then "WITH TIME ZONE" else "WITHOUT TIME ZONE")

inductive FieldKind where
  | year | month | week | day | hour | minute | second | millisecond | microsecond
  deriving DecidableEq

instance : Spelled FieldKind where
  keyword
    | .year => "YEAR"
    | .month => "MONTH"
    | .week => "WEEK"
    | .day => "DAY"
    | .hour => "HOUR"
    | .minute => "MINUTE"
    | .second => "SECOND"
    | .millisecond => "MILLISECOND"
    | .microsecond => "MICROSECOND"

/-- A field of a point in time. -/
structure DateTimeField where
  kind : FieldKind
  precision : Option UInt64 := none
  deriving DecidableEq

def DateTimeField.doc (f : DateTimeField) : Doc :=
  keyword f.kind ++ measure f.precision

/-- Without an end the interval has the one field. -/
structure IntervalType where
  start : DateTimeField
  stop : Option DateTimeField := none
  deriving DecidableEq

def IntervalType.doc (t : IntervalType) : Doc :=
  text "INTERVAL" ++ space ++ t.start.doc ++ clause "TO" t.stop (·.doc)

end SqlTree
