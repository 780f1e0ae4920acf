import Enrollment.Store.Integrity
import Enrollment.Text.Quoted

/-! # Failures of a store

What a store answers when it cannot do what it is asked. A report comes from the store itself: it is
either a breach of this schema or the words of some other store, with the standard state code if it
gives one. Other failures arise on the way to the store or in reading what it holds. -/

namespace Enrollment.Store

/-! ### Breaches in words -/

/-- The number of a breach. -/
def Breach.number : Breach → Nat
  | condition _ => 275
  | duplicate _ columns => if columns = [.id] then 1555 else 2067
  | dangling => 787
  | restricted => 1811

/-- The wording of a breach. -/
def Breach.text : Breach → String
  | condition column => "CHECK constraint failed: " ++ column.text
  | duplicate table columns =>
    "UNIQUE constraint failed: " ++
      ", ".intercalate (columns.map fun c => Named.name table ++ "." ++ c.text)
  | dangling | restricted => "FOREIGN KEY constraint failed"

/-! ### Failures -/

/-- What was going on when a failure arose. -/
inductive Activity where
  | connecting
  | executing
  | querying
deriving DecidableEq, Repr

/-- How the message of a failure starts. -/
def Activity.heading : Activity → String
  | connecting => "Connection Error: "
  | executing => "Execution Error: "
  | querying => "Query Error: "

/-- What a store reports. -/
inductive Report where
  | breach (b : Breach)
  /-- The words of another store, and its state code. -/
  | stated (text : String) (state : Option String)
deriving DecidableEq, Repr

/-- The wording of a report. -/
def Report.text : Report → String
  | breach b => "(code: " ++ toString b.number ++ ") " ++ b.text
  | stated text _ => text

/-- Why a store does not do what it is asked. -/
inductive Failure where
  | reported (during : Activity) (report : Report)
  | internal (during : Activity) (text : String)
  /-- A query that has to have an answer has none. -/
  | noAnswer
  /-- A row and an entity do not correspond. -/
  | row (fault : RowFault)
  | custom (text : String)
  | type (text : String)
  | notFound (text : String)
  | notInserted
  | notUpdated
deriving DecidableEq, Repr

namespace Failure

/-- The wording of a failure. -/
def message : Failure → String
  | reported during report =>
    during.heading ++ "error returned from database: " ++ report.text
  | internal during text => during.heading ++ text
  | noAnswer =>
    Activity.querying.heading ++
      "no rows returned by a query that expected to return at least one row"
  | row (.unknown column value) =>
    "Type Error: unknown " ++ column.text ++ " value " ++ Text.quoted value
  | row (.unset column) => "Custom Error: " ++ column.text ++ " must be set before writing"
  | custom text => "Custom Error: " ++ text
  | type text => "Type Error: " ++ text
  | notFound text => "RecordNotFound Error: " ++ text
  | notInserted => "None of the records are inserted"
  | notUpdated => "None of the records are updated"

/-- The failure of a statement that breaches the schema. -/
def ofBreach (b : Breach) : Failure := reported .executing (.breach b)

end Failure

end Enrollment.Store
