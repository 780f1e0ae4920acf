import Enrollment.Refusal
import Enrollment.Store.Failure

/-! # Failures of the registrar

Why a write is not done: the candidate is refused, what it names does not exist, other rows still
refer to it, a row has no next version, or the store failed. A failure of the store that comes of
what other writers did is taken as a conflict.

* `isConflict_ofBreach`: of the breaches of the schema, only two rows that agree on a unique index
  are worth a retry. -/

namespace Enrollment.Registrar

/-- Why a write is not done. -/
inductive Failure where
  | refused (refusal : Refusal)
  | notFound (kind : Kind) (id : Uuid)
  | referenced (detail : String)
  | overflow
  | store (failure : Store.Failure)
deriving DecidableEq, Repr

namespace Failure

/-- The state code of a transaction that cannot be put in any order with the others. -/
def serializationState : String := "40001"

/-- The clash that a failure of the store amounts to, if it comes of what other writers did. -/
def contention : Store.Failure → Option Clash
  | .reported _ (.breach (.duplicate table columns)) =>
    some (.stated (Store.Breach.duplicate table columns).text)
  | .reported _ (.stated _ state) => if state = some serializationState then some .raced else none
  | _ => none

/-- What a failure of the store means to whoever asked for the write. -/
def ofStore (f : Store.Failure) : Failure :=
  match contention f with
  | some clash => refused (.conflict clash)
  | none =>
    match f with
    | .reported _ (.breach .dangling) => referenced Store.Breach.dangling.text
    | f => store f

def ofBreach (b : Store.Breach) : Failure := ofStore (.ofBreach b)

def ofRow (f : Store.RowFault) : Failure := store (.row f)

/-- The wording of a failure. -/
def message : Failure → String
  | refused refusal => refusal.message
  | notFound kind id => Named.name kind ++ " " ++ id.text ++ " does not exist"
  | referenced detail => "still referenced by other rows: " ++ detail
  | overflow => "attempt to add with overflow"
  | store failure => "database error: " ++ failure.message

/-- To read again and retry may help. -/
def isConflict : Failure → Bool
  | refused refusal => refusal.isConflict
  | _ => false

theorem isConflict_ofStore (f : Store.Failure) :
    (ofStore f).isConflict = (contention f).isSome := by
  unfold ofStore
  split <;> rename_i h
  · simp [isConflict, Refusal.isConflict, h]
  · split <;> simp [isConflict, h]

theorem isConflict_ofBreach {b : Store.Breach} :
    (ofBreach b).isConflict = true ↔ ∃ table columns, b = .duplicate table columns := by
  rw [ofBreach, isConflict_ofStore]
  cases b <;> simp [contention, Store.Failure.ofBreach]

end Failure

end Enrollment.Registrar
