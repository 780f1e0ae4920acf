import Enrollment.Time.Instant
import Enrollment.Uuid

/-! # Audit blocks

Each stored thing carries its identity, the instants and the authors of its first and latest write,
and a version that every stored change raises by one. Versions are 32-bit numbers, and there is none
after the greatest.

* `touched_eq_some_iff`: the next revision has one version more, if there is one.
* `next_sameOrigin`: it keeps what was fixed when the thing was first stored. -/

namespace Enrollment

/-- Identity, authorship and version of a stored thing. -/
structure Audit where
  id : Uuid
  createdAt : Instant
  updatedAt : Instant
  createdBy : String
  updatedBy : String
  version : Int32
deriving DecidableEq, Repr

theorem toInt_add_one_of_lt {n m : Int32} (h : n < m) : (n + 1).toInt = n.toInt + 1 := by
  have hlt := Int32.lt_iff_toInt_lt.mp h
  have hm := m.toInt_lt
  have hle := n.le_toInt
  rw [Int32.toInt_add, Int32.toInt_one]
  exact Int.bmod_eq_of_le (by omega) (by omega)

theorem lt_add_one_of_lt {n m : Int32} (h : n < m) : n < n + 1 := by
  rw [Int32.lt_iff_toInt_lt, toInt_add_one_of_lt h]
  omega

namespace Audit

/-- The block of a thing that has not been stored yet. -/
def fresh (id : Uuid) (actor : String) (now : Instant) : Audit :=
  ⟨id, now, now, actor, actor, 0⟩

/-- The block of the next stored revision, below the greatest version. -/
def next (a : Audit) (actor : String) (now : Instant) : Audit :=
  { a with updatedAt := now, updatedBy := actor, version := a.version + 1 }

/-- The block of the next stored revision, if there is a version for it. -/
def touched (a : Audit) (actor : String) (now : Instant) : Option Audit :=
  if a.version < Int32.maxValue then some (a.next actor now) else none

theorem touched_eq_some_iff {a b : Audit} {actor : String} {now : Instant} :
    a.touched actor now = some b ↔ a.version < Int32.maxValue ∧ a.next actor now = b := by
  simp [touched]

/-- Two blocks describe the same first write. -/
def sameOrigin (a b : Audit) : Bool :=
  a.id == b.id && a.createdAt == b.createdAt && a.createdBy == b.createdBy

theorem sameOrigin_iff {a b : Audit} : a.sameOrigin b = true ↔
    a.id = b.id ∧ a.createdAt = b.createdAt ∧ a.createdBy = b.createdBy := by
  simp [sameOrigin, and_assoc]

theorem next_sameOrigin (a : Audit) (actor : String) (now : Instant) :
    a.sameOrigin (a.next actor now) = true := by simp [sameOrigin, next]

end Audit

/-- A thing with an audit block. -/
class Audited (α : Type) where
  audit : α → Audit

export Audited (audit)

/-- The identifier of a thing with an audit block. -/
def Audited.id {α : Type} [Audited α] (a : α) : Uuid := (audit a).id

end Enrollment
