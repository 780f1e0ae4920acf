import Enrollment.Registrar.Failure
import Enrollment.Review
import Enrollment.Section.Seats
import Enrollment.Store.Reading

/-! # Writing

The registrar is the only one who writes. Each write reads what its rules may look up, reviews the
candidate, and then changes the store in a few statements: the candidate's own row, the counters of
the sections whose seats move, and the rows that join a section to its space times and teachers. A
write is done as a whole or not at all: a failure carries no store, and the old one stays.

Every row that is replaced is replaced in the version in which it was read; if it is not there any
more, another writer came first. -/

namespace Enrollment.Registrar

open Store (Conditions)

/-! ### Rows -/

/-- The block of the next revision, for which there has to be a version. -/
def touch (a : Audit) (actor : String) (now : Instant) : Except Failure Audit :=
  match a.touched actor now with
  | some next => .ok next
  | none => .error .overflow

theorem touch_of_lt {a : Audit} (actor : String) (now : Instant) (h : a.version < Int32.maxValue) :
    touch a actor now = .ok (a.next actor now) := by
  rw [touch, Audit.touched, if_pos h]

theorem touch_of_not_lt {a : Audit} (actor : String) (now : Instant)
    (h : ¬ a.version < Int32.maxValue) : touch a actor now = .error .overflow := by
  rw [touch, Audit.touched, if_neg h]

theorem touch_eq_ok_iff {a b : Audit} {actor : String} {now : Instant} :
    touch a actor now = .ok b ↔ a.version < Int32.maxValue ∧ a.next actor now = b := by
  rw [← Audit.touched_eq_some_iff, touch]
  cases a.touched actor now <;> simp

/-- The row of an entity takes the place of the one that was read in a version. -/
def writeRow (c : Conditions) (e : Entity) (readVersion : Int32) (s : Store) :
    Except Failure Store := do
  let row ← (Store.Row.ofEntity e).mapError .ofRow
  match ← (s.replace c (audit e).id readVersion row).mapError .ofBreach with
  | some s => return s
  | none => .error (.refused (.conflict (.outdated (audit e).id readVersion)))

/-! ### Junction rows -/

/-- The rows that join a section to its space times. -/
def spaceTimeRows (e : Section) (trimesterId : Uuid) : List Store.Row :=
  e.spaceTimeIds.map fun id =>
    .sectionSpaceTime ⟨none, e.audit.id, id, trimesterId, e.audit.updatedAt⟩

/-- The rows that join a section to its teachers. -/
def teacherRows (e : Section) : List Store.Row :=
  e.teacherIds.map fun id => .sectionTeacher ⟨none, e.audit.id, id, e.audit.updatedAt⟩

/-- A section is joined to its space times and its teachers. -/
def link (c : Conditions) (e : Section) (s : Store) : Except Failure Store := do
  let trimesterId ← (present e.trimesterId "trimester").mapError .refused
  let s ← (s.insert c (spaceTimeRows e trimesterId)).mapError .ofBreach
  (s.insert c (teacherRows e)).mapError .ofBreach

/-- The row joins a section to something. -/
def joins (key : Uuid) : Store.Row → Bool
  | .sectionSpaceTime r => r.sectionId = key
  | .sectionTeacher r => r.sectionId = key
  | _ => false

/-- What a section was joined to, it is joined to no more. -/
def unlink (c : Conditions) (key : Uuid) (s : Store) : Store :=
  ⟨s.rows.filter fun r => !(joins key r && !c.overtaken .delete r)⟩

/-! ### Seats -/

/-- The section under an identifier, which has to exist. -/
def fetchSection (key : Uuid) (s : Store) : Except Failure Section :=
  match s.findSection key with
  | some e => .ok e
  | none => .error (.notFound .section key)

/-- A section after a move, if there is a number for its counter. -/
def moveIn (m : SeatMove) (e : Section) : Except Failure Section :=
  if m.overflows e then .error .overflow else (m.apply e).mapError .refused

theorem moveIn_of_nonneg {m : SeatMove} {e : Section} (h : 0 ≤ e.currentCapacity) :
    moveIn m e = (m.apply e).mapError .refused := by
  rw [moveIn, SeatMove.overflows_eq_false h]
  rfl

/-- A move changes the counter of a section that was read. -/
def saveSeats (c : Conditions) (move : SeatMove) (e : Section) (actor : String) (now : Instant)
    (s : Store) : Except Failure Store := do
  let moved ← moveIn move e
  let next ← touch moved.audit actor now
  writeRow c (.section { moved with audit := next }) e.audit.version s

/-- The section under an identifier in the snapshot, or else in the store. -/
def readSection (snapshot : Snapshot) (key : Uuid) (s : Store) : Except Failure Section :=
  match rowById key snapshot.sections with
  | some e => .ok e
  | none => fetchSection key s

/-- The seats move that a course gives back and takes. -/
def moveSeats (c : Conditions) (snapshot : Snapshot) (old : Option Course) (new : Course)
    (now : Instant) (s : Store) : Except Failure Store := do
  let after ← new.state.mapError fun fault => .refused (.rule (.state fault))
  let move := SeatMove.between (old.bind fun o => o.state.toOption) after
  move.sections.foldlM (fun s key => do
    let e ← readSection snapshot key s
    saveSeats c move e new.audit.updatedBy now s) s

/-- The seats that a candidate moves when it takes the place of an old entity, or of none: those of
a course. -/
def moveSeatsOf (c : Conditions) (snapshot : Snapshot) (now : Instant) (s : Store) :
    Option Entity → Entity → Except Failure Store
  | some (.course old), .course new => moveSeats c snapshot (some old) new now s
  | none, .course new => moveSeats c snapshot none new now s
  | _, _ => .ok s

/-! ### Sections and what they are joined to -/

/-- An entity that is a section is joined to what it lists. -/
def attach (c : Conditions) (s : Store) : Entity → Except Failure Store
  | .section sec => link c sec s
  | _ => .ok s

/-- An entity that is a section is joined to nothing any more. -/
def detach (c : Conditions) (s : Store) : Entity → Store
  | .section sec => unlink c sec.audit.id s
  | _ => s

/-! ### The three writes -/

/-- What the clock shows during a write: first when the candidate is reviewed, then when rows are
written. -/
structure Clock where
  review : Instant
  write : Instant
deriving DecidableEq, Repr

/-- A clock that stands still. -/
def Clock.still (now : Instant) : Clock := ⟨now, now⟩

/-- A new entity is stored. -/
def create (c : Conditions) (clock : Clock) (e : Entity) (s : Store) :
    Except Failure (Entity × Store) := do
  let snapshot ← (s.load e none).mapError .ofRow
  (e.reviewNew snapshot.lookup clock.review).mapError .refused
  let s ← moveSeatsOf c snapshot clock.write s none e
  let row ← (Store.Row.ofEntity e).mapError .ofRow
  let s ← (s.insert c [row]).mapError .ofBreach
  let s ← attach c s e
  return (e, s)

/-- The entity of a kind under an identifier, which has to exist. -/
def fetch (kind : Kind) (key : Uuid) (s : Store) : Except Failure Entity := do
  match ← (s.find kind key).mapError .ofRow with
  | some e => return e
  | none => .error (.notFound kind key)

/-- The next revision of a stored entity is stored, given in the version in which it was read. -/
def update (c : Conditions) (clock : Clock) (e : Entity) (s : Store) :
    Except Failure (Entity × Store) := do
  let old ← fetch e.kind (audit e).id s
  let snapshot ← (s.load e (some old)).mapError .ofRow
  (e.reviewRevision old snapshot.lookup clock.review).mapError .refused
  let next ← touch (audit old) (audit e).updatedBy clock.write
  let new := e.withAudit next
  let s ← moveSeatsOf c snapshot clock.write s (some old) new
  let s ← writeRow c new (audit old).version s
  let s ← attach c (detach c s new) new
  return (new, s)

/-- The seat that a stored course holds is given back before the course is removed. -/
def giveBack (c : Conditions) (actor : String) (now : Instant) (s : Store) :
    Entity → Except Failure Store
  | .course course =>
    match course.state.toOption.bind CourseState.seat with
    | some key => do
      let sec ← fetchSection key s
      saveSeats c ⟨some key, none⟩ sec actor now s
    | none => .ok s
  | _ => .ok s

/-- An entity is removed. -/
def delete (c : Conditions) (now : Instant) (kind : Kind) (key : Uuid) (actor : String)
    (s : Store) : Except Failure Store := do
  let old ← fetch kind key s
  let s ← giveBack c actor now s old
  match ← ((detach c s old).remove c (Store.tableOf kind) key).mapError .ofBreach with
  | some s => return s
  | none => .error (.notFound kind key)

/-! ### Commands -/

/-- What the registrar is asked to do. -/
inductive Command where
  | create (e : Entity)
  | update (e : Entity)
  | delete (kind : Kind) (id : Uuid) (actor : String)
deriving DecidableEq, Repr

/-- A command is carried out: what is stored then of what it names, and the store. -/
def Command.perform (c : Conditions) (clock : Clock) (s : Store) :
    Command → Except Failure (Option Entity × Store)
  | create e => (Registrar.create c clock e s).map fun (e, s) => (some e, s)
  | update e => (Registrar.update c clock e s).map fun (e, s) => (some e, s)
  | delete kind id actor =>
    (Registrar.delete c clock.write kind id actor s).map fun s => (none, s)

/-- A command is carried out while the clock stands still. -/
def Command.run (c : Conditions) (now : Instant) (s : Store) (command : Command) :
    Except Failure (Option Entity × Store) := command.perform c (.still now) s

end Enrollment.Registrar
