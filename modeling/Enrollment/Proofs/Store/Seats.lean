import Enrollment.Proofs.Store.Entities
import Enrollment.Store.Migration

/-! # Seats that stored courses hold

A stored course holds a seat in a section if it is registered or completed and names the section.
That is the seat of the course it stands for, as long as its fields make a state.

* `isSeatedIn_of_toEntity?`, `isSeatedIn_ofEntity`: a row and its entity hold the same seat.
* `seated_eq_countP`: the count, over the rows of all tables.
* `seated_eq_zero`: a section that is not stored has no seat taken. -/

namespace Enrollment

/-! ### Seats of entities -/

/-- The seat that an entity holds; only a course holds one. -/
def Entity.seat : Entity → Option Uuid
  | .course c => c.state.toOption.bind CourseState.seat
  | _ => none

/-- The fields of a course make a state. -/
def Entity.HasState : Entity → Prop
  | .course c => ∃ st, c.state = .ok st
  | _ => True

theorem Entity.seat_eq_none {e : Entity} (h : e.kind ≠ .course) : e.seat = none := by
  cases e
  case course => exact absurd rfl h
  all_goals rfl

theorem Entity.hasState_of_kind {e : Entity} (h : e.kind ≠ .course) : e.HasState := by
  cases e
  case course => exact absurd rfl h
  all_goals trivial

theorem Entity.hasState_of_seat {e : Entity} {key : Uuid} (h : e.seat = some key) :
    e.HasState := by
  cases e
  case course c =>
    cases hst : c.state with
    | ok st => exact ⟨st, hst⟩
    | error => rw [seat, hst] at h; cases h
  all_goals trivial

theorem Entity.seat_course_iff {c : Course} {key : Uuid} (h : HasState (.course c)) :
    seat (.course c) = some key ↔
      (c.status = .registered ∨ c.status = .completed) ∧ c.sectionId = some key := by
  obtain ⟨st, hst⟩ := h
  obtain ⟨hstatus, hsec, -, -⟩ := CourseState.of_eq_ok_iff.mp hst
  rw [seat, hst, show (Except.ok st : Except StateFault _).toOption.bind CourseState.seat =
    st.seat from rfl, ← hstatus, ← hsec]
  cases st <;> simp [CourseState.seat, CourseState.status, CourseState.section?]

theorem isValid_unsignedZero (g : Grade) : Grade.isValid g.unsignedZero = Grade.isValid g :=
  Store.Row.admits_unsignedZero Store.gradeCondition g

theorem Entity.HasState.unsignedZero {c : Course} (h : HasState (.course c)) :
    HasState (.course { c with grade := c.grade.map Binary32.unsignedZero }) := by
  obtain ⟨st, hst⟩ := h
  obtain ⟨hstatus, hsec, hgrade, hvalid⟩ := CourseState.of_eq_ok_iff.mp hst
  rcases st with _ | sec | ⟨sec, g⟩ | sec
  · exact ⟨.selected, CourseState.of_eq_ok_iff.mpr ⟨hstatus, hsec, by rw [← hgrade]; rfl, hvalid⟩⟩
  · exact ⟨.registered sec, CourseState.of_eq_ok_iff.mpr
      ⟨hstatus, hsec, by rw [← hgrade]; rfl, hvalid⟩⟩
  · refine ⟨.completed sec g.unsignedZero, CourseState.of_eq_ok_iff.mpr
      ⟨hstatus, hsec, by rw [← hgrade]; rfl, fun x hx => ?_⟩⟩
    obtain rfl := Option.some.inj hx
    rw [isValid_unsignedZero]
    exact hvalid g rfl
  · exact ⟨.dropped sec, CourseState.of_eq_ok_iff.mpr
      ⟨hstatus, hsec, by rw [← hgrade]; rfl, hvalid⟩⟩

namespace Store

/-! ### Seats of rows -/

/-- The course is registered or completed, in the given section. -/
def CourseRow.isSeatedIn (key : Uuid) (r : CourseRow) : Bool :=
  (r.status = Named.name CourseStatus.registered || r.status = Named.name CourseStatus.completed) &&
    r.sectionId = some key

/-- The row is that of a course that is seated in the given section. -/
def Row.isSeatedIn (key : Uuid) : Row → Bool
  | .course r => r.isSeatedIn key
  | _ => false

/-- The row is not that of a course whose fields make no state. -/
def Row.HasState (r : Row) : Prop :=
  ∀ spaceTimeIds teacherIds e, r.toEntity? spaceTimeIds teacherIds = some (.ok e) → e.HasState

/-- How many stored courses are registered or completed in a section. -/
def seated (s : Store) (key : Uuid) : Nat := s.courses.countP (·.isSeatedIn key)

variable {s : Store} {r : Row} {e : Entity} {key : Uuid}

theorem seated_eq_countP (s : Store) (key : Uuid) :
    s.seated key = s.rows.countP (Row.isSeatedIn key) := by
  unfold seated courses typed
  rw [List.countP_filterMap]
  refine List.countP_congr fun q _ => ?_
  cases q <;> simp [RowType.ofRow?, Row.isSeatedIn]

theorem Row.isSeatedIn_eq_false (h : r.table ≠ .courses) : r.isSeatedIn key = false := by
  cases r
  case course => exact absurd rfl h
  all_goals rfl

theorem CourseRow.isSeatedIn_iff {r : CourseRow} {status : CourseStatus}
    (h : r.status = Named.name status) : r.isSeatedIn key = true ↔
      (status = .registered ∨ status = .completed) ∧ r.sectionId = some key := by
  have hname : ∀ a : CourseStatus, Named.name status = Named.name a ↔ status = a :=
    fun a => ⟨Named.name_injective, congrArg _⟩
  simp [isSeatedIn, h, hname]

theorem CourseRow.toCourse_eq_ok_iff {r : CourseRow} {c : Course} : r.toCourse = .ok c ↔
    r.status = Named.name c.status ∧ c = ⟨r.audit, some r.studentId, some r.subjectId,
      some r.trimesterId, c.status, r.sectionId, r.grade⟩ := by
  simp only [toCourse, bind_eq_ok_iff, pure_eq_ok_iff, ofName_eq_ok_iff]
  constructor
  · rintro ⟨status, h, rfl⟩; exact ⟨h.symm, rfl⟩
  · rintro ⟨h, hc⟩; exact ⟨c.status, h.symm, hc.symm⟩

theorem isSeatedIn_of_toEntity? {spaceTimeIds teacherIds : List Uuid}
    (h : r.toEntity? spaceTimeIds teacherIds = some (.ok e)) (hstate : e.HasState) :
    r.isSeatedIn key = true ↔ e.seat = some key := by
  by_cases hkind : e.kind = .course
  · have htable := (matches_of_toEntity? h).1
    rw [hkind] at htable
    cases r <;> simp only [Row.table, tableOf, reduceCtorEq] at htable
    rename_i r
    obtain ⟨c, hc, rfl⟩ := map_eq_ok_iff.mp (Option.some.inj h)
    obtain ⟨hstatus, hfields⟩ := CourseRow.toCourse_eq_ok_iff.mp hc
    rw [Row.isSeatedIn, CourseRow.isSeatedIn_iff hstatus, Entity.seat_course_iff hstate,
      show c.sectionId = r.sectionId by rw [hfields]]
  · rw [Entity.seat_eq_none hkind, Row.isSeatedIn_eq_false fun ht => hkind ?_]
    · simp
    · exact tableOf_injective ((matches_of_toEntity? h).1.symm.trans ht)

theorem hasState_of_table (h : r.table ≠ .courses) : r.HasState := fun _ _ _ he =>
  Entity.hasState_of_kind fun hk => h (by rw [(matches_of_toEntity? he).1, hk]; rfl)

theorem courseRow_of_ofEntity {c : Course} (h : Row.ofEntity (.course c) = .ok r) :
    ∃ x : CourseRow, r = .course x ∧ x.toCourse = .ok c := by
  obtain ⟨x, hx, rfl⟩ := map_eq_ok_iff.mp h
  simp only [CourseRow.of, bind_eq_ok_iff, required_eq_ok_iff, pure_eq_ok_iff] at hx
  obtain ⟨student, hstudent, subject, hsubject, trimester, htrimester, rfl⟩ := hx
  refine ⟨_, rfl, CourseRow.toCourse_eq_ok_iff.mpr ⟨rfl, ?_⟩⟩
  rw [← hstudent, ← hsubject, ← htrimester]

theorem hasState_ofEntity (h : Row.ofEntity e = .ok r) (hstate : e.HasState) :
    r.settled.HasState := by
  by_cases hkind : e.kind = .course
  · cases e <;> simp only [Entity.kind, reduceCtorEq] at hkind
    rename_i c
    obtain ⟨x, rfl, hx⟩ := courseRow_of_ofEntity h
    obtain ⟨hstatus, hfields⟩ := CourseRow.toCourse_eq_ok_iff.mp hx
    intro _ _ e' he'
    obtain ⟨c', hc', rfl⟩ := map_eq_ok_iff.mp (Option.some.inj he')
    obtain ⟨hstatus', hfields'⟩ := CourseRow.toCourse_eq_ok_iff.mp hc'
    have hsame : c'.status = c.status := Named.name_injective (hstatus'.symm.trans hstatus)
    have hc : c' = { c with grade := c.grade.map Binary32.unsignedZero } := by
      rw [hfields', hsame, hfields]
    exact hc ▸ hstate.unsignedZero
  · refine hasState_of_table ?_
    rw [Row.table_settled, (matches_ofEntity h).1]
    exact fun ht => hkind (tableOf_injective ht)

theorem isSeatedIn_ofEntity (h : Row.ofEntity e = .ok r) (hstate : e.HasState) :
    r.settled.isSeatedIn key = true ↔ e.seat = some key := by
  by_cases hkind : e.kind = .course
  · cases e <;> simp only [Entity.kind, reduceCtorEq] at hkind
    rename_i c
    obtain ⟨x, rfl, hx⟩ := courseRow_of_ofEntity h
    obtain ⟨hstatus, hfields⟩ := CourseRow.toCourse_eq_ok_iff.mp hx
    rw [show (Row.course x).settled.isSeatedIn key = x.isSeatedIn key from rfl,
      CourseRow.isSeatedIn_iff hstatus, Entity.seat_course_iff hstate, hfields]
  · rw [Entity.seat_eq_none hkind, Row.isSeatedIn_eq_false]
    · simp
    · rw [Row.table_settled, (matches_ofEntity h).1]
      exact fun ht => hkind (tableOf_injective ht)

theorem exists_isAt_of_isSeatedIn (hs : s.Conforms) (hr : r ∈ s.rows)
    (h : r.isSeatedIn key = true) : ∃ q ∈ s.rows, q.isAt .sections key = true := by
  cases r <;> simp only [Row.isSeatedIn, Bool.false_eq_true] at h
  rename_i r
  have hsec : r.sectionId = some key := by
    simp only [CourseRow.isSeatedIn, Bool.and_eq_true, decide_eq_true_eq] at h
    exact h.2
  have hcell : (Row.course r).cell .sectionId = .uuid key :=
    congrArg (Cell.ofOption Cell.uuid) hsec
  have href : ⟨.sectionId, .sections, .restrict⟩ ∈ Schema.migrated.references .courses := by decide
  exact hs.exists_isAt hr href hcell

theorem seated_eq_zero (hs : s.Conforms) (h : ∀ q ∈ s.rows, q.isAt .sections key = false) :
    s.seated key = 0 := by
  rw [seated_eq_countP, List.countP_eq_zero]
  intro q hq hseat
  obtain ⟨x, hx, hat⟩ := exists_isAt_of_isSeatedIn hs hq hseat
  rw [h x hx] at hat
  cases hat

end Store

end Enrollment
