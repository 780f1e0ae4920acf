import Enrollment.Proofs.Registrar.Occupancy
import Enrollment.Proofs.Registrar.Progress

/-! # When a section is full

A course that takes a seat is refused by the rules when the counter of the section has reached the
room there is, and for no other reason is it told that the section is full: once the rules have
accepted it, neither the seats that move nor the store speak of seats. The counter is what it was
when the section was created and the seats that are taken since.

* `check_eq_checkSeat`: the rules for a course whose only open question is the seat.
* `refusedAsFull_of_seeks`: it is told that the section is full iff the counter says so.
* `refusedAsFull_iff`: in a run, the section is full iff the seats counted at its creation and those
  taken since are as many as there is room. -/

namespace Enrollment

/-! ### The rules, the seat apart -/

namespace Course

variable {c : Course} {ctx : Context}

/-- The rules have nothing against a course, the seat apart: it is seen as holding its seat already,
and then it takes none. -/
def PassesButSeat (c : Course) (ctx : Context) : Prop := c.check c.state.toOption ctx = .ok ()

instance (c : Course) (ctx : Context) : Decidable (c.PassesButSeat ctx) :=
  inferInstanceAs (Decidable (c.check c.state.toOption ctx = .ok ()))

theorem check_eq_checkSeat {st : CourseState} (h : c.PassesButSeat ctx) (hst : c.state = .ok st)
    (old : Option CourseState) : c.check old ctx = checkSeat ctx.lookup (.between old st) := by
  unfold PassesButSeat check at h
  obtain ⟨student, hstudent, h⟩ := bind_eq_ok_iff.mp h
  obtain ⟨subject, hsubject, h⟩ := bind_eq_ok_iff.mp h
  obtain ⟨trimester, htrimester, h⟩ := bind_eq_ok_iff.mp h
  obtain ⟨st', hst', h⟩ := bind_eq_ok_iff.mp h
  have hsame : st' = st := by
    rw [hst] at hst'
    exact (Except.ok.inj hst').symm
  subst hsame
  unfold check
  rw [hstudent, hsubject, htrimester, hst', ok_bind, ok_bind, ok_bind, ok_bind]
  simp only [check_bind_eq_ok_iff] at h
  obtain ⟨hstudent', hsubject', htrimester', h⟩ := h
  rw [hstudent', hsubject', htrimester', ok_bind, ok_bind, ok_bind]
  cases hid : st'.section? with
  | none =>
    simp only [hid, check_bind_eq_ok_iff, true_and] at h
    simp only [h.1, ok_bind]
  | some id =>
    simp only [hid, check_bind_eq_ok_iff] at h
    simp only [h.1, h.2.1, ok_bind]

end Course

namespace Registrar

open Store

variable {s : Store} {key : Uuid}

/-! ### Courses that seek a seat -/

/-- A call would write a course that the rules have nothing else against, and that takes a seat in a
section. -/
inductive SeeksSeat (call : Call) (s : Store) (key : Uuid) : Prop where
  | created {c : Course} {part : Snapshot} (hcommand : call.command = .create (.course c))
      (hload : s.load (.course c) none = .ok part) (hfields : Entity.violations (.course c) = [])
      (hrules : c.PassesButSeat ⟨part.lookup, call.clock.review, none⟩)
      (htake : (SeatMove.ofSeats none (Entity.seat (.course c))).take = some key) :
      SeeksSeat call s key
  | updated {c old : Course} {part : Snapshot} (hcommand : call.command = .update (.course c))
      (hfind : s.find .course c.audit.id = .ok (some (.course old)))
      (hload : s.load (.course c) (some (.course old)) = .ok part)
      (hrevision : Entity.checkRevision (.course c) (.course old) = .ok ())
      (hfields : Entity.violations (.course c) = [])
      (hrules : c.PassesButSeat ⟨part.lookup, call.clock.review, some old.audit.id⟩)
      (htake : (SeatMove.ofSeats (Entity.seat (.course old)) (Entity.seat (.course c))).take =
        some key) :
      SeeksSeat call s key

/-- A section is told to be full. -/
def tooFull (r : SectionRow) : Refusal :=
  .rule (.seatLeft r.audit.id r.currentCapacity r.maxCapacity)

/-- A call is refused because some section is full. -/
def Call.RefusedAsFull (call : Call) (s : Store) : Prop :=
  ∃ id current most, call.answer s = .error (.refused (.rule (.seatLeft id current most)))

theorem exists_sectionAt {c : Course} {old : Option Entity} {part : Snapshot} {now : Instant}
    {replacing : Option Uuid} {before : Option Uuid} (hs : s.Conforms)
    (hload : s.load (.course c) old = .ok part)
    (hrules : c.PassesButSeat ⟨part.lookup, now, replacing⟩)
    (htake : (SeatMove.ofSeats before (Entity.seat (.course c))).take = some key) :
    ∃ r ∈ s.sections, r.audit.id = key ∧ part.lookup.sectionAt key = some (s.joined r) := by
  obtain ⟨_, _, _, st, hpasses⟩ := Course.passes_of_check hrules
  have hseat : Entity.seat (.course c) = some key := by
    unfold SeatMove.ofSeats at htake
    split at htake
    · cases htake
    · exact htake
  have hsection := ((Entity.seat_course_iff ⟨st, hpasses.state⟩).mp hseat).2
  obtain ⟨sec, hsec, -⟩ := hpasses.sectionAt hsection
  obtain ⟨hmem, hid⟩ := mem_of_rowById hsec
  obtain ⟨r, hr, rfl⟩ := exists_row_of_mem_load hs hload hmem
  exact ⟨r, hr, hid, hsec⟩

theorem checkSeat_eq {l : Lookup} {before after : Option Uuid} {r : SectionRow}
    (hsec : l.sectionAt r.audit.id = some (s.joined r))
    (htake : (SeatMove.ofSeats before after).take = some r.audit.id) :
    Course.checkSeat l (.ofSeats before after) =
      if r.maxCapacity ≤ r.currentCapacity then .error (tooFull r) else .ok () := by
  have hverdict : Course.checkSeat l (.ofSeats before after) =
      ((SeatMove.ofSeats before after).attempt (s.joined r)).2 := by
    rw [Course.checkSeat, htake, Option.bind_some, hsec]
  rw [hverdict]
  obtain ⟨-, hfull, heq⟩ | ⟨hroom, heq⟩ :=
    SeatMove.attempt_ofSeats_cases before after (s.joined r)
  · have hfull : r.maxCapacity ≤ r.currentCapacity := of_decide_eq_true hfull
    rw [heq, if_pos hfull]
    rfl
  · have hroom : ¬ r.maxCapacity ≤ r.currentCapacity := of_decide_eq_false (hroom htake)
    rw [heq, if_neg hroom]

/-! ### What becomes of them -/

section Seeking

variable {c : Course} {part : Snapshot} {clock : Clock} {r : SectionRow} {before : Option Uuid}

/-- The verdict of the rules is that of the counter. -/
theorem check_eq_of_passesButSeat (old : Option Course) {replacing : Option Uuid} {now : Instant}
    (hrules : c.PassesButSeat ⟨part.lookup, now, replacing⟩)
    (hsec : part.lookup.sectionAt r.audit.id = some (s.joined r))
    (htake : (SeatMove.ofSeats (old.bind fun o => Entity.seat (.course o))
      (Entity.seat (.course c))).take = some r.audit.id) :
    c.check (old.bind fun o => o.state.toOption) ⟨part.lookup, now, replacing⟩ =
      if r.maxCapacity ≤ r.currentCapacity then .error (tooFull r) else .ok () := by
  obtain ⟨_, _, _, st, hpasses⟩ := Course.passes_of_check hrules
  rw [Course.check_eq_checkSeat hrules hpasses.state, between_eq_ofSeats_of_state hpasses.state]
  exact checkSeat_eq hsec htake

theorem reviewNew_of_seeks (hfields : Entity.violations (.course c) = [])
    (hrules : c.PassesButSeat ⟨part.lookup, clock.review, none⟩)
    (hsec : part.lookup.sectionAt r.audit.id = some (s.joined r))
    (htake : (SeatMove.ofSeats none (Entity.seat (.course c))).take = some r.audit.id) :
    (Entity.course c).reviewNew part.lookup clock.review =
      if r.maxCapacity ≤ r.currentCapacity then .error (tooFull r) else .ok () := by
  unfold Entity.reviewNew
  rw [hfields]
  exact check_eq_of_passesButSeat none hrules hsec htake

theorem reviewRevision_of_seeks {old : Course}
    (hrevision : Entity.checkRevision (.course c) (.course old) = .ok ())
    (hfields : Entity.violations (.course c) = [])
    (hrules : c.PassesButSeat ⟨part.lookup, clock.review, some old.audit.id⟩)
    (hsec : part.lookup.sectionAt r.audit.id = some (s.joined r))
    (htake : (SeatMove.ofSeats (Entity.seat (.course old)) (Entity.seat (.course c))).take =
      some r.audit.id) :
    (Entity.course c).reviewRevision (.course old) part.lookup clock.review =
      if r.maxCapacity ≤ r.currentCapacity then .error (tooFull r) else .ok () := by
  unfold Entity.reviewRevision
  rw [hrevision, hfields]
  exact check_eq_of_passesButSeat (some old) hrules hsec htake

end Seeking

theorem Failure.ofBreach_ne_rule (b : Breach) (rule : Rule) :
    Failure.ofBreach b ≠ .refused (.rule rule) := by
  cases b <;> simp [ofBreach, Store.Failure.ofBreach, ofStore, contention]

/-- A new course that is accepted is stored, or breaches the schema, or a version is missing. -/
theorem create_course_cases {c : Course} {part : Snapshot} {clock : Clock} (hs : Reachable s)
    (hload : s.load (.course c) none = .ok part)
    (hreview : (Entity.course c).reviewNew part.lookup clock.review = .ok ()) :
    (∃ s', create {} clock (.course c) s = .ok (.course c, s')) ∨
      (∃ b, create {} clock (.course c) s = .error (.ofBreach b)) ∨
        create {} clock (.course c) s = .error .overflow := by
  obtain ⟨whole, ctx, hshows, hfields, hrules⟩ :=
    exists_whole_of_reviewNew hs.conforms hs.readable hload hreview
  have hmoved := moved_cases (a := c.audit) clock.write hs hshows hfields hrules
    (fun _ ho => absurd ho (Option.not_mem_none _)) hload
  have hself : (Entity.course c).withAudit c.audit = .course c := rfl
  rw [hself] at hmoved
  rcases hmoved with ⟨s₁, row, h₁⟩ | ⟨hoverflow, -⟩
  · simp only [create, hload, hreview, h₁.moved, h₁.row_eq, mapError_ok, ok_bind]
    cases s₁.insert {} [row] with
    | error b => exact .inr (.inl ⟨b, rfl⟩)
    | ok s₂ => exact .inl ⟨s₂, rfl⟩
  · refine .inr (.inr ?_)
    simp only [create, hload, hreview, hoverflow, mapError_ok, ok_bind]
    rfl

/-- **A course that seeks a seat** in a section that is full is told so, and in a section that has
a seat left it is not. -/
theorem refusedAsFull_of_seeks {call : Call} (hs : Reachable s) (h : SeeksSeat call s key) :
    ∃ r ∈ s.sections, r.audit.id = key ∧
      (r.maxCapacity ≤ r.currentCapacity → call.answer s = .error (.refused (tooFull r))) ∧
      (¬ r.maxCapacity ≤ r.currentCapacity → ¬ call.RefusedAsFull s) := by
  cases h with
  | @created c part hcommand hload hfields hrules htake =>
    obtain ⟨r, hr, rfl, hsec⟩ := exists_sectionAt hs.conforms hload hrules htake
    have hreview := reviewNew_of_seeks hfields hrules hsec htake
    refine ⟨r, hr, rfl, fun hfull => ?_, fun hleft => ?_⟩
    · rw [if_pos hfull] at hreview
      simp only [Call.answer, hcommand, Command.perform, create, hload, hreview, mapError_ok,
        ok_bind]
      rfl
    · rw [if_neg hleft] at hreview
      rintro ⟨id, current, most, hanswer⟩
      simp only [Call.answer, hcommand, Command.perform] at hanswer
      rcases create_course_cases hs hload hreview with ⟨s', hcreate⟩ | ⟨b, hcreate⟩ | hcreate
      · rw [hcreate] at hanswer
        cases hanswer
      · rw [hcreate] at hanswer
        exact Failure.ofBreach_ne_rule b _ (Except.error.inj hanswer)
      · rw [hcreate] at hanswer
        cases hanswer
  | @updated c old part hcommand hfind hload hrevision hfields hrules htake =>
    obtain ⟨r, hr, rfl, hsec⟩ := exists_sectionAt hs.conforms hload hrules htake
    have hreview := reviewRevision_of_seeks hrevision hfields hrules hsec htake
    refine ⟨r, hr, rfl, fun hfull => ?_, fun hleft => ?_⟩
    · rw [if_pos hfull] at hreview
      have hfetch : fetch (Entity.course c).kind (audit (Entity.course c)).id s =
          .ok (.course old) := fetch_eq_ok hfind
      simp only [Call.answer, hcommand, Command.perform, update, hfetch, hload, hreview,
        mapError_ok, ok_bind]
      rfl
    · rw [if_neg hleft] at hreview
      rintro ⟨id, current, most, hanswer⟩
      rcases update_cases (e := .course c) hs hfind hload hreview with
        ⟨s', new, a, rfl, -, -, hupdate⟩ | ⟨hupdate, -⟩
      · simp only [Call.answer, hcommand, Command.perform, hupdate] at hanswer
        cases hanswer
      · simp only [Call.answer, hcommand, Command.perform, hupdate] at hanswer
        cases hanswer

/-! ### Runs -/

/-- **Fullness in a run**: a course that the rules have nothing else against, and that takes a seat
in a stored section, is refused because the section is full iff the seats that the section counted
when it was created and the courses that are seated in it are as many as there is room. -/
theorem refusedAsFull_iff (calls : List Call) (call : Call) {r : SectionRow}
    (hr : r ∈ (storeAfter calls).sections)
    (h : SeeksSeat call (storeAfter calls) r.audit.id) :
    ∃ i sec, CreatedAt calls i calls.length (.section sec) ∧ sec.audit.id = r.audit.id ∧
      (call.RefusedAsFull (storeAfter calls) ↔
        sec.currentCapacity.toInt + (storeAfter calls).seated r.audit.id =
          r.maxCapacity.toInt) := by
  have hs := reachable_storeAfter calls
  have hwithin := Int32.le_iff_toInt_le.mp (hs.accounted.withinRoom r hr)
  obtain ⟨i, sec, hcreated, hid, hcounter⟩ :=
    exists_createdAt calls calls.length ((storeAt_length calls).symm ▸ hr)
  rw [storeAt_length] at hcounter
  refine ⟨i, sec, hcreated, hid, ?_⟩
  rw [← hcounter]
  obtain ⟨x, hx, hxr, hfull, hleft⟩ := refusedAsFull_of_seeks hs h
  obtain rfl := hs.conforms.section_eq hx hr hxr
  constructor
  · intro hrefused
    by_contra hne
    refine hleft (fun hle => ?_) hrefused
    have := Int32.le_iff_toInt_le.mp hle
    omega
  · intro heq
    exact ⟨_, _, _, hfull (Int32.le_iff_toInt_le.mpr (by omega))⟩

namespace Sample

open Enrollment.Sample

/-- One seat of the section is left. -/
def crowded : Section := { «section» with currentCapacity := 29 }

/-- No seat of the section is left, though no student has been in it. -/
def taken : Section := { «section» with currentCapacity := 30 }

/-- Two students, and a section. -/
def opened (sec : Section) : List Call :=
  calls.take 6 ++ [.student ⟨block 9, 43, "Student", "other@university"⟩, .section sec].map
    fun e => ⟨.still noon, .create e⟩

/-- The course of the other student. -/
def lateCourse : Course := { course with audit := block 10, studentId := some (ident 9) }

/-- The other student registers. -/
def late : Call := ⟨.still noon, .create (.course lateCourse)⟩

/-- A student registers, and the section is full. -/
def filled : List Call := opened crowded ++ [⟨.still noon, .create (.course course)⟩]

/-- The section after the student has registered. -/
def filledRow : SectionRow := { sectionRow with currentCapacity := 30 }

theorem seeksSeat_late {s : Store} (hs : Reachable s)
    (h : ((s.load (.course lateCourse) none).toOption.map fun part =>
      lateCourse.check lateCourse.state.toOption ⟨part.lookup, noon, none⟩) = some (.ok ())) :
    SeeksSeat late s (ident 7) := by
  obtain ⟨part, hload⟩ := exists_load hs.readable (.course lateCourse) none
  have hrules := verdict_of_load
    (fun part => lateCourse.check lateCourse.state.toOption ⟨part.lookup, noon, none⟩) hload h
  exact .created rfl hload (by decide) hrules (by decide)

end Sample

theorem refusedAsFull_of_filled : Sample.late.RefusedAsFull (storeAfter Sample.filled) ∧
    ∃ i sec, CreatedAt Sample.filled i Sample.filled.length (.section sec) ∧
      sec.audit.id = Sample.filledRow.audit.id ∧
      (Sample.late.RefusedAsFull (storeAfter Sample.filled) ↔ sec.currentCapacity.toInt +
        (storeAfter Sample.filled).seated Sample.filledRow.audit.id = 30) := by
  have hr : Sample.filledRow ∈ (storeAfter Sample.filled).sections := by decide +kernel
  have hseeks : SeeksSeat Sample.late (storeAfter Sample.filled) Sample.filledRow.audit.id :=
    Sample.seeksSeat_late (reachable_storeAfter _) (by decide +kernel)
  have hiff := refusedAsFull_iff Sample.filled Sample.late hr hseeks
  refine ⟨⟨Sample.ident 7, 30, 30, by decide +kernel⟩, hiff⟩

/-- A section may be full though no course is seated in it. -/
theorem full_without_courses : ¬ ∀ calls call, ∀ r ∈ (storeAfter calls).sections,
    SeeksSeat call (storeAfter calls) r.audit.id →
      (call.RefusedAsFull (storeAfter calls) ↔
        (storeAfter calls).seated r.audit.id = r.maxCapacity.toInt) := by
  intro h
  have hr : SectionRow.mk (Sample.block 7) (Sample.ident 1) (Sample.ident 4) 30 30 ∈
      (storeAfter (Sample.opened Sample.taken)).sections := by decide +kernel
  have hseeks := Sample.seeksSeat_late (reachable_storeAfter (Sample.opened Sample.taken))
    (by decide +kernel)
  have hrefused : Sample.late.RefusedAsFull (storeAfter (Sample.opened Sample.taken)) :=
    ⟨Sample.ident 7, 30, 30, by decide +kernel⟩
  have hseated := (h _ Sample.late _ hr hseeks).mp hrefused
  have hnone : (storeAfter (Sample.opened Sample.taken)).seated (Sample.ident 7) = 0 := by
    decide +kernel
  rw [show (SectionRow.mk (Sample.block 7) (Sample.ident 1) (Sample.ident 4) 30 30).audit.id =
    Sample.ident 7 from rfl, hnone] at hseated
  exact absurd hseated (by decide)

end Registrar

end Enrollment
