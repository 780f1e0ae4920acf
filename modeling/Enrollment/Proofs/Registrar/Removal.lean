import Enrollment.Proofs.Registrar.Occupancy
import Enrollment.Proofs.Registrar.ReadBack

/-! # Removing

An entity is removed iff it is stored and no stored row refers to it; the rows that join a section
to others do not count, since they go with it. A seat is given back before the row of a course goes,
for which the section has to have a next version. What is taken off before the row itself goes, the
rows that join a section and the seat of a course, is put back if the row has to stay.

* `Referenced`: a stored row refers to an entity.
* `exists_delete`, `delete_of_referenced`, `delete_of_missing`: the three outcomes.
* `Deleted.removed`: what is left of a store.
* `delete_succeeds_iff`: which of them it is, and what is left. -/

namespace Enrollment.Registrar

open Store

variable {s s' : Store} {kind : Kind} {key : Uuid} {actor : String} {now : Instant} {old : Entity}

/-! ### References -/

/-- A row joins the section of a place to something. -/
def joinsOwn (kind : Kind) (key : Uuid) (q : Row) : Bool := kind = .section && joins key q

/-- A stored row refers to what stands in a place, through a foreign key of the schema. The rows
that join a section to others do not count for that section. -/
def Referenced (s : Store) (kind : Kind) (key : Uuid) : Prop :=
  ∃ r ∈ s.rows, joinsOwn kind key r = false ∧ ∃ ref ∈ Schema.migrated.references r.table,
    ref.target = tableOf kind ∧ r.cell ref.column = .uuid key

instance (s : Store) (kind : Kind) (key : Uuid) : Decidable (Referenced s kind key) :=
  inferInstanceAs (Decidable (∃ r ∈ s.rows, joinsOwn kind key r = false ∧
    ∃ ref ∈ Schema.migrated.references r.table,
      ref.target = tableOf kind ∧ r.cell ref.column = .uuid key))

theorem target_ne {t : Table} {ref : Reference} (h : ref ∈ Schema.migrated.references t) :
    ref.target ≠ t := by
  have hall : ∀ ref ∈ Schema.migrated.references t, ref.target ≠ t := by
    cases t <;> decide
  exact hall ref h

theorem linksOf_eq_joinsOwn (h : old.kind = kind ∧ (audit old).id = key) (q : Row) :
    linksOf old q = joinsOwn kind key q := by
  obtain ⟨rfl, rfl⟩ := h
  cases old
  case «section» => rfl
  all_goals rfl

/-- Who refers to a stored row and does not join it to others does not go with it. -/
theorem referenced_iff : Referenced s kind key ↔ ∃ r ∈ s.rows, joinsOwn kind key r = false ∧
    r.isAt (tableOf kind) key = false ∧ r.refersTo (tableOf kind) key .restrict = true := by
  constructor
  · rintro ⟨r, hr, hown, ref, href, htarget, hcell⟩
    refine ⟨r, hr, hown, ?_, ?_⟩
    · rw [Bool.eq_false_iff]
      intro hat
      exact target_ne href (htarget.trans (Row.isAt_iff.mp hat).1.symm)
    · cases hsort : ref.onDelete with
      | restrict => exact Row.refersTo_eq_true_iff.mpr ⟨ref, href, htarget, hsort, hcell⟩
      | cascade =>
        obtain ⟨ht, hjoins⟩ := refersTo_cascade_iff.mp
          (Row.refersTo_eq_true_iff.mpr ⟨ref, href, htarget, hsort, hcell⟩)
        have hkind : kind = .section := tableOf_injective ht
        rw [joinsOwn, hjoins, hkind] at hown
        cases hown
  · rintro ⟨r, hr, hown, -, hrefers⟩
    obtain ⟨ref, href, htarget, -, hcell⟩ := Row.refersTo_eq_true_iff.mp hrefers
    exact ⟨r, hr, hown, ref, href, htarget, hcell⟩

/-! ### What can be read and given back -/

theorem exists_holds (hr : s.Readable) (h : s.Has (tableOf kind) key) :
    ∃ e, s.Holds kind key e := by
  obtain ⟨q, hq, hat⟩ := h
  have hreadable := hr q hq
  have hjunction := isJunction_eq_false_of_isAt hat
  by_cases hsection : q.table = .sections
  · cases q <;> simp only [Row.table, reduceCtorEq] at hsection
    exact ⟨_, _, hq, hat, rfl⟩
  · rw [Row.isReadable, toEntity?_congr hsection [] [] (s.spaceTimeIds key) (s.teacherIds key)]
      at hreadable
    cases hentity : q.toEntity? (s.spaceTimeIds key) (s.teacherIds key) with
    | none =>
      cases q
      case sectionSpaceTime => cases hjunction
      case sectionTeacher => cases hjunction
      all_goals cases hentity
    | some found =>
      rw [hentity] at hreadable
      cases found with
      | ok e => exact ⟨e, q, hq, hat, hentity⟩
      | error => cases hreadable

theorem giveBack_of_kind_ne (actor : String) (now : Instant) (h : old.kind ≠ .course) :
    giveBack {} actor now s old = .ok s := by
  cases old
  case course => exact absurd rfl h
  all_goals rfl

theorem exists_giveBack (actor : String) (now : Instant) (hs : s.Conforms)
    (hversions : ∀ r ∈ s.sections, r.audit.version < Int32.maxValue)
    (h : s.Holds kind key old) :
    ∃ s', giveBack {} actor now s old = .ok s' := by
  by_cases hc : old.kind = .course
  swap
  · exact ⟨s, giveBack_of_kind_ne actor now hc⟩
  obtain ⟨c, rfl⟩ := exists_course_of_kind hc
  cases hseat : c.state.toOption.bind CourseState.seat with
  | none => exact ⟨s, by simp only [giveBack, hseat]⟩
  | some id =>
    obtain rfl : Kind.course = kind := h.matches.1
    obtain ⟨q, hq, hat⟩ := has_section_of_seat hs h hseat
    obtain ⟨r, rfl, rfl⟩ := exists_section_of_isAt hat
    have hr : r ∈ s.sections := mem_typed_iff.mpr hq
    have hfetch : fetchSection r.audit.id s = .ok (s.joined r) := by
      simp only [fetchSection, findSection_eq hs hr]
    have hcases := saveSeats_cases (m := ⟨some r.audit.id, none⟩)
      (s.spaceTimeIds r.audit.id) (s.teacherIds r.audit.id) actor now hs hr fun htake => by
        cases htake
    obtain ⟨s', hs'⟩ := hcases.resolve_right fun hoverflow => hoverflow.2 (hversions r hr)
    refine ⟨s', ?_⟩
    simp only [giveBack, hseat, hfetch, ok_bind]
    exact hs'

/-! ### The three outcomes -/

theorem delete_of_missing (h : ¬ s.Has (tableOf kind) key) :
    delete {} now kind key actor s = .error (.notFound kind key) := by
  have hnone : s.find kind key = .ok none := by
    refine find_eq_none fun q hq => ?_
    rw [Bool.eq_false_iff]
    exact fun hat => h ⟨q, hq, hat⟩
  simp only [delete, fetch, hnone, mapError_ok, ok_bind]
  rfl

/-- A store from which an entity is about to be removed: its seat is given back, and it is joined to
nothing. -/
structure Detached (now : Instant) (kind : Kind) (key : Uuid) (actor : String) (old : Entity)
    (s s' : Store) : Prop where
  rows : s'.rows = (s.rows.filter fun q => !joinsOwn kind key q).map
    (Row.reseatedBy (.ofSeats old.seat none) actor now)
  removed : ∀ s₂, s'.remove {} (tableOf kind) key = .ok (some s₂) →
    delete {} now kind key actor s = .ok s₂
  breached : ∀ b, s'.remove {} (tableOf kind) key = .error b →
    delete {} now kind key actor s = .error (.ofBreach b)

theorem exists_detached (hs : s.Conforms) (h : s.Holds kind key old) {s₁ : Store}
    (hgive : giveBack {} actor now s old = .ok s₁) :
    ∃ s', Detached now kind key actor old s s' := by
  obtain ⟨hrows₁, hs₁, -⟩ := reseated_of_giveBack hs hgive
  have hfetch : fetch kind key s = .ok old := fetch_eq_ok ((find_eq_some_iff hs).mpr h)
  refine ⟨detach {} s₁ old, ?_, fun s₂ hremove => ?_, fun b hremove => ?_⟩
  · rw [(detach_eq old hs₁).1, hrows₁, List.filter_map]
    congr 1
    refine List.filter_congr fun q _ => ?_
    rw [Function.comp_apply, linksOf_reseated, linksOf_eq_joinsOwn h.matches]
  · simp only [delete, hfetch, hgive, hremove, mapError_ok, ok_bind]
    rfl
  · simp only [delete, hfetch, hgive, hremove, ok_bind]
    rfl

namespace Detached

variable {s₁ : Store} (h : Detached now kind key actor old s s₁)
include h

theorem exists_isAt (hheld : s.Holds kind key old) :
    ∃ q ∈ s₁.rows, q.isAt (tableOf kind) key = true := by
  obtain ⟨q, hq, hat, -⟩ := hheld
  refine ⟨q.reseatedBy (.ofSeats old.seat none) actor now, ?_, by rw [isAt_reseated, hat]⟩
  rw [h.rows]
  refine List.mem_map_of_mem (List.mem_filter.mpr ⟨hq, ?_⟩)
  rw [joinsOwn, joins_eq_false_of_isAt hat, Bool.and_false]
  rfl

theorem referenced_of_refersTo {q : Row} {sort : OnDelete} (hq : q ∈ s₁.rows)
    (hat : q.isAt (tableOf kind) key = false)
    (hrefers : q.refersTo (tableOf kind) key sort = true) : Referenced s kind key := by
  rw [h.rows] at hq
  obtain ⟨r, hr, rfl⟩ := List.mem_map.mp hq
  obtain ⟨hr, hown⟩ := List.mem_filter.mp hr
  rw [Bool.not_eq_true'] at hown
  rw [isAt_reseated] at hat
  rw [refersTo_reseated] at hrefers
  cases sort with
  | restrict => exact referenced_iff.mpr ⟨r, hr, hown, hat, hrefers⟩
  | cascade =>
    obtain ⟨ht, hjoins⟩ := refersTo_cascade_iff.mp hrefers
    have hkind : kind = .section := tableOf_injective ht
    rw [joinsOwn, hjoins, hkind] at hown
    cases hown

end Detached

/-- What nothing refers to is removed, below the greatest version. -/
theorem exists_delete (actor : String) (now : Instant) (hs : s.Conforms)
    (hversions : ∀ r ∈ s.sections, r.audit.version < Int32.maxValue)
    (h : s.Holds kind key old) (hfree : ¬ Referenced s kind key) :
    ∃ s', delete {} now kind key actor s = .ok s' := by
  obtain ⟨_, hgive⟩ := exists_giveBack actor now hs hversions h
  obtain ⟨s₁, h₁⟩ := exists_detached hs h hgive
  obtain ⟨q, hq, hat⟩ := h₁.exists_isAt h
  have hremove := remove_ok hq hat fun r hr hrat sort => Bool.eq_false_iff.mpr fun hrefers =>
    hfree (h₁.referenced_of_refersTo hr hrat hrefers)
  exact ⟨_, h₁.removed _ hremove⟩

theorem not_referenced_course (s : Store) (key : Uuid) : ¬ Referenced s .course key := by
  have htarget : ∀ t : Table, ∀ ref ∈ Schema.migrated.references t, ref.target ≠ .courses := by
    intro t
    cases t <;> decide
  rintro ⟨r, -, -, ref, href, hcourses, -⟩
  exact htarget r.table ref href hcourses

theorem delete_of_referenced (hs : s.Conforms) (h : s.Holds kind key old)
    (href : Referenced s kind key) :
    delete {} now kind key actor s = .error (.ofBreach .restricted) := by
  have hkind : old.kind ≠ .course := fun hc => by
    obtain rfl := h.matches.1.symm.trans hc
    exact not_referenced_course s key href
  obtain ⟨s₁, h₁⟩ := exists_detached hs h (giveBack_of_kind_ne actor now hkind)
  obtain ⟨q, hq, hat⟩ := h₁.exists_isAt h
  obtain ⟨r, hr, hown, hrat, hrefers⟩ := referenced_iff.mp href
  refine h₁.breached _ (remove_restricted hq hat
    (r := r.reseatedBy (.ofSeats old.seat none) actor now) ?_ ?_ ?_)
  · rw [h₁.rows]
    exact List.mem_map_of_mem (List.mem_filter.mpr ⟨hr, by rw [hown]; rfl⟩)
  · rw [isAt_reseated, hrat]
  · rw [refersTo_reseated, hrefers]

/-! ### What is left -/

/-- A row after a seat was given up: in the section of the seat one seat less is taken, and the
audit block of the section says who gave it up, and when. -/
def unseated (seat : Option Uuid) (actor : String) (now : Instant) : Row → Row
  | .section r =>
    if seat = some r.audit.id then
      .section { r with
        currentCapacity := r.currentCapacity - 1
        audit := r.audit.next actor now }
    else .section r
  | q => q

theorem counter_pos_of_seat {r : SectionRow} (hs : Accounted s) (h : s.Holds kind key old)
    (hr : r ∈ s.sections) (hseat : old.seat = some r.audit.id) : 0 < r.currentCapacity.toInt := by
  obtain ⟨q, hq, -, hentity⟩ := h
  have hseated : q.isSeatedIn r.audit.id = true :=
    (isSeatedIn_of_toEntity? hentity (Entity.hasState_of_seat hseat)).mpr hseat
  have hpos : 0 < s.seated r.audit.id := by
    rw [seated_eq_countP]
    exact List.countP_pos_iff.mpr ⟨q, hq, hseated⟩
  have hcounted := hs.counted r hr
  omega

theorem exists_section_of_seat {id : Uuid} (hs : s.Conforms) (h : s.Holds kind key old)
    (hseat : old.seat = some id) : ∃ r ∈ s.sections, r.audit.id = id := by
  obtain ⟨q, hq, -, hentity⟩ := h
  have hseated : q.isSeatedIn id = true :=
    (isSeatedIn_of_toEntity? hentity (Entity.hasState_of_seat hseat)).mpr hseat
  obtain ⟨x, hx, hat⟩ := exists_isAt_of_isSeatedIn hs hq hseated
  obtain ⟨r, rfl, hid⟩ := exists_section_of_isAt hat
  exact ⟨r, mem_typed_iff.mpr hx, hid⟩

theorem reseatedBy_eq_unseated {q : Row} (hs : Accounted s) (h : s.Holds kind key old)
    (hq : q ∈ s.rows) :
    q.reseatedBy (.ofSeats old.seat none) actor now = unseated old.seat actor now q := by
  cases q
  case «section» r =>
    have hr : r ∈ s.sections := mem_typed_iff.mpr hq
    by_cases hseat : old.seat = some r.audit.id
    · have hgiven := SeatMove.given_eq_sub_one (counter_pos_of_seat hs h hr hseat)
      simp [Row.reseated, SectionRow.reseated, unseated, hseat, SeatMove.ofSeats,
        SeatMove.sections, SeatMove.counter, hgiven]
    · have hmem : r.audit.id ∉ (SeatMove.ofSeats old.seat none).sections := by
        cases hold : old.seat with
        | none => exact List.not_mem_nil
        | some id =>
          rw [hold] at hseat
          simpa [SeatMove.ofSeats, SeatMove.sections, eq_comm] using hseat
      simp only [Row.reseated, SectionRow.reseated, unseated, if_neg hmem, if_neg hseat]
  all_goals rfl

/-- What a removal leaves of a store: everything but the row of what was removed and the rows that
joined it to others, with one seat less taken in the section in which it held a seat. -/
structure Removed (s s' : Store) (kind : Kind) (key : Uuid) (old : Entity) (actor : String)
    (now : Instant) : Prop where
  found : s.find kind key = .ok (some old)
  rows : s'.rows = (s.rows.filter fun q => !q.isAt (tableOf kind) key && !joinsOwn kind key q).map
    (unseated old.seat actor now)
  oneLess : ∀ id, old.seat = some id → ∃ r ∈ s.sections, r.audit.id = id ∧
    (r.currentCapacity - 1).toInt = r.currentCapacity.toInt - 1

theorem Deleted.not_referenced (h : Deleted now kind key actor old s s') :
    ¬ Referenced s kind key := by
  intro href
  obtain ⟨r, hr, hown, hat, hrefers⟩ := referenced_iff.mp href
  rw [← linksOf_eq_joinsOwn h.held.matches] at hown
  rw [h.unreferenced r hr hat hown] at hrefers
  cases hrefers

theorem Deleted.removed (hs : Reachable s) (h : Deleted now kind key actor old s s') :
    Removed s s' kind key old actor now where
  found := (find_eq_some_iff hs.conforms).mpr h.held
  rows := by
    have hfilter : s'.rows = (s.rows.filter fun q =>
        !q.isAt (tableOf kind) key && !joinsOwn kind key q).map
          (Row.reseatedBy (.ofSeats old.seat none) actor now) := by
      rw [h.rows, List.filter_map]
      congr 1
      refine List.filter_congr fun q _ => ?_
      rw [Function.comp_apply, isAt_reseated, linksOf_reseated,
        linksOf_eq_joinsOwn h.held.matches]
    rw [hfilter]
    refine List.map_congr_left fun q hq => ?_
    exact reseatedBy_eq_unseated hs.accounted h.held (List.mem_filter.mp hq).1
  oneLess id hseat := by
    obtain ⟨r, hr, rfl⟩ := exists_section_of_seat hs.conforms h.held hseat
    exact ⟨r, hr, rfl, SeatMove.toInt_sub_one
      (Int.le_of_lt (counter_pos_of_seat hs.accounted h.held hr hseat))⟩

/-- **Removal is guarded exactly.** As long as no section is in the greatest version, a removal is
done iff what is to be removed is stored and nothing refers to it. If it is not stored, or if
something refers to it, the answer says so, not as a conflict, and nothing changes. -/
theorem delete_succeeds_iff (hs : Reachable s) (clock : Clock) (kind : Kind) (key : Uuid)
    (actor : String) : let call := Call.mk clock (.delete kind key actor)
    ((∀ r ∈ s.sections, r.audit.version < Int32.maxValue) →
      (call.Succeeds s ↔ s.Has (tableOf kind) key ∧ ¬ Referenced s kind key)) ∧
    (call.Succeeds s → ∃ old, Removed s (call.after s) kind key old actor clock.write) ∧
    (¬ s.Has (tableOf kind) key →
      call.answer s = .error (.notFound kind key) ∧ call.after s = s) ∧
    (s.Has (tableOf kind) key → Referenced s kind key →
      ∃ f, call.answer s = .error f ∧ f.isConflict = false ∧ call.after s = s) := by
  intro call
  have hanswer : call.answer s =
      (delete {} clock.write kind key actor s).map fun s' => (none, s') := rfl
  refine ⟨fun hversions => ⟨fun hok => ?_, fun ⟨hhas, hfree⟩ => ?_⟩, fun hok => ?_,
    fun hmissing => ?_, fun hhas href => ?_⟩
  · obtain ⟨_, hdone⟩ := hok
    obtain ⟨_, hdelete, -⟩ := map_eq_ok_iff.mp (hanswer.symm.trans hdone)
    obtain ⟨old, hdeleted⟩ := deleted_of_delete hs.conforms hdelete
    obtain ⟨q, hq, hat, -⟩ := hdeleted.held
    exact ⟨⟨q, hq, hat⟩, hdeleted.not_referenced⟩
  · obtain ⟨old, hold⟩ := exists_holds hs.readable hhas
    obtain ⟨s', hdelete⟩ := exists_delete actor clock.write hs.conforms hversions hold hfree
    exact ⟨(none, s'), by rw [hanswer, hdelete]; rfl⟩
  · obtain ⟨_, hdone⟩ := hok
    obtain ⟨s', hdelete, rfl⟩ := map_eq_ok_iff.mp (hanswer.symm.trans hdone)
    obtain ⟨old, hdeleted⟩ := deleted_of_delete hs.conforms hdelete
    rw [Call.after_of_ok hdone]
    exact ⟨old, hdeleted.removed hs⟩
  · have hnone : call.answer s = .error (.notFound kind key) := by
      rw [hanswer, delete_of_missing hmissing]
      rfl
    exact ⟨hnone, Call.after_of_error hnone⟩
  · obtain ⟨old, hold⟩ := exists_holds hs.readable hhas
    have hrefused : call.answer s = .error (.ofBreach .restricted) := by
      rw [hanswer, delete_of_referenced hs.conforms hold href]
      rfl
    exact ⟨_, hrefused, rfl, Call.after_of_error hrefused⟩

/-- The section stays as long as the student is registered in it, and then it goes. -/
theorem delete_of_sample : let s := storeAfter Sample.calls
    let course := Call.mk (.still Sample.noon) (.delete .course (Sample.ident 8) "registrar")
    let sec := Call.mk (.still Sample.noon) (.delete .section (Sample.ident 7) "registrar")
    (∃ old, Removed s (course.after s) .course (Sample.ident 8) old "registrar" Sample.noon) ∧
    (∃ f, sec.answer s = .error f ∧ f.isConflict = false ∧ sec.after s = s) ∧
    sec.Succeeds (course.after s) := by
  intro s course sec
  have hs : Reachable s := reachable_storeAfter Sample.calls
  refine ⟨?_, ?_, ?_⟩
  · obtain ⟨hiff, hremoved, -, -⟩ :=
      delete_succeeds_iff hs (.still Sample.noon) .course (Sample.ident 8) "registrar"
    exact hremoved ((hiff (by decide +kernel)).mpr (by decide +kernel))
  · obtain ⟨-, -, -, hreferenced⟩ :=
      delete_succeeds_iff hs (.still Sample.noon) .section (Sample.ident 7) "registrar"
    exact hreferenced (by decide +kernel) (by decide +kernel)
  · obtain ⟨hiff, -, -, -⟩ := delete_succeeds_iff (hs.after course) (.still Sample.noon) .section
      (Sample.ident 7) "registrar"
    exact (hiff (by decide +kernel)).mpr (by decide +kernel)

end Enrollment.Registrar
