import Enrollment.Proofs.Registrar.Effect
import Enrollment.Proofs.Store.Fitting

/-! # What a section can be joined to

A section is joined to the space times and the teachers that it lists, with one row for each. What
is stored and free can be booked. A teacher who is stored can be assigned once: the index on
assignments refuses a teacher who is listed twice.

* `MayAttach`: what a section lists is stored and free.
* `attach_of_mayAttach`: then it is joined to that, unless it lists a teacher twice. -/

namespace Enrollment

/-- The teachers that an entity lists. -/
def Entity.teachers : Entity → List Uuid
  | .section sec => sec.teacherIds
  | _ => []

/-- No teacher is listed twice. -/
def Entity.TeachersDistinct (e : Entity) : Prop :=
  e.teachers.Nodup

instance (e : Entity) : Decidable e.TeachersDistinct :=
  inferInstanceAs (Decidable e.teachers.Nodup)

theorem Entity.teachersDistinct_withAudit (e : Entity) (a : Audit) :
    (e.withAudit a).TeachersDistinct = e.TeachersDistinct := by cases e <;> rfl

namespace Registrar

open Store

variable {s s' : Store}

/-- What a section lists is stored and free, and it is joined to nothing yet. -/
structure MayAttach (s : Store) (sec : Section) (trimester : Uuid) : Prop where
  trimesterId : sec.trimesterId = some trimester
  sectionStored : s.Has .sections sec.audit.id
  trimesterStored : s.Has .trimesters trimester
  slotOnce : sec.spaceTimeIds.Nodup
  slots : ∀ id ∈ sec.spaceTimeIds, s.Has .spaceTimes id
  teachers : ∀ id ∈ sec.teacherIds, s.Has .faculties id
  unjoined : s.rows.filter (joins sec.audit.id) = []
  free : ∀ x ∈ s.sectionSpaceTimes, x.trimesterId = trimester → x.spaceTimeId ∉ sec.spaceTimeIds

/-- What the store says of a section that lists a teacher twice. -/
def teacherTwice : Breach := .duplicate .sectionTeachers [.sectionId, .facultyId]

theorem apart_sectionSpaceTime {r : SectionSpaceTimeRow} {q : Row} (hid : r.id = none)
    (h : ∀ x, q = .sectionSpaceTime x → r.trimesterId = x.trimesterId →
      r.spaceTimeId ≠ x.spaceTimeId) : (Row.sectionSpaceTime r).Apart q := by
  refine Row.apart_of_id_eq_none hid fun columns hcolumns => Bool.eq_false_iff.mpr fun hagrees => ?_
  obtain rfl := List.mem_singleton.mp (show columns ∈ [[.trimesterId, .spaceTimeId]] from hcolumns)
  cases q
  case sectionSpaceTime x =>
    obtain ⟨ht, hslot⟩ := Row.agrees_sectionSpaceTime_iff.mp hagrees
    exact h x rfl ht hslot
  all_goals cases (Row.agrees_iff.mp hagrees).1

theorem apart_sectionTeacher {r : SectionTeacherRow} {q : Row} (hid : r.id = none)
    (h : ∀ x, q = .sectionTeacher x → r.sectionId = x.sectionId → r.facultyId ≠ x.facultyId) :
    (Row.sectionTeacher r).Apart q := by
  refine Row.apart_of_id_eq_none hid fun columns hcolumns => Bool.eq_false_iff.mpr fun hagrees => ?_
  obtain rfl := List.mem_singleton.mp (show columns ∈ [[.sectionId, .facultyId]] from hcolumns)
  cases q
  case sectionTeacher x =>
    obtain ⟨hsec, hteacher⟩ := Row.agrees_sectionTeacher_iff.mp hagrees
    exact h x rfl hsec hteacher
  all_goals cases (Row.agrees_iff.mp hagrees).1

theorem insert_spaceTimeRows {sec : Section} {trimester : Uuid} (hs : s.Conforms)
    (h : MayAttach s sec trimester) : s.insert {} (spaceTimeRows sec trimester) =
      .ok ⟨s.rows ++ spaceTimeRows sec trimester⟩ := by
  refine insert_map_ok hs h.slotOnce (fun _ => rfl)
    (fun _ => Row.unmet_eq_none_iff.mpr fun c hc => absurd (show c ∈ [] from hc) List.not_mem_nil)
    (fun id id' hne => apart_sectionSpaceTime rfl fun x hx _ => ?_)
    (fun id hid q hq => apart_sectionSpaceTime rfl fun x hx ht hslot => ?_) fun id hid => ?_
  · obtain rfl := Row.sectionSpaceTime.inj hx
    exact hne
  · subst hx
    exact h.free x (mem_typed_iff.mpr hq) ht.symm (hslot ▸ hid)
  · refine Row.linked_iff.mpr fun ref href => ?_
    have hcases : ref = ⟨.sectionId, .sections, .cascade⟩ ∨
        ref = ⟨.spaceTimeId, .spaceTimes, .restrict⟩ ∨
          ref = ⟨.trimesterId, .trimesters, .restrict⟩ := by
      simpa using (show ref ∈ [⟨.sectionId, .sections, .cascade⟩,
        ⟨.spaceTimeId, .spaceTimes, .restrict⟩, ⟨.trimesterId, .trimesters, .restrict⟩] from href)
    rcases hcases with rfl | rfl | rfl
    · exact ⟨some sec.audit.id, rfl, by simpa using h.sectionStored⟩
    · exact ⟨some id, rfl, by simpa using h.slots id hid⟩
    · exact ⟨some trimester, rfl, by simpa using h.trimesterStored⟩

theorem insert_teacherRows {sec : Section} (hs : s.Conforms) (hsec : s.Has .sections sec.audit.id)
    (hteachers : ∀ id ∈ sec.teacherIds, s.Has .faculties id)
    (hnone : ∀ x ∈ s.sectionTeachers, x.sectionId ≠ sec.audit.id) (hnodup : sec.teacherIds.Nodup) :
    s.insert {} (teacherRows sec) = .ok ⟨s.rows ++ teacherRows sec⟩ := by
  refine insert_map_ok hs hnodup (fun _ => rfl)
    (fun _ => Row.unmet_eq_none_iff.mpr fun c hc => absurd (show c ∈ [] from hc) List.not_mem_nil)
    (fun id id' hne => apart_sectionTeacher rfl fun x hx _ => ?_)
    (fun id hid q hq => apart_sectionTeacher rfl fun x hx hsame _ => ?_) fun id hid => ?_
  · obtain rfl := Row.sectionTeacher.inj hx
    exact hne
  · subst hx
    exact hnone x (mem_typed_iff.mpr hq) hsame.symm
  · refine Row.linked_iff.mpr fun ref href => ?_
    have hcases : ref = ⟨.sectionId, .sections, .cascade⟩ ∨
        ref = ⟨.facultyId, .faculties, .restrict⟩ := by
      simpa using (show ref ∈ [⟨.sectionId, .sections, .cascade⟩,
        ⟨.facultyId, .faculties, .restrict⟩] from href)
    rcases hcases with rfl | rfl
    · exact ⟨some sec.audit.id, rfl, by simpa using hsec⟩
    · exact ⟨some id, rfl, by simpa using hteachers id hid⟩

theorem append_sectionTeacher (rows : List Row) {r : SectionTeacherRow} (hid : r.id = none) :
    (∃ rows', append rows (.sectionTeacher r) = .ok rows') ∨
      append rows (.sectionTeacher r) = .error teacherTwice := by
  have hunmet : (Row.sectionTeacher r).unmet = none :=
    Row.unmet_eq_none_iff.mpr fun c hc => absurd (show c ∈ [] from hc) List.not_mem_nil
  cases hdup : (Row.sectionTeacher r).duplicated rows with
  | none => exact .inl ⟨_, by simp only [append, Row.check, hunmet, hdup]; rfl⟩
  | some columns =>
    have hcolumns : columns = [.sectionId, .facultyId] := by
      rcases mem_keys_iff.mp (List.mem_of_find?_eq_some hdup) with hnatural | rfl
      · exact List.mem_singleton.mp hnatural
      · -- the store makes up the identifiers of such rows, so no two agree on them
        obtain ⟨q, -, hagrees⟩ := List.any_eq_true.mp (List.find?_some
          (p := fun columns => rows.any ((Row.sectionTeacher r).agrees · columns)) hdup)
        refine absurd ?_ ((Row.agrees_iff.mp hagrees).2 .id List.mem_cons_self).1
        exact congrArg (Cell.ofOption Cell.uuid) hid
    subst hcolumns
    exact .inr (by simp only [append, Row.check, hunmet, hdup]; rfl)

theorem foldlM_append_teacherRows (sec : Section) (rows : List Row) :
    (∃ rows', (teacherRows sec).foldlM append rows = .ok rows') ∨
      (teacherRows sec).foldlM append rows = .error teacherTwice := by
  unfold teacherRows
  induction sec.teacherIds generalizing rows with
  | nil => exact .inl ⟨rows, rfl⟩
  | cons id ids ih =>
    rw [List.map_cons, List.foldlM_cons]
    rcases append_sectionTeacher rows (r := ⟨none, sec.audit.id, id, sec.audit.updatedAt⟩) rfl with
      ⟨rows', hrows'⟩ | herror
    · rw [hrows']
      exact ih rows'
    · rw [herror]
      exact .inr rfl

theorem nodup_of_pairwise_teacherRows {sec : Section} {rows : List Row}
    (h : (rows ++ teacherRows sec).Pairwise Row.Apart) : sec.teacherIds.Nodup := by
  have hrows := (List.pairwise_append.mp h).2.1
  refine (List.pairwise_map.mp hrows).imp fun hapart heq => ?_
  subst heq
  have hkey : [.sectionId, .facultyId] ∈ keys .sectionTeachers := by decide
  have := hapart _ hkey
  rw [Row.agrees_sectionTeacher_iff.mpr ⟨rfl, rfl⟩] at this
  cases this

/-- A teacher who is listed twice is refused by the index on assignments. -/
theorem insert_teacherRows_eq_error {sec : Section} (hs : s.Conforms)
    (h : ¬ sec.teacherIds.Nodup) : s.insert {} (teacherRows sec) = .error teacherTwice := by
  rcases foldlM_append_teacherRows sec s.rows with ⟨rows, hrows⟩ | herror
  · obtain ⟨rfl, -, hp⟩ := foldlM_append hs.apart hrows
    have hmap : (teacherRows sec).map Row.settled = teacherRows sec := by
      simp [teacherRows, Row.settled]
    rw [hmap] at hp
    exact absurd (nodup_of_pairwise_teacherRows hp) h
  · unfold Store.insert
    rw [herror]
    rfl

/-- A section is joined to what it lists, unless it lists a teacher twice. -/
theorem attach_of_mayAttach {e : Entity} (hs : s.Conforms)
    (h : ∀ sec, e = .section sec → ∃ trimester, MayAttach s sec trimester) :
    (e.TeachersDistinct → ∃ s', attach {} s e = .ok s') ∧
      (¬ e.TeachersDistinct → attach {} s e = .error (.ofBreach teacherTwice)) := by
  cases e
  case «section» sec =>
    obtain ⟨trimester, h⟩ := h sec rfl
    have hbooked := insert_spaceTimeRows hs h
    have hs₁ := (insert_eq_ok hs hbooked).2
    have hattach : attach {} s (.section sec) =
        (Store.insert {} (teacherRows sec) ⟨s.rows ++ spaceTimeRows sec trimester⟩).mapError
          .ofBreach := by
      change link {} sec s = _
      unfold link
      rw [h.trimesterId]
      change ((s.insert {} (spaceTimeRows sec trimester)).mapError Failure.ofBreach >>= _) = _
      rw [hbooked]
      rfl
    have hmono : ∀ {t : Table} {k : Uuid}, s.Has t k →
        Has ⟨s.rows ++ spaceTimeRows sec trimester⟩ t k :=
      fun ⟨q, hq, hat⟩ => ⟨q, List.mem_append_left _ hq, hat⟩
    have hnone : ∀ x ∈ sectionTeachers ⟨s.rows ++ spaceTimeRows sec trimester⟩,
        x.sectionId ≠ sec.audit.id := by
      intro x hx hsame
      rcases List.mem_append.mp (mem_typed_iff.mp hx) with hx | hx
      · have hjoins : joins sec.audit.id (.sectionTeacher x) = true := decide_eq_true hsame
        exact List.filter_eq_nil_iff.mp h.unjoined _ hx hjoins
      · obtain ⟨_, -, hrow⟩ := List.mem_map.mp hx
        cases hrow
    refine ⟨fun hnodup => ?_, fun htwice => ?_⟩
    · rw [hattach, insert_teacherRows hs₁ (hmono h.sectionStored)
        (fun id hid => hmono (h.teachers id hid)) hnone hnodup]
      exact ⟨_, rfl⟩
    · rw [hattach, insert_teacherRows_eq_error hs₁ htwice]
      rfl
  all_goals exact ⟨fun _ => ⟨s, rfl⟩, fun h => absurd List.nodup_nil h⟩

theorem map_attach_of_mayAttach {α : Type} {e : Entity} (hs : s.Conforms)
    (h : ∀ sec, e = .section sec → ∃ trimester, MayAttach s sec trimester) (f : Store → α) :
    (e.TeachersDistinct → ∃ s', (attach {} s e).map f = .ok (f s')) ∧
      (¬ e.TeachersDistinct → (attach {} s e).map f = .error (.ofBreach teacherTwice)) := by
  obtain ⟨hok, herror⟩ := attach_of_mayAttach hs h
  refine ⟨fun hdistinct => ?_, fun htwice => by rw [herror htwice]; rfl⟩
  obtain ⟨s', hs'⟩ := hok hdistinct
  exact ⟨s', by rw [hs']; rfl⟩

end Registrar

end Enrollment
