import Enrollment.Proofs.Snapshot.Growth
import Enrollment.Proofs.Store.Seats

/-! # Revising is removing and entering again

The rules for a revision make allowances for the row that is replaced: it stands against nothing,
its seat is free for the course that replaces it, and the ends of a prerequisite are not looked at
again. In a sound snapshot these allowances come to one thing: the candidate is held against the
snapshot without the old row, and with the seat that it held given back.

* `Sound.reviewRevision_eq`: if what is fixed stays as it is, the two verdicts are one.
* `Grown.reviewRevision_iff`: a revision is accepted iff what is fixed stays as it is and the
  candidate may enter once the old row is gone. -/

namespace Enrollment

/-- A candidate has the kind, the origin and the version of a stored thing. -/
structure Entity.Revises (new old : Entity) : Prop where
  kind : new.kind = old.kind
  id : (audit new).id = (audit old).id
  createdAt : (audit new).createdAt = (audit old).createdAt
  createdBy : (audit new).createdBy = (audit old).createdBy
  version : (audit new).version = (audit old).version

/-- What never changes of a thing is the same: the counter of a section, the scope of a
notification, the ends of a prerequisite. -/
def Entity.KeepsFixed : Entity → Entity → Prop
  | .section new, .section old => new.currentCapacity = old.currentCapacity
  | .notification new, .notification old => new.scope = old.scope
  | .prerequisite new, .prerequisite old =>
    new.subjectId = old.subjectId ∧ new.requiredSubjectId = old.requiredSubjectId
  | _, _ => True

theorem Entity.Revises.checkRevision_eq {new old : Entity} (h : new.Revises old) :
    new.checkRevision old = .ok () :=
  Entity.checkRevision_eq_ok_iff.mpr ⟨h.kind.symm,
    Audit.sameOrigin_iff.mpr ⟨h.id.symm, h.createdAt.symm, h.createdBy.symm⟩, h.version.symm⟩

/-! ### Removing -/

/-- The rows of other identifiers. -/
def dropRow {α : Type} [Audited α] (id : Uuid) (rows : List α) : List α :=
  rows.filter fun a => some id != some (Audited.id a)

namespace Snapshot

/-- The snapshot without the row of a thing. If it is a course that holds a seat, the seat is given
back. -/
def without (s : Snapshot) : Entity → Snapshot
  | .subject e => { s with subjects := dropRow e.audit.id s.subjects }
  | .prerequisite e => { s with prerequisites := dropRow e.audit.id s.prerequisites }
  | .trimester e => { s with trimesters := dropRow e.audit.id s.trimesters }
  | .section e => { s with sections := dropRow e.audit.id s.sections }
  | .spaceTime e => { s with spaceTimes := dropRow e.audit.id s.spaceTimes }
  | .course e => { s with
      courses := dropRow e.audit.id s.courses
      sections := s.sections.map (SeatMove.mk (Entity.course e).seat none).releaseIn }
  | .notification e => { s with notifications := dropRow e.audit.id s.notifications }
  | .student e => { s with students := dropRow e.audit.id s.students }
  | .faculty e => { s with faculties := dropRow e.audit.id s.faculties }

variable {s s' : Snapshot} {new old : Entity} {now : Instant}

/-! ### The same answers -/

section Answers

variable {α : Type} [Audited α] {rows : List α} {l l' : Lookup} {id : Uuid}

/-- To make an allowance for one row is to look at the others. -/
theorem any_collides_eq (p : α → Bool) :
    (rows.any fun a => p a && Context.collides ⟨l, now, some id⟩ (Audited.id a)) =
      (dropRow id rows).any fun a => p a && Context.collides ⟨l', now, none⟩ (Audited.id a) := by
  have hnew (a : α) : Context.collides ⟨l', now, none⟩ (Audited.id a) = true := rfl
  rw [dropRow, List.any_filter]
  refine congrArg _ (funext fun a => ?_)
  rw [hnew, Bool.and_true, Bool.and_comm]
  rfl

theorem require_free_eq {q : α → Bool} (h : OneFits q rows) (refusal : Refusal) :
    require (!(rows.find? q).any fun a => Context.collides ⟨l, now, some id⟩ (Audited.id a))
        refusal =
      require (!((dropRow id rows).find? q).any fun a =>
        Context.collides ⟨l', now, none⟩ (Audited.id a)) refusal := by
  have hdrop : OneFits q (dropRow id rows) := List.Pairwise.filter _ h
  rw [h.any_find?_eq, hdrop.any_find?_eq, any_collides_eq]

end Answers

theorem isFree_eq (t : SpaceTime) (key : SlotKey) :
    SpaceTime.isFree ⟨s.lookup, now, some t.audit.id⟩ key =
      SpaceTime.isFree ⟨(s.without (.spaceTime t)).lookup, now, none⟩ key := by
  simp only [SpaceTime.isFree, lookup, List.any_filter]
  exact congrArg not (any_collides_eq _)

theorem booked_eq (n o : Section) (trimester : Uuid) :
    n.booked ⟨s.lookup, now, some o.audit.id⟩ trimester =
      n.booked ⟨(s.without (.section o)).lookup, now, none⟩ trimester := by
  have hothers : (s.sections.filter (·.trimesterId == some trimester)).filter
        (fun other => Context.collides ⟨s.lookup, now, some o.audit.id⟩ other.audit.id) =
      ((dropRow o.audit.id s.sections).filter (·.trimesterId == some trimester)).filter
        fun other => Context.collides ⟨(s.without (.section o)).lookup, now, none⟩
          other.audit.id := by
    have hnew : ∀ other : Section,
        Context.collides ⟨(s.without (.section o)).lookup, now, none⟩ other.audit.id = true :=
      fun _ => rfl
    simp only [hnew, dropRow, List.filter_filter, Bool.true_and]
    refine congrArg (List.filter · _) (funext fun a => Bool.and_comm _ _)
  exact congrArg (List.findSome? _) hothers

theorem require_bind_eq {b : Bool} {refusal : Refusal} {v : Verdict} (h : b = true) :
    (do require b refusal; v) = v := by
  subst h
  rfl

/-! ### Seats -/

theorem sectionAt_without (o : Course) (id : Uuid) :
    (s.without (.course o)).lookup.sectionAt id =
      (s.lookup.sectionAt id).map (SeatMove.mk (Entity.course o).seat none).releaseIn := by
  change rowById id (s.sections.map _) = (rowById id s.sections).map _
  rw [rowById, rowById, List.find?_map]
  refine congrArg _ (congrArg (List.find? · _) (funext fun sec => ?_))
  exact congrArg (· == id) (congrArg Audit.id (SeatMove.releaseIn_fields _ sec).1)

theorem checkSection_without (o : Course) (subject trimester id : Uuid) :
    Course.checkSection (s.without (.course o)).lookup subject trimester id =
      Course.checkSection s.lookup subject trimester id := by
  unfold Course.checkSection
  rw [sectionAt_without]
  cases s.lookup.sectionAt id with
  | none => rfl
  | some sec =>
    obtain ⟨-, hsubject, htrimester, -⟩ :=
      SeatMove.releaseIn_fields ⟨(Entity.course o).seat, none⟩ sec
    simp only [Option.map_some, hsubject, htrimester]

theorem checkSeat_eq_ok {l : Lookup} {m : SeatMove} (h : m.take.bind l.sectionAt = none) :
    Course.checkSeat l m = .ok () := by
  rw [Course.checkSeat, h]

theorem checkSeat_eq_attempt {l : Lookup} {m : SeatMove} {sec : Section}
    (h : m.take.bind l.sectionAt = some sec) : Course.checkSeat l m = (m.attempt sec).2 := by
  rw [Course.checkSeat, h]

/-- There is a seat where one has been given back. -/
theorem attempt_given {sec : Section} (h : sec.IsCounted) (id : Uuid) :
    ((SeatMove.mk none (some id)).attempt
      { sec with currentCapacity := SeatMove.given sec.currentCapacity }).2 = .ok () := by
  have hlt := SeatMove.given_lt h.nonneg h.within h.room
  have hfull : Section.isFull
      { sec with currentCapacity := SeatMove.given sec.currentCapacity } = false :=
    decide_eq_false (Int32.not_le.mpr hlt)
  refine congrArg Prod.snd (SeatMove.attempt_of_room fun _ => ?_)
  rw [SeatMove.releaseIn_of_ne (Option.some_ne_none _).symm]
  exact hfull

/-- **To take a seat after giving one back is to move**, in sections that count right. -/
theorem checkSeat_without (hs : s.Sound) (o : Course) (st : CourseState) :
    Course.checkSeat (s.without (.course o)).lookup (.between none st) =
      Course.checkSeat s.lookup (.between o.state.toOption st) := by
  rw [SeatMove.between_eq_ofSeats, SeatMove.between_eq_ofSeats]
  change Course.checkSeat _ (.ofSeats none st.seat) =
    Course.checkSeat _ (.ofSeats (Entity.course o).seat st.seat)
  have hat := sectionAt_without (s := s) o
  cases st.seat with
  | none =>
    have htake (before : Option Uuid) : (SeatMove.ofSeats before none).take = none := by
      unfold SeatMove.ofSeats
      split <;> rfl
    rw [checkSeat_eq_ok (by rw [htake]; rfl), checkSeat_eq_ok (by rw [htake]; rfl)]
  | some id =>
    rw [show SeatMove.ofSeats none (some id) = ⟨none, some id⟩ from rfl, SeatMove.ofSeats]
    generalize (Entity.course o).seat = before at hat ⊢
    cases hsec : s.lookup.sectionAt id with
    | none =>
      rw [checkSeat_eq_ok (by rw [Option.bind_some, hat, hsec]; rfl), checkSeat_eq_ok]
      split
      · rfl
      · exact hsec
    | some sec =>
      obtain ⟨hmem, hid⟩ := mem_of_rowById hsec
      have hsec' : (s.without (.course o)).lookup.sectionAt id =
          some ((SeatMove.mk before none).releaseIn sec) := by rw [hat, hsec]; rfl
      rw [checkSeat_eq_attempt (m := ⟨none, some id⟩) hsec']
      by_cases hsame : before = some id
      · -- the seat is kept in one case, and taken again in the other
        rw [if_pos hsame, checkSeat_eq_ok rfl, SeatMove.releaseIn_of_eq (hsame.trans (hid ▸ rfl))]
        exact attempt_given (hs.counted sec hmem) id
      · have hne : before ≠ some sec.audit.id := fun h => hsame (h.trans (hid ▸ rfl))
        rw [if_neg hsame, checkSeat_eq_attempt (m := ⟨before, some id⟩) hsec,
          SeatMove.releaseIn_of_ne hne, SeatMove.attempt, SeatMove.attempt,
          SeatMove.releaseIn_of_ne (Option.some_ne_none _).symm, SeatMove.releaseIn_of_ne hne]

/-! ### Kinds -/

theorem subject_reentry (hs : s.Sound) (n o : Subject) :
    n.mayEnter ⟨s.lookup, now, some o.audit.id⟩ =
      n.mayEnter ⟨(s.without (.subject o)).lookup, now, none⟩ :=
  require_free_eq (hs.distinct.subject_fits n.codeName) _

theorem trimester_reentry (hs : s.Sound) (n o : Trimester) :
    n.mayEnter ⟨s.lookup, now, some o.audit.id⟩ =
      n.mayEnter ⟨(s.without (.trimester o)).lookup, now, none⟩ :=
  bind_congr fun _ => bind_congr fun _ => bind_congr fun _ =>
    require_free_eq (hs.distinct.trimester_fits n.code) _

theorem student_reentry (hs : s.Sound) (n o : Student) :
    n.mayEnter ⟨s.lookup, now, some o.audit.id⟩ =
      n.mayEnter ⟨(s.without (.student o)).lookup, now, none⟩ :=
  require_free_eq (hs.distinct.student_fits n.universityId) _

theorem spaceTime_reentry (n o : SpaceTime) :
    n.mayEnter ⟨s.lookup, now, some o.audit.id⟩ =
      n.mayEnter ⟨(s.without (.spaceTime o)).lookup, now, none⟩ := by
  unfold SpaceTime.mayEnter
  simp only [isFree_eq]

theorem section_reentry (n o : Section) :
    n.mayEnter ⟨s.lookup, now, some o.audit.id⟩ =
      n.mayEnter ⟨(s.without (.section o)).lookup, now, none⟩ := by
  have hslots (ids : List Uuid) : Section.checkSlots s.lookup [] ids =
      Section.checkSlots (s.without (.section o)).lookup [] ids :=
    Section.checkSlots_congr fun _ _ => rfl
  have hteachers (ids : List Uuid) : Section.checkTeachers s.lookup ids =
      Section.checkTeachers (s.without (.section o)).lookup ids :=
    Section.checkTeachers_congr fun _ _ => rfl
  unfold Section.mayEnter
  simp only [hslots, hteachers, booked_eq]
  rfl

theorem course_reentry (hs : s.Sound) (n o : Course) :
    n.mayReplace o ⟨s.lookup, now, some o.audit.id⟩ =
      n.mayEnter ⟨(s.without (.course o)).lookup, now, none⟩ := by
  unfold Course.mayReplace Course.mayEnter Course.check
  refine bind_congr fun student => bind_congr fun subject => bind_congr fun trimester =>
    bind_congr fun st => bind_congr fun _ => bind_congr fun _ => bind_congr fun _ => ?_
  simp only [checkSection_without, checkSeat_without hs]
  have hfits := hs.distinct.course_fits student subject trimester
  cases st.section? with
  | none => exact bind_congr fun _ => congrArg (· >>= fun _ => _) (require_free_eq hfits _)
  | some id => exact bind_congr fun _ => congrArg (· >>= fun _ => _) (require_free_eq hfits _)

theorem prerequisite_reentry (hs : s.Sound) {n o : Prerequisite} (ho : o ∈ s.prerequisites)
    (hsubject : n.subjectId = o.subjectId) (hrequired : n.requiredSubjectId = o.requiredSubjectId) :
    n.mayEnter ⟨(s.without (.prerequisite o)).lookup, now, none⟩ = .ok () := by
  obtain ⟨a, b, hedge, ha, hb, harrow⟩ := hs.exists_edge ho
  obtain ⟨hoa, hob⟩ := Prerequisite.edge_eq_some_iff.mp hedge
  set s₀ := s.without (.prerequisite o)
  have hne : a ≠ b := by
    rintro rfl
    exact hs.acyclic a (.single harrow)
  have hunjoined : ∀ p ∈ s₀.lookup.prerequisites, p.edge ≠ some (a, b) := by
    intro p hp hpedge
    obtain ⟨hp, hpo⟩ := List.mem_filter.mp hp
    -- a prerequisite with these ends is the one that is gone
    have hmem {q : Prerequisite} (hq : q ∈ s.prerequisites) :
        .prerequisite q ∈ s.entities .prerequisite := List.mem_map_of_mem hq
    have hsame : Entity.prerequisite p = .prerequisite o :=
      hs.distinct.eq (hmem hp) (hmem ho) (.inr (hpedge.trans hedge.symm))
    rw [Entity.prerequisite.inj hsame] at hpo
    exact absurd rfl (bne_iff_ne.mp hpo)
  have hclosing : Prerequisite.closing s₀.lookup a b = none := by
    refine Prerequisite.closing_eq_none_iff.mpr fun hback => hs.acyclic a ?_
    refine .head' harrow (Relation.ReflTransGen.mono (fun x y hxy => ?_) _ _ hback)
    obtain ⟨p, hp, hpx, hpy⟩ := Prerequisite.arrow_ofPrerequisites_iff.mp hxy
    exact Prerequisite.arrow_ofPrerequisites_iff.mpr ⟨p, (List.mem_filter.mp hp).1, hpx, hpy⟩
  have hends : n.edge = some (a, b) :=
    Prerequisite.edge_eq_some_iff.mpr ⟨hsubject.trans hoa, hrequired.trans hob⟩
  rw [Prerequisite.mayEnter_eq hends hne ha hb fun p hp hpedge => absurd hpedge (hunjoined p hp),
    hclosing]

/-- The rules for a revision are those for a new row, once the old row is gone. -/
theorem Sound.mayReplace_eq (hs : s.Sound) (hold : old ∈ s.entities old.kind)
    (hkind : new.kind = old.kind) (hfixed : new.KeepsFixed old) :
    new.mayReplace old ⟨s.lookup, now, some (audit old).id⟩ =
      new.mayEnter ⟨(s.without old).lookup, now, none⟩ := by
  cases new <;> cases old <;> simp only [Entity.kind, reduceCtorEq] at hkind
  case subject n o => exact subject_reentry hs n o
  case prerequisite n o =>
    obtain ⟨x, ho, hx⟩ := List.mem_map.mp hold
    obtain rfl := Entity.prerequisite.inj hx
    have hedge : n.edge = x.edge := by rw [Prerequisite.edge, hfixed.1, hfixed.2]; rfl
    exact (require_eq_ok_iff.mpr (beq_iff_eq.mpr hedge)).trans
      (prerequisite_reentry hs ho hfixed.1 hfixed.2).symm
  case trimester n o => exact trimester_reentry hs n o
  case «section» n o =>
    exact (require_bind_eq (beq_iff_eq.mpr hfixed)).trans (section_reentry n o)
  case spaceTime n o => exact spaceTime_reentry n o
  case course n o => exact course_reentry hs n o
  case notification n o => exact require_bind_eq (beq_iff_eq.mpr hfixed)
  case student n o => exact student_reentry hs n o
  case faculty n o => rfl

theorem Sound.keepsFixed_of_mayReplace {ctx : Context} (hs : s.Sound)
    (hold : old ∈ s.entities old.kind) (h : new.mayReplace old ctx = .ok ()) :
    new.KeepsFixed old := by
  cases new <;> cases old <;> try trivial
  case prerequisite n o =>
    obtain ⟨x, ho, hx⟩ := List.mem_map.mp hold
    obtain rfl := Entity.prerequisite.inj hx
    obtain ⟨a, b, hedge, -⟩ := hs.ends x ho
    have hsame : n.edge = x.edge := beq_iff_eq.mp (require_eq_ok_iff.mp h)
    obtain ⟨hna, hnb⟩ := Prerequisite.edge_eq_some_iff.mp (hsame.trans hedge)
    obtain ⟨hxa, hxb⟩ := Prerequisite.edge_eq_some_iff.mp hedge
    exact ⟨hna.trans hxa.symm, hnb.trans hxb.symm⟩
  case «section» n o => exact (Section.counter_of_mayReplace h).1
  case notification n o => exact beq_iff_eq.mp (require_eq_ok_iff.mp (check_bind_eq_ok_iff.mp h).1)

/-- **If what is fixed stays as it is**, a revision has the verdict of a new row that comes once the
old one is gone. -/
theorem Sound.reviewRevision_eq (hs : s.Sound) (hold : old ∈ s.entities old.kind)
    (hrev : new.Revises old) (hfixed : new.KeepsFixed old) :
    new.reviewRevision old s.lookup now = new.reviewNew (s.without old).lookup now := by
  rw [Entity.reviewRevision, hrev.checkRevision_eq, ok_bind]
  exact bind_congr fun _ => hs.mayReplace_eq hold hrev.kind hfixed

/-! ### Any order -/

theorem Distinct.without (hs : s.Distinct) (old : Entity) : (s.without old).Distinct := by
  have hdrop {α : Type} [Audited α] {f : α → Entity} {rows : List α} (id : Uuid)
      (h : (rows.map f).Pairwise Entity.Apart) : ((dropRow id rows).map f).Pairwise Entity.Apart :=
    h.sublist (List.filter_sublist.map f)
  intro kind
  have hkind := hs kind
  cases old <;> cases kind <;> try first | exact hkind | exact hdrop _ hkind
  case course.section c =>
    refine List.pairwise_map.mpr (List.pairwise_map.mpr ((List.pairwise_map.mp hkind).imp ?_))
    rintro a b ⟨hne, hrivals⟩
    have hkept := SeatMove.releaseIn_fields ⟨(Entity.course c).seat, none⟩
    refine ⟨fun hid => hne ?_, fun hr => hrivals ?_⟩
    · change (SeatMove.releaseIn _ a).audit.id = (SeatMove.releaseIn _ b).audit.id at hid
      rwa [(hkept a).1, (hkept b).1] at hid
    · simpa only [Entity.Rivals, hkept] using hr

/-- **Revising is removing and entering again**: in a snapshot that has grown, a candidate for the
place of a stored row is accepted iff it keeps what is fixed and may be entered, in whatever order
the rows are, after the old row has been removed and its seat given back. -/
theorem Grown.reviewRevision_iff (h : s.Grown) (hold : old ∈ s.entities old.kind)
    (hrev : new.Revises old) (hs' : (s.without old).Rearranges s') (now : Instant) :
    new.reviewRevision old s.lookup now = .ok () ↔
      new.KeepsFixed old ∧ new.reviewNew s'.lookup now = .ok () := by
  have hagree := (h.sound.distinct.without old).agree_of_rearranges (e := new) hs'
  have hsymm := ((h.sound.distinct.without old).of_rearranges hs').agree_of_rearranges (e := new)
    hs'.symm
  constructor
  · intro hreview
    have hfixed := h.sound.keepsFixed_of_mayReplace hold
      (Entity.reviewRevision_eq_ok_iff.mp hreview).2.2
    rw [h.sound.reviewRevision_eq hold hrev hfixed] at hreview
    exact ⟨hfixed, (Entity.alike_reviewNew hagree).eq_ok hreview⟩
  · rintro ⟨hfixed, hreview⟩
    rw [h.sound.reviewRevision_eq hold hrev hfixed]
    exact (Entity.alike_reviewNew hsymm).eq_ok hreview

namespace Sample

open Registrar.Sample

/-- The course is completed; the section it is in has no seat left. -/
def completed : Entity := .course { course with status := .completed, grade := some Grade.lowest }

end Sample

open Enrollment.Sample Registrar.Sample in
theorem reentry_of_sample : Sample.snapshot.Grown ∧ Sample.completed.Revises (.course course) ∧
    Sample.completed.reviewRevision (.course course) Sample.snapshot.lookup noon = .ok () ∧
    Sample.completed.reviewNew (Sample.snapshot.without (.course course)).lookup noon = .ok () := by
  have hrev : Sample.completed.Revises (.course course) := ⟨rfl, rfl, rfl, rfl, rfl⟩
  have haccepted : Sample.completed.reviewRevision (.course course) Sample.snapshot.lookup noon =
      .ok () := by decide +kernel
  have hiff := Sample.grown_snapshot.reviewRevision_iff (by decide +kernel) hrev (.refl _) noon
  exact ⟨Sample.grown_snapshot, hrev, haccepted, (hiff.mp haccepted).2⟩

end Snapshot

end Enrollment
