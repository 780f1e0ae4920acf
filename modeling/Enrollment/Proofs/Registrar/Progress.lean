import Enrollment.Proofs.Registrar.Booking
import Enrollment.Proofs.Registrar.Joining
import Enrollment.Proofs.Registrar.Room

/-! # What is accepted is written

A write whose candidate the rules accept gets through the store, as long as there is a next version
for what it changes. The seats that it moves can be moved, the row of the candidate fits, and what a
section lists can be joined to it, if it lists no teacher twice.

* `Reachable.readable`: whatever is stored stands for something.
* `create_cases`, `update_cases`: an accepted write gets to where a section is joined to what it
  lists, or a version is missing.
* `accepted_written`: below the greatest version it succeeds, or lists a teacher twice and the index
  on assignments refuses it. -/

namespace Enrollment

namespace Registrar

open Store

variable {s s' : Store} {key : Uuid}

/-! ### What is stored can be read -/

theorem isReadable_settled (q : Row) : q.settled.isReadable = q.isReadable := by
  cases q <;> try rfl
  case course r =>
    simp only [Row.isReadable, Row.settled, Row.toEntity?, CourseRow.toCourse]
    cases (ofName .status r.status : Except RowFault CourseStatus) <;> rfl

theorem isReadable_of_ok {q : Row} {e : Entity} (h : q.toEntity? [] [] = some (.ok e)) :
    q.isReadable = true := by rw [Row.isReadable, h]

theorem isReadable_ofEntity {e : Entity} {row : Row} (h : Row.ofEntity e = .ok row) :
    row.isReadable = true := by
  cases e
  case course c =>
    obtain ⟨x, rfl, hx⟩ := courseRow_of_ofEntity h
    exact isReadable_of_ok (e := .course c) (congrArg some (map_eq_ok_iff.mpr ⟨c, hx, rfl⟩))
  case spaceTime t =>
    obtain ⟨x, hx, rfl⟩ := map_eq_ok_iff.mp h
    obtain ⟨slot, -, hx⟩ := bind_eq_ok_iff.mp hx
    obtain rfl := pure_eq_ok_iff.mp hx
    simp only [Row.isReadable, Row.toEntity?, SpaceTimeRow.toSpaceTime, ofName_name]
    rfl
  case prerequisite => obtain ⟨x, -, rfl⟩ := map_eq_ok_iff.mp h; rfl
  case «section» => obtain ⟨x, -, rfl⟩ := map_eq_ok_iff.mp h; rfl
  case student => obtain rfl := Except.ok.inj h; rfl
  all_goals
    obtain rfl := Except.ok.inj h
    simp only [Row.isReadable, Row.toEntity?, SubjectRow.toSubject, SubjectRow.of,
      TrimesterRow.toTrimester, TrimesterRow.of, NotificationRow.toNotification, NotificationRow.of,
      FacultyRow.toFaculty, FacultyRow.of, ofName_name]
    rfl

theorem isReadable_reseated (q : Row) (m : SeatMove) (keys : List Uuid) (actor : String)
    (now : Instant) : (q.reseated m keys actor now).isReadable = q.isReadable := by
  cases q <;> rfl

theorem isReadable_of_isJunction {q : Row} (h : q.table.isJunction = true) :
    q.isReadable = true := by
  cases q <;> first | rfl | cases h

/-- **Whatever is stored stands for something.** -/
theorem Reachable.readable (h : Reachable s) : s.Readable := by
  induction h with
  | empty => exact fun _ hq => absurd hq List.not_mem_nil
  | @after s hs call ih =>
    intro q' hq'
    cases (step_after hs.conforms call).origin hs.conforms hq' with
    | stored h =>
      obtain ⟨m, keys, actor, now, rfl⟩ := h.reseated
      rw [isReadable_reseated]
      exact ih _ h.mem
    | written _ hrow hq =>
      rw [hq, isReadable_settled]
      exact isReadable_ofEntity hrow
    | joined _ hlink => exact isReadable_of_isJunction (settled_of_mem_linkRows hlink).2.1

/-! ### What a booking says of the trimester -/

theorem Reachable.exists_calls (h : Reachable s) : ∃ calls, storeAfter calls = s := by
  induction h with
  | empty => exact ⟨[], rfl⟩
  | after _ call ih =>
    obtain ⟨calls, rfl⟩ := ih
    exact ⟨calls ++ [call], by simp [storeAfter]⟩

theorem Reachable.trimesterId_eq (h : Reachable s) {x : SectionSpaceTimeRow} {r : SectionRow}
    (hx : x ∈ s.sectionSpaceTimes) (hr : r ∈ s.sections) (hid : x.sectionId = r.audit.id) :
    x.trimesterId = r.trimesterId := by
  obtain ⟨calls, rfl⟩ := h.exists_calls
  rw [← storeAt_length] at hx hr
  obtain ⟨_, sec, -, hbooked⟩ := exists_writtenLast calls calls.length hr
  have hmem := mem_bookings_iff.mpr ⟨x, hx, hid, rfl, rfl⟩
  rw [hbooked.bookings_eq] at hmem
  obtain ⟨_, -, heq⟩ := List.mem_map.mp hmem
  exact (Prod.mk.inj heq).2.symm

/-! ### What a section is joined to -/

/-- What an accepted section lists may be attached once its row is written, if nothing has been
booked since it was read and it is joined to nothing any more. -/
theorem mayAttach_of_passes {whole : Snapshot} {ctx : Context} {sec : Section} {a : Audit}
    {subject trimester : Uuid} (hs : Reachable s) (h : s.Shows whole ctx a.id)
    (hpasses : sec.Passes ctx subject trimester) (hstored : s'.Has .sections a.id)
    (hhas : ∀ t k, t.isJunction = false → s.Has t k → s'.Has t k)
    (hunjoined : s'.rows.filter (joins a.id) = [])
    (hbookings : ∀ x ∈ s'.sectionSpaceTimes, x ∈ s.sectionSpaceTimes) :
    MayAttach s' { sec with audit := a } trimester where
  trimesterId := hpasses.trimesterId
  sectionStored := hstored
  trimesterStored := hhas _ _ rfl (h.trimester hpasses.trimesterStored)
  slotOnce := hpasses.slotOnce
  slots id hid := hhas _ _ rfl (h.spaceTime (hpasses.slots id hid))
  teachers id hid := by
    obtain ⟨f, hf, -⟩ := hpasses.teachers id hid
    exact hhas _ _ rfl (h.faculty (hf ▸ rfl))
  unjoined := hunjoined
  free x hx ht := by
    have hxs := hbookings x hx
    have href : ⟨.sectionId, .sections, .cascade⟩ ∈
        Schema.migrated.references .sectionSpaceTimes := by decide
    obtain ⟨q, hq, hat⟩ := hs.conforms.exists_isAt (mem_typed_iff.mp hxs) href rfl
    obtain ⟨r, rfl, hid⟩ := exists_section_of_isAt hat
    have hr : r ∈ s.sections := mem_typed_iff.mpr hq
    by_cases hsame : r.audit.id = a.id
    · have hjoins : joins a.id (.sectionSpaceTime x) = true :=
        decide_eq_true (hid.symm.trans hsame)
      exact absurd hjoins (List.filter_eq_nil_iff.mp hunjoined _ (mem_typed_iff.mp hx))
    · exact h.not_mem_of_booked hs.conforms hpasses.free hr
        ((hs.trimesterId_eq hxs hr hid.symm).symm.trans ht) hsame
        (mem_spaceTimeIds_iff.mpr ⟨x, hxs, hid.symm, rfl⟩)

/-! ### Rows that fit while seats move -/

section Reseated

variable {m : SeatMove} {keys : List Uuid} {actor : String} {now : Instant}
  (hrows : s'.rows = s.rows.map (Row.reseated m keys actor now))
include hrows

theorem has_of_reseated {t : Table} {k : Uuid} (h : s.Has t k) : s'.Has t k := by
  obtain ⟨q, hq, hat⟩ := h
  exact ⟨_, hrows ▸ List.mem_map_of_mem hq, by rw [isAt_reseated, hat]⟩

theorem fits_of_reseated {row : Row} (h : row.Fits key s) : row.Fits key s' where
  id_eq := h.id_eq
  conditions := h.conditions
  natural columns hcolumns q' hq' hagrees := by
    rw [hrows] at hq'
    obtain ⟨q, hq, rfl⟩ := List.mem_map.mp hq'
    have ht := (Row.agrees_iff.mp hagrees).1
    by_cases hsec : (q.reseated m keys actor now).table = .sections
    · -- a section has no natural key
      rw [ht, hsec] at hcolumns
      exact absurd (show columns ∈ [] from hcolumns) List.not_mem_nil
    · rw [← eq_of_reseated rfl hsec] at hagrees ⊢
      exact h.natural columns hcolumns q hq hagrees
  references ref href := by
    obtain ⟨id, hcell, hid⟩ := h.references ref href
    exact ⟨id, hcell, fun k hk => has_of_reseated hrows (hid k hk)⟩

end Reseated

/-! ### Writes that get through -/

/-- An accepted candidate is accepted in the face of all that is stored. -/
theorem exists_whole_of_reviewNew {e : Entity} {part : Snapshot} {now : Instant} (hs : s.Conforms)
    (hr : s.Readable) (hload : s.load e none = .ok part)
    (hreview : e.reviewNew part.lookup now = .ok ()) : ∃ whole ctx,
      s.Shows whole ctx (audit e).id ∧ e.violations = [] ∧ e.mayStand none ctx = .ok () := by
  obtain ⟨whole, hwhole⟩ := exists_snapshot hr
  have hwhole := isWhole_of_snapshot hwhole
  have hagree := agree_of_load hs (.refl _) hwhole hload
  have haccepted := (Entity.alike_reviewNew hagree).eq_ok hreview
  obtain ⟨hfields, hrules⟩ := Entity.reviewNew_eq_ok_iff.mp haccepted
  exact ⟨whole, ⟨whole.lookup, now, none⟩, ⟨hwhole, rfl, nofun⟩, hfields, hrules⟩

theorem exists_whole_of_reviewRevision {e old : Entity} {part : Snapshot} {now : Instant}
    (hs : s.Conforms) (hr : s.Readable) (hload : s.load e (some old) = .ok part)
    (hreview : e.reviewRevision old part.lookup now = .ok ()) : ∃ whole ctx,
      s.Shows whole ctx (audit old).id ∧ e.violations = [] ∧
        e.mayStand (some old) ctx = .ok () := by
  obtain ⟨whole, hwhole⟩ := exists_snapshot hr
  have hwhole := isWhole_of_snapshot hwhole
  have hagree := agree_of_load hs (.refl _) hwhole hload
  have haccepted := (Entity.alike_reviewRevision hagree).eq_ok hreview
  obtain ⟨-, hfields, hrules⟩ := Entity.reviewRevision_eq_ok_iff.mp haccepted
  refine ⟨whole, ⟨whole.lookup, now, some (audit old).id⟩, ⟨hwhole, rfl, fun id hid => ?_⟩, hfields,
    hrules⟩
  have hid : (audit old).id = id := by simpa [Context.collides] using hid
  exact hid.symm

theorem mem_of_reseatedBy {old : Option Entity} {new : Entity} {actor : String} {now : Instant}
    {q : Row} (hkind : ∀ o ∈ old, o.kind = new.kind)
    (hrows : s'.rows =
      s.rows.map (Row.reseatedBy (.ofSeats (old.bind Entity.seat) new.seat) actor now))
    (hq : q ∈ s.rows) (ht : q.table = tableOf new.kind) : q ∈ s'.rows := by
  have hself : q.reseatedBy (.ofSeats (old.bind Entity.seat) new.seat) actor now = q := by
    by_cases hc : new.kind = .course
    · refine (eq_of_reseated rfl ?_).symm
      rw [Row.table_reseated, ht, hc]
      exact nofun
    · rw [bind_seat_eq_none hkind hc, Entity.seat_eq_none hc]
      exact Row.reseated_nil ..
  rw [hrows, ← hself]
  exact List.mem_map_of_mem hq

/-- A write once its seats have moved: its row fits. -/
structure Moved (s : Store) (part : Snapshot) (now : Instant) (old : Option Entity) (new : Entity)
    (s' : Store) (row : Row) : Prop where
  moved : moveSeatsOf {} part now s old new = .ok s'
  rows : ∃ m keys actor, s'.rows = s.rows.map (Row.reseated m keys actor now)
  kept : ∀ q ∈ s.rows, q.table = tableOf new.kind → q ∈ s'.rows
  conforms : s'.Conforms
  row_eq : Row.ofEntity new = .ok row
  fits : row.Fits (audit new).id s'

/-- A stored row is in the greatest version. -/
def Exhausted (s : Store) : Prop := ∃ q ∈ s.rows, q.version = some Int32.maxValue

theorem eq_maxValue_of_not_lt {v : Int32} (h : ¬ v < Int32.maxValue) : v = Int32.maxValue :=
  Int32.le_antisymm (Int32.le_iff_toInt_le.mpr v.toInt_le) (Int32.not_lt.mp h)

theorem exhausted_of_not_lt {q : Row} {v : Int32} (hq : q ∈ s.rows) (hv : q.version = some v)
    (h : ¬ v < Int32.maxValue) : Exhausted s :=
  ⟨q, hq, hv.trans (congrArg some (eq_maxValue_of_not_lt h))⟩

theorem exhausted_of_not_hasNext {keys : List Uuid} (h : ¬ HasNext s keys) : Exhausted s := by
  simp only [HasNext, not_forall] at h
  obtain ⟨r, hr, -, hversion⟩ := h
  exact exhausted_of_not_lt (mem_typed_iff.mp hr) rfl hversion

theorem version_lt_of_not_exhausted {r : SectionRow} (h : ¬ Exhausted s) (hr : r ∈ s.sections) :
    r.audit.version < Int32.maxValue :=
  Classical.byContradiction fun hversion =>
    h (exhausted_of_not_lt (mem_typed_iff.mp hr) rfl hversion)

theorem moved_cases {whole part : Snapshot} {ctx : Context} {e : Entity} {old : Option Entity}
    {a : Audit} (now : Instant) (hs : Reachable s) (h : s.Shows whole ctx a.id)
    (hfields : e.violations = []) (hrules : e.mayStand old ctx = .ok ())
    (hheld : ∀ o ∈ old, s.Holds e.kind a.id o) (hload : s.load e old = .ok part) :
    (∃ s' row, Moved s part now old (e.withAudit a) s' row) ∨
      moveSeatsOf {} part now s old (e.withAudit a) = .error .overflow ∧ Exhausted s := by
  have hread : ∀ sec ∈ part.sections, ∃ r ∈ s.sections, s.joined r = sec :=
    fun sec hsec => exists_row_of_mem_load hs.conforms hload hsec
  have hkind : ∀ o ∈ old, o.kind = (e.withAudit a).kind := fun o ho => by
    rw [Entity.kind_withAudit, (hheld o ho).matches.1]
  obtain ⟨row, hrow, hfits⟩ := exists_fits h hs.readable hs.conforms hfields hrules hheld
  have hroom : CanMove s (old.bind Entity.seat) (e.withAudit a).seat := by
    rw [e.seat_withAudit]
    exact canMove_of_mayStand hs.conforms h hrules hheld
  rcases moveSeatsOf_cases now hs.conforms hkind hread
    (e.hasState_withAudit a (hasState_of_mayStand hrules)) hroom with ⟨s₁, hmoved⟩ | ⟨h, hnext⟩
  swap
  · exact .inr ⟨h, exhausted_of_not_hasNext hnext⟩
  obtain ⟨-, hrows, hconforms, -⟩ := reseated_of_moveSeatsOf hs.conforms hkind hread hmoved
  refine .inl ⟨s₁, row, hmoved, ⟨_, _, _, hrows⟩, fun q hq ht => ?_, hconforms, hrow, ?_⟩
  · exact mem_of_reseatedBy hkind hrows hq ht
  · rw [Entity.audit_withAudit]
    exact fits_of_reseated hrows hfits

theorem mayAttach_of_inserted {whole : Snapshot} {ctx : Context} {sec : Section}
    {subject trimester : Uuid} {row : Row} {m : SeatMove} {keys : List Uuid} {actor : String}
    {now : Instant} (hs : Reachable s) (h : s.Shows whole ctx sec.audit.id)
    (hpasses : sec.Passes ctx subject trimester)
    (hfresh : ∀ q ∈ s.rows, q.isAt .sections sec.audit.id = false)
    (hat : row.isAt .sections sec.audit.id = true)
    (hrows : s'.rows = s.rows.map (Row.reseated m keys actor now) ++ [row]) :
    MayAttach s' sec trimester := by
  have hhas : ∀ t k, t.isJunction = false → s.Has t k → s'.Has t k := by
    rintro t k - ⟨q, hq, hqat⟩
    refine ⟨q.reseated m keys actor now, ?_, by rwa [isAt_reseated]⟩
    rw [hrows]
    exact List.mem_append_left _ (List.mem_map_of_mem hq)
  have hstored : s'.Has .sections sec.audit.id :=
    ⟨row, hrows ▸ List.mem_append_right _ (List.mem_singleton_self _), hat⟩
  have hnone : s.rows.filter (joins sec.audit.id) = [] := filter_joins_eq_nil hs.conforms hfresh
  have hrow : joins sec.audit.id row = false :=
    joins_eq_false_of_isAt (show row.isAt (tableOf .section) sec.audit.id = true from hat)
  refine mayAttach_of_passes (a := sec.audit) hs h hpasses hstored hhas ?_ fun x hx => ?_
  · rw [hrows, List.filter_append, filter_joins_reseated, hnone, List.filter_cons, hrow]
    rfl
  · rw [mem_typed_iff, hrows] at hx
    rcases List.mem_append.mp hx with hx | hx
    · obtain ⟨q, hq, heq⟩ := List.mem_map.mp hx
      obtain rfl := eq_of_reseated heq fun hsec => by cases hsec
      exact mem_typed_iff.mpr hq
    · rw [← List.mem_singleton.mp hx] at hat
      cases (Row.isAt_iff.mp hat).1

/-- A new entity that is accepted is written, up to what it is joined to, unless a version is
missing. -/
theorem create_cases {clock : Clock} {e : Entity} {part : Snapshot} (hs : Reachable s)
    (hfresh : ∀ q ∈ s.rows, q.isAt (tableOf e.kind) (audit e).id = false)
    (hload : s.load e none = .ok part)
    (hreview : e.reviewNew part.lookup clock.review = .ok ()) :
    (∃ s', s'.Conforms ∧ (∀ sec, e = .section sec → ∃ trimester, MayAttach s' sec trimester) ∧
      create {} clock e s = (attach {} s' e).map fun s' => (e, s')) ∨
    create {} clock e s = .error .overflow ∧ Exhausted s := by
  obtain ⟨whole, ctx, hshows, hfields, hrules⟩ :=
    exists_whole_of_reviewNew hs.conforms hs.readable hload hreview
  have hself : e.withAudit (audit e) = e := by cases e <;> rfl
  have hmoved := moved_cases (a := audit e) clock.write hs hshows hfields hrules
    (fun _ ho => absurd ho (Option.not_mem_none _)) hload
  rw [hself] at hmoved
  obtain ⟨s₁, row, h₁⟩ | ⟨hoverflow, hexhausted⟩ := hmoved
  swap
  · refine .inr ⟨?_, hexhausted⟩
    simp only [create, hload, hreview, hoverflow, mapError_ok, ok_bind]
    rfl
  obtain ⟨m, keys, actor, hrows⟩ := h₁.rows
  have hat := isAt_settled_of_ofEntity h₁.row_eq
  have hfresh₁ : ∀ q ∈ s₁.rows, q.isAt row.table (audit e).id = false := by
    intro q' hq'
    obtain ⟨q, hq, rfl⟩ := List.mem_map.mp (hrows ▸ hq')
    rw [isAt_reseated, (matches_ofEntity h₁.row_eq).1, hfresh q hq]
  have hinsert := insert_of_fits h₁.conforms h₁.fits hfresh₁
  refine .inl ⟨⟨s₁.rows ++ [row.settled]⟩, (insert_eq_ok h₁.conforms hinsert).2, ?_, ?_⟩
  · rintro sec rfl
    obtain ⟨subject, trimester, hpasses⟩ := Section.passes_of_mayEnter hrules
    exact ⟨trimester, mayAttach_of_inserted hs hshows hpasses hfresh hat
      (congrArg (· ++ [row.settled]) hrows)⟩
  · simp only [create, hload, hreview, h₁.moved, h₁.row_eq, hinsert, mapError_ok, ok_bind]
    cases attach {} ⟨s₁.rows ++ [row.settled]⟩ e <;> rfl

theorem mayAttach_of_detached {whole : Snapshot} {ctx : Context} {sec : Section} {a : Audit}
    {subject trimester : Uuid} {row : Row} {m : SeatMove} {keys : List Uuid} {actor : String}
    {now : Instant} (hs : Reachable s) (h : s.Shows whole ctx a.id)
    (hpasses : sec.Passes ctx subject trimester) (hstored : s.Has .sections a.id)
    (hat : row.isAt .sections a.id = true)
    (hrows : s'.rows = ((s.rows.map (Row.reseated m keys actor now)).map row.revisedBy).filter
      fun q => !joins a.id q) : MayAttach s' { sec with audit := a } trimester := by
  have hhas : ∀ t k, t.isJunction = false → s.Has t k → s'.Has t k := by
    rintro t k ht ⟨q, hq, hqat⟩
    have hq'at : (row.revisedBy (q.reseated m keys actor now)).isAt t k = true := by
      rwa [Row.isAt, Row.table_revisedBy, Row.id_revisedBy, ← Row.isAt, isAt_reseated]
    refine ⟨_, ?_, hq'at⟩
    rw [hrows, List.mem_filter]
    refine ⟨List.mem_map_of_mem (List.mem_map_of_mem hq), ?_⟩
    rw [Bool.not_eq_true', Bool.eq_false_iff]
    intro hjoins
    rw [← (Row.isAt_iff.mp hq'at).1, isJunction_of_joins hjoins] at ht
    cases ht
  refine mayAttach_of_passes hs h hpasses (hhas _ _ rfl hstored) hhas ?_ fun x hx => ?_
  · rw [hrows, List.filter_filter, List.filter_eq_nil_iff]
    intro q _ hq
    rw [Bool.and_eq_true, Bool.not_eq_true'] at hq
    rw [hq.1] at hq
    cases hq.2
  · rw [mem_typed_iff, hrows, List.mem_filter] at hx
    obtain ⟨q₁, hq₁, heq⟩ := List.mem_map.mp hx.1
    obtain ⟨q, hq, rfl⟩ := List.mem_map.mp hq₁
    unfold Row.revisedBy at heq
    split at heq
    · rw [heq] at hat
      cases (Row.isAt_iff.mp hat).1
    · obtain rfl := eq_of_reseated heq fun hsec => by cases hsec
      exact mem_typed_iff.mpr hq

/-- What is in the greatest version is not revised any more. -/
theorem update_of_not_lt {clock : Clock} {e old : Entity} {part : Snapshot}
    (hfind : s.find e.kind (audit e).id = .ok (some old)) (hload : s.load e (some old) = .ok part)
    (hreview : e.reviewRevision old part.lookup clock.review = .ok ())
    (hversion : ¬ (audit old).version < Int32.maxValue) :
    update {} clock e s = .error .overflow := by
  have htouch : touch (audit old) (audit e).updatedBy clock.write = .error .overflow :=
    touch_of_not_lt _ _ hversion
  simp only [update, fetch_eq_ok hfind, hload, hreview, htouch, mapError_ok, ok_bind]
  rfl

section Revised

variable {part : Snapshot} {now : Instant} {old e : Entity} {a : Audit} {s₁ s₂ : Store} {row : Row}

/-- The row of a revision takes the place of the stored one, once its seats have moved. -/
theorem Moved.exists_writeRow (h : Moved s part now (some old) (e.withAudit a) s₁ row)
    (hheld : s.Holds e.kind a.id old) : ∃ s₂,
      writeRow {} (e.withAudit a) (audit old).version s₁ = .ok s₂ ∧
        s₂.rows = s₁.rows.map row.settled.revisedBy ∧ s₂.Conforms := by
  have htable : row.table = tableOf e.kind := by
    rw [(matches_ofEntity h.row_eq).1, Entity.kind_withAudit]
  have hfits : row.Fits a.id s₁ := by
    rw [← e.audit_withAudit a]
    exact h.fits
  obtain ⟨q, hq, hat, hentity⟩ := hheld
  have hq₁ : q ∈ s₁.rows := h.kept q hq (by rw [(Row.isAt_iff.mp hat).1, Entity.kind_withAudit])
  obtain ⟨s₂, hreplace⟩ := replace_of_fits h.conforms hfits hq₁ (htable ▸ hat)
    (matches_of_toEntity? hentity).version_eq
  obtain ⟨-, hrows, hs₂⟩ := replace_eq_some h.conforms hfits.id_eq hreplace
  refine ⟨s₂, ?_, hrows, hs₂⟩
  simp only [writeRow, h.row_eq, mapError_ok, ok_bind, Entity.audit_withAudit, hreplace]
  rfl

/-- What the revision of a section lists may be attached, once it is written and detached. -/
theorem Moved.mayAttach {whole : Snapshot} {ctx : Context} {sec : Section} (hs : Reachable s)
    (hshows : s.Shows whole ctx a.id) (hrules : e.mayStand (some old) ctx = .ok ())
    (hheld : s.Holds e.kind a.id old)
    (h : Moved s part now (some old) (e.withAudit a) s₁ row)
    (hrows : s₂.rows = s₁.rows.map row.settled.revisedBy) (hs₂ : s₂.Conforms)
    (hsec : e.withAudit a = .section sec) :
    ∃ trimester, MayAttach (detach {} s₂ (e.withAudit a)) sec trimester := by
  obtain ⟨m, keys, actor, hrows₁⟩ := h.rows
  have hat := isAt_settled_of_ofEntity h.row_eq
  have hdetached := (detach_eq (e.withAudit a) hs₂).1
  cases e <;> simp only [Entity.withAudit, reduceCtorEq, Entity.section.injEq] at hsec
  rename_i sec
  subst hsec
  have henters := Entity.mayEnter_of_accepted (Entity.accepted_of_mayStand hrules)
    (fun hkind => by cases hkind) (fun hkind => by cases hkind)
  obtain ⟨subject, trimester, hpasses⟩ := Section.passes_of_mayEnter henters
  rw [Entity.audit_withAudit] at hat
  have hrows : (detach {} s₂ (.section { sec with audit := a })).rows =
      ((s.rows.map (Row.reseated m keys actor now)).map row.settled.revisedBy).filter
        fun q => !joins a.id q := by
    rw [← hrows₁, ← hrows]
    exact hdetached
  obtain ⟨q, hq, hqat, -⟩ := hheld
  exact ⟨trimester, mayAttach_of_detached hs hshows hpasses ⟨q, hq, hqat⟩ hat hrows⟩

end Revised

/-- A revision that is accepted is written, up to what it is joined to, unless a version is
missing. -/
theorem update_cases {clock : Clock} {e old : Entity} {part : Snapshot} (hs : Reachable s)
    (hfind : s.find e.kind (audit e).id = .ok (some old)) (hload : s.load e (some old) = .ok part)
    (hreview : e.reviewRevision old part.lookup clock.review = .ok ()) :
    (∃ s' new a, new = e.withAudit a ∧ s'.Conforms ∧
      (∀ sec, new = .section sec → ∃ trimester, MayAttach s' sec trimester) ∧
      update {} clock e s = (attach {} s' new).map fun s' => (new, s')) ∨
    update {} clock e s = .error .overflow ∧ Exhausted s := by
  obtain ⟨whole, ctx, hshows, hfields, hrules⟩ :=
    exists_whole_of_reviewRevision hs.conforms hs.readable hload hreview
  have hheld := exists_row_of_find hfind
  by_cases hversion : (audit old).version < Int32.maxValue
  swap
  · obtain ⟨q, hq, -, hentity⟩ := hheld
    exact .inr ⟨update_of_not_lt hfind hload hreview hversion,
      exhausted_of_not_lt hq (matches_of_toEntity? hentity).version_eq hversion⟩
  obtain ⟨a, ha⟩ : ∃ a, touch (audit old) (audit e).updatedBy clock.write = .ok a :=
    ⟨_, touch_of_lt _ _ hversion⟩
  have hid : (audit old).id = a.id := by
    obtain ⟨-, rfl⟩ := touch_eq_ok_iff.mp ha
    rfl
  rw [← hheld.matches.2, hid] at hheld
  rw [hid] at hshows
  rcases moved_cases clock.write hs hshows hfields hrules
    (fun o ho => Option.some.inj ho ▸ hheld) hload with ⟨s₁, row, h₁⟩ | ⟨hoverflow, hexhausted⟩
  swap
  · refine .inr ⟨?_, hexhausted⟩
    simp only [update, fetch_eq_ok hfind, hload, hreview, ha, hoverflow, mapError_ok, ok_bind]
    rfl
  obtain ⟨s₂, hwrite, hrows, hs₂⟩ := h₁.exists_writeRow hheld
  refine .inl ⟨detach {} s₂ (e.withAudit a), e.withAudit a, a, rfl, (detach_eq _ hs₂).2,
    fun sec hsec => h₁.mayAttach hs hshows hrules hheld hrows hs₂ hsec, ?_⟩
  simp only [update, fetch_eq_ok hfind, hload, hreview, ha, h₁.moved, hwrite, mapError_ok, ok_bind]
  cases attach {} (detach {} s₂ (e.withAudit a)) (e.withAudit a) <;> rfl

/-- **What is accepted is written, unless it lists a teacher twice.** Of a new entity and of a
revision alike, as long as no stored row is in the greatest version: what the rules read of a
reachable store can be read, and if they accept the candidate on it then the write succeeds. The
rules let a section list a teacher twice, though they let it list no space time twice; such a
section is refused by the index on assignments. -/
theorem accepted_written (hs : Reachable s)
    (hversions : ∀ q ∈ s.rows, q.version ≠ some Int32.maxValue) (clock : Clock) (e : Entity) :
    ((∀ q ∈ s.rows, q.isAt (tableOf e.kind) (audit e).id = false) →
      ∃ part, s.load e none = .ok part ∧
        (e.reviewNew part.lookup clock.review = .ok () →
          (e.TeachersDistinct → ∃ s', create {} clock e s = .ok (e, s')) ∧
            (¬ e.TeachersDistinct → create {} clock e s = .error (.ofBreach teacherTwice)))) ∧
    ∀ old, s.find e.kind (audit e).id = .ok (some old) →
      ∃ part, s.load e (some old) = .ok part ∧
        (e.reviewRevision old part.lookup clock.review = .ok () →
          (e.TeachersDistinct → ∃ new s', update {} clock e s = .ok (new, s')) ∧
            (¬ e.TeachersDistinct → update {} clock e s = .error (.ofBreach teacherTwice))) := by
  have hnext : ¬ Exhausted s := fun ⟨q, hq, hversion⟩ => hversions q hq hversion
  refine ⟨fun hfresh => ?_, fun old hfind => ?_⟩
  · obtain ⟨part, hload⟩ := exists_load hs.readable e none
    refine ⟨part, hload, fun hreview => ?_⟩
    obtain ⟨s₁, hs₁, hattach, hcreate⟩ :=
      (create_cases hs hfresh hload hreview).resolve_right fun h => hnext h.2
    rw [hcreate]
    exact map_attach_of_mayAttach hs₁ hattach _
  · obtain ⟨part, hload⟩ := exists_load hs.readable e (some old)
    refine ⟨part, hload, fun hreview => ?_⟩
    obtain ⟨s₁, new, a, rfl, hs₁, hattach, hupdate⟩ :=
      (update_cases hs hfind hload hreview).resolve_right fun h => hnext h.2
    have hmap := map_attach_of_mayAttach hs₁ hattach (e.withAudit a, ·)
    rw [e.teachersDistinct_withAudit, ← hupdate] at hmap
    exact ⟨fun hdistinct => ⟨_, hmap.1 hdistinct⟩, hmap.2⟩

namespace Sample

open Enrollment.Sample

/-- The student leaves the section. -/
def left : Entity := .course { course with status := .dropped }

/-- A section may be opened, and a teacher is there. -/
def staffed : List Call :=
  [subject 1 "CSE101", trimester, spaceTime,
    .faculty ⟨block 9, "Teacher", "teacher@university", .teacher⟩].map
      fun e => ⟨.still noon, .create e⟩

/-- The section lists the teacher twice. -/
def doubled : Entity :=
  .section { «section» with currentCapacity := 0, teacherIds := [ident 9, ident 9] }

end Sample

theorem verdict_of_load {e : Entity} {old : Option Entity} {part : Snapshot}
    (review : Snapshot → Verdict) (hload : s.load e old = .ok part)
    (h : (s.load e old).toOption.map review = some (.ok ())) : review part = .ok () := by
  rw [hload] at h
  exact Option.some.inj h

theorem accepted_written_sample :
    (∃ s', create {} (.still Sample.noon) (.course Sample.course)
      (storeAfter (Sample.calls.take 7)) = .ok (.course Sample.course, s')) ∧
    (∃ new s', update {} (.still Sample.noon) Sample.left (storeAfter Sample.calls) =
      .ok (new, s')) ∧
    create {} (.still Sample.noon) Sample.doubled (storeAfter Sample.staffed) =
      .error (.ofBreach teacherTwice) := by
  refine ⟨?_, ?_, ?_⟩
  · obtain ⟨part, hload, h⟩ := (accepted_written (reachable_storeAfter (Sample.calls.take 7))
      (by decide +kernel) (.still Sample.noon) (.course Sample.course)).1 (by decide +kernel)
    have hreview := verdict_of_load
      (fun part => (Entity.course Sample.course).reviewNew part.lookup Sample.noon) hload
      (by decide +kernel)
    exact (h hreview).1 (by decide)
  · obtain ⟨part, hload, h⟩ := (accepted_written (reachable_storeAfter Sample.calls)
      (by decide +kernel) (.still Sample.noon) Sample.left).2 (.course Sample.course)
      (by decide +kernel)
    have hreview := verdict_of_load
      (fun part => Sample.left.reviewRevision (.course Sample.course) part.lookup Sample.noon) hload
      (by decide +kernel)
    exact (h hreview).1 (by decide)
  · obtain ⟨part, hload, h⟩ := (accepted_written (reachable_storeAfter Sample.staffed)
      (by decide +kernel) (.still Sample.noon) Sample.doubled).1 (by decide +kernel)
    have hreview := verdict_of_load
      (fun part => Sample.doubled.reviewNew part.lookup Sample.noon) hload (by decide +kernel)
    exact (h hreview).2 (by decide)

/-- The store may refuse what is accepted: a section that lists its teacher twice. -/
theorem accepted_refused_by_store : ¬ ∀ s, Reachable s →
    (∀ q ∈ s.rows, q.version ≠ some Int32.maxValue) →
    ∀ clock e part, (∀ q ∈ s.rows, q.isAt (tableOf e.kind) (audit e).id = false) →
      s.load e none = .ok part → e.reviewNew part.lookup clock.review = .ok () →
      ∃ s', create {} clock e s = .ok (e, s') := by
  intro h
  obtain ⟨part, hload⟩ := exists_load (reachable_storeAfter Sample.staffed).readable
    Sample.doubled none
  have hreview := verdict_of_load
    (fun part => Sample.doubled.reviewNew part.lookup Sample.noon) hload (by decide +kernel)
  obtain ⟨s', hs'⟩ := h _ (reachable_storeAfter Sample.staffed) (by decide +kernel)
    (.still Sample.noon) Sample.doubled part (by decide +kernel) hload hreview
  have hrefused : (create {} (.still Sample.noon) Sample.doubled
      (storeAfter Sample.staffed)).toOption = none := by decide +kernel
  rw [hs'] at hrefused
  cases hrefused

end Registrar

end Enrollment
