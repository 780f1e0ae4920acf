import Enrollment.Proofs.Registrar.Seating

/-! # What the writes do to the rows

Everything that a successful write leaves of a conforming store. The store conforms again, and its
rows are the old ones with a few changes: the sections whose seats move are recounted, the row of
the candidate is added, replaced or left out, and so are the rows that join it to others. No other
writer comes first, and references are looked at.

* `created_of_create`, `updated_of_update`, `deleted_of_delete`: the three writes.
* `Created.fresh`: what is created was not there. -/

namespace Enrollment.Registrar

open Store

variable {s s' : Store}

/-! ### Junction rows -/

/-- The rows that join an entity to others, if it is a section. -/
def linkRows : Entity → List Row
  | .section sec => (sec.trimesterId.toList.flatMap (spaceTimeRows sec)) ++ teacherRows sec
  | _ => []

/-- The row joins an entity to another. -/
def linksOf (e : Entity) (q : Row) : Bool :=
  match e with
  | .section sec => joins sec.audit.id q
  | _ => false

theorem isJunction_of_joins {key : Uuid} {q : Row} (h : joins key q = true) :
    q.table.isJunction = true := by
  cases q <;> first | rfl | cases h

theorem isJunction_of_linksOf {e : Entity} {q : Row} (h : linksOf e q = true) :
    q.table.isJunction = true := by
  cases e
  case «section» => exact isJunction_of_joins h
  all_goals cases h

theorem isJunction_eq_false_of_isAt {kind : Kind} {key : Uuid} {q : Row}
    (h : q.isAt (tableOf kind) key = true) : q.table.isJunction = false := by
  rw [(Row.isAt_iff.mp h).1]
  cases kind <;> rfl

theorem settled_of_mem_linkRows {e : Entity} {q : Row} (h : q ∈ linkRows e) :
    q.settled = q ∧ q.table.isJunction = true ∧ linksOf e q = true := by
  cases e
  case «section» sec =>
    simp only [linkRows, spaceTimeRows, teacherRows, List.mem_append, List.mem_flatMap,
      List.mem_map] at h
    rcases h with ⟨_, -, _, -, rfl⟩ | ⟨_, -, rfl⟩
    · exact ⟨rfl, rfl, by simp [linksOf, joins]⟩
    · exact ⟨rfl, rfl, by simp [linksOf, joins]⟩
  all_goals exact absurd h List.not_mem_nil

theorem not_mem_linkRows {e : Entity} {q : Row} (h : q.table.isJunction = false) :
    q ∉ linkRows e := fun hq => by
  rw [(settled_of_mem_linkRows hq).2.1] at h
  cases h

theorem map_settled_linkRows (e : Entity) : (linkRows e).map Row.settled = linkRows e :=
  (List.map_congr_left fun _ hq => (settled_of_mem_linkRows hq).1).trans (List.map_id' _)

theorem attach_eq_ok {e : Entity} (hs : s.Conforms) (h : attach {} s e = .ok s') :
    s'.rows = s.rows ++ linkRows e ∧ s'.Conforms := by
  cases e
  case «section» sec =>
    simp only [attach, link, bind_eq_ok_iff, mapError_eq_ok_iff, present_eq_ok_iff] at h
    obtain ⟨trimester, ht, s₁, h₁, h⟩ := h
    obtain ⟨hrows₁, hs₁⟩ := insert_eq_ok hs h₁
    obtain ⟨hrows, hs'⟩ := insert_eq_ok hs₁ h
    refine ⟨?_, hs'⟩
    rw [hrows, hrows₁, List.append_assoc, ← List.map_append, ← map_settled_linkRows]
    simp [linkRows, ht]
  all_goals
    obtain rfl := Except.ok.inj h
    exact ⟨by simp [linkRows], hs⟩

theorem detach_eq (e : Entity) (hs : s.Conforms) :
    (detach {} s e).rows = s.rows.filter (fun q => !linksOf e q) ∧ (detach {} s e).Conforms := by
  cases e
  case «section» sec =>
    have hrows : (detach {} s (.section sec)).rows =
        s.rows.filter fun q => !linksOf (.section sec) q := by
      simp [detach, unlink, linksOf]
    refine ⟨hrows, ?_⟩
    rw [show detach {} s (.section sec) = ⟨s.rows.filter fun q => !linksOf (.section sec) q⟩ from
      congrArg Store.mk hrows]
    exact hs.filter_junctions fun q _ hq => isJunction_of_linksOf (by simpa using hq)
  all_goals exact ⟨by simp [detach, linksOf], hs⟩

/-! ### Seats -/

theorem reseated_ofSeats_none (hs : s.Conforms) (actor : String) (now : Instant) :
    let m := SeatMove.ofSeats none none
    s.rows = s.rows.map (Row.reseatedBy m actor now) ∧ s.Conforms ∧ HasRoom s m m.sections ∧
      HasNext s m.sections := by
  refine ⟨?_, hs, fun _ h => absurd h List.not_mem_nil, hasNext_nil s⟩
  exact ((List.map_congr_left fun q _ => Row.reseated_nil _ actor now q).trans
    (List.map_id' _)).symm

theorem bind_seat_eq_none {old : Option Entity} {new : Entity}
    (hkind : ∀ o ∈ old, o.kind = new.kind) (hc : new.kind ≠ .course) :
    old.bind Entity.seat = none := by
  cases old with
  | none => rfl
  | some o => exact Entity.seat_eq_none (by rw [hkind o rfl]; exact hc)

theorem exists_course_of_kind {e : Entity} (h : e.kind = .course) : ∃ c, e = .course c := by
  cases e
  case course c => exact ⟨c, rfl⟩
  all_goals cases h

theorem reseated_of_moveSeatsOf {snapshot : Snapshot} {old : Option Entity} {new : Entity}
    {now : Instant} (hs : s.Conforms) (hkind : ∀ o ∈ old, o.kind = new.kind)
    (hread : ∀ sec ∈ snapshot.sections, ∃ r ∈ s.sections, s.joined r = sec)
    (h : moveSeatsOf {} snapshot now s old new = .ok s') :
    new.HasState ∧
      let m := SeatMove.ofSeats (old.bind Entity.seat) new.seat
      s'.rows = s.rows.map (Row.reseatedBy m (audit new).updatedBy now) ∧ s'.Conforms ∧
        HasRoom s m m.sections ∧ HasNext s m.sections := by
  by_cases hc : new.kind = .course
  · obtain ⟨n, rfl⟩ := exists_course_of_kind hc
    cases old with
    | none =>
      -- the course before is to be read off `h`, not off the goal
      have h : moveSeats {} snapshot none n now s = .ok s' := h
      have hmoved := reseated_of_moveSeats hs hread h
      exact hmoved
    | some o =>
      obtain ⟨o, rfl⟩ := exists_course_of_kind ((hkind o rfl).trans hc)
      have h : moveSeats {} snapshot (some o) n now s = .ok s' := h
      have hmoved := reseated_of_moveSeats hs hread h
      exact hmoved
  · have hold := bind_seat_eq_none hkind hc
    have hsame : s = s' := by
      cases new
      case course => exact absurd rfl hc
      all_goals
        unfold moveSeatsOf at h
        split at h <;> first | exact Except.ok.inj h | contradiction
    subst hsame
    rw [hold, Entity.seat_eq_none hc]
    refine ⟨?_, reseated_ofSeats_none hs _ _⟩
    cases new
    case course => exact absurd rfl hc
    all_goals trivial

/-! ### Rows whose seats have moved -/

section Reseated

variable (m : SeatMove) (keys : List Uuid) (actor : String) (now : Instant)

theorem linksOf_reseated (e : Entity) (q : Row) :
    linksOf e (q.reseated m keys actor now) = linksOf e q := by cases q <;> rfl

theorem isAt_reseated (q : Row) (t : Table) (key : Uuid) :
    (q.reseated m keys actor now).isAt t key = q.isAt t key := by
  rw [Row.isAt, Row.isAt, Row.table_reseated, Row.id_reseated]

end Reseated

theorem eq_of_reseated {m : SeatMove} {keys : List Uuid} {actor : String} {now : Instant}
    {q q' : Row} (h : q.reseated m keys actor now = q') (ht : q'.table ≠ .sections) : q = q' := by
  subst h
  cases q
  case «section» => exact absurd rfl ht
  all_goals rfl

theorem section_of_reseated {m : SeatMove} {keys : List Uuid} {actor : String} {now : Instant}
    {q : Row} {r' : SectionRow} (h : q.reseated m keys actor now = .section r') :
    ∃ r, q = .section r ∧ r.reseated m keys actor now = r' := by
  cases q <;> simp only [Row.reseated, reduceCtorEq, Row.section.injEq] at h
  exact ⟨_, rfl, h⟩

/-! ### Creating -/

/-- What a store is after an entity has been created in another. -/
structure Created (clock : Clock) (e : Entity) (s s' : Store) : Prop where
  conforms : s'.Conforms
  reviewed : ∃ snapshot, s.load e none = .ok snapshot ∧
    e.reviewNew snapshot.lookup clock.review = .ok ()
  hasState : e.HasState
  hasRoom : HasRoom s (.ofSeats none e.seat) (SeatMove.ofSeats none e.seat).sections
  hasNext : HasNext s (SeatMove.ofSeats none e.seat).sections
  rows : ∃ row, Row.ofEntity e = .ok row ∧ s'.rows =
    s.rows.map (Row.reseatedBy (.ofSeats none e.seat) (audit e).updatedBy clock.write) ++
      row.settled :: linkRows e

theorem created_of_create {clock : Clock} {e e' : Entity} (hs : s.Conforms)
    (h : create {} clock e s = .ok (e', s')) : e' = e ∧ Created clock e s s' := by
  simp only [create, bind_eq_ok_iff, mapError_eq_ok_iff, pure_eq_ok_iff, Prod.mk.injEq] at h
  obtain ⟨snapshot, hload, _, hreview, s₁, hseats, row, hrow, s₂, hins, s₃, hatt, rfl, rfl⟩ := h
  obtain ⟨hstate, hrows₁, hs₁, hroom, hnext⟩ := reseated_of_moveSeatsOf hs (by simp)
    (fun sec hsec => exists_row_of_mem_load hs hload hsec) hseats
  obtain ⟨hrows₂, hs₂⟩ := insert_eq_ok hs₁ hins
  obtain ⟨hrows₃, hs₃⟩ := attach_eq_ok hs₂ hatt
  refine ⟨rfl, hs₃, ⟨snapshot, hload, hreview⟩, hstate, hroom, hnext, row, hrow, ?_⟩
  rw [hrows₃, hrows₂, hrows₁]
  simp

theorem Created.fresh {clock : Clock} {e : Entity} (h : Created clock e s s') {q : Row}
    (hq : q ∈ s.rows) : q.isAt (tableOf e.kind) (audit e).id = false := by
  obtain ⟨row, hrow, hrows⟩ := h.rows
  have hp := h.conforms.apart
  rw [hrows] at hp
  have hapart := (List.pairwise_append.mp hp).2.2 _ (List.mem_map_of_mem hq) _ List.mem_cons_self
  exact Bool.eq_false_iff.mpr fun hqt => Row.not_apart_of_isAt
    ((isAt_reseated _ _ _ _ q _ _).trans hqt) (isAt_settled_of_ofEntity hrow) hapart

/-! ### Updating -/

/-- What a store is after an entity has been replaced in another, and what it was replaced by. -/
structure Updated (clock : Clock) (e old new : Entity) (s s' : Store) : Prop where
  conforms : s'.Conforms
  held : s.Holds e.kind (audit e).id old
  reviewed : ∃ snapshot, s.load e (some old) = .ok snapshot ∧
    e.reviewRevision old snapshot.lookup clock.review = .ok ()
  version_lt : (audit old).version < Int32.maxValue
  new_eq : new = e.withAudit ((audit old).next (audit e).updatedBy clock.write)
  hasState : new.HasState
  hasRoom : HasRoom s (.ofSeats old.seat new.seat) (SeatMove.ofSeats old.seat new.seat).sections
  hasNext : HasNext s (SeatMove.ofSeats old.seat new.seat).sections
  rows : ∃ row, Row.ofEntity new = .ok row ∧ s'.rows =
    ((s.rows.map (Row.reseatedBy (.ofSeats old.seat new.seat) (audit new).updatedBy
      clock.write)).map row.settled.revisedBy).filter (fun q => !linksOf new q) ++ linkRows new

theorem Updated.kind_new {clock : Clock} {e old new : Entity} (h : Updated clock e old new s s') :
    new.kind = e.kind := by
  rw [h.new_eq, Entity.kind_withAudit]

theorem Updated.id_new {clock : Clock} {e old new : Entity} (h : Updated clock e old new s s') :
    (audit new).id = (audit e).id := by
  rw [h.new_eq, Entity.audit_withAudit]
  exact h.held.matches.2

theorem Updated.isAt_settled {clock : Clock} {e old new : Entity} {row : Row}
    (h : Updated clock e old new s s') (hrow : Row.ofEntity new = .ok row) :
    row.settled.isAt (tableOf e.kind) (audit e).id = true := by
  have hat := isAt_settled_of_ofEntity hrow
  rwa [h.kind_new, h.id_new] at hat

theorem fetch_eq_ok {kind : Kind} {key : Uuid} {e : Entity} (h : s.find kind key = .ok (some e)) :
    fetch kind key s = .ok e := by
  simp only [fetch, h, mapError_ok, ok_bind]
  rfl

theorem holds_of_fetch {kind : Kind} {key : Uuid} {e : Entity} (h : fetch kind key s = .ok e) :
    s.Holds kind key e := by
  simp only [fetch, bind_eq_ok_iff, mapError_eq_ok_iff] at h
  obtain ⟨found, hfound, h⟩ := h
  cases found with
  | none => cases h
  | some x =>
    obtain rfl := pure_eq_ok_iff.mp h
    exact exists_row_of_find hfound

theorem updated_of_update {clock : Clock} {e new : Entity} (hs : s.Conforms)
    (h : update {} clock e s = .ok (new, s')) : ∃ old, Updated clock e old new s s' := by
  simp only [update, bind_eq_ok_iff, mapError_eq_ok_iff, touch_eq_ok_iff, pure_eq_ok_iff,
    Prod.mk.injEq] at h
  obtain ⟨old, hfetch, snapshot, hload, _, hreview, _, ⟨hversion, rfl⟩, s₁, hseats, s₂, hwrite, s₃,
    hatt, hnew, rfl⟩ := h
  have hheld := holds_of_fetch hfetch
  rw [hnew] at hseats hwrite hatt
  have hkind : ∀ o ∈ some old, o.kind = new.kind := by
    intro o ho
    obtain rfl := Option.mem_some.mp ho
    rw [hheld.matches.1, ← hnew, Entity.kind_withAudit]
  obtain ⟨hstate, hrows₁, hs₁, hroom, hnext⟩ := reseated_of_moveSeatsOf hs hkind
    (fun sec hsec => exists_row_of_mem_load hs hload hsec) hseats
  obtain ⟨row, hrow, -, hrows₂, hs₂⟩ := writeRow_eq_ok hs₁ hwrite
  obtain ⟨hrows₃, hs₃⟩ := detach_eq new hs₂
  obtain ⟨hrows₄, hs₄⟩ := attach_eq_ok hs₃ hatt
  refine ⟨old, hs₄, hheld, ⟨snapshot, hload, hreview⟩, hversion, hnew.symm, hstate, hroom, hnext,
    row, hrow, ?_⟩
  rw [hrows₄, hrows₃, hrows₂, hrows₁]
  rfl

/-- **An update in place**: one row stands for the old entity, and the row of the new one takes its
place. All that stands before and after it is recounted. -/
theorem Updated.exists_split {clock : Clock} {e old new : Entity} (hs : s.Conforms)
    (h : Updated clock e old new s s') : ∃ before r after row, s.rows = before ++ r :: after ∧
      r.isAt (tableOf e.kind) (audit e).id = true ∧
      r.toEntity? (s.spaceTimeIds (audit e).id) (s.teacherIds (audit e).id) = some (.ok old) ∧
      (∀ q ∈ before ++ after, q.isAt (tableOf e.kind) (audit e).id = false) ∧
      Row.ofEntity new = .ok row ∧
      let f := Row.reseatedBy (.ofSeats old.seat new.seat) (audit new).updatedBy clock.write
      s'.rows = (before.map f ++ row.settled :: after.map f).filter (fun q => !linksOf new q) ++
        linkRows new := by
  obtain ⟨r, hr, hat, hold⟩ := h.held
  obtain ⟨row, hrow, hrows⟩ := h.rows
  obtain ⟨before, after, hsplit, hothers⟩ := hs.exists_split hr hat
  refine ⟨before, r, after, row, hsplit, hat, hold, hothers, hrow, ?_⟩
  rw [hrows, hsplit]
  obtain ⟨htable, hid⟩ := Row.isAt_iff.mp (h.isAt_settled hrow)
  set f := Row.reseatedBy (.ofSeats old.seat new.seat) (audit new).updatedBy clock.write
  have hself : ∀ part : List Row, (∀ q ∈ part, q ∈ before ++ after) →
      part.map (row.settled.revisedBy ∘ f) = part.map f := by
    refine fun part hpart => List.map_congr_left fun q hq => ?_
    rw [Function.comp_apply, Row.revisedBy_eq hid, htable, isAt_reseated, hothers q (hpart q hq)]
    rfl
  rw [List.map_map, List.map_append, List.map_cons, Function.comp_apply, Row.revisedBy_eq hid,
    htable, isAt_reseated, if_pos hat, hself before fun q hq => List.mem_append_left _ hq,
    hself after fun q hq => List.mem_append_right _ hq]

/-! ### Deleting -/

/-- What a store is after an entity has been removed from another. -/
structure Deleted (now : Instant) (kind : Kind) (key : Uuid) (actor : String) (old : Entity)
    (s s' : Store) : Prop where
  conforms : s'.Conforms
  held : s.Holds kind key old
  unreferenced : ∀ r ∈ s.rows, r.isAt (tableOf kind) key = false → linksOf old r = false →
    ∀ sort, r.refersTo (tableOf kind) key sort = false
  hasNext : HasNext s (SeatMove.ofSeats old.seat none).sections
  rows : s'.rows = (s.rows.map (Row.reseatedBy (.ofSeats old.seat none) actor now)).filter
    fun q => !q.isAt (tableOf kind) key && !linksOf old q

/-- What goes with a row is what joins a section to others. -/
theorem refersTo_cascade_iff {q : Row} {t : Table} {key : Uuid} :
    q.refersTo t key .cascade = true ↔ t = .sections ∧ joins key q = true := by
  rw [Row.refersTo_eq_true_iff]
  constructor
  · rintro ⟨ref, href, rfl, hdel, hcell⟩
    obtain ⟨hj, ht, hcol⟩ := cascade_target href hdel
    rw [hcol] at hcell
    refine ⟨ht, ?_⟩
    cases q
    case sectionSpaceTime r => exact decide_eq_true (Cell.uuid.inj hcell)
    case sectionTeacher r => exact decide_eq_true (Cell.uuid.inj hcell)
    all_goals cases hj
  · rintro ⟨rfl, hj⟩
    cases q
    case sectionSpaceTime r =>
      exact ⟨⟨.sectionId, .sections, .cascade⟩, List.mem_cons_self, rfl, rfl,
        congrArg Cell.uuid (of_decide_eq_true hj)⟩
    case sectionTeacher r =>
      exact ⟨⟨.sectionId, .sections, .cascade⟩, List.mem_cons_self, rfl, rfl,
        congrArg Cell.uuid (of_decide_eq_true hj)⟩
    all_goals cases hj

theorem refersTo_reseated (m : SeatMove) (keys : List Uuid) (actor : String) (now : Instant)
    (q : Row) (t : Table) (key : Uuid) (sort : OnDelete) :
    (q.reseated m keys actor now).refersTo t key sort = q.refersTo t key sort := by
  have hcol : ∀ ref ∈ Schema.migrated.references .sections,
      ref.column = .subjectId ∨ ref.column = .trimesterId := by decide
  have hsubject : ∀ r : SectionRow, (Row.section r).cell .subjectId = .uuid r.subjectId :=
    fun _ => rfl
  have htrimester : ∀ r : SectionRow, (Row.section r).cell .trimesterId = .uuid r.trimesterId :=
    fun _ => rfl
  rw [Bool.eq_iff_iff, Row.refersTo_eq_true_iff, Row.refersTo_eq_true_iff, Row.table_reseated]
  refine exists_congr fun ref => and_congr_right fun href => ?_
  suffices hcell : (q.reseated m keys actor now).cell ref.column = q.cell ref.column by rw [hcell]
  cases q
  case «section» r =>
    simp only [Row.reseated, SectionRow.reseated]
    split
    · rcases hcol ref href with h | h
      · rw [h, hsubject, hsubject]
      · rw [h, htrimester, htrimester]
    · rfl
  all_goals rfl

theorem deleted_of_delete {now : Instant} {kind : Kind} {key : Uuid} {actor : String}
    (hs : s.Conforms) (h : delete {} now kind key actor s = .ok s') :
    ∃ old, Deleted now kind key actor old s s' := by
  simp only [delete, bind_eq_ok_iff, mapError_eq_ok_iff] at h
  obtain ⟨old, hfetch, s₁, hseats, found, hremove, h⟩ := h
  cases found with
  | none => cases h
  | some x =>
  obtain rfl := pure_eq_ok_iff.mp h
  have hheld := holds_of_fetch hfetch
  obtain ⟨hrows₁, hs₁, -, hnext⟩ := reseated_of_giveBack hs hseats
  obtain ⟨hrows₂, hs₂⟩ := detach_eq old hs₁
  obtain ⟨-, hrestrict, hrows₃, hs₃⟩ := remove_eq_some hs₂ hremove
  -- what would go with the row has been taken off it already
  have hcascade : ∀ q : Row, q.refersTo (tableOf kind) key .cascade = true →
      linksOf old q = true := by
    intro q hq
    obtain ⟨ht, hj⟩ := refersTo_cascade_iff.mp hq
    obtain ⟨hkind, hid⟩ := hheld.matches
    subst hkind
    cases old
    case «section» sec => exact (congrArg (joins · q) hid).trans hj
    all_goals cases ht
  refine ⟨old, hs₃, hheld, fun r hr hat hlink sort => ?_, hnext, ?_⟩
  · cases sort with
    | cascade => exact Bool.eq_false_iff.mpr fun hq => by rw [hcascade r hq] at hlink; cases hlink
    | restrict =>
      have hmem : r.reseatedBy (.ofSeats old.seat none) actor now ∈ (detach {} s₁ old).rows := by
        rw [hrows₂, hrows₁, List.mem_filter]
        exact ⟨List.mem_map_of_mem hr, by rw [linksOf_reseated, hlink]; rfl⟩
      have := hrestrict _ hmem (by rw [isAt_reseated, hat])
      rwa [refersTo_reseated] at this
  · rw [hrows₃, hrows₂, hrows₁, List.filter_filter]
    refine List.filter_congr fun q _ => ?_
    cases hq : q.refersTo (tableOf kind) key .cascade with
    | false => simp
    | true => rw [hcascade q hq]; simp

/-- **A removal in place**: one row stands for the old entity, and it is gone. All that stands
before and after it is recounted. -/
theorem Deleted.exists_split {now : Instant} {kind : Kind} {key : Uuid} {actor : String}
    {old : Entity} (hs : s.Conforms) (h : Deleted now kind key actor old s s') :
    ∃ before r after, s.rows = before ++ r :: after ∧ r.isAt (tableOf kind) key = true ∧
      r.toEntity? (s.spaceTimeIds key) (s.teacherIds key) = some (.ok old) ∧
      s'.rows = ((before ++ after).map (Row.reseatedBy (.ofSeats old.seat none) actor now)).filter
        fun q => !linksOf old q := by
  obtain ⟨r, hr, hat, hold⟩ := h.held
  obtain ⟨before, after, hsplit, hothers⟩ := hs.exists_split hr hat
  refine ⟨before, r, after, hsplit, hat, hold, ?_⟩
  rw [h.rows, hsplit]
  have hkeep : ∀ q ∈ before ++ after,
      (!(q.reseatedBy (.ofSeats old.seat none) actor now).isAt (tableOf kind) key &&
        !linksOf old (q.reseatedBy (.ofSeats old.seat none) actor now)) =
      !linksOf old (q.reseatedBy (.ofSeats old.seat none) actor now) := by
    intro q hq
    rw [isAt_reseated, hothers q hq]
    rfl
  rw [List.map_append, List.map_cons, List.filter_append, List.filter_cons, isAt_reseated, hat]
  simp only [Bool.not_true, Bool.false_and, Bool.false_eq_true, ↓reduceIte, List.map_append,
    List.filter_append, List.filter_map]
  congr 2
  · exact List.filter_congr fun q hq => hkeep q (List.mem_append_left _ hq)
  · exact List.filter_congr fun q hq => hkeep q (List.mem_append_right _ hq)

end Enrollment.Registrar
