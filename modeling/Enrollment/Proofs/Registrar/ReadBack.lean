import Enrollment.Proofs.Registrar.Frame
import Enrollment.Proofs.Registrar.Progress

/-! # Reading back

After a write that is done, what was written is found under its kind and its identifier, and what
was removed is not. Everything else is found as it was before, save for the sections in which a
course gives a seat back or takes one: of these the counter and the audit block move.

* `find_of_writes`, `find_of_deleted`: what is found of what was written or removed.
* `KeepsElsewhere.leavesOthers`: what is found elsewhere.
* `find_after_writes`: the three writes. -/

namespace Enrollment.Registrar

open Store

variable {s s' : Store} {kind : Kind} {key : Uuid} {clock : Clock} {now : Instant} {actor : String}

/-! ### What was written -/

theorem writes_of_create {e e' : Entity} (hs : s.Conforms)
    (h : create {} clock e s = .ok (e', s')) :
    e' = e ∧ Writes ⟨clock, .create e⟩ s s' e e := by
  obtain ⟨rfl, hcreated⟩ := created_of_create hs h
  have hok : (Call.mk clock (.create e')).Succeeds s :=
    ⟨(some e', s'), map_eq_ok_iff.mpr ⟨_, h, rfl⟩⟩
  exact ⟨rfl, .created rfl hok hcreated⟩

theorem writes_of_update {e old new : Entity} (h : update {} clock e s = .ok (new, s'))
    (hupdated : Updated clock e old new s s') : Writes ⟨clock, .update e⟩ s s' e new := by
  have hok : (Call.mk clock (.update e)).Succeeds s :=
    ⟨(some new, s'), map_eq_ok_iff.mpr ⟨_, h, rfl⟩⟩
  exact .updated rfl hok hupdated

theorem joined_of_filter_joins {sec : Section} {row : Row}
    (hrow : Row.ofEntity (.section sec) = .ok row)
    (h : s.rows.filter (joins sec.audit.id) = linkRows (.section sec)) :
    s.spaceTimeIds sec.audit.id = sec.spaceTimeIds ∧
      s.teacherIds sec.audit.id = sec.teacherIds := by
  obtain ⟨r, hr, -⟩ := map_eq_ok_iff.mp hrow
  have htrimester := (SectionRow.of_eq_ok_iff.mp hr).2.1
  have hlinks : linkRows (.section sec) = spaceTimeRows sec r.trimesterId ++ teacherRows sec := by
    simp [linkRows, htrimester]
  simp only [spaceTimeIds, teacherIds, filter_spaceTimes_eq, filter_teachers_eq, h, hlinks]
  simp [spaceTimeRows, teacherRows, List.filterMap_map, RowType.ofRow?, Function.comp_def]

theorem Writes.toEntity?_eq {call : Call} {e new : Entity} {row : Row} (hs : s.Conforms)
    (h : Writes call s s' e new) (hrow : Row.ofEntity new = .ok row) :
    row.settled.toEntity? (s'.spaceTimeIds (audit new).id) (s'.teacherIds (audit new).id) =
      some (.ok new.settled) := by
  refine toEntity?_ofEntity hrow fun sec hsec => ?_
  subst hsec
  exact joined_of_filter_joins hrow (h.filter_joins hs)

/-- **What was written is found.** -/
theorem find_of_writes {call : Call} {e new : Entity} (hs : s.Conforms)
    (h : Writes call s s' e new) : s'.find e.kind (audit e).id = .ok (some new.settled) := by
  obtain ⟨row, hrow, hmem, hat⟩ := h.exists_row hs
  refine (find_eq_some_iff h.conforms).mpr ⟨row.settled, hmem, hat, ?_⟩
  rw [← h.id_new]
  exact h.toEntity?_eq hs hrow

theorem find_of_deleted {old : Entity} (h : Deleted now kind key actor old s s') :
    s'.find kind key = .ok none := by
  refine find_eq_none fun q hq => ?_
  rw [h.rows, List.mem_filter, Bool.and_eq_true, Bool.not_eq_true'] at hq
  exact hq.2.1

/-! ### What stands elsewhere -/

/-- What stands elsewhere than in one place is what stood there, each row as `f` leaves it, and
sections are joined to what they were. -/
structure KeepsElsewhere (s s' : Store) (kind : Kind) (key : Uuid) (f : Row → Row) : Prop where
  rows : ∀ k id, (k, id) ≠ (kind, key) → s'.rows.filter (Row.isAt (tableOf k) id) =
    (s.rows.filter (Row.isAt (tableOf k) id)).map f
  joins : ∀ id, (kind = .section → key ≠ id) →
    s'.rows.filter (joins id) = s.rows.filter (joins id)

theorem KeepsElsewhere.mem {f : Row → Row} {q : Row} {k : Kind} {id : Uuid}
    (h : KeepsElsewhere s s' kind key f) (hne : (k, id) ≠ (kind, key)) (hq : q ∈ s.rows)
    (hat : q.isAt (tableOf k) id = true) :
    f q ∈ s'.rows ∧ (f q).isAt (tableOf k) id = true := by
  rw [← List.mem_filter, h.rows k id hne]
  exact List.mem_map_of_mem (List.mem_filter.mpr ⟨hq, hat⟩)

theorem isAt_eq_false_of_ne {q : Row} {k : Kind} {id : Uuid} (hne : (k, id) ≠ (kind, key))
    (h : q.isAt (tableOf kind) key = true) : q.isAt (tableOf k) id = false := by
  rw [Bool.eq_false_iff]
  intro hat
  obtain ⟨ht, hid⟩ := isAt_inj hat h
  exact hne (Prod.ext (tableOf_injective ht) hid)

theorem filter_isAt_reseated (m : SeatMove) (keys : List Uuid) (t : Table) (id : Uuid)
    (rows : List Row) : (rows.map (Row.reseated m keys actor now)).filter (Row.isAt t id) =
      (rows.filter (Row.isAt t id)).map (Row.reseated m keys actor now) := by
  rw [List.filter_map]
  congr 1
  exact List.filter_congr fun q _ => isAt_reseated m keys actor now q t id

theorem filter_isAt_linkRows (e : Entity) (k : Kind) (id : Uuid) :
    (linkRows e).filter (Row.isAt (tableOf k) id) = [] := by
  rw [List.filter_eq_nil_iff]
  intro q hq hat
  have hjunction := (settled_of_mem_linkRows hq).2.1
  rw [isJunction_eq_false_of_isAt hat] at hjunction
  cases hjunction

theorem filter_isAt_revisedBy {new : Row} {k : Kind} {id : Uuid}
    (hne : (k, id) ≠ (kind, key)) (h : new.isAt (tableOf kind) key = true) (rows : List Row) :
    (rows.map new.revisedBy).filter (Row.isAt (tableOf k) id) =
      rows.filter (Row.isAt (tableOf k) id) := by
  obtain ⟨ht, hid⟩ := Row.isAt_iff.mp h
  induction rows with
  | nil => rfl
  | cons q rows ih =>
    rw [List.map_cons, List.filter_cons, List.filter_cons, ih, Row.revisedBy_eq hid, ht]
    by_cases hq : q.isAt (tableOf kind) key = true
    · rw [if_pos hq, isAt_eq_false_of_ne hne h, isAt_eq_false_of_ne hne hq]
      rfl
    · rw [if_neg hq]

theorem filter_isAt_filter_linksOf (e : Entity) (k : Kind) (id : Uuid) (rows : List Row) :
    (rows.filter fun q => !linksOf e q).filter (Row.isAt (tableOf k) id) =
      rows.filter (Row.isAt (tableOf k) id) := by
  rw [List.filter_filter]
  refine List.filter_congr fun q _ => ?_
  cases hat : q.isAt (tableOf k) id with
  | false => rfl
  | true => rw [linksOf_eq_false_of_isAt hat]; rfl

theorem keepsElsewhere_of_created {e : Entity} (h : Created clock e s s') :
    KeepsElsewhere s s' e.kind (audit e).id
      (Row.reseatedBy (.ofSeats none e.seat) (audit e).updatedBy clock.write) := by
  refine ⟨fun k id hne => ?_, fun id hid => ?_⟩
  · obtain ⟨row, hrow, hrows⟩ := h.rows
    rw [hrows, List.filter_append, filter_isAt_reseated, List.filter_cons,
      isAt_eq_false_of_ne hne (isAt_settled_of_ofEntity hrow), filter_isAt_linkRows]
    simp
  · rw [filter_joins_of_created h, filter_joins_linkRows hid, List.append_nil]

theorem keepsElsewhere_of_updated {e old new : Entity} (h : Updated clock e old new s s') :
    KeepsElsewhere s s' e.kind (audit e).id
      (Row.reseatedBy (.ofSeats old.seat new.seat) (audit new).updatedBy clock.write) := by
  refine ⟨fun k id hne => ?_, fun id hid => ?_⟩
  · obtain ⟨row, hrow, hrows⟩ := h.rows
    rw [hrows, List.filter_append, filter_isAt_filter_linksOf,
      filter_isAt_revisedBy hne (h.isAt_settled hrow), filter_isAt_reseated, filter_isAt_linkRows,
      List.append_nil]
  · rw [← h.kind_new, ← h.id_new] at hid
    rw [filter_joins_of_updated h, filter_joins_linkRows hid, filter_joins_filter_linksOf hid,
      List.append_nil]

theorem keepsElsewhere_of_deleted {old : Entity} (h : Deleted now kind key actor old s s') :
    KeepsElsewhere s s' kind key (Row.reseatedBy (.ofSeats old.seat none) actor now) := by
  refine ⟨fun k id hne => ?_, fun id hid => ?_⟩
  · rw [h.rows, List.filter_filter, ← filter_isAt_reseated]
    refine List.filter_congr fun q _ => ?_
    cases hat : q.isAt (tableOf k) id with
    | false => rfl
    | true => rw [isAt_eq_false_of_ne hne.symm hat, linksOf_eq_false_of_isAt hat]; rfl
  · obtain ⟨hkind, hold⟩ := h.held.matches
    rw [← hkind, ← hold] at hid
    rw [filter_joins_of_deleted h, filter_joins_filter_linksOf hid]

/-- What a write that moves seats leaves of what stands elsewhere than in its own place. A section
in which a seat is given back or taken is recounted, and signed by the author of the write;
everything else is found as it was. -/
structure LeavesOthers (s s' : Store) (kind : Kind) (key : Uuid) (m : SeatMove) (actor : String)
    (now : Instant) : Prop where
  others : ∀ k id, (k, id) ≠ (kind, key) → (k = .section → id ∉ m.sections) →
    s'.find k id = s.find k id
  recounted : ∀ id ∈ m.sections, ∃ sec, s.find .section id = .ok (some (.section sec)) ∧
    s'.find .section id = .ok (some (.section { sec with
      currentCapacity := m.counter id sec.currentCapacity
      audit := sec.audit.next actor now }))
  onlyCourses : kind ≠ .course → m.sections = []
  atMostTwo : m.sections.length ≤ 2

theorem reseated_eq_self {m : SeatMove} {keys : List Uuid} {k : Kind} {id : Uuid} {q : Row}
    (h : k = .section → id ∉ keys) (hat : q.isAt (tableOf k) id = true) :
    q.reseated m keys actor now = q := by
  cases q
  case «section» r =>
    obtain ⟨ht, hid⟩ := Row.isAt_iff.mp hat
    have hk : Kind.section = k := tableOf_injective ht
    have hr : r.audit.id = id := Option.some.inj hid
    have hne : r.audit.id ∉ keys := hr ▸ h hk.symm
    exact congrArg Row.section (if_neg hne)
  all_goals rfl

theorem KeepsElsewhere.leavesOthers {m : SeatMove} (hs : s.Conforms) (hs' : s'.Conforms)
    (h : KeepsElsewhere s s' kind key (Row.reseatedBy m actor now))
    (hroom : HasRoom s m m.sections) (honly : kind ≠ .course → m.sections = []) :
    LeavesOthers s s' kind key m actor now where
  others k id hne hk := by
    refine find_congr ?_ fun hsection => joined_congr (h.joins id fun hkind hid => ?_)
    · rw [h.rows k id hne]
      refine (List.map_congr_left fun q hq => ?_).trans (List.map_id' _)
      exact reseated_eq_self hk (List.mem_filter.mp hq).2
    · exact hne (Prod.ext (hsection.trans hkind.symm) hid.symm)
  recounted id hid := by
    obtain ⟨r, hr, hrid, -⟩ := hroom id hid
    have hne : (Kind.section, id) ≠ (kind, key) := by
      intro heq
      obtain ⟨hkind, -⟩ := Prod.mk.inj heq
      rw [honly (by rw [← hkind]; exact nofun)] at hid
      cases hid
    have hat : (Row.section r).isAt (tableOf .section) id = true :=
      Row.isAt_iff.mpr ⟨rfl, congrArg some hrid⟩
    have hrow : (Row.section r).reseatedBy m actor now = .section { r with
        currentCapacity := m.counter id r.currentCapacity
        audit := r.audit.next actor now } := by
      subst hrid
      exact congrArg Row.section (if_pos hid)
    obtain ⟨hmem, hat'⟩ := h.mem (q := .section r) hne (mem_typed_iff.mp hr) hat
    rw [hrow] at hmem hat'
    have hjoined := joined_congr (h.joins id fun hkind hid' => hne (by rw [hkind, hid']))
    refine ⟨_, (find_eq_some_iff hs).mpr ⟨_, mem_typed_iff.mp hr, hat, rfl⟩, ?_⟩
    refine (find_eq_some_iff hs').mpr ⟨_, hmem, hat', ?_⟩
    rw [hjoined.1, hjoined.2]
    rfl
  onlyCourses := honly
  atMostTwo := by
    obtain ⟨release, take⟩ := m
    cases release <;> cases take <;> simp [SeatMove.sections]

theorem sections_ofSeats_eq_nil {before after : Option Uuid} (hb : before = none)
    (ha : after = none) : (SeatMove.ofSeats before after).sections = [] := by
  rw [hb, ha]
  rfl

/-! ### The three writes -/

/-- **Reading back**: what a write has stored is found, what it has removed is not, and everything
else is found as it was, save for the counters and the audit blocks of the sections whose seats it
moves. -/
theorem find_after_writes (hs : Reachable s) (clock : Clock) :
    (∀ e e' s', create {} clock e s = .ok (e', s') → e' = e ∧
      s'.find e.kind (audit e).id = .ok (some e.settled) ∧
      LeavesOthers s s' e.kind (audit e).id (.ofSeats none e.seat) (audit e).updatedBy
        clock.write) ∧
    (∀ e new s', update {} clock e s = .ok (new, s') → ∃ old,
      s.find e.kind (audit e).id = .ok (some old) ∧
      new = e.withAudit ((audit old).next (audit e).updatedBy clock.write) ∧
      s'.find e.kind (audit e).id = .ok (some new.settled) ∧
      LeavesOthers s s' e.kind (audit e).id (.ofSeats old.seat new.seat) (audit e).updatedBy
        clock.write) ∧
    ∀ kind key actor s', delete {} clock.write kind key actor s = .ok s' → ∃ old,
      s.find kind key = .ok (some old) ∧ s'.find kind key = .ok none ∧
      LeavesOthers s s' kind key (.ofSeats old.seat none) actor clock.write := by
  have hconforms := hs.conforms
  refine ⟨fun e e' s' h => ?_, fun e new s' h => ?_, fun kind key actor s' h => ?_⟩
  · obtain ⟨hsame, hwrites⟩ := writes_of_create hconforms h
    obtain ⟨-, hcreated⟩ := created_of_create hconforms h
    refine ⟨hsame, find_of_writes hconforms hwrites, ?_⟩
    refine (keepsElsewhere_of_created hcreated).leavesOthers hconforms hcreated.conforms
      hcreated.hasRoom fun hkind => ?_
    exact sections_ofSeats_eq_nil rfl (Entity.seat_eq_none hkind)
  · obtain ⟨old, hupdated⟩ := updated_of_update hconforms h
    have hwrites := writes_of_update h hupdated
    have hauthor : (audit new).updatedBy = (audit e).updatedBy := by
      rw [hupdated.new_eq, Entity.audit_withAudit]
      rfl
    refine ⟨old, (find_eq_some_iff hconforms).mpr hupdated.held, hupdated.new_eq,
      find_of_writes hconforms hwrites, ?_⟩
    rw [← hauthor]
    refine (keepsElsewhere_of_updated hupdated).leavesOthers hconforms hupdated.conforms
      hupdated.hasRoom fun hkind => ?_
    refine sections_ofSeats_eq_nil (Entity.seat_eq_none ?_) (Entity.seat_eq_none ?_)
    · rw [hupdated.held.matches.1]
      exact hkind
    · rw [hupdated.kind_new]
      exact hkind
  · obtain ⟨old, hdeleted⟩ := deleted_of_delete hconforms h
    refine ⟨old, (find_eq_some_iff hconforms).mpr hdeleted.held, find_of_deleted hdeleted, ?_⟩
    refine (keepsElsewhere_of_deleted hdeleted).leavesOthers hconforms hdeleted.conforms
      (canMove_of_held hconforms hdeleted.held) fun hkind => ?_
    refine sections_ofSeats_eq_nil (Entity.seat_eq_none ?_) rfl
    rw [hdeleted.held.matches.1]
    exact hkind

theorem exists_of_isOk {ε α : Type} {x : Except ε α} (h : x.isOk = true) : ∃ a, x = .ok a := by
  cases x with
  | error => cases h
  | ok a => exact ⟨a, rfl⟩

theorem find_after_sample_writes :
    (∃ s', create {} (.still Sample.noon) (.course Sample.course)
        (storeAfter (Sample.calls.take 7)) = .ok (.course Sample.course, s') ∧
      s'.find .course (Sample.ident 8) = .ok (some (.course Sample.course)) ∧
      LeavesOthers (storeAfter (Sample.calls.take 7)) s' .course (Sample.ident 8)
        ⟨none, some (Sample.ident 7)⟩ "registrar" Sample.noon) ∧
    (∃ new s', update {} (.still Sample.noon) Sample.left (storeAfter Sample.calls) =
        .ok (new, s') ∧
      s'.find .course (Sample.ident 8) = .ok (some new.settled)) ∧
    ∃ s', delete {} Sample.noon .course (Sample.ident 8) "registrar" (storeAfter Sample.calls) =
        .ok s' ∧
      s'.find .course (Sample.ident 8) = .ok none := by
  obtain ⟨⟨e', s₁⟩, h₁⟩ := exists_of_isOk (show (create {} (.still Sample.noon)
    (.course Sample.course) (storeAfter (Sample.calls.take 7))).isOk = true by decide +kernel)
  obtain ⟨⟨new, s₂⟩, h₂⟩ := exists_of_isOk (show (update {} (.still Sample.noon) Sample.left
    (storeAfter Sample.calls)).isOk = true by decide +kernel)
  obtain ⟨s₃, h₃⟩ := exists_of_isOk (show (delete {} Sample.noon .course (Sample.ident 8)
    "registrar" (storeAfter Sample.calls)).isOk = true by decide +kernel)
  refine ⟨⟨s₁, ?_⟩, ⟨new, s₂, h₂, ?_⟩, s₃, h₃, ?_⟩
  · obtain ⟨rfl, hfind, hothers⟩ :=
      (find_after_writes (reachable_storeAfter (Sample.calls.take 7))
        (.still Sample.noon)).1 _ _ _ h₁
    exact ⟨h₁, hfind, hothers⟩
  · obtain ⟨_, -, -, hfind, -⟩ := (find_after_writes (reachable_storeAfter Sample.calls)
      (.still Sample.noon)).2.1 _ _ _ h₂
    exact hfind
  · obtain ⟨_, -, hfind, -⟩ := (find_after_writes (reachable_storeAfter Sample.calls)
      (.still Sample.noon)).2.2 _ _ _ _ h₃
    exact hfind

end Enrollment.Registrar
