import Enrollment.Proofs.Registrar.Run
import Enrollment.Proofs.Review
import Enrollment.Proofs.Store.Finding

/-! # What a call writes, and what it leaves

A call that is done writes one entity, or removes one. Every row that is stored after it was stored
before, perhaps as a section that has been recounted since, or is the row of the entity that was
written, or joins that entity to another. What a section is joined to changes only when the section
itself is written or removed.

* `filter_joins_of_created`, `filter_joins_of_updated`, `filter_joins_of_deleted`: what a section is
  joined to after each of the writes.
* `Step.origin`: where a row that is stored after a call comes from.
* `Writes.accepted`: what is written has been reviewed. -/

namespace Enrollment.Registrar

open Store

variable {s s' : Store} {kind : Kind} {key : Uuid} {r r' : Row}

theorem isAt_inj {t t' : Table} {key' : Uuid} (h : r.isAt t key = true)
    (h' : r.isAt t' key' = true) : t = t' ∧ key = key' := by
  rw [Row.isAt_iff] at h h'
  exact ⟨h.1.symm.trans h'.1, Option.some.inj (h.2.symm.trans h'.2)⟩

/-! ### What a section is joined to -/

theorem filter_spaceTimes_eq (s : Store) (key : Uuid) :
    s.sectionSpaceTimes.filter (·.sectionId = key) =
      (s.rows.filter (joins key)).filterMap RowType.ofRow? :=
  filter_typed (fun _ => by rfl) s

theorem filter_teachers_eq (s : Store) (key : Uuid) :
    s.sectionTeachers.filter (·.sectionId = key) =
      (s.rows.filter (joins key)).filterMap RowType.ofRow? :=
  filter_typed (fun _ => by rfl) s

theorem joined_congr (h : s'.rows.filter (joins key) = s.rows.filter (joins key)) :
    s'.spaceTimeIds key = s.spaceTimeIds key ∧ s'.teacherIds key = s.teacherIds key := by
  simp only [spaceTimeIds, teacherIds, filter_spaceTimes_eq, filter_teachers_eq, h, and_self]

theorem joins_eq_false_of_isAt {k : Uuid} (h : r.isAt (tableOf kind) k = true) :
    joins key r = false := by
  have hj := isJunction_eq_false_of_isAt h
  exact Bool.eq_false_iff.mpr fun hjoins => by rw [isJunction_of_joins hjoins] at hj; cases hj

theorem linksOf_eq_false_of_isAt {e : Entity} {k : Uuid} (h : r.isAt (tableOf kind) k = true) :
    linksOf e r = false := by
  have hj := isJunction_eq_false_of_isAt h
  exact Bool.eq_false_iff.mpr fun hlinks => by rw [isJunction_of_linksOf hlinks] at hj; cases hj

theorem filter_joins_reseated (m : SeatMove) (keys : List Uuid) (actor : String) (now : Instant)
    (rows : List Row) : (rows.map (Row.reseated m keys actor now)).filter (joins key) =
      rows.filter (joins key) := by
  induction rows with
  | nil => rfl
  | cons q rows ih =>
    rw [List.map_cons, List.filter_cons, List.filter_cons, ih]
    cases q <;> rfl

theorem filter_joins_revisedBy {new : Row} {k : Uuid} (h : new.isAt (tableOf kind) k = true)
    (rows : List Row) :
    (rows.map new.revisedBy).filter (joins key) = rows.filter (joins key) := by
  obtain ⟨ht, hid⟩ := Row.isAt_iff.mp h
  induction rows with
  | nil => rfl
  | cons q rows ih =>
    rw [List.map_cons, List.filter_cons, List.filter_cons, ih, Row.revisedBy_eq hid]
    split <;> rename_i hq
    · rw [joins_eq_false_of_isAt h, joins_eq_false_of_isAt (ht ▸ hq), if_neg Bool.false_ne_true,
        if_neg Bool.false_ne_true]
    · rfl

theorem filter_joins_of_created {clock : Clock} {e : Entity} (h : Created clock e s s') :
    s'.rows.filter (joins key) =
      s.rows.filter (joins key) ++ (linkRows e).filter (joins key) := by
  obtain ⟨row, hrow, hrows⟩ := h.rows
  rw [hrows, List.filter_append, filter_joins_reseated, List.filter_cons,
    joins_eq_false_of_isAt (isAt_settled_of_ofEntity hrow)]
  rfl

theorem filter_joins_of_updated {clock : Clock} {e old new : Entity}
    (h : Updated clock e old new s s') : s'.rows.filter (joins key) =
      (s.rows.filter (joins key)).filter (fun q => !linksOf new q) ++
        (linkRows new).filter (joins key) := by
  obtain ⟨row, hrow, hrows⟩ := h.rows
  rw [hrows, List.filter_append, List.filter_comm,
    filter_joins_revisedBy (isAt_settled_of_ofEntity hrow), filter_joins_reseated]

theorem filter_joins_of_deleted {now : Instant} {k : Kind} {id : Uuid} {actor : String}
    {old : Entity} (h : Deleted now k id actor old s s') : s'.rows.filter (joins key) =
      (s.rows.filter (joins key)).filter fun q => !linksOf old q := by
  rw [h.rows, List.filter_comm, filter_joins_reseated]
  refine List.filter_congr fun q hq => ?_
  have hjoins := (List.mem_filter.mp hq).2
  have hat : q.isAt (tableOf k) id = false := Bool.eq_false_iff.mpr fun hqat => by
    rw [joins_eq_false_of_isAt hqat] at hjoins
    cases hjoins
  rw [hat]
  rfl

theorem linksOf_eq_false_of_joins {e : Entity} {q : Row}
    (he : e.kind = .section → (audit e).id ≠ key) (h : joins key q = true) :
    linksOf e q = false := by
  cases e
  case «section» sec =>
    have hne : sec.audit.id ≠ key := he rfl
    rw [Bool.eq_false_iff]
    intro hlinks
    cases q <;> simp only [joins, linksOf, decide_eq_true_eq, Bool.false_eq_true] at h hlinks
    · exact hne (hlinks.symm.trans h)
    · exact hne (hlinks.symm.trans h)
  all_goals rfl

theorem filter_joins_linkRows {e : Entity} (he : e.kind = .section → (audit e).id ≠ key) :
    (linkRows e).filter (joins key) = [] := by
  rw [List.filter_eq_nil_iff]
  intro q hq hjoins
  have := (settled_of_mem_linkRows hq).2.2
  rw [linksOf_eq_false_of_joins he hjoins] at this
  cases this

theorem filter_joins_filter_linksOf {e : Entity} (he : e.kind = .section → (audit e).id ≠ key)
    (rows : List Row) :
    (rows.filter (joins key)).filter (fun q => !linksOf e q) = rows.filter (joins key) := by
  refine List.filter_eq_self.mpr fun q hq => ?_
  rw [linksOf_eq_false_of_joins he (List.mem_filter.mp hq).2]
  rfl

theorem filter_joins_eq_nil (hs : s.Conforms) (h : ∀ q ∈ s.rows, q.isAt .sections key = false) :
    s.rows.filter (joins key) = [] := by
  rw [List.filter_eq_nil_iff]
  intro q hq hjoins
  obtain ⟨ref, href, ht, -, hcell⟩ :=
    Row.refersTo_eq_true_iff.mp (refersTo_cascade_iff.mpr ⟨rfl, hjoins⟩)
  obtain ⟨x, hx, hat⟩ := hs.exists_isAt hq href hcell
  rw [ht, h x hx] at hat
  cases hat

/-! ### What a call writes -/

theorem Updated.exists_row {clock : Clock} {e old new : Entity} (hs : s.Conforms)
    (h : Updated clock e old new s s') : ∃ row, Row.ofEntity new = .ok row ∧
      row.settled ∈ s'.rows ∧ row.settled.isAt (tableOf e.kind) (audit e).id = true := by
  obtain ⟨before, x, after, row, -, -, -, -, hrow, hrows⟩ := h.exists_split hs
  have hat := h.isAt_settled hrow
  refine ⟨row, hrow, ?_, hat⟩
  rw [hrows]
  refine List.mem_append_left _ (List.mem_filter.mpr ⟨?_, ?_⟩)
  · exact List.mem_append_right _ List.mem_cons_self
  · rw [linksOf_eq_false_of_isAt hat]; rfl

/-- A call that is done stores an entity: a new one, or the next revision of a stored one. -/
inductive Writes (call : Call) (s s' : Store) (e : Entity) : Entity → Prop where
  | created : call.command = .create e → call.Succeeds s → Created call.clock e s s' →
      Writes call s s' e e
  | updated {old new : Entity} : call.command = .update e → call.Succeeds s →
      Updated call.clock e old new s s' → Writes call s s' e new

namespace Writes

variable {call : Call} {e new : Entity}

theorem succeeds (h : Writes call s s' e new) : call.Succeeds s := by
  cases h <;> assumption

theorem command_eq (h : Writes call s s' e new) :
    call.command = .create e ∨ call.command = .update e := by
  cases h with
  | created h => exact .inl h
  | updated h => exact .inr h

/-- A call writes one entity at most. -/
theorem unique {e' new' : Entity} (h : Writes call s s' e new) (h' : Writes call s s' e' new') :
    e = e' := by
  rcases h.command_eq with hc | hc <;> rcases h'.command_eq with hc' | hc' <;> rw [hc] at hc'
  · exact Command.create.inj hc'
  · cases hc'
  · cases hc'
  · exact Command.update.inj hc'

theorem kind_new (h : Writes call s s' e new) : new.kind = e.kind := by
  cases h with
  | created => rfl
  | updated _ _ h => exact h.kind_new

theorem id_new (h : Writes call s s' e new) : (audit new).id = (audit e).id := by
  cases h with
  | created => rfl
  | updated _ _ h => exact h.id_new

theorem conforms (h : Writes call s s' e new) : s'.Conforms := by
  cases h with
  | created _ _ h => exact h.conforms
  | updated _ _ h => exact h.conforms

theorem exists_row (hs : s.Conforms) (h : Writes call s s' e new) : ∃ row,
    Row.ofEntity new = .ok row ∧ row.settled ∈ s'.rows ∧
      row.settled.isAt (tableOf e.kind) (audit e).id = true := by
  cases h with
  | created _ _ h =>
    obtain ⟨row, hrow, hrows⟩ := h.rows
    refine ⟨row, hrow, ?_, isAt_settled_of_ofEntity hrow⟩
    rw [hrows]
    exact List.mem_append_right _ List.mem_cons_self
  | updated _ _ h => exact h.exists_row hs

/-- What is written has the fields of the candidate; only the audit block may be the next one. -/
theorem exists_withAudit (h : Writes call s s' e new) : ∃ a, new = e.withAudit a := by
  cases h with
  | created => exact ⟨audit e, by cases e <;> rfl⟩
  | updated _ _ h => exact ⟨_, h.new_eq⟩

theorem exists_section {sec' : Section} (h : Writes call s s' e (.section sec')) :
    ∃ sec a, e = .section sec ∧ sec' = { sec with audit := a } ∧ sec'.audit.id = sec.audit.id := by
  have hkind := h.kind_new
  have hid := h.id_new
  obtain ⟨a, ha⟩ := h.exists_withAudit
  cases e <;> simp only [Entity.kind, reduceCtorEq] at hkind
  rename_i sec
  exact ⟨sec, a, rfl, Entity.section.inj ha, hid⟩

theorem section_row {row : Row} {r' : SectionRow} (h : Writes call s s' e new)
    (hrow : Row.ofEntity new = .ok row) (hr' : row.settled = .section r') :
    ∃ sec, e = .section sec ∧ sec.audit.id = r'.audit.id ∧ sec.subjectId = some r'.subjectId ∧
      sec.trimesterId = some r'.trimesterId := by
  obtain ⟨sec', rfl, hsec'⟩ := section_of_ofEntity hrow hr'
  obtain ⟨hsubject, htrimester, haudit, -, -⟩ := SectionRow.of_eq_ok_iff.mp hsec'
  obtain ⟨sec, a, rfl, rfl, hid⟩ := h.exists_section
  exact ⟨sec, rfl, hid.symm.trans (congrArg Audit.id haudit.symm), hsubject, htrimester⟩

/-- The candidate has passed the rules of its kind, as they are for a new row or for a revision. -/
theorem accepted (h : Writes call s s' e new) : ∃ old part replacing,
    s.load e old = .ok part ∧ e.violations = [] ∧
      (e.mayEnter ⟨part.lookup, call.clock.review, replacing⟩ = .ok () ∨
        ∃ o, e.mayReplace o ⟨part.lookup, call.clock.review, replacing⟩ = .ok ()) := by
  cases h with
  | created _ _ h =>
    obtain ⟨part, hload, hreview⟩ := h.reviewed
    obtain ⟨hv, hrules⟩ := Entity.reviewNew_eq_ok_iff.mp hreview
    exact ⟨none, part, none, hload, hv, .inl hrules⟩
  | @updated old _ _ _ h =>
    obtain ⟨part, hload, hreview⟩ := h.reviewed
    obtain ⟨-, hv, hrules⟩ := Entity.reviewRevision_eq_ok_iff.mp hreview
    exact ⟨some old, part, _, hload, hv, .inr ⟨old, hrules⟩⟩

theorem mem_of_mem {q : Row} (h : Writes call s s' e new) (hq : q ∈ s.rows)
    (htable : q.table ≠ .sections) (hat : q.isAt (tableOf e.kind) (audit e).id = false)
    (hlinks : linksOf new q = false) : q ∈ s'.rows := by
  have hself : ∀ m keys actor now, q.reseated m keys actor now = q := fun m keys actor now =>
    (eq_of_reseated rfl (by rwa [Row.table_reseated])).symm
  cases h with
  | created _ _ h =>
    obtain ⟨row, -, hrows⟩ := h.rows
    rw [hrows]
    exact List.mem_append_left _ (List.mem_map.mpr ⟨q, hq, hself ..⟩)
  | updated _ _ h =>
    obtain ⟨row, hrow, hrows⟩ := h.rows
    obtain ⟨hrowTable, hid⟩ := Row.isAt_iff.mp (h.isAt_settled hrow)
    have hkept : row.settled.revisedBy q = q := by
      rw [Row.revisedBy_eq hid, hrowTable, hat]
      rfl
    rw [hrows, List.mem_append, List.mem_filter]
    exact .inl ⟨List.mem_map.mpr ⟨q, List.mem_map.mpr ⟨q, hq, hself ..⟩, hkept⟩,
      congrArg not hlinks⟩

/-- A section that is written is joined to what it lists, and to nothing else. -/
theorem filter_joins {sec : Section} (hs : s.Conforms) (h : Writes call s s' e (.section sec)) :
    s'.rows.filter (joins sec.audit.id) = linkRows (.section sec) := by
  have hall : (linkRows (.section sec)).filter (joins sec.audit.id) = linkRows (.section sec) :=
    List.filter_eq_self.mpr fun q hq => (settled_of_mem_linkRows hq).2.2
  cases h with
  | created _ _ h =>
    have hnone : s.rows.filter (joins sec.audit.id) = [] :=
      filter_joins_eq_nil hs fun q hq => h.fresh hq
    rw [filter_joins_of_created h, hall, hnone, List.nil_append]
  | updated _ _ h =>
    rw [filter_joins_of_updated h, hall]
    refine (congrArg (· ++ _) (List.filter_eq_nil_iff.mpr fun q hq => ?_)).trans
      (List.nil_append _)
    rw [show linksOf (.section sec) q = joins sec.audit.id q from rfl, (List.mem_filter.mp hq).2]
    exact Bool.false_ne_true

end Writes

theorem Step.exists_writes {call : Call} {e : Entity} (h : Step call s s') (hok : call.Succeeds s)
    (hcommand : call.command = .create e ∨ call.command = .update e) :
    ∃ new, Writes call s s' e new := by
  cases h with
  | refused h => exact absurd hok h
  | created hc _ h =>
    rw [hc] at hcommand
    obtain rfl : _ = e := by simpa using hcommand
    exact ⟨_, .created hc hok h⟩
  | updated hc _ h =>
    rw [hc] at hcommand
    obtain rfl : _ = e := by simpa using hcommand
    exact ⟨_, .updated hc hok h⟩
  | deleted hc => rw [hc] at hcommand; simp at hcommand

/-! ### Where a row comes from -/

/-- A row stays where it is over a call: it is not what the call writes, and it is recounted at
most, for which there has to be a next version. If it is a section, it is joined to the same. -/
structure Stays (call : Call) (s s' : Store) (q q' : Row) : Prop where
  mem : q ∈ s.rows
  reseated : ∃ m keys actor now, q' = q.reseated m keys actor now
  version_lt : q' = q ∨ ∀ v ∈ q.version, v < Int32.maxValue
  unwritten : ∀ e new, Writes call s s' e new → q.isAt (tableOf e.kind) (audit e).id = false
  joins_eq : ∀ key, q.isAt .sections key = true →
    s'.rows.filter (joins key) = s.rows.filter (joins key)

/-- Where a row comes from that is stored after a call. -/
inductive Origin (call : Call) (s s' : Store) (q' : Row) : Prop where
  | stored {q : Row} : Stays call s s' q q' → Origin call s s' q'
  | written {e new : Entity} {row : Row} : Writes call s s' e new → Row.ofEntity new = .ok row →
      q' = row.settled → Origin call s s' q'
  | joined {e new : Entity} : Writes call s s' e new → q' ∈ linkRows new → Origin call s s' q'

variable {call : Call} {q' : Row}

theorem Stays.isAt {q : Row} (h : Stays call s s' q q') (t : Table) (key : Uuid) :
    q'.isAt t key = q.isAt t key := by
  obtain ⟨m, keys, actor, now, rfl⟩ := h.reseated
  exact isAt_reseated ..

theorem Stays.exists_section {q : Row} {r' : SectionRow} (h : Stays call s s' q (.section r')) :
    ∃ r ∈ s.sections, q = .section r ∧ r.audit.id = r'.audit.id ∧ r.subjectId = r'.subjectId ∧
      r.trimesterId = r'.trimesterId := by
  obtain ⟨m, keys, actor, now, heq⟩ := h.reseated
  obtain ⟨r, rfl, rfl⟩ := section_of_reseated heq.symm
  refine ⟨r, mem_typed_iff.mpr h.mem, rfl, (r.id_reseated ..).symm, ?_⟩
  unfold SectionRow.reseated
  split <;> exact ⟨rfl, rfl⟩

theorem Stays.eq {q : Row} (h : Stays call s s' q q') (ht : q'.table ≠ .sections) : q = q' := by
  obtain ⟨m, keys, actor, now, heq⟩ := h.reseated
  exact eq_of_reseated heq.symm ht

theorem reseated_eq_or_lt {m : SeatMove} {keys : List Uuid} (actor : String) (now : Instant)
    {q : Row} (h : HasNext s keys) (hq : q ∈ s.rows) :
    q.reseated m keys actor now = q ∨ ∀ v ∈ q.version, v < Int32.maxValue := by
  cases q
  case «section» r =>
    by_cases hr : r.audit.id ∈ keys
    · right
      rintro v ⟨⟩
      exact h r (mem_typed_iff.mpr hq) hr
    · left
      rw [Row.reseated, SectionRow.reseated, if_neg hr]
  all_goals exact .inl rfl

theorem stays_of_refused (h : ¬ call.Succeeds s) (hq : q' ∈ s.rows) : Stays call s s q' q' where
  mem := hq
  reseated := ⟨SeatMove.none, [], "", call.clock.write, (Row.reseated_nil ..).symm⟩
  version_lt := .inl rfl
  unwritten _ _ hw := absurd hw.succeeds h
  joins_eq _ _ := rfl

theorem origin_of_created {e : Entity} (hcall : call.command = .create e) (hok : call.Succeeds s)
    (h : Created call.clock e s s') (hq' : q' ∈ s'.rows) : Origin call s s' q' := by
  obtain ⟨row, hrow, hrows⟩ := h.rows
  rw [hrows, List.mem_append, List.mem_cons, List.mem_map] at hq'
  rcases hq' with ⟨q, hq, rfl⟩ | rfl | hlink
  · refine .stored ⟨hq, ⟨_, _, _, _, rfl⟩, reseated_eq_or_lt _ _ h.hasNext hq, fun x new hw => ?_,
      fun key hat => ?_⟩
    · rw [hw.unique (.created hcall hok h)]
      exact h.fresh hq
    · have he : e.kind = .section → (audit e).id ≠ key := by
        rintro hk rfl
        have := h.fresh hq
        rw [hk, show tableOf .section = .sections from rfl, hat] at this
        cases this
      rw [filter_joins_of_created h, filter_joins_linkRows he, List.append_nil]
  · exact .written (.created hcall hok h) hrow rfl
  · exact .joined (.created hcall hok h) hlink

theorem origin_of_updated {e old new : Entity} (hs : s.Conforms)
    (hcall : call.command = .update e) (hok : call.Succeeds s)
    (h : Updated call.clock e old new s s') (hq' : q' ∈ s'.rows) : Origin call s s' q' := by
  obtain ⟨before, x, after, row, hsplit, hxat, -, hothers, hrow, hrows⟩ := h.exists_split hs
  have hkept : ∀ q ∈ before ++ after, Stays call s s' q
      (q.reseatedBy (.ofSeats old.seat new.seat) (audit new).updatedBy call.clock.write) := by
    intro q hq
    have hmem : q ∈ s.rows := by
      rw [hsplit]
      simp only [List.mem_append, List.mem_cons] at hq ⊢
      tauto
    refine ⟨hmem, ⟨_, _, _, _, rfl⟩, reseated_eq_or_lt _ _ h.hasNext hmem, fun y new hw => ?_,
      fun key hat => ?_⟩
    · rw [hw.unique (.updated hcall hok h)]
      exact hothers q hq
    · have he : new.kind = .section → (audit new).id ≠ key := by
        rintro hk rfl
        have := hothers q hq
        rw [← h.kind_new, hk, ← h.id_new, show tableOf .section = .sections from rfl, hat] at this
        cases this
      rw [filter_joins_of_updated h, filter_joins_linkRows he, filter_joins_filter_linksOf he,
        List.append_nil]
  rw [hrows, List.mem_append, List.mem_filter, List.mem_append, List.mem_cons, List.mem_map,
    List.mem_map] at hq'
  rcases hq' with ⟨⟨q, hq, rfl⟩ | rfl | ⟨q, hq, rfl⟩, -⟩ | hlink
  · exact .stored (hkept q (List.mem_append_left _ hq))
  · exact .written (.updated hcall hok h) hrow rfl
  · exact .stored (hkept q (List.mem_append_right _ hq))
  · exact .joined (.updated hcall hok h) hlink

theorem origin_of_deleted {k : Kind} {id : Uuid} {actor : String} {old : Entity}
    (hcall : call.command = .delete k id actor)
    (h : Deleted call.clock.write k id actor old s s') (hq' : q' ∈ s'.rows) :
    Origin call s s' q' := by
  rw [h.rows, List.mem_filter, List.mem_map, Bool.and_eq_true, Bool.not_eq_true'] at hq'
  obtain ⟨⟨q, hq, rfl⟩, hgone, -⟩ := hq'
  refine .stored ⟨hq, ⟨_, _, _, _, rfl⟩, reseated_eq_or_lt _ _ h.hasNext hq, fun e new hw => ?_,
    fun key hat => ?_⟩
  · rcases hw.command_eq with hc | hc <;> rw [hcall] at hc <;> cases hc
  · have he : old.kind = .section → (audit old).id ≠ key := by
      rintro hk rfl
      have hold := h.held.matches
      rw [isAt_reseated, ← hold.1, ← hold.2, hk, show tableOf .section = .sections from rfl,
        hat] at hgone
      cases hgone
    rw [filter_joins_of_deleted h, filter_joins_filter_linksOf he]

/-- **Where a row comes from** that is stored after a call: it was stored before, or the call has
written it. -/
theorem Step.origin (h : Step call s s') (hs : s.Conforms) (hq' : q' ∈ s'.rows) :
    Origin call s s' q' := by
  cases h with
  | refused h => exact .stored (stays_of_refused h hq')
  | created hcall hok h => exact origin_of_created hcall hok h hq'
  | updated hcall hok h => exact origin_of_updated hs hcall hok h hq'
  | deleted hcall _ h => exact origin_of_deleted hcall h hq'

/-- A row that is stored before and after a call stays where it is, or the call revises it. -/
theorem Step.stays_or_revised (h : Step call s s') (hs : s.Conforms) (hr : r ∈ s.rows)
    (hat : r.isAt (tableOf kind) key = true) (hr' : r' ∈ s'.rows)
    (hat' : r'.isAt (tableOf kind) key = true) : Stays call s s' r r' ∨
      ∃ e old new row, Updated call.clock e old new s s' ∧ e.kind = kind ∧ (audit e).id = key ∧
        Row.ofEntity new = .ok row ∧ r' = row.settled := by
  cases h.origin hs hr' with
  | stored h =>
    obtain rfl := hs.eq_of_isAt h.mem hr ((h.isAt ..).symm.trans hat') hat
    exact .inl h
  | @written e new row h hrow heq =>
    -- the place of the row that is written was taken before, so it is a revision
    cases h with
    | created _ _ h =>
      obtain ⟨htable, rfl⟩ := isAt_inj hat' (heq ▸ isAt_settled_of_ofEntity hrow)
      rw [htable, h.fresh hr] at hat
      cases hat
    | updated _ _ h =>
      obtain ⟨htable, rfl⟩ := isAt_inj hat' (heq ▸ h.isAt_settled hrow)
      exact .inr ⟨e, _, new, row, h, (tableOf_injective htable).symm, rfl, hrow, heq⟩
  | joined _ hlink => exact absurd hlink (not_mem_linkRows (isJunction_eq_false_of_isAt hat'))

end Enrollment.Registrar
