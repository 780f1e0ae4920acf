import Enrollment.Proofs.Registrar.Run
import Enrollment.Proofs.Review

/-! # The counters of sections

A section counts the seats that are taken, on top of whatever it counted when it was created. Each
write moves the count of the seated courses and the counters alike, no counter falls to zero while a
seat is given back, and no counter passes the room there is.

* `seated_of_created`, `seated_of_updated`, `seated_of_deleted`: the seated courses move with them.
* `Step.accounted`: the counters stay right from step to step.
* `counter_eq_created_add_seated`: in every run, a counter is what it was when the section was
  created and the seats that are taken since. -/

namespace Enrollment

namespace Registrar

open Store

variable {s s' : Store} {key : Uuid}

/-! ### Seated courses -/

section Reseated

variable (m : SeatMove) (keys : List Uuid) (actor : String) (now : Instant)

theorem isSeatedIn_reseated (q : Row) :
    (q.reseated m keys actor now).isSeatedIn key = q.isSeatedIn key := by cases q <;> rfl

theorem hasState_reseated {q : Row} (h : q.HasState) : (q.reseated m keys actor now).HasState := by
  cases q
  case «section» r => exact hasState_of_table (fun ht => by cases ht)
  all_goals exact h

theorem countP_map_reseated (rows : List Row) :
    (rows.map (Row.reseated m keys actor now)).countP (Row.isSeatedIn key) =
      rows.countP (Row.isSeatedIn key) := by
  rw [List.countP_map]
  exact List.countP_congr fun q _ => by rw [Function.comp_apply, isSeatedIn_reseated]

end Reseated

theorem isSeatedIn_of_isJunction {q : Row} (h : q.table.isJunction = true) :
    q.isSeatedIn key = false :=
  Row.isSeatedIn_eq_false fun ht => by rw [ht] at h; cases h

theorem countP_linkRows (e : Entity) : (linkRows e).countP (Row.isSeatedIn key) = 0 := by
  rw [List.countP_eq_zero]
  intro q hq
  rw [isSeatedIn_of_isJunction (settled_of_mem_linkRows hq).2.1]
  exact Bool.false_ne_true

theorem countP_filter_linksOf (e : Entity) (rows : List Row) :
    (rows.filter fun q => !linksOf e q).countP (Row.isSeatedIn key) =
      rows.countP (Row.isSeatedIn key) := by
  rw [List.countP_filter]
  refine List.countP_congr fun q _ => ?_
  cases hq : linksOf e q with
  | false => simp
  | true => simp [isSeatedIn_of_isJunction (isJunction_of_linksOf hq)]

theorem countP_singleton {q : Row} {seat : Option Uuid}
    (h : q.isSeatedIn key = true ↔ seat = some key) :
    [q].countP (Row.isSeatedIn key) = seatIn key seat := by
  unfold seatIn
  by_cases hs : seat = some key
  · simp [hs, h.mpr hs]
  · simp [hs, Bool.eq_false_iff.mpr (mt h.mp hs)]

theorem seated_of_created {clock : Clock} {e : Entity} (h : Created clock e s s') :
    s'.seated key = s.seated key + seatIn key e.seat := by
  obtain ⟨row, hrow, hrows⟩ := h.rows
  have hnew : [row.settled].countP (Row.isSeatedIn key) = seatIn key e.seat :=
    countP_singleton (isSeatedIn_ofEntity hrow h.hasState)
  rw [seated_eq_countP, seated_eq_countP, hrows, List.countP_append, countP_map_reseated,
    ← List.singleton_append, List.countP_append, hnew, countP_linkRows]
  rfl

theorem seated_of_updated {clock : Clock} {e old new : Entity} (hs : s.Conforms)
    (hstate : ∀ r ∈ s.rows, r.HasState) (h : Updated clock e old new s s') :
    s'.seated key + seatIn key old.seat = s.seated key + seatIn key new.seat := by
  obtain ⟨before, r, after, row, hsplit, -, hr, -, hrow, hrows⟩ := h.exists_split hs
  have hr' : r.HasState := hstate r (hsplit ▸ List.mem_append_right _ List.mem_cons_self)
  have hold : [r].countP (Row.isSeatedIn key) = seatIn key old.seat :=
    countP_singleton (isSeatedIn_of_toEntity? hr (hr' _ _ _ hr))
  have hnew : [row.settled].countP (Row.isSeatedIn key) = seatIn key new.seat :=
    countP_singleton (isSeatedIn_ofEntity hrow h.hasState)
  rw [seated_eq_countP, seated_eq_countP, hrows, hsplit, List.countP_append, countP_linkRows,
    countP_filter_linksOf, ← List.singleton_append, ← List.singleton_append (x := r)]
  simp only [List.countP_append, countP_map_reseated, hold, hnew]
  omega

theorem seated_of_deleted {now : Instant} {kind : Kind} {k : Uuid} {actor : String} {old : Entity}
    (hs : s.Conforms) (hstate : ∀ r ∈ s.rows, r.HasState) (h : Deleted now kind k actor old s s') :
    s'.seated key + seatIn key old.seat = s.seated key := by
  obtain ⟨before, r, after, hsplit, -, hr, hrows⟩ := h.exists_split hs
  have hr' : r.HasState := hstate r (hsplit ▸ List.mem_append_right _ List.mem_cons_self)
  have hold : [r].countP (Row.isSeatedIn key) = seatIn key old.seat :=
    countP_singleton (isSeatedIn_of_toEntity? hr (hr' _ _ _ hr))
  rw [seated_eq_countP, seated_eq_countP, hrows, hsplit, countP_filter_linksOf,
    countP_map_reseated, ← List.singleton_append (x := r)]
  simp only [List.countP_append, hold]
  omega

/-! ### Sections -/

/-- The counters of a store are right: the courses have states, and the seats that are taken in a
section are no more than its counter, which is no more than the room there is. -/
structure Accounted (s : Store) : Prop where
  conforms : s.Conforms
  hasState : ∀ r ∈ s.rows, r.HasState
  counted : ∀ r ∈ s.sections, (s.seated r.audit.id : Int) ≤ r.currentCapacity.toInt
  withinRoom : ∀ r ∈ s.sections, r.currentCapacity ≤ r.maxCapacity

/-- A section has been recounted from one store to the next. -/
structure Recounted (s s' : Store) (r r' : SectionRow) : Prop where
  id_eq : r'.audit.id = r.audit.id
  balance : r'.currentCapacity.toInt + s.seated r.audit.id =
    r.currentCapacity.toInt + s'.seated r.audit.id
  withinRoom : r'.currentCapacity ≤ r'.maxCapacity

/-- A section is new, and no seat in it is taken. -/
structure Opened (call : Call) (s s' : Store) (r' : SectionRow) : Prop where
  created : ∃ sec, call.command = .create (.section sec) ∧ call.Succeeds s ∧
    sec.audit.id = r'.audit.id ∧ sec.currentCapacity = r'.currentCapacity
  seated : s'.seated r'.audit.id = 0
  withinRoom : r'.currentCapacity ≤ r'.maxCapacity

theorem accounted_empty : Accounted .empty where
  conforms := conforms_empty
  hasState _ h := absurd h List.not_mem_nil
  counted _ h := absurd h List.not_mem_nil
  withinRoom _ h := absurd h List.not_mem_nil

theorem lt_of_hasRoom {m : SeatMove} {r : SectionRow} (hs : s.Conforms) (h : HasRoom s m m.sections)
    (hr : r ∈ s.sections) (ht : m.take = some r.audit.id) (hm : m.release ≠ some r.audit.id) :
    r.currentCapacity < r.maxCapacity := by
  have hmem : r.audit.id ∈ m.sections := List.mem_append_right _ (by rw [ht]; simp)
  obtain ⟨x, hx, hid, hroom⟩ := h _ hmem
  obtain rfl := hs.section_eq hx hr hid
  exact hroom ht hm

/-- **A section whose seats move is recounted.** -/
theorem recounted_of_reseated {before after : Option Uuid} {actor : String} {now : Instant}
    {r : SectionRow} (hs : Accounted s)
    (hseats : ∀ key, s'.seated key + seatIn key before = s.seated key + seatIn key after)
    (hroom : (SeatMove.ofSeats before after).take = some r.audit.id →
      (SeatMove.ofSeats before after).release ≠ some r.audit.id → r.currentCapacity < r.maxCapacity)
    (hr : r ∈ s.sections) :
    let m := SeatMove.ofSeats before after
    Recounted s s' r (r.reseated m m.sections actor now) := by
  intro m
  have hcapacity : (r.reseated m m.sections actor now).currentCapacity =
      m.counter r.audit.id r.currentCapacity := by
    unfold SectionRow.reseated
    split
    · rfl
    · rename_i hmem; rw [SeatMove.counter_of_not_mem hmem]
  have hmost := r.maxCapacity_reseated m m.sections actor now
  have hcounted := hs.counted r hr
  have hseat := hseats r.audit.id
  have hpos : before = some r.audit.id → after ≠ some r.audit.id → 0 < r.currentCapacity.toInt := by
    intro hb ha
    rw [seatIn, seatIn, if_pos hb, if_neg ha] at hseat
    omega
  have hmove : (m.counter r.audit.id r.currentCapacity).toInt + seatIn r.audit.id before =
      r.currentCapacity.toInt + seatIn r.audit.id after ∧
        m.counter r.audit.id r.currentCapacity ≤ r.maxCapacity :=
    SeatMove.toInt_counter_ofSeats (hs.withinRoom r hr) hpos hroom
  refine ⟨r.id_reseated .., ?_, by rw [hcapacity, hmost]; exact hmove.2⟩
  rw [hcapacity]
  have := hmove.1
  omega

theorem carried_of_created {call : Call} {e : Entity} {r' : SectionRow} (hs : Accounted s)
    (hcall : call.command = .create e) (hok : call.Succeeds s) (h : Created call.clock e s s')
    (hr' : r' ∈ s'.sections) :
    Opened call s s' r' ∨ ∃ r ∈ s.sections, Recounted s s' r r' := by
  obtain ⟨row, hrow, hrows⟩ := h.rows
  have hmem := mem_typed_iff.mp hr'
  rw [hrows, List.mem_append, List.mem_cons, List.mem_map] at hmem
  rcases hmem with ⟨q, hq, hqr⟩ | hqr | hlink
  · obtain ⟨r, rfl, rfl⟩ := section_of_reseated hqr
    have hr : r ∈ s.sections := mem_typed_iff.mpr hq
    have hseats : ∀ key, s'.seated key + seatIn key none = s.seated key + seatIn key e.seat :=
      fun key => seated_of_created h
    exact .inr ⟨r, hr, recounted_of_reseated hs hseats
      (lt_of_hasRoom hs.conforms h.hasRoom hr) hr⟩
  · -- the row of the candidate is a section's, so the candidate is a section
    obtain ⟨sec, rfl, hsec⟩ := section_of_ofEntity hrow hqr.symm
    obtain ⟨-, -, haudit, hmost, hcurrent⟩ := SectionRow.of_eq_ok_iff.mp hsec
    have hid : sec.audit.id = r'.audit.id := by rw [haudit]
    have hzero : s.seated r'.audit.id = 0 := seated_eq_zero hs.conforms fun q hq =>
      hid ▸ h.fresh hq
    obtain ⟨snapshot, -, hreview⟩ := h.reviewed
    refine .inl ⟨⟨sec, hcall, hok, hid, hcurrent.symm⟩, ?_, ?_⟩
    · rw [seated_of_created h, hzero]; rfl
    · rw [hcurrent, hmost]
      exact Section.capacity_of_mayEnter (Entity.reviewNew_eq_ok_iff.mp hreview).2
  · exact absurd hlink (not_mem_linkRows rfl)

/-- A revision of a section keeps its counter, which is within the room that there is then. -/
theorem recounted_of_revised {clock : Clock} {e old new : Entity} {x row : Row} {r' : SectionRow}
    {spaceTimeIds teacherIds : List Uuid} (h : Updated clock e old new s s')
    (hseats : ∀ key, s'.seated key + seatIn key old.seat = s.seated key + seatIn key new.seat)
    (hx : x.toEntity? spaceTimeIds teacherIds = some (.ok old)) (hrow : Row.ofEntity new = .ok row)
    (hr' : row.settled = .section r') : ∃ r, x = .section r ∧ Recounted s s' r r' := by
  obtain ⟨new, rfl, hnew⟩ := section_of_ofEntity hrow hr'
  obtain ⟨-, -, haudit, hmost, hcurrent⟩ := SectionRow.of_eq_ok_iff.mp hnew
  obtain ⟨sec, rfl⟩ : ∃ sec, e = .section sec := by
    have hkind := h.kind_new
    cases e <;> first | exact ⟨_, rfl⟩ | cases hkind
  obtain ⟨r, rfl, hold⟩ := section_of_toEntity? hx h.held.matches.1
  subst hold
  obtain rfl := Entity.section.inj h.new_eq
  obtain ⟨snapshot, -, hreview⟩ := h.reviewed
  obtain ⟨hkept, henter⟩ :=
    Section.counter_of_mayReplace (Entity.reviewRevision_eq_ok_iff.mp hreview).2.2
  have hid : r'.audit.id = r.audit.id := by rw [haudit]; rfl
  have hsame := hseats r.audit.id
  refine ⟨r, rfl, hid, ?_, ?_⟩
  · rw [hcurrent, show sec.currentCapacity = r.currentCapacity from hkept]
    simp only [Entity.seat] at hsame
    omega
  · rw [hcurrent, hmost]
    exact Section.capacity_of_mayEnter henter

theorem carried_of_updated {clock : Clock} {e old new : Entity} {r' : SectionRow}
    (hs : Accounted s) (h : Updated clock e old new s s') (hr' : r' ∈ s'.sections) :
    ∃ r ∈ s.sections, Recounted s s' r r' := by
  have hseats : ∀ key, s'.seated key + seatIn key old.seat = s.seated key + seatIn key new.seat :=
    fun _ => seated_of_updated hs.conforms hs.hasState h
  obtain ⟨before, x, after, row, hsplit, hat, hx, -, hrow, hrows⟩ := h.exists_split hs.conforms
  have hmem := mem_typed_iff.mp hr'
  rw [hrows, List.mem_append, List.mem_filter, List.mem_append, List.mem_cons, List.mem_map,
    List.mem_map] at hmem
  have hkept : ∀ q, (q ∈ before ∨ q ∈ after) → q.reseatedBy (.ofSeats old.seat new.seat)
      (audit new).updatedBy clock.write = .section r' → ∃ r ∈ s.sections, Recounted s s' r r' := by
    rintro q hq hqr
    obtain ⟨r, rfl, rfl⟩ := section_of_reseated hqr
    have hr : r ∈ s.sections := by
      rw [mem_typed_iff, hsplit, List.mem_append, List.mem_cons]
      exact hq.imp_right .inr
    exact ⟨r, hr, recounted_of_reseated hs hseats (lt_of_hasRoom hs.conforms h.hasRoom hr) hr⟩
  rcases hmem with ⟨⟨q, hq, hqr⟩ | hqr | ⟨q, hq, hqr⟩, -⟩ | hlink
  · exact hkept q (.inl hq) hqr
  · -- the row of the revision is a section's, so it revises a section
    obtain ⟨r, rfl, hre⟩ := recounted_of_revised h hseats hx hrow hqr.symm
    exact ⟨r, mem_typed_iff.mpr (hsplit ▸ List.mem_append_right _ List.mem_cons_self), hre⟩
  · exact hkept q (.inr hq) hqr
  · exact absurd hlink (not_mem_linkRows rfl)

theorem carried_of_deleted {now : Instant} {kind : Kind} {key : Uuid} {actor : String}
    {old : Entity} {r' : SectionRow} (hs : Accounted s) (h : Deleted now kind key actor old s s')
    (hr' : r' ∈ s'.sections) : ∃ r ∈ s.sections, Recounted s s' r r' := by
  have hseats : ∀ key, s'.seated key + seatIn key old.seat = s.seated key + seatIn key none :=
    fun key => seated_of_deleted hs.conforms hs.hasState h
  have hmem := mem_typed_iff.mp hr'
  rw [h.rows, List.mem_filter, List.mem_map] at hmem
  obtain ⟨⟨q, hq, hqr⟩, -⟩ := hmem
  obtain ⟨r, rfl, rfl⟩ := section_of_reseated hqr
  have hr : r ∈ s.sections := mem_typed_iff.mpr hq
  refine ⟨r, hr, recounted_of_reseated hs hseats (fun ht => ?_) hr⟩
  unfold SeatMove.ofSeats at ht
  split at ht <;> cases ht

/-! ### One call -/

/-- **A section after a call** is new, or has been recounted. -/
theorem Step.carried {call : Call} {r' : SectionRow} (h : Step call s s') (hs : Accounted s)
    (hr' : r' ∈ s'.sections) :
    Opened call s s' r' ∨ ∃ r ∈ s.sections, Recounted s s' r r' := by
  cases h with
  | refused _ => exact .inr ⟨r', hr', rfl, rfl, hs.withinRoom r' hr'⟩
  | created hcall hok h => exact carried_of_created hs hcall hok h hr'
  | updated _ _ h => exact .inr (carried_of_updated hs h hr')
  | deleted _ _ h => exact .inr (carried_of_deleted hs h hr')

theorem hasState_of_mem_linkRows {e : Entity} {q : Row} (h : q ∈ linkRows e) : q.HasState :=
  hasState_of_table fun ht => by
    have := (settled_of_mem_linkRows h).2.1
    rw [ht] at this
    cases this

theorem Step.hasState {call : Call} (h : Step call s s') (hs : Accounted s) :
    ∀ r ∈ s'.rows, r.HasState := by
  intro r hr
  cases h with
  | refused _ => exact hs.hasState r hr
  | created _ _ h =>
    obtain ⟨row, hrow, hrows⟩ := h.rows
    rw [hrows, List.mem_append, List.mem_cons, List.mem_map] at hr
    rcases hr with ⟨q, hq, rfl⟩ | rfl | hr
    · exact hasState_reseated _ _ _ _ (hs.hasState q hq)
    · exact hasState_ofEntity hrow h.hasState
    · exact hasState_of_mem_linkRows hr
  | updated _ _ h =>
    obtain ⟨row, hrow, hrows⟩ := h.rows
    rw [hrows, List.mem_append, List.mem_filter, List.mem_map] at hr
    rcases hr with ⟨⟨q, hq, rfl⟩, -⟩ | hr
    · obtain ⟨x, hx, rfl⟩ := List.mem_map.mp hq
      unfold Row.revisedBy
      split
      · exact hasState_ofEntity hrow h.hasState
      · exact hasState_reseated _ _ _ _ (hs.hasState x hx)
    · exact hasState_of_mem_linkRows hr
  | deleted _ _ h =>
    rw [h.rows, List.mem_filter, List.mem_map] at hr
    obtain ⟨⟨q, hq, rfl⟩, -⟩ := hr
    exact hasState_reseated _ _ _ _ (hs.hasState q hq)

theorem toInt_nonneg_of_conforms {r : SectionRow} (hs : s.Conforms) (hr : r ∈ s.sections) :
    0 ≤ r.currentCapacity.toInt := by
  have hcolumn : (⟨.currentCapacity, .int32, true, some "0", some (.atLeast 0)⟩ : ColumnSchema) ∈
      Schema.migrated.columns .sections := by decide
  have hadmits : (Condition.atLeast 0).admits (.int r.currentCapacity.toInt) = true :=
    Row.admits_of_unmet_eq_none (hs.conditions _ (mem_typed_iff.mp hr)) hcolumn rfl
  exact of_decide_eq_true hadmits

/-- **The counters stay right from step to step.** -/
theorem Step.accounted {call : Call} (h : Step call s s') (hs : Accounted s) : Accounted s' where
  conforms := h.conforms hs.conforms
  hasState := h.hasState hs
  counted r' hr' := by
    rcases h.carried hs hr' with hopened | ⟨r, hr, hrecounted⟩
    · have := toInt_nonneg_of_conforms (h.conforms hs.conforms) hr'
      rw [hopened.seated]
      exact_mod_cast this
    · have hcounted := hs.counted r hr
      have hbalance := hrecounted.balance
      rw [hrecounted.id_eq]
      omega
  withinRoom r' hr' := by
    rcases h.carried hs hr' with hopened | ⟨r, -, hrecounted⟩
    · exact hopened.withinRoom
    · exact hrecounted.withinRoom

theorem Reachable.accounted (h : Reachable s) : Accounted s := by
  induction h with
  | empty => exact accounted_empty
  | after hr call ih => exact (step_after hr.conforms call).accounted ih

/-! ### Runs -/

/-- From the moment a section was created its counter has moved with the seats in it. -/
theorem exists_createdAt (calls : List Call) (n : Nat) {r : SectionRow}
    (hr : r ∈ (storeAt calls n).sections) :
    ∃ i sec, CreatedAt calls i n (.section sec) ∧ sec.audit.id = r.audit.id ∧
      r.currentCapacity.toInt =
        sec.currentCapacity.toInt + (storeAt calls n).seated r.audit.id := by
  induction n generalizing r with
  | zero => exact absurd hr List.not_mem_nil
  | succ n ih =>
    have hs := (reachable_storeAt calls n).accounted
    have hlast : ∃ q ∈ (storeAt calls (n + 1)).rows, q.isAt .sections r.audit.id = true :=
      ⟨_, mem_typed_iff.mp hr, Row.isAt_iff.mpr ⟨rfl, rfl⟩⟩
    have hcarried : (∃ call, calls[n]? = some call ∧
        Opened call (storeAt calls n) (storeAt calls (n + 1)) r) ∨
        ∃ x ∈ (storeAt calls n).sections,
          Recounted (storeAt calls n) (storeAt calls (n + 1)) x r := by
      rcases step_storeAt calls n hs.conforms with ⟨call, hcall, hstep⟩ | ⟨-, hsame⟩
      · exact (hstep.carried hs hr).imp_left fun h => ⟨call, hcall, h⟩
      · rw [hsame] at hr ⊢
        exact .inr ⟨r, hr, rfl, rfl, hs.withinRoom r hr⟩
    rcases hcarried with ⟨call, hcall, hopened⟩ | ⟨x, hx, hrecounted⟩
    · obtain ⟨sec, hcommand, hok, hid, hcurrent⟩ := hopened.created
      refine ⟨n, sec, createdAt_succ hcall hcommand hok ?_, hid, ?_⟩
      · exact hid ▸ hlast
      · rw [hopened.seated, hcurrent]
        simp
    · obtain ⟨i, sec, hcreated, hid, hcounter⟩ := ih hx
      have hbalance := hrecounted.balance
      refine ⟨i, sec, hcreated.succ ?_, hid.trans hrecounted.id_eq.symm, ?_⟩
      · exact (hid.trans hrecounted.id_eq.symm) ▸ hlast
      · rw [hrecounted.id_eq]
        omega

/-- **Counters in a run**: the counter of a stored section is what it was when the section was
created, and the seats that are taken in it; it is not negative, and no more than there is room. -/
theorem counter_eq_created_add_seated (calls : List Call) {r : SectionRow}
    (hr : r ∈ (storeAfter calls).sections) :
    (∃ i sec, CreatedAt calls i calls.length (.section sec) ∧ sec.audit.id = r.audit.id ∧
      r.currentCapacity.toInt =
        sec.currentCapacity.toInt + (storeAfter calls).seated r.audit.id) ∧
    0 ≤ r.currentCapacity ∧ r.currentCapacity ≤ r.maxCapacity := by
  have haccounted := (reachable_storeAfter calls).accounted
  refine ⟨?_, ?_, haccounted.withinRoom r hr⟩
  · rw [← storeAt_length] at hr ⊢
    exact exists_createdAt calls calls.length hr
  · rw [Int32.le_iff_toInt_le, Int32.toInt_zero]
    exact toInt_nonneg_of_conforms haccounted.conforms hr

theorem counter_of_sample : ∃ r ∈ (storeAfter Sample.calls).sections, r.currentCapacity = 6 ∧
    ∃ i sec, CreatedAt Sample.calls i Sample.calls.length (.section sec) ∧
      sec.audit.id = r.audit.id ∧ r.currentCapacity.toInt =
        sec.currentCapacity.toInt + (storeAfter Sample.calls).seated r.audit.id := by
  have hr : Sample.sectionRow ∈ (storeAfter Sample.calls).sections := by decide +kernel
  exact ⟨Sample.sectionRow, hr, rfl, (counter_eq_created_add_seated Sample.calls hr).1⟩

end Registrar

end Enrollment
