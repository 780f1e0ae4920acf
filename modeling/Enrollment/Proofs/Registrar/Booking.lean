import Enrollment.Proofs.Registrar.Frame
import Enrollment.Proofs.Store.Fitting

/-! # What sections have booked

The rows that book space times for a section carry a copy of its trimester. They are written with
the section only, so the copy is the trimester that the section has, and the index on it keeps the
sections of a trimester apart.

* `Step.booked`: a call writes a section with its bookings, or keeps both.
* `exists_writtenLast`: in a run, a stored section has booked what was listed when it was last
  written.
* `bookings_eq_last_written`: the bookings of all stored sections, and that no two meet. -/

namespace Enrollment

namespace Store

/-- The space times that a section has booked, each with the trimester it is booked for. -/
def bookings (s : Store) (key : Uuid) : List (Uuid × Uuid) :=
  (s.sectionSpaceTimes.filter (·.sectionId = key)).map fun r => (r.spaceTimeId, r.trimesterId)

variable {s : Store}

theorem mem_bookings_iff {key slot trimester : Uuid} : (slot, trimester) ∈ s.bookings key ↔
    ∃ x ∈ s.sectionSpaceTimes, x.sectionId = key ∧ x.spaceTimeId = slot ∧
      x.trimesterId = trimester := by
  simp [bookings, and_assoc]

theorem spaceTimeIds_eq_map_bookings (s : Store) (key : Uuid) :
    s.spaceTimeIds key = (s.bookings key).map Prod.fst := by
  rw [spaceTimeIds, bookings, List.map_map]
  rfl

theorem Conforms.eq_of_bookings (hs : s.Conforms) {r r' : SectionRow} (hr : r ∈ s.sections)
    (hr' : r' ∈ s.sections) {slot trimester : Uuid}
    (h : (slot, trimester) ∈ s.bookings r.audit.id)
    (h' : (slot, trimester) ∈ s.bookings r'.audit.id) : r = r' := by
  obtain ⟨x, hx, hsec, hslot, ht⟩ := mem_bookings_iff.mp h
  obtain ⟨y, hy, hsec', hslot', ht'⟩ := mem_bookings_iff.mp h'
  have hagrees : (Row.sectionSpaceTime x).agrees (.sectionSpaceTime y)
      [.trimesterId, .spaceTimeId] = true :=
    Row.agrees_sectionSpaceTime_iff.mpr ⟨ht.trans ht'.symm, hslot.trans hslot'.symm⟩
  have hsame : Row.sectionSpaceTime x = Row.sectionSpaceTime y :=
    hs.eq_of_agrees (mem_typed_iff.mp hx) (mem_typed_iff.mp hy)
      (show [.trimesterId, .spaceTimeId] ∈ keys .sectionSpaceTimes by decide) hagrees
  obtain rfl := Row.sectionSpaceTime.inj hsame
  exact hs.section_eq hr hr' (hsec.symm.trans hsec')

end Store

namespace Registrar

open Store

variable {s s' : Store}

/-! ### One call -/

theorem bookings_eq_of_filter_joins (s : Store) (key : Uuid) : s.bookings key =
    ((s.rows.filter (joins key)).filterMap (RowType.ofRow? (ρ := SectionSpaceTimeRow))).map
      fun r => (r.spaceTimeId, r.trimesterId) := by
  rw [bookings, filter_spaceTimes_eq]

theorem bookings_of_linkRows {sec : Section} {key trimester : Uuid}
    (h : s.rows.filter (joins key) = linkRows (.section sec))
    (ht : sec.trimesterId = some trimester) :
    s.bookings key = sec.spaceTimeIds.map (·, trimester) := by
  have hslots : (linkRows (.section sec)).filterMap (RowType.ofRow? (ρ := SectionSpaceTimeRow)) =
      sec.spaceTimeIds.map fun id => ⟨none, sec.audit.id, id, trimester, sec.audit.updatedAt⟩ := by
    simp [linkRows, ht, spaceTimeRows, teacherRows, List.filterMap_map,
      RowType.ofRow?]
  rw [bookings_eq_of_filter_joins, h, hslots, List.map_map]
  rfl

/-- A section has booked what a candidate lists, each space time once and one at least, for the
trimester that the section has. -/
structure HasBooked (s : Store) (r : SectionRow) (sec : Section) : Prop where
  id_eq : sec.audit.id = r.audit.id
  slotOnce : sec.spaceTimeIds.Nodup
  slots : sec.spaceTimeIds ≠ []
  bookings_eq : s.bookings r.audit.id = sec.spaceTimeIds.map (·, r.trimesterId)

theorem HasBooked.spaceTimeIds_eq {r : SectionRow} {sec : Section} (h : HasBooked s r sec) :
    s.spaceTimeIds r.audit.id = sec.spaceTimeIds := by
  rw [spaceTimeIds_eq_map_bookings, h.bookings_eq, List.map_map]
  exact List.map_id _

/-- What a section has booked stays booked over a call that does not write the section. -/
structure KeepsBooking (call : Call) (s s' : Store) (r r' : SectionRow) : Prop where
  mem : r ∈ s.sections
  id_eq : r.audit.id = r'.audit.id
  trimesterId_eq : r.trimesterId = r'.trimesterId
  bookings_eq : s'.bookings r'.audit.id = s.bookings r.audit.id
  unwritten : ∀ sec new, Writes call s s' (.section sec) new → sec.audit.id ≠ r.audit.id

theorem hasBooked_of_writes {call : Call} {e new : Entity} {row : Row} {r' : SectionRow}
    (hs : s.Conforms) (h : Writes call s s' e new) (hrow : Row.ofEntity new = .ok row)
    (hr' : Row.section r' = row.settled) :
    ∃ sec, e = .section sec ∧ HasBooked s' r' sec := by
  obtain ⟨sec', rfl, hsec'⟩ := section_of_ofEntity hrow hr'.symm
  obtain ⟨-, htrimester, haudit, -, -⟩ := SectionRow.of_eq_ok_iff.mp hsec'
  obtain ⟨sec, a, rfl, rfl, hid⟩ := h.exists_section
  have hid' : a.id = r'.audit.id := congrArg Audit.id haudit.symm
  obtain ⟨old, part, replacing, -, hfields, hrules⟩ := h.accepted
  have henters := Entity.mayEnter_of_accepted hrules nofun nofun
  obtain ⟨_, _, hpasses⟩ := Section.passes_of_mayEnter henters
  refine ⟨sec, rfl, hid.symm.trans hid', hpasses.slotOnce,
    (Section.bounds_of_fields hfields).2.2, ?_⟩
  have hbookings := bookings_of_linkRows (h.filter_joins hs) htrimester
  exact hid' ▸ hbookings

/-- **Bookings over a call**: the call writes a section with what it books, or keeps both. -/
theorem Step.booked {call : Call} {r' : SectionRow} (h : Step call s s') (hs : s.Conforms)
    (hr' : r' ∈ s'.sections) :
    (∃ sec new, Writes call s s' (.section sec) new ∧ HasBooked s' r' sec) ∨
      ∃ r, KeepsBooking call s s' r r' := by
  cases h.origin hs (mem_typed_iff.mp hr') with
  | written h hrow hr' =>
    obtain ⟨sec, rfl, hbooked⟩ := hasBooked_of_writes hs h hrow hr'
    exact .inl ⟨sec, _, h, hbooked⟩
  | joined _ hlink => exact absurd hlink (not_mem_linkRows rfl)
  | stored h =>
    obtain ⟨r, hr, rfl, hid, -, ht⟩ := h.exists_section
    have hat : (Row.section r).isAt .sections r.audit.id = true := Row.isAt_iff.mpr ⟨rfl, rfl⟩
    refine .inr ⟨r, hr, hid, ht, ?_, fun sec new hw hsame => ?_⟩
    · rw [← hid, bookings_eq_of_filter_joins, bookings_eq_of_filter_joins, h.joins_eq _ hat]
    · have := h.unwritten _ _ hw
      rw [show audit (Entity.section sec) = sec.audit from rfl, hsame,
        show tableOf (Entity.section sec).kind = .sections from rfl, hat] at this
      cases this

/-! ### Runs -/

/-- A call of a run creates an entity or revises it. -/
def WrittenAt (calls : List Call) (n : Nat) (e : Entity) : Prop :=
  ∃ call, calls[n]? = some call ∧ (call.command = .create e ∨ call.command = .update e) ∧
    call.Succeeds (storeAt calls n)

/-- A call of a run writes a section, and none writes a section under its identifier after that, up
to a moment. -/
structure WrittenLast (calls : List Call) (i n : Nat) (sec : Section) : Prop where
  before : i < n
  written : WrittenAt calls i (.section sec)
  last : ∀ j other, i < j → j < n → WrittenAt calls j (.section other) →
    other.audit.id ≠ sec.audit.id

theorem Writes.writtenAt {calls : List Call} {n : Nat} {call : Call} {e new : Entity}
    (hcall : calls[n]? = some call) (h : Writes call (storeAt calls n) s' e new) :
    WrittenAt calls n e :=
  ⟨call, hcall, h.command_eq, h.succeeds⟩

theorem WrittenAt.exists_writes {calls : List Call} {n : Nat} {e : Entity}
    (h : WrittenAt calls n e) : ∃ call new, calls[n]? = some call ∧
      Writes call (storeAt calls n) (storeAt calls (n + 1)) e new := by
  obtain ⟨call, hcall, hcommand, hok⟩ := h
  obtain ⟨new, hw⟩ := (step_of_getElem? hcall).exists_writes hok hcommand
  exact ⟨call, new, hcall, hw⟩

/-- **A stored section has booked what was listed when it was last written.** -/
theorem exists_writtenLast (calls : List Call) (n : Nat) {r : SectionRow}
    (hr : r ∈ (storeAt calls n).sections) :
    ∃ i sec, WrittenLast calls i n sec ∧ HasBooked (storeAt calls n) r sec := by
  induction n generalizing r with
  | zero => exact absurd hr List.not_mem_nil
  | succ n ih =>
    have hs := (reachable_storeAt calls n).conforms
    rcases step_storeAt calls n hs with ⟨call, hcall, hstep⟩ | ⟨hnone, hsame⟩
    · rcases hstep.booked hs hr with ⟨sec, new, hw, hbooked⟩ | ⟨x, hkeeps⟩
      · exact ⟨n, sec, ⟨Nat.lt_succ_self n, hw.writtenAt hcall, fun j _ hj hj' => by omega⟩,
          hbooked⟩
      · obtain ⟨i, sec, hlast, hbooked⟩ := ih hkeeps.mem
        have hid := hbooked.id_eq.trans hkeeps.id_eq
        refine ⟨i, sec, ⟨Nat.lt_succ_of_lt hlast.before, hlast.written, ?_⟩,
          hid, hbooked.slotOnce, hbooked.slots, ?_⟩
        · intro j other hij hjn hwritten hother
          rcases Nat.lt_succ_iff_lt_or_eq.mp hjn with hjn | rfl
          · exact hlast.last j other hij hjn hwritten hother
          · obtain ⟨call', new, hcall', hw⟩ := hwritten.exists_writes
            obtain rfl := Option.some.inj (hcall.symm.trans hcall')
            exact hkeeps.unwritten other new hw (hother.trans hbooked.id_eq)
        · rw [hkeeps.bookings_eq, hbooked.bookings_eq, hkeeps.trimesterId_eq]
    · rw [hsame] at hr ⊢
      obtain ⟨i, sec, hlast, hbooked⟩ := ih hr
      refine ⟨i, sec, ⟨Nat.lt_succ_of_lt hlast.before, hlast.written, ?_⟩, hbooked⟩
      rintro j other hij hjn ⟨call, hcall, hwritten⟩
      have hne : j ≠ n := by rintro rfl; rw [hnone] at hcall; cases hcall
      exact hlast.last j other hij (by omega) ⟨call, hcall, hwritten⟩

/-- **The bookings of sections in a run**: a stored section has booked each space time that was
listed when it was last written, once, in the trimester that it has. So no two sections of a
trimester share a space time, and every section has one. -/
theorem bookings_eq_last_written (calls : List Call) :
    (∀ r ∈ (storeAfter calls).sections, ∃ i sec, WrittenLast calls i calls.length sec ∧
      sec.audit.id = r.audit.id ∧ sec.spaceTimeIds.Nodup ∧
      (storeAfter calls).bookings r.audit.id = sec.spaceTimeIds.map (·, r.trimesterId)) ∧
    (∀ r ∈ (storeAfter calls).sections, ∀ r' ∈ (storeAfter calls).sections,
      r.trimesterId = r'.trimesterId → ∀ slot ∈ (storeAfter calls).spaceTimeIds r.audit.id,
        slot ∈ (storeAfter calls).spaceTimeIds r'.audit.id → r = r') ∧
    ∀ r ∈ (storeAfter calls).sections, (storeAfter calls).spaceTimeIds r.audit.id ≠ [] := by
  have hs := (reachable_storeAfter calls).conforms
  have hbooked : ∀ r ∈ (storeAfter calls).sections, ∃ i sec,
      WrittenLast calls i calls.length sec ∧ HasBooked (storeAfter calls) r sec := by
    rw [← storeAt_length]
    exact fun r hr => exists_writtenLast calls calls.length hr
  refine ⟨fun r hr => ?_, fun r hr r' hr' ht slot hslot hslot' => ?_, fun r hr => ?_⟩
  · obtain ⟨i, sec, hlast, h⟩ := hbooked r hr
    exact ⟨i, sec, hlast, h.id_eq, h.slotOnce, h.bookings_eq⟩
  · obtain ⟨_, _, -, h⟩ := hbooked r hr
    obtain ⟨_, _, -, h'⟩ := hbooked r' hr'
    rw [h.spaceTimeIds_eq] at hslot
    rw [h'.spaceTimeIds_eq] at hslot'
    have hmem : (slot, r.trimesterId) ∈ (storeAfter calls).bookings r.audit.id := by
      rw [h.bookings_eq]
      exact List.mem_map_of_mem hslot
    have hmem' : (slot, r.trimesterId) ∈ (storeAfter calls).bookings r'.audit.id := by
      rw [h'.bookings_eq, ht]
      exact List.mem_map_of_mem hslot'
    exact hs.eq_of_bookings hr hr' hmem hmem'
  · obtain ⟨_, _, -, h⟩ := hbooked r hr
    rw [h.spaceTimeIds_eq]
    exact h.slots

theorem bookings_of_sample : ∃ i sec,
    WrittenLast Sample.calls i Sample.calls.length sec ∧
      sec.audit.id = Sample.sectionRow.audit.id ∧ sec.spaceTimeIds.Nodup ∧
      (storeAfter Sample.calls).bookings Sample.sectionRow.audit.id =
        sec.spaceTimeIds.map (·, Sample.sectionRow.trimesterId) :=
  (bookings_eq_last_written Sample.calls).1 Sample.sectionRow (by decide +kernel)

end Registrar

end Enrollment
