import Enrollment.Proofs.Section.Counting
import Enrollment.Proofs.Store.Seats
import Enrollment.Proofs.Store.Statements
import Enrollment.Registrar.Writing

/-! # How writes move seats

A write that moves seats recounts the sections that give a seat back or take one, one after the
other, and leaves all other rows as they are. Each section is saved as it was read, save for its
counter and its audit block.

* `reseated_of_moveSeats`: a course that comes, or that takes the place of another.
* `reseated_of_giveBack`: a course that goes. -/

namespace Enrollment

namespace Store

/-- A section recounted after a move, if it is among the given ones. -/
def SectionRow.reseated (m : SeatMove) (keys : List Uuid) (actor : String) (now : Instant)
    (r : SectionRow) : SectionRow :=
  if r.audit.id ∈ keys then
    { r with
      currentCapacity := m.counter r.audit.id r.currentCapacity
      audit := r.audit.next actor now }
  else r

/-- What becomes of a row when seats move in the given sections. -/
def Row.reseated (m : SeatMove) (keys : List Uuid) (actor : String) (now : Instant) : Row → Row
  | .section r => .section (r.reseated m keys actor now)
  | q => q

/-- What becomes of a row when seats move. -/
abbrev Row.reseatedBy (m : SeatMove) (actor : String) (now : Instant) : Row → Row :=
  Row.reseated m m.sections actor now

section Reseated

variable (m : SeatMove) (keys : List Uuid) (actor : String) (now : Instant)

theorem SectionRow.id_reseated (r : SectionRow) :
    (r.reseated m keys actor now).audit.id = r.audit.id := by
  unfold reseated; split <;> rfl

theorem SectionRow.maxCapacity_reseated (r : SectionRow) :
    (r.reseated m keys actor now).maxCapacity = r.maxCapacity := by
  unfold reseated; split <;> rfl

theorem Row.table_reseated (q : Row) : (q.reseated m keys actor now).table = q.table := by
  cases q <;> rfl

theorem Row.id_reseated (q : Row) : (q.reseated m keys actor now).id = q.id := by
  cases q
  case «section» r => exact congrArg some (r.id_reseated m keys actor now)
  all_goals rfl

theorem Row.reseated_nil (q : Row) : q.reseated m [] actor now = q := by
  cases q <;> rfl

theorem Row.reseated_cons {key : Uuid} (hkey : key ∉ keys) (q : Row) :
    (q.reseated m [key] actor now).reseated m keys actor now =
      q.reseated m (key :: keys) actor now := by
  cases q
  case «section» r =>
    refine congrArg Row.section ?_
    unfold SectionRow.reseated
    by_cases h : r.audit.id = key
    · subst h; simp [Audit.next, hkey]
    · simp [h]
  all_goals rfl

end Reseated

end Store

namespace Registrar

open Store

variable {s s' : Store}

/-! ### Rows that are written -/

theorem writeRow_eq_ok {e : Entity} {version : Int32} (hs : s.Conforms)
    (h : writeRow {} e version s = .ok s') : ∃ row, Row.ofEntity e = .ok row ∧
      (∃ old ∈ s.rows, old.isAt row.table (audit e).id = true ∧ old.version = some version) ∧
      s'.rows = s.rows.map row.settled.revisedBy ∧ s'.Conforms := by
  simp only [writeRow, bind_eq_ok_iff, mapError_eq_ok_iff] at h
  obtain ⟨row, hrow, found, hfound, h⟩ := h
  cases found with
  | none => cases h
  | some s₁ =>
    obtain rfl := pure_eq_ok_iff.mp h
    obtain ⟨hold, hrows, hs'⟩ := replace_eq_some hs (matches_ofEntity hrow).id_eq hfound
    exact ⟨row, hrow, hold, hrows, hs'⟩

theorem apply_of_moveIn {m : SeatMove} {e e' : Section} (h : moveIn m e = .ok e') :
    m.apply e = .ok e' := by
  unfold moveIn at h
  split at h
  · cases h
  · exact mapError_eq_ok_iff.mp h

/-- **One section is recounted**, and its room is looked at if it takes a seat. -/
theorem saveSeats_eq_ok {m : SeatMove} {r : SectionRow} {spaceTimeIds teacherIds : List Uuid}
    {actor : String} {now : Instant} (hs : s.Conforms) (hr : r ∈ s.sections)
    (h : saveSeats {} m (r.toSection spaceTimeIds teacherIds) actor now s = .ok s') :
    s'.rows = s.rows.map (Row.reseated m [r.audit.id] actor now) ∧ s'.Conforms ∧
      (m.take = some r.audit.id → m.release ≠ some r.audit.id →
        r.currentCapacity < r.maxCapacity) ∧
      r.audit.version < Int32.maxValue := by
  simp only [saveSeats, bind_eq_ok_iff, touch_eq_ok_iff] at h
  obtain ⟨moved, hmoved, _, ⟨hversion, rfl⟩, h⟩ := h
  obtain ⟨rfl, hroom⟩ := SeatMove.apply_eq_ok (apply_of_moveIn hmoved)
  obtain ⟨row, hrow, -, hrows, hs'⟩ := writeRow_eq_ok hs h
  set new := { r with
    currentCapacity := m.counter r.audit.id r.currentCapacity
    audit := r.audit.next actor now } with hnew
  obtain rfl : Row.section new = row := Except.ok.inj hrow
  refine ⟨hrows.trans (List.map_congr_left fun q hq => ?_), hs', fun ht hrel => ?_, hversion⟩
  swap
  · have hsame : m.releaseIn (r.toSection spaceTimeIds teacherIds) =
        r.toSection spaceTimeIds teacherIds := if_neg hrel
    have hf := hroom ht
    rw [hsame] at hf
    exact Int32.not_le.mp (of_decide_eq_false hf)
  change (Row.section new).revisedBy q = _
  rw [Row.revisedBy_eq (show (Row.section new).id = some r.audit.id from rfl)]
  by_cases hqt : q.isAt .sections r.audit.id = true
  · -- the section that was read is the only one under its identifier
    obtain rfl := hs.eq_of_isAt hq (mem_typed_iff.mp hr) hqt (Row.isAt_iff.mpr ⟨rfl, rfl⟩)
    rw [show (Row.section new).table = .sections from rfl, if_pos hqt]
    simp only [RowType.toRow, Row.reseated, SectionRow.reseated, List.mem_singleton, ↓reduceIte,
      hnew]
  · rw [show (Row.section new).table = .sections from rfl, if_neg hqt]
    cases q
    case «section» x =>
      have hne : x.audit.id ≠ r.audit.id := fun e => hqt (Row.isAt_iff.mpr ⟨rfl, congrArg some e⟩)
      simp [Row.reseated, SectionRow.reseated, hne]
    all_goals rfl

/-! ### Moves -/

/-- The sections are stored, and the one that a move takes a seat in has one left. -/
def HasRoom (s : Store) (m : SeatMove) (keys : List Uuid) : Prop :=
  ∀ key ∈ keys, ∃ r ∈ s.sections, r.audit.id = key ∧
    (m.take = some key → m.release ≠ some key → r.currentCapacity < r.maxCapacity)

/-- For the sections under some identifiers there is a next version. -/
def HasNext (s : Store) (keys : List Uuid) : Prop :=
  ∀ r ∈ s.sections, r.audit.id ∈ keys → r.audit.version < Int32.maxValue

theorem hasNext_nil (s : Store) : HasNext s [] := fun _ _ h => absurd h List.not_mem_nil

theorem mem_sections_reseated {m : SeatMove} {key : Uuid} {actor : String} {now : Instant}
    {r : SectionRow} (h : s'.rows = s.rows.map (Row.reseated m [key] actor now))
    (hne : r.audit.id ≠ key) : r ∈ s'.sections ↔ r ∈ s.sections := by
  rw [mem_typed_iff, mem_typed_iff, h, List.mem_map]
  have hself : ∀ x : SectionRow, x.audit.id ≠ key → x.reseated m [key] actor now = x :=
    fun x hx => by simp [SectionRow.reseated, hx]
  constructor
  · rintro ⟨q, hq, he⟩
    cases q <;> simp only [RowType.toRow, Row.reseated, reduceCtorEq, Row.section.injEq] at he
    rename_i x
    have hx : x.audit.id ≠ key := by
      rw [← SectionRow.id_reseated m [key] actor now x, he]; exact hne
    rw [hself x hx] at he
    exact he ▸ hq
  · intro hr
    exact ⟨_, hr, congrArg Row.section (hself r hne)⟩

/-- The sections of a snapshot under some identifiers are as they are stored. -/
def ReadFrom (s : Store) (snapshot : Snapshot) (keys : List Uuid) : Prop :=
  ∀ sec ∈ snapshot.sections, sec.audit.id ∈ keys →
    ∃ r ∈ s.sections, ∃ spaceTimeIds teacherIds, r.toSection spaceTimeIds teacherIds = sec

theorem readFrom_of_joined {snapshot : Snapshot} {keys : List Uuid}
    (h : ∀ sec ∈ snapshot.sections, ∃ r ∈ s.sections, s.joined r = sec) :
    ReadFrom s snapshot keys := by
  intro sec hsec _
  obtain ⟨r, hr, rfl⟩ := h sec hsec
  exact ⟨r, hr, _, _, rfl⟩

theorem ReadFrom.of_reseated {snapshot : Snapshot} {m : SeatMove} {key : Uuid} {keys : List Uuid}
    {actor : String} {now : Instant} (h : ReadFrom s snapshot (key :: keys))
    (hrows : s'.rows = s.rows.map (Row.reseated m [key] actor now)) (hkey : key ∉ keys) :
    ReadFrom s' snapshot keys := by
  intro sec hsec hid
  obtain ⟨x, hx, a, b, rfl⟩ := h sec hsec (List.mem_cons_of_mem _ hid)
  have hne : x.audit.id ≠ key := fun e => hkey (e ▸ hid)
  exact ⟨x, (mem_sections_reseated hrows hne).mpr hx, a, b, rfl⟩

theorem exists_row_of_read {snapshot : Snapshot} {key : Uuid} {keys : List Uuid} {e : Section}
    (hread : ReadFrom s snapshot keys) (hkey : key ∈ keys)
    (h : readSection snapshot key s = .ok e) : ∃ r ∈ s.sections, r.audit.id = key ∧
      ∃ spaceTimeIds teacherIds, r.toSection spaceTimeIds teacherIds = e := by
  unfold readSection at h
  split at h
  · rename_i sec hsec
    obtain rfl := Except.ok.inj h
    obtain ⟨hmem, hid⟩ := mem_of_rowById hsec
    have hid : sec.audit.id = key := hid
    obtain ⟨r, hr, a, b, rfl⟩ := hread sec hmem (hid ▸ hkey)
    exact ⟨r, hr, hid, a, b, rfl⟩
  · unfold fetchSection at h
    split at h <;> cases h
    rename_i hfound
    obtain ⟨r, hr, hid, rfl⟩ := exists_row_of_findSection hfound
    exact ⟨r, hr, hid, _, _, rfl⟩

theorem foldlM_saveSeats {m : SeatMove} {snapshot : Snapshot} {keys : List Uuid} {actor : String}
    {now : Instant} (hs : s.Conforms) (hkeys : keys.Nodup)
    (hread : ReadFrom s snapshot keys) (h : keys.foldlM (fun s key => do
      let e ← readSection snapshot key s
      saveSeats {} m e actor now s) s = .ok s') :
    s'.rows = s.rows.map (Row.reseated m keys actor now) ∧ s'.Conforms ∧ HasRoom s m keys ∧
      HasNext s keys := by
  induction keys generalizing s with
  | nil =>
    obtain rfl := pure_eq_ok_iff.mp h
    refine ⟨?_, hs, fun _ h => absurd h List.not_mem_nil, hasNext_nil _⟩
    rw [List.map_congr_left fun q _ => Row.reseated_nil m actor now q, List.map_id']
  | cons key keys ih =>
    obtain ⟨hkey, hnodup⟩ := List.nodup_cons.mp hkeys
    rw [List.foldlM_cons] at h
    obtain ⟨s₁, hstep, htail⟩ := bind_eq_ok_iff.mp h
    obtain ⟨e, he, hstep⟩ := bind_eq_ok_iff.mp hstep
    obtain ⟨r, hr, rfl, a, b, rfl⟩ := exists_row_of_read hread List.mem_cons_self he
    obtain ⟨hrows₁, hs₁, hroom, hversion⟩ := saveSeats_eq_ok hs hr hstep
    have hread₁ := hread.of_reseated hrows₁ hkey
    obtain ⟨hrows, hs', hrest, hnext⟩ := ih hs₁ hnodup hread₁ htail
    refine ⟨?_, hs', fun k hk => ?_, fun x hx hxid => ?_⟩
    · rw [hrows, hrows₁, List.map_map]
      exact List.map_congr_left fun q _ => Row.reseated_cons m keys actor now hkey q
    · rcases List.mem_cons.mp hk with rfl | hk
      · exact ⟨r, hr, rfl, hroom⟩
      · obtain ⟨x, hx, rfl, hxroom⟩ := hrest k hk
        have hne : x.audit.id ≠ r.audit.id := fun e => hkey (e ▸ hk)
        exact ⟨x, (mem_sections_reseated hrows₁ hne).mp hx, rfl, hxroom⟩
    · by_cases hsame : x.audit.id = r.audit.id
      · obtain rfl := hs.section_eq hx hr hsame
        exact hversion
      · exact hnext x ((mem_sections_reseated hrows₁ hsame).mpr hx)
          ((List.mem_cons.mp hxid).resolve_left hsame)

theorem between_eq_ofSeats_of_state {old : Option Course} {new : Course} {st : CourseState}
    (hst : new.state = .ok st) : SeatMove.between (old.bind fun o => o.state.toOption) st =
      SeatMove.ofSeats (old.bind fun o => Entity.seat (.course o)) (Entity.seat (.course new)) := by
  rw [SeatMove.between_eq_ofSeats]
  cases old <;> simp [Entity.seat, hst, Except.toOption]

/-- **A course moves its seat.** -/
theorem reseated_of_moveSeats {snapshot : Snapshot} {old : Option Course} {new : Course}
    {now : Instant} (hs : s.Conforms)
    (hread : ∀ sec ∈ snapshot.sections, ∃ r ∈ s.sections, s.joined r = sec)
    (h : moveSeats {} snapshot old new now s = .ok s') :
    Entity.HasState (.course new) ∧
      let m :=
        SeatMove.ofSeats (old.bind fun o => Entity.seat (.course o)) (Entity.seat (.course new))
      s'.rows = s.rows.map (Row.reseatedBy m new.audit.updatedBy now) ∧ s'.Conforms ∧
        HasRoom s m m.sections ∧ HasNext s m.sections := by
  simp only [moveSeats, bind_eq_ok_iff, mapError_eq_ok_iff] at h
  obtain ⟨st, hst, h⟩ := h
  rw [between_eq_ofSeats_of_state hst] at h
  exact ⟨⟨st, hst⟩, foldlM_saveSeats hs (SeatMove.nodup_sections_ofSeats _ _)
    (readFrom_of_joined hread) h⟩

/-- **A course gives its seat back.** -/
theorem reseated_of_giveBack {e : Entity} {actor : String} {now : Instant} (hs : s.Conforms)
    (h : giveBack {} actor now s e = .ok s') :
    let m := SeatMove.ofSeats e.seat none
    s'.rows = s.rows.map (Row.reseatedBy m actor now) ∧ s'.Conforms ∧ HasRoom s m m.sections ∧
      HasNext s m.sections := by
  intro m
  cases hseat : e.seat with
  | none =>
    have hm : m.sections = [] := by simp only [m, hseat]; rfl
    have hsame : s' = s := by
      cases e
      case course c =>
        simp only [giveBack] at h
        rw [show c.state.toOption.bind CourseState.seat = none from hseat] at h
        exact (Except.ok.inj h).symm
      all_goals exact (Except.ok.inj h).symm
    subst hsame
    rw [Row.reseatedBy, hm]
    refine ⟨?_, hs, fun _ h => absurd h List.not_mem_nil, hasNext_nil _⟩
    rw [List.map_congr_left fun q _ => Row.reseated_nil m actor now q, List.map_id']
  | some key =>
    have hm : m = ⟨some key, none⟩ := by simp [m, hseat, SeatMove.ofSeats]
    cases e
    case course c =>
      simp only [giveBack] at h
      rw [show c.state.toOption.bind CourseState.seat = some key from hseat] at h
      obtain ⟨sec, hsec, h⟩ := bind_eq_ok_iff.mp h
      unfold fetchSection at hsec
      split at hsec <;> cases hsec
      rename_i hfound
      obtain ⟨r, hr, rfl, rfl⟩ := exists_row_of_findSection hfound
      obtain ⟨hrows, hs', -, hversion⟩ := saveSeats_eq_ok hs hr h
      rw [hm]
      refine ⟨hrows, hs', fun k hk => ⟨r, hr, ?_, ?_⟩, fun x hx hxid => ?_⟩
      · simpa [SeatMove.sections, eq_comm] using hk
      · intro ht; cases ht
      · obtain rfl := hs.section_eq hx hr (List.mem_singleton.mp hxid)
        exact hversion
    all_goals cases hseat

end Registrar

end Enrollment
