import Enrollment.Proofs.Registrar.Removal

/-! # Races

Another writer may come first for a row that a write has read. The statement that is to replace or
remove the row then changes nothing, and the write fails. The write of a course changes up to three
rows one after the other: the sections between which its seat moves, and its own. Whichever of them
is lost, nothing is left of what was done to the others.

* `replace_amid`, `remove_amid`: a statement does what it would do otherwise, or finds no row.
* `Amid`: a computation comes to what it would come to otherwise, or fails as outdated.
* `create_amid`, `update_amid`, `delete_amid`: the writes of a course.
* `course_write_amid`: each of them is done as a whole or not at all. -/

namespace Enrollment

namespace Store

variable {s s' : Store} (overtaken : Event → Row → Bool) {key : Uuid} {q : Row}

/-! ### Statements -/

theorem any_spared_eq {event : Event} {p : Row → Bool} (hq : q ∈ s.rows) (hp : p q = true)
    (honly : ∀ r ∈ s.rows, p r = true → r = q) :
    (s.rows.any fun r => p r && !overtaken event r) = !overtaken event q := by
  rw [Bool.eq_iff_iff, List.any_eq_true]
  constructor
  · rintro ⟨r, hr, hfound⟩
    rw [Bool.and_eq_true] at hfound
    obtain rfl := honly r hr hfound.1
    exact hfound.2
  · exact fun hspared => ⟨q, hq, by rw [hp, hspared]; rfl⟩

/-- A row is replaced as it would be otherwise, or is not found any more. -/
theorem replace_amid {version : Int32} {new : Row} (hs : s.Conforms) (hq : q ∈ s.rows)
    (hat : q.isAt new.table key = true) (h : s.replace {} key version new = .ok (some s')) :
    s.replace { overtaken } key version new =
      .ok (if overtaken .update q then none else some s') := by
  simp only [replace] at h ⊢
  split at h
  swap
  · cases h
  rename_i hany
  obtain ⟨old, hold, hisOld⟩ := List.any_eq_true.mp hany
  rw [Bool.not_false, Bool.and_true] at hisOld
  have honly : ∀ r ∈ s.rows, (r.isAt new.table key && decide (r.version = some version)) = true →
      r = q := fun r hr hr' => hs.eq_of_isAt hr hq ((Bool.and_eq_true _ _).mp hr').1 hat
  obtain rfl := honly old hold hisOld
  rw [any_spared_eq overtaken hq hisOld honly]
  cases overtaken .update old with
  | true => rfl
  | false => exact h

/-- A row is removed as it would be otherwise, or is not found any more, if nothing goes with it. -/
theorem remove_amid {t : Table} (hs : s.Conforms) (hq : q ∈ s.rows) (hat : q.isAt t key = true)
    (halone : ∀ r, Row.refersTo r t key .cascade = false)
    (h : s.remove {} t key = .ok (some s')) :
    s.remove { overtaken } t key = .ok (if overtaken .delete q then none else some s') := by
  simp only [remove] at h ⊢
  rw [if_pos (any_isAt_eq_true hq hat)] at h
  rw [any_spared_eq overtaken hq hat fun r hr hrt => hs.eq_of_isAt hr hq hrt hat]
  cases overtaken .delete q with
  | true => rfl
  | false =>
    simp only [halone, Bool.false_and] at h ⊢
    exact h

end Store

namespace Registrar

open Store

variable {s s' : Store} (overtaken : Event → Row → Bool) {q : Row} {α β : Type}

/-! ### Computations -/

/-- What a computation comes to amid other writers: it fails as outdated if a row that it is to
replace is lost to one of them, and otherwise comes to what it would come to without them. -/
structure Amid (lost : Prop) (x y : Except Failure α) : Prop where
  kept : ¬ lost → y = x
  outdated : lost → ∃ key version, y = .error (.refused (.conflict (.outdated key version)))

namespace Amid

variable {p q : Prop} {x y : Except Failure α} {f g : α → Except Failure β}

theorem of_spared (hp : ¬ p) (h : y = x) : Amid p x y := ⟨fun _ => h, fun hlost => absurd hlost hp⟩

theorem congr (h : Amid p x y) (hiff : q ↔ p) : Amid q x y :=
  ⟨fun hq => h.kept (hq ∘ hiff.mpr), fun hq => h.outdated (hiff.mp hq)⟩

theorem bind {a : α} (h : Amid p x y) (hx : x = .ok a) (hf : Amid q (f a) (g a)) :
    Amid (p ∨ q) (x >>= f) (y >>= g) where
  kept hnone := by
    obtain ⟨hp, hq⟩ := not_or.mp hnone
    rw [h.kept hp, hx, ok_bind, ok_bind, hf.kept hq]
  outdated hlost := by
    by_cases hp : p
    · obtain ⟨key, version, hy⟩ := h.outdated hp
      exact ⟨key, version, by rw [hy]; rfl⟩
    · obtain ⟨key, version, hg⟩ := hf.outdated (hlost.resolve_left hp)
      exact ⟨key, version, by rw [h.kept hp, hx, ok_bind, hg]⟩

theorem bind_same (h : Amid p x y) : Amid p (x >>= f) (y >>= f) where
  kept hp := by rw [h.kept hp]
  outdated hp := by
    obtain ⟨key, version, hy⟩ := h.outdated hp
    exact ⟨key, version, by rw [hy]; rfl⟩

theorem map (h : Amid p x y) (f : α → β) : Amid p (x.map f) (y.map f) := by
  have hmap : ∀ z : Except Failure α, z.map f = z >>= fun a => .ok (f a) := fun z => by
    cases z <;> rfl
  rw [hmap, hmap]
  exact h.bind_same

end Amid

/-! ### Rows that are written -/

theorem writeRow_amid {e : Entity} {version : Int32} (hs : s.Conforms) (hq : q ∈ s.rows)
    (hat : q.isAt (tableOf e.kind) (audit e).id = true) (h : writeRow {} e version s = .ok s') :
    Amid (overtaken .update q = true) (writeRow {} e version s)
      (writeRow { overtaken } e version s) := by
  have hwrite := h
  simp only [writeRow, bind_eq_ok_iff, mapError_eq_ok_iff] at h
  obtain ⟨row, hrow, found, hfound, h⟩ := h
  cases found with
  | none => cases h
  | some s₁ =>
    obtain rfl := pure_eq_ok_iff.mp h
    have hreplace := replace_amid overtaken hs hq
      (by rwa [(matches_ofEntity hrow).1]) hfound
    refine ⟨fun hspared => ?_, fun hlost => ⟨(audit e).id, version, ?_⟩⟩
    · rw [hwrite]
      simp only [writeRow, hrow, hreplace, if_neg hspared, mapError_ok, ok_bind]
      rfl
    · simp only [writeRow, hrow, hreplace, if_pos hlost, mapError_ok, ok_bind]

theorem saveSeats_amid {m : SeatMove} {r : SectionRow} {spaceTimeIds teacherIds : List Uuid}
    {actor : String} {now : Instant} (hs : s.Conforms) (hr : r ∈ s.sections)
    (h : saveSeats {} m (r.toSection spaceTimeIds teacherIds) actor now s = .ok s') :
    Amid (overtaken .update (.section r) = true)
      (saveSeats {} m (r.toSection spaceTimeIds teacherIds) actor now s)
      (saveSeats { overtaken } m (r.toSection spaceTimeIds teacherIds) actor now s) := by
  unfold saveSeats at h ⊢
  obtain ⟨moved, hmoved, h⟩ := bind_eq_ok_iff.mp h
  obtain ⟨next, hnext, hwrite⟩ := bind_eq_ok_iff.mp h
  obtain ⟨rfl, -⟩ := SeatMove.apply_eq_ok (apply_of_moveIn hmoved)
  obtain ⟨-, rfl⟩ := touch_eq_ok_iff.mp hnext
  rw [hmoved, ok_bind, ok_bind, hnext, ok_bind, ok_bind]
  exact writeRow_amid overtaken hs (mem_typed_iff.mp hr) (Row.isAt_iff.mpr ⟨rfl, rfl⟩) hwrite

/-- One of the sections under some identifiers is lost to another writer. -/
def SeatsLost (s : Store) (keys : List Uuid) : Prop :=
  ∃ r ∈ s.sections, r.audit.id ∈ keys ∧ overtaken .update (.section r) = true

theorem not_seatsLost_nil : ¬ SeatsLost overtaken s [] := by
  rintro ⟨_, _, hmem, _⟩
  exact List.not_mem_nil hmem

theorem seatsLost_cons_iff {m : SeatMove} {r : SectionRow} {keys : List Uuid} {actor : String}
    {now : Instant} (hs : s.Conforms) (hr : r ∈ s.sections) (hkey : r.audit.id ∉ keys)
    (hrows : s'.rows = s.rows.map (Row.reseated m [r.audit.id] actor now)) :
    SeatsLost overtaken s (r.audit.id :: keys) ↔
      overtaken .update (.section r) = true ∨ SeatsLost overtaken s' keys := by
  constructor
  · rintro ⟨x, hx, hmem, hlost⟩
    by_cases hid : x.audit.id = r.audit.id
    · obtain rfl := hs.section_eq hx hr hid
      exact .inl hlost
    · have hmem := (List.mem_cons.mp hmem).resolve_left hid
      exact .inr ⟨x, (mem_sections_reseated hrows hid).mpr hx, hmem, hlost⟩
  · rintro (hlost | ⟨x, hx, hmem, hlost⟩)
    · exact ⟨r, hr, List.mem_cons_self, hlost⟩
    · have hid : x.audit.id ≠ r.audit.id := fun e => hkey (e ▸ hmem)
      exact ⟨x, (mem_sections_reseated hrows hid).mp hx, List.mem_cons_of_mem _ hmem, hlost⟩

/-- Sections are recounted as they would be otherwise, or one of them is lost. -/
theorem foldlM_saveSeats_amid {m : SeatMove} {snapshot : Snapshot} {keys : List Uuid}
    {actor : String} {now : Instant} (hs : s.Conforms) (hkeys : keys.Nodup)
    (hread : ReadFrom s snapshot keys) (h : keys.foldlM (fun s key => do
      let e ← readSection snapshot key s
      saveSeats {} m e actor now s) s = .ok s') :
    Amid (SeatsLost overtaken s keys)
      (keys.foldlM (fun s key => do
        let e ← readSection snapshot key s
        saveSeats {} m e actor now s) s)
      (keys.foldlM (fun s key => do
        let e ← readSection snapshot key s
        saveSeats { overtaken } m e actor now s) s) := by
  induction keys generalizing s with
  | nil =>
    exact .of_spared (not_seatsLost_nil overtaken) rfl
  | cons key keys ih =>
    obtain ⟨hkey, hnodup⟩ := List.nodup_cons.mp hkeys
    rw [List.foldlM_cons] at h ⊢
    rw [List.foldlM_cons]
    obtain ⟨s₁, hstep, htail⟩ := bind_eq_ok_iff.mp h
    obtain ⟨e, he, hsave⟩ := bind_eq_ok_iff.mp hstep
    obtain ⟨r, hr, rfl, a, b, rfl⟩ := exists_row_of_read hread List.mem_cons_self he
    obtain ⟨hrows₁, hs₁, -⟩ := saveSeats_eq_ok hs hr hsave
    have hread₁ := hread.of_reseated hrows₁ hkey
    -- the later sections are still as they were, so what is lost of them now was lost before
    refine Amid.congr (.bind ?_ hstep (ih hs₁ hnodup hread₁ htail))
      (seatsLost_cons_iff overtaken hs hr hkey hrows₁)
    rw [he, ok_bind, ok_bind]
    exact saveSeats_amid overtaken hs hr hsave

/-! ### The writes of a course -/

/-- How the seat moves when a course takes the place of another; either may be missing. -/
def seatMove (old new : Option Course) : SeatMove :=
  .ofSeats (old.bind fun o => Entity.seat (.course o)) (new.bind fun c => Entity.seat (.course c))

theorem moveSeats_amid {snapshot : Snapshot} {old : Option Course} {new : Course} {now : Instant}
    (hs : s.Conforms) (hread : ∀ sec ∈ snapshot.sections, ∃ r ∈ s.sections, s.joined r = sec)
    (h : moveSeats {} snapshot old new now s = .ok s') :
    Amid (SeatsLost overtaken s (seatMove old (some new)).sections)
      (moveSeats {} snapshot old new now s) (moveSeats { overtaken } snapshot old new now s) := by
  unfold moveSeats at h ⊢
  obtain ⟨st, hst, hfold⟩ := bind_eq_ok_iff.mp h
  rw [hst, ok_bind, ok_bind]
  rw [between_eq_ofSeats_of_state (mapError_eq_ok_iff.mp hst)] at hfold ⊢
  exact foldlM_saveSeats_amid overtaken hs (SeatMove.nodup_sections_ofSeats _ _)
    (readFrom_of_joined hread) hfold

theorem giveBack_amid {c : Course} {actor : String} {now : Instant} (hs : s.Conforms)
    (h : giveBack {} actor now s (.course c) = .ok s') :
    Amid (SeatsLost overtaken s (seatMove (some c) none).sections)
      (giveBack {} actor now s (.course c)) (giveBack { overtaken } actor now s (.course c)) := by
  have hmove : seatMove (some c) none = .ofSeats (c.state.toOption.bind CourseState.seat) none :=
    rfl
  rw [hmove]
  cases hseat : c.state.toOption.bind CourseState.seat with
  | none =>
    refine .of_spared (not_seatsLost_nil overtaken) ?_
    simp only [giveBack, hseat]
  | some key =>
    simp only [giveBack, hseat] at h ⊢
    obtain ⟨sec, hsec, hsave⟩ := bind_eq_ok_iff.mp h
    rw [hsec, ok_bind, ok_bind]
    unfold fetchSection at hsec
    split at hsec <;> cases hsec
    rename_i hfound
    obtain ⟨r, hr, rfl, rfl⟩ := exists_row_of_findSection hfound
    refine (saveSeats_amid overtaken hs hr hsave).congr ?_
    constructor
    · rintro ⟨x, hx, hmem, hlost⟩
      obtain rfl := hs.section_eq hx hr (List.mem_singleton.mp hmem)
      exact hlost
    · exact fun hlost => ⟨r, hr, List.mem_singleton_self _, hlost⟩

theorem mem_of_reseated {m : SeatMove} {keys : List Uuid} {actor : String} {now : Instant}
    {key : Uuid} (hrows : s'.rows = s.rows.map (Row.reseated m keys actor now)) (hq : q ∈ s.rows)
    (hat : q.isAt .courses key = true) : q ∈ s'.rows := by
  have hsame : q.reseated m keys actor now = q := reseated_eq_self (k := .course) nofun hat
  rw [hrows, ← hsame]
  exact List.mem_map_of_mem hq

theorem create_amid {clock : Clock} {c : Course} {answer : Entity × Store} (hs : s.Conforms)
    (h : create {} clock (.course c) s = .ok answer) :
    Amid (SeatsLost overtaken s (seatMove none (some c)).sections)
      (create {} clock (.course c) s) (create { overtaken } clock (.course c) s) := by
  unfold create at h ⊢
  obtain ⟨part, hload, h⟩ := bind_eq_ok_iff.mp h
  obtain ⟨_, hreview, h⟩ := bind_eq_ok_iff.mp h
  obtain ⟨s₁, hmoved, -⟩ := bind_eq_ok_iff.mp h
  simp only [hload, hreview, ok_bind]
  have hread : ∀ sec ∈ part.sections, ∃ r ∈ s.sections, s.joined r = sec := fun sec hsec =>
    exists_row_of_mem_load hs (mapError_eq_ok_iff.mp hload) hsec
  exact (moveSeats_amid overtaken hs hread hmoved).bind_same

theorem update_amid {clock : Clock} {c old : Course} {answer : Entity × Store} (hs : s.Conforms)
    (hfind : s.find .course c.audit.id = .ok (some (.course old))) (hq : q ∈ s.rows)
    (hat : q.isAt .courses c.audit.id = true)
    (h : update {} clock (.course c) s = .ok answer) :
    Amid (SeatsLost overtaken s (seatMove (some old) (some c)).sections ∨
        overtaken .update q = true)
      (update {} clock (.course c) s) (update { overtaken } clock (.course c) s) := by
  have hid : old.audit.id = c.audit.id := (exists_row_of_find hfind).matches.2
  have hfetch : fetch (Entity.course c).kind (audit (Entity.course c)).id s = .ok (.course old) :=
    fetch_eq_ok hfind
  unfold update at h ⊢
  rw [hfetch, ok_bind] at h ⊢
  rw [ok_bind]
  obtain ⟨part, hload, h⟩ := bind_eq_ok_iff.mp h
  obtain ⟨_, hreview, h⟩ := bind_eq_ok_iff.mp h
  obtain ⟨next, hnext, h⟩ := bind_eq_ok_iff.mp h
  obtain ⟨s₁, hmoved, h⟩ := bind_eq_ok_iff.mp h
  obtain ⟨s₂, hwrite, -⟩ := bind_eq_ok_iff.mp h
  obtain ⟨-, rfl⟩ := touch_eq_ok_iff.mp hnext
  simp only [hload, hreview, hnext, ok_bind]
  have hread : ∀ sec ∈ part.sections, ∃ r ∈ s.sections, s.joined r = sec := fun sec hsec =>
    exists_row_of_mem_load hs (mapError_eq_ok_iff.mp hload) hsec
  obtain ⟨-, hrows₁, hs₁, -⟩ := reseated_of_moveSeats hs hread hmoved
  have hq₁ : q ∈ s₁.rows := mem_of_reseated hrows₁ hq hat
  have hamid := moveSeats_amid overtaken hs hread hmoved
  refine hamid.bind hmoved (writeRow_amid overtaken hs₁ hq₁ ?_ hwrite).bind_same
  rw [Entity.audit_withAudit]
  exact hid ▸ hat

theorem delete_amid {now : Instant} {key : Uuid} {actor : String} {old : Course} (hs : s.Conforms)
    (hfind : s.find .course key = .ok (some (.course old))) (hq : q ∈ s.rows)
    (hat : q.isAt .courses key = true) (h : delete {} now .course key actor s = .ok s') :
    Amid (SeatsLost overtaken s (seatMove (some old) none).sections)
      (if overtaken .delete q then .error (.notFound .course key) else .ok s')
      (delete { overtaken } now .course key actor s) := by
  unfold delete at h ⊢
  rw [fetch_eq_ok hfind, ok_bind] at h ⊢
  obtain ⟨s₁, hgive, h⟩ := bind_eq_ok_iff.mp h
  obtain ⟨hrows₁, hs₁, -⟩ := reseated_of_giveBack hs hgive
  obtain ⟨found, hremove, h⟩ := bind_eq_ok_iff.mp h
  cases found with
  | none => cases h
  | some s₂ =>
    obtain rfl := pure_eq_ok_iff.mp h
    have halone : ∀ r, Row.refersTo r .courses key .cascade = false := fun r =>
      Bool.eq_false_iff.mpr fun hrefers => by cases (refersTo_cascade_iff.mp hrefers).1
    have hremove := remove_amid overtaken hs₁ (mem_of_reseated hrows₁ hq hat) hat
      halone (mapError_eq_ok_iff.mp hremove)
    have hgiven := giveBack_amid overtaken hs hgive
    refine ⟨fun hspared => ?_, fun hlost => ?_⟩
    · have hremove : (detach { overtaken } s₁ (.course old)).remove { overtaken }
          (tableOf .course) key = .ok (if overtaken .delete q then none else some s₂) := hremove
      rw [hgiven.kept hspared, hgive, ok_bind, hremove, mapError_ok, ok_bind]
      cases overtaken .delete q <;> rfl
    · obtain ⟨id, version, hgone⟩ := hgiven.outdated hlost
      exact ⟨id, version, by rw [hgone]; rfl⟩

/-! ### Calls -/

/-- What a call comes to amid other writers. -/
def Call.answerAmid (call : Call) (overtaken : Event → Row → Bool) (s : Store) :
    Except Failure (Option Entity × Store) := call.command.perform { overtaken } call.clock s

/-- The store after a call amid other writers. -/
def Call.afterAmid (call : Call) (overtaken : Event → Row → Bool) (s : Store) : Store :=
  match call.answerAmid overtaken s with
  | .ok (_, s') => s'
  | .error _ => s

/-- A call writes a course: a new one or the next revision of a stored one, which the rules accept,
or the removal of a stored one. The course that was stored before is given, and the one that is to
be stored. -/
inductive WritesCourse (call : Call) (s : Store) : Option Course → Option Course → Prop where
  | created {c : Course} {part : Snapshot} (hcommand : call.command = .create (.course c))
      (hfresh : ¬ s.Has .courses c.audit.id) (hload : s.load (.course c) none = .ok part)
      (hreview : (Entity.course c).reviewNew part.lookup call.clock.review = .ok ()) :
      WritesCourse call s none (some c)
  | updated {c old : Course} {part : Snapshot} (hcommand : call.command = .update (.course c))
      (hfind : s.find .course c.audit.id = .ok (some (.course old)))
      (hload : s.load (.course c) (some (.course old)) = .ok part)
      (hreview : (Entity.course c).reviewRevision (.course old) part.lookup call.clock.review =
        .ok ()) :
      WritesCourse call s (some old) (some c)
  | deleted {key : Uuid} {actor : String} {old : Course}
      (hcommand : call.command = .delete .course key actor)
      (hfind : s.find .course key = .ok (some (.course old))) :
      WritesCourse call s (some old) none

/-- A stored row that the write of a course is to replace or to remove: a section between which its
seat moves, or its own. -/
inductive Changes (s : Store) : Option Course → Option Course → Event → Row → Prop where
  | seat {old new : Option Course} {r : SectionRow} (hr : r ∈ s.sections)
      (hmoves : r.audit.id ∈ (seatMove old new).sections) : Changes s old new .update (.section r)
  | revision {old new : Course} {r : CourseRow} (hr : r ∈ s.courses)
      (hid : r.audit.id = old.audit.id) : Changes s (some old) (some new) .update (.course r)
  | removal {old : Course} {r : CourseRow} (hr : r ∈ s.courses)
      (hid : r.audit.id = old.audit.id) : Changes s (some old) none .delete (.course r)

/-- A row that the write of a course is to replace, or to remove, is lost to another writer. -/
def Loses (s : Store) (old new : Option Course) (event : Event) :
    Prop :=
  ∃ q, Changes s old new event q ∧ overtaken event q = true

section Loses

variable {old new : Option Course} {o c : Course} {r : CourseRow}

theorem loses_update_of_seatsLost (h : SeatsLost overtaken s (seatMove old new).sections) :
    Loses overtaken s old new .update := by
  obtain ⟨r, hr, hmoves, hlost⟩ := h
  exact ⟨_, .seat hr hmoves, hlost⟩

theorem loses_update_created_iff : Loses overtaken s none (some c) .update ↔
    SeatsLost overtaken s (seatMove none (some c)).sections := by
  refine ⟨?_, loses_update_of_seatsLost overtaken⟩
  rintro ⟨_, ⟨hr, hmoves⟩, hlost⟩
  exact ⟨_, hr, hmoves, hlost⟩

theorem loses_update_deleted_iff : Loses overtaken s (some o) none .update ↔
    SeatsLost overtaken s (seatMove (some o) none).sections := by
  refine ⟨?_, loses_update_of_seatsLost overtaken⟩
  rintro ⟨_, ⟨hr, hmoves⟩, hlost⟩
  exact ⟨_, hr, hmoves, hlost⟩

variable (hs : s.Conforms) (hr : r ∈ s.courses) (hid : r.audit.id = o.audit.id)
include hs hr hid

theorem loses_update_updated_iff : Loses overtaken s (some o) (some c) .update ↔
    SeatsLost overtaken s (seatMove (some o) (some c)).sections ∨
      overtaken .update (.course r) = true := by
  constructor
  · rintro ⟨_, ⟨hx, hmoves⟩ | ⟨hx, hxid⟩, hlost⟩
    · exact .inl ⟨_, hx, hmoves, hlost⟩
    · obtain rfl := hs.course_eq hx hr (hxid.trans hid.symm)
      exact .inr hlost
  · rintro (hlost | hlost)
    · exact loses_update_of_seatsLost overtaken hlost
    · exact ⟨_, .revision hr hid, hlost⟩

theorem loses_delete_deleted_iff : Loses overtaken s (some o) none .delete ↔
    overtaken .delete (.course r) = true := by
  constructor
  · rintro ⟨_, ⟨⟩ | ⟨⟩ | ⟨hx, hxid⟩, hlost⟩
    obtain rfl := hs.course_eq hx hr (hxid.trans hid.symm)
    exact hlost
  · exact fun hlost => ⟨_, .removal hr hid, hlost⟩

end Loses

/-! ### As a whole or not at all -/

section WritesCourse

variable {call : Call} {old new : Option Course}

theorem exists_course_of_find {key : Uuid} {c : Course}
    (h : s.find .course key = .ok (some (.course c))) :
    ∃ r ∈ s.courses, r.audit.id = key ∧ c.audit.id = key := by
  have hheld := exists_row_of_find h
  have hid : c.audit.id = key := hheld.matches.2
  obtain ⟨q, hq, hat, -⟩ := hheld
  obtain ⟨r, rfl, hr⟩ := exists_course_of_isAt hat
  exact ⟨r, mem_typed_iff.mpr hq, hr, hid⟩

theorem WritesCourse.succeeds (hs : Reachable s) (hnext : ¬ Exhausted s)
    (h : WritesCourse call s old new) : call.Succeeds s := by
  cases h with
  | @created c part hcommand hfresh hload hreview =>
    have hfresh : ∀ q ∈ s.rows, q.isAt (tableOf (Entity.course c).kind) c.audit.id = false :=
      fun q hq => Bool.eq_false_iff.mpr fun hat => hfresh ⟨q, hq, hat⟩
    obtain ⟨s', -, -, hcreate⟩ :=
      (create_cases (e := .course c) hs hfresh hload hreview).resolve_right fun h => hnext h.2
    refine ⟨(some (.course c), s'), ?_⟩
    simp only [Call.answer, hcommand, Command.perform, hcreate]
    rfl
  | @updated c o part hcommand hfind hload hreview =>
    obtain ⟨s', _, a, rfl, -, -, hupdate⟩ :=
      (update_cases (e := .course c) hs hfind hload hreview).resolve_right fun h => hnext h.2
    refine ⟨(some ((Entity.course c).withAudit a), s'), ?_⟩
    simp only [Call.answer, hcommand, Command.perform, hupdate]
    rfl
  | @deleted key actor o hcommand hfind =>
    obtain ⟨s', hdelete⟩ := exists_delete actor call.clock.write hs.conforms
      (fun r hr => version_lt_of_not_exhausted hnext hr) (exists_row_of_find hfind)
      (not_referenced_course s key)
    refine ⟨(none, s'), ?_⟩
    simp only [Call.answer, hcommand, Command.perform, hdelete]
    rfl

/-- What the write of a course comes to amid other writers: it fails as outdated if a row that it is
to replace is lost; if only the row that it is to remove is lost, there is no such course any more;
and otherwise it is done. -/
theorem WritesCourse.amid (hs : Reachable s) (hnext : ¬ Exhausted s)
    (h : WritesCourse call s old new) (overtaken : Event → Row → Bool) : ∃ x,
      Amid (Loses overtaken s old new .update) x (call.answerAmid overtaken s) ∧
      (¬ Loses overtaken s old new .delete → x = call.answer s) ∧
      (Loses overtaken s old new .delete →
        ∃ o ∈ old, x = .error (.notFound .course o.audit.id)) := by
  obtain ⟨answer, hanswer⟩ := h.succeeds hs hnext
  cases h with
  | @created c part hcommand hfresh hload hreview =>
    refine ⟨_, ?_, fun _ => rfl, ?_⟩
    · simp only [Call.answer, Call.answerAmid, hcommand, Command.perform] at hanswer ⊢
      obtain ⟨_, hcreate, -⟩ := map_eq_ok_iff.mp hanswer
      have hamid := create_amid overtaken hs.conforms hcreate
      exact (hamid.congr (loses_update_created_iff overtaken)).map _
    · rintro ⟨_, ⟨⟩, -⟩
  | @updated c o part hcommand hfind hload hreview =>
    obtain ⟨r, hr, hrid, hoid⟩ := exists_course_of_find hfind
    have hlost := loses_update_updated_iff overtaken (c := c) hs.conforms hr (hrid.trans hoid.symm)
    refine ⟨_, ?_, fun _ => rfl, ?_⟩
    · simp only [Call.answer, Call.answerAmid, hcommand, Command.perform] at hanswer ⊢
      obtain ⟨_, hupdate, -⟩ := map_eq_ok_iff.mp hanswer
      have hamid := update_amid (q := .course r) overtaken hs.conforms hfind
        (mem_typed_iff.mp hr) (Row.isAt_iff.mpr ⟨rfl, congrArg some hrid⟩) hupdate
      exact (hamid.congr hlost).map _
    · rintro ⟨_, ⟨⟩, -⟩
  | @deleted key actor o hcommand hfind =>
    obtain ⟨r, hr, hrid, hoid⟩ := exists_course_of_find hfind
    have hlost := loses_delete_deleted_iff overtaken hs.conforms hr
      (hrid.trans hoid.symm)
    simp only [Call.answer, Call.answerAmid, hcommand, Command.perform] at hanswer ⊢
    obtain ⟨s', hdelete, -⟩ := map_eq_ok_iff.mp hanswer
    have hamid := delete_amid (q := .course r) overtaken hs.conforms hfind
      (mem_typed_iff.mp hr) (Row.isAt_iff.mpr ⟨rfl, congrArg some hrid⟩) hdelete
    have hamid := hamid.congr (loses_update_deleted_iff overtaken)
    refine ⟨_, hamid.map _, fun hspared => ?_, fun hgone => ?_⟩
    · rw [if_neg (hlost.not.mp hspared), hdelete]
    · refine ⟨o, rfl, ?_⟩
      rw [if_pos (hlost.mp hgone), hoid]
      rfl

end WritesCourse

/-- **The write of a course that loses a race leaves nothing behind**, as long as no stored row is
in the greatest version. If no row that it is to replace or to remove is lost, it is done as a
whole, as it is if no other writer comes first. If one that it is to replace is lost, the answer is
a conflict, and if only the one that it is to remove is lost, the course is not found; and then
nothing changes, nor do the sections between which its seat moves. -/
theorem course_write_amid (hs : Reachable s)
    (hversions : ∀ q ∈ s.rows, q.version ≠ some Int32.maxValue)
    {call : Call} {old new : Option Course}
    (h : WritesCourse call s old new) (overtaken : Event → Row → Bool) :
    (¬ Loses overtaken s old new .update → ¬ Loses overtaken s old new .delete →
      call.Succeeds s ∧ call.answerAmid overtaken s = call.answer s ∧
        Step call s (call.afterAmid overtaken s)) ∧
    (Loses overtaken s old new .update → ∃ f id version,
      f = Failure.refused (.conflict (.outdated id version)) ∧ f.isConflict = true ∧
        call.answerAmid overtaken s = .error f ∧ call.afterAmid overtaken s = s) ∧
    (Loses overtaken s old new .delete → ¬ Loses overtaken s old new .update → ∃ o ∈ old,
      call.answerAmid overtaken s = .error (.notFound .course o.audit.id) ∧
        call.afterAmid overtaken s = s) := by
  have hnext : ¬ Exhausted s := fun ⟨q, hq, hversion⟩ => hversions q hq hversion
  obtain ⟨x, hamid, hspared, hgone⟩ := h.amid hs hnext overtaken
  refine ⟨fun hupdates hdelete => ?_, fun hupdate => ?_, fun hdelete hupdates => ?_⟩
  · have hsame : call.answerAmid overtaken s = call.answer s := by
      rw [hamid.kept hupdates, hspared hdelete]
    obtain ⟨⟨found, s'⟩, hdone⟩ := h.succeeds hs hnext
    have hafter : call.afterAmid overtaken s = call.after s := by
      rw [Call.afterAmid, hsame, hdone, Call.after_of_ok hdone]
    exact ⟨⟨_, hdone⟩, hsame, hafter ▸ step_after hs.conforms call⟩
  · obtain ⟨id, version, hanswer⟩ := hamid.outdated hupdate
    refine ⟨_, id, version, rfl, rfl, hanswer, ?_⟩
    rw [Call.afterAmid, hanswer]
  · obtain ⟨o, ho, hx⟩ := hgone hdelete
    have hanswer := (hamid.kept hupdates).trans hx
    refine ⟨o, ho, hanswer, ?_⟩
    rw [Call.afterAmid, hanswer]

namespace Sample

open Enrollment.Sample

/-- Another writer comes first for every row of a table that is to be replaced. -/
def revisedFirst (t : Table) (event : Event) (q : Row) : Bool := event = .update && q.table = t

/-- Another writer comes first for everything that is to be removed. -/
def removedFirst (event : Event) (_ : Row) : Bool := event = .delete

def courseRow : CourseRow :=
  ⟨block 8, ident 6, ident 1, ident 4, "REGISTERED", some (ident 7), none⟩

/-- A call fails with a conflict amid other writers, and leaves nothing behind. -/
def Conflicts (call : Call) (overtaken : Event → Row → Bool) (s : Store) : Prop :=
  ∃ f, f.isConflict = true ∧ call.answerAmid overtaken s = .error f ∧ call.afterAmid overtaken s = s

end Sample

/-- The student is to leave the section, or the course is to be removed. The section is lost before
its counter falls, or the course after that. To one who removes the course, it does not matter who
revises courses. -/
theorem course_write_of_sample : let s := storeAfter Sample.calls
    let leaves := Call.mk (.still Sample.noon) (.update Sample.left)
    let goes := Call.mk (.still Sample.noon) (.delete .course (Sample.ident 8) "registrar")
    Sample.Conflicts leaves (Sample.revisedFirst .sections) s ∧
    Sample.Conflicts leaves (Sample.revisedFirst .courses) s ∧
    Sample.Conflicts goes (Sample.revisedFirst .sections) s ∧
    (goes.answerAmid Sample.removedFirst s = .error (.notFound .course (Sample.ident 8)) ∧
      goes.afterAmid Sample.removedFirst s = s) ∧
    goes.answerAmid (Sample.revisedFirst .courses) s = goes.answer s := by
  intro s leaves goes
  have hs : Reachable s := reachable_storeAfter Sample.calls
  have hversions : ∀ q ∈ s.rows, q.version ≠ some Int32.maxValue := by decide +kernel
  have hfind : s.find .course (Sample.ident 8) = .ok (some (.course Sample.course)) := by
    decide +kernel
  have hr : Sample.courseRow ∈ s.courses := by decide +kernel
  have hsection : Sample.sectionRow ∈ s.sections := by decide +kernel
  have hgoes : WritesCourse goes s (some Sample.course) none := .deleted rfl hfind
  obtain ⟨part, hload⟩ := exists_load hs.readable Sample.left (some (.course Sample.course))
  have hreview := verdict_of_load
    (fun part => Sample.left.reviewRevision (.course Sample.course) part.lookup Sample.noon) hload
    (by decide +kernel)
  have hleaves : WritesCourse leaves s (some Sample.course)
      (some { Sample.course with status := .dropped }) := .updated rfl hfind hload hreview
  have hconflicts : ∀ {call old new} overtaken, WritesCourse call s old new →
      Loses overtaken s old new .update → Sample.Conflicts call overtaken s := by
    intro call old new overtaken hwrites hloses
    obtain ⟨f, _, _, -, hf, hdone⟩ :=
      (course_write_amid hs hversions hwrites overtaken).2.1 hloses
    exact ⟨f, hf, hdone⟩
  refine ⟨?_, ?_, ?_, ?_, ?_⟩
  · exact hconflicts _ hleaves ⟨_, .seat hsection (by decide +kernel), rfl⟩
  · exact hconflicts _ hleaves ⟨_, .revision hr rfl, rfl⟩
  · exact hconflicts _ hgoes ⟨_, .seat hsection (by decide +kernel), rfl⟩
  · obtain ⟨-, -, hgone⟩ := course_write_amid hs hversions hgoes Sample.removedFirst
    obtain ⟨o, ho, hanswer, hafter⟩ := hgone ⟨_, .removal hr rfl, rfl⟩ fun ⟨q, _, hlost⟩ => by
      cases hlost
    obtain rfl := Option.some.inj ho
    exact ⟨hanswer, hafter⟩
  · obtain ⟨hdone, -, -⟩ := course_write_amid hs hversions hgoes (Sample.revisedFirst .courses)
    refine (hdone ?_ ?_).2.1
    · rintro ⟨_, ⟨hx, -⟩, hlost⟩
      cases hlost
    · rintro ⟨_, _, hlost⟩
      cases hlost

end Registrar

end Enrollment
