import Enrollment.Proofs.Registrar.Effect
import Enrollment.Proofs.Store.Acceptance

/-! # Seats that can be moved

A seat is given back in a section that is stored, and taken in one that has a seat left. The rules
look at both, so the seats of a course that they accept can be moved, as long as there is a next
version for the sections.

* `fits_recounted`: a section fits with another counter where it does with its own.
* `moveSeatsOf_cases`: seats move where there is room, or a version is missing.
* `canMove_of_mayStand`: there is room for what is accepted. -/

namespace Enrollment

theorem Entity.seat_withAudit (e : Entity) (a : Audit) : (e.withAudit a).seat = e.seat := by
  cases e <;> rfl

theorem Entity.hasState_withAudit (e : Entity) (a : Audit) (h : e.HasState) :
    (e.withAudit a).HasState := by cases e <;> exact h

namespace Registrar

open Store

variable {s s' : Store} {key : Uuid}

/-! ### Where there is room -/

theorem currentCapacity_nonneg (hs : s.Conforms) {r : SectionRow} (hr : r ∈ s.sections) :
    0 ≤ r.currentCapacity := by
  have hunmet := Row.unmet_eq_none_iff.mp (hs.conditions _ (mem_typed_iff.mp hr))
  have hadmits := hunmet (.currentCapacity, .atLeast 0) (mem_conditions_sections_iff.mpr (.inr rfl))
  exact Int32.le_iff_toInt_le.mpr (of_decide_eq_true hadmits)

theorem fits_recounted {r : SectionRow} {a : Audit} {count : Int32}
    (h : (Row.section r).Fits r.audit.id s) (ha : a.id = r.audit.id) (hcount : 0 ≤ count) :
    (Row.section { r with audit := a, currentCapacity := count }).Fits r.audit.id s where
  id_eq := congrArg some ha
  conditions c hc := by
    rcases mem_conditions_sections_iff.mp hc with rfl | rfl
    · exact h.conditions _ hc
    · exact decide_eq_true (Int32.le_iff_toInt_le.mp hcount)
  natural columns hcolumns := absurd (show columns ∈ [] from hcolumns) List.not_mem_nil
  references ref href := by
    have hold := h.references ref href
    rcases mem_references_sections_iff.mp href with rfl | rfl <;> exact hold

theorem saveSeats_cases {m : SeatMove} {r : SectionRow} (spaceTimeIds teacherIds : List Uuid)
    (actor : String) (now : Instant) (hs : s.Conforms) (hr : r ∈ s.sections)
    (hroom : m.take = some r.audit.id →
      m.release ≠ some r.audit.id ∧ r.currentCapacity < r.maxCapacity) :
    (∃ s', saveSeats {} m (r.toSection spaceTimeIds teacherIds) actor now s = .ok s') ∨
      saveSeats {} m (r.toSection spaceTimeIds teacherIds) actor now s = .error .overflow ∧
        ¬ r.audit.version < Int32.maxValue := by
  have hfull : m.take = some (r.toSection spaceTimeIds teacherIds).audit.id →
      (m.releaseIn (r.toSection spaceTimeIds teacherIds)).isFull = false := by
    intro ht
    obtain ⟨hrelease, hlt⟩ := hroom ht
    have hsame : m.releaseIn (r.toSection spaceTimeIds teacherIds) =
        r.toSection spaceTimeIds teacherIds := if_neg hrelease
    rw [hsame]
    exact decide_eq_false (Int32.not_le.mpr hlt)
  obtain ⟨moved, happly⟩ := SeatMove.exists_apply hfull
  obtain ⟨rfl, -⟩ := SeatMove.apply_eq_ok happly
  have hmoved := moveIn_of_nonneg (m := m) (e := r.toSection spaceTimeIds teacherIds)
    (currentCapacity_nonneg hs hr)
  rw [happly, mapError_ok] at hmoved
  by_cases hversion : r.audit.version < Int32.maxValue
  swap
  · have htouch : touch (r.toSection spaceTimeIds teacherIds).audit actor now =
        .error .overflow := touch_of_not_lt actor now hversion
    refine .inr ⟨?_, hversion⟩
    simp only [saveSeats, hmoved, ok_bind, htouch]
    rfl
  have hat : (Row.section r).isAt .sections r.audit.id = true := Row.isAt_iff.mpr ⟨rfl, rfl⟩
  have hcount := SeatMove.counter_nonneg (currentCapacity_nonneg hs hr) hroom
  have hfits := fits_recounted (a := r.audit.next actor now)
    (hs.fits (mem_typed_iff.mp hr) rfl) rfl hcount
  obtain ⟨s', hs'⟩ := replace_of_fits hs hfits (mem_typed_iff.mp hr) hat
    (show (Row.section r).version = some r.audit.version from rfl)
  refine .inl ⟨s', bind_eq_ok_iff.mpr ⟨_, hmoved, ?_⟩⟩
  refine bind_eq_ok_iff.mpr ⟨_, touch_of_lt actor now hversion, ?_⟩
  exact bind_eq_ok_iff.mpr ⟨_, rfl, bind_eq_ok_iff.mpr ⟨_, mapError_eq_ok_iff.mpr hs', rfl⟩⟩

theorem exists_readSection (snapshot : Snapshot) {r : SectionRow} (hr : r ∈ s.sections) :
    ∃ e, readSection snapshot r.audit.id s = .ok e := by
  unfold readSection
  cases rowById r.audit.id snapshot.sections with
  | some e => exact ⟨e, rfl⟩
  | none =>
    have hmem : r ∈ s.sections.filter (·.audit.id = r.audit.id) :=
      List.mem_filter.mpr ⟨hr, decide_eq_true rfl⟩
    cases hfound : s.findSection r.audit.id with
    | some e => exact ⟨e, by simp only [fetchSection, hfound]⟩
    | none =>
      rw [findSection, head?_selectSections, Option.map_eq_none_iff, List.head?_eq_none_iff]
        at hfound
      rw [hfound] at hmem
      cases hmem

theorem foldlM_saveSeats_cases {m : SeatMove} {snapshot : Snapshot} {keys : List Uuid}
    (actor : String) (now : Instant) (hs : s.Conforms) (hkeys : keys.Nodup)
    (hm : ∀ key, m.take = some key → m.release ≠ some key) (hread : ReadFrom s snapshot keys)
    (hroom : HasRoom s m keys) :
    let moved := keys.foldlM (fun s key => do
      let e ← readSection snapshot key s
      saveSeats {} m e actor now s) s
    (∃ s', moved = .ok s') ∨ moved = .error .overflow ∧ ¬ HasNext s keys := by
  induction keys generalizing s with
  | nil => exact .inl ⟨s, rfl⟩
  | cons key keys ih =>
    obtain ⟨hkey, hnodup⟩ := List.nodup_cons.mp hkeys
    obtain ⟨r, hr, rfl, hleft⟩ := hroom key List.mem_cons_self
    obtain ⟨e, he⟩ := exists_readSection snapshot hr
    obtain ⟨x, hx, hid, a, b, rfl⟩ := exists_row_of_read hread List.mem_cons_self he
    obtain rfl := hs.section_eq hx hr hid
    simp only [List.foldlM_cons, he, ok_bind]
    rcases saveSeats_cases a b actor now hs hx fun ht => ⟨hm _ ht, hleft ht (hm _ ht)⟩ with
      ⟨s₁, h₁⟩ | ⟨hoverflow, hversion⟩
    swap
    · rw [hoverflow]
      exact .inr ⟨rfl, fun hnext => hversion (hnext x hx List.mem_cons_self)⟩
    obtain ⟨hrows₁, hs₁, -⟩ := saveSeats_eq_ok hs hx h₁
    have hne : ∀ k ∈ keys, k ≠ x.audit.id := fun k hk hkx => hkey (hkx ▸ hk)
    have hroom₁ : HasRoom s₁ m keys := by
      intro k hk
      obtain ⟨y, hy, rfl, hleft⟩ := hroom k (List.mem_cons_of_mem _ hk)
      exact ⟨y, (mem_sections_reseated hrows₁ (hne _ hk)).mpr hy, rfl, hleft⟩
    rw [h₁, ok_bind]
    refine (ih hs₁ hnodup (hread.of_reseated hrows₁ hkey) hroom₁).imp_right
      fun ⟨hoverflow, hnext⟩ => ⟨hoverflow, fun h => hnext fun y hy hmem => ?_⟩
    exact h y ((mem_sections_reseated hrows₁ (hne _ hmem)).mp hy) (List.mem_cons_of_mem _ hmem)

/-- The sections of two seats are stored, and there is room to move from one to the other. -/
abbrev CanMove (s : Store) (before after : Option Uuid) : Prop :=
  HasRoom s (.ofSeats before after) (SeatMove.ofSeats before after).sections

theorem moveSeats_cases {snapshot : Snapshot} {old : Option Course} {new : Course} {now : Instant}
    (hs : s.Conforms) (hread : ∀ sec ∈ snapshot.sections, ∃ r ∈ s.sections, s.joined r = sec)
    (hstate : Entity.HasState (.course new))
    (hroom : CanMove s (old.bind fun o => Entity.seat (.course o)) (Entity.seat (.course new))) :
    (∃ s', moveSeats {} snapshot old new now s = .ok s') ∨
      moveSeats {} snapshot old new now s = .error .overflow ∧
        ¬ HasNext s (SeatMove.ofSeats (old.bind fun o => Entity.seat (.course o))
          (Entity.seat (.course new))).sections := by
  obtain ⟨st, hst⟩ := hstate
  have hmoved := foldlM_saveSeats_cases new.audit.updatedBy now hs
    (SeatMove.nodup_sections_ofSeats _ _) (fun _ => SeatMove.release_ne_of_take)
    (readFrom_of_joined hread) hroom
  simp only [moveSeats, hst, mapError_ok, ok_bind, between_eq_ofSeats_of_state hst]
  exact hmoved

theorem moveSeatsOf_cases {snapshot : Snapshot} {old : Option Entity} {new : Entity}
    (now : Instant) (hs : s.Conforms) (hkind : ∀ o ∈ old, o.kind = new.kind)
    (hread : ∀ sec ∈ snapshot.sections, ∃ r ∈ s.sections, s.joined r = sec)
    (hstate : new.HasState)
    (hroom : CanMove s (old.bind Entity.seat) new.seat) :
    (∃ s', moveSeatsOf {} snapshot now s old new = .ok s') ∨
      moveSeatsOf {} snapshot now s old new = .error .overflow ∧
        ¬ HasNext s (SeatMove.ofSeats (old.bind Entity.seat) new.seat).sections := by
  by_cases hc : new.kind = .course
  · obtain ⟨n, rfl⟩ := exists_course_of_kind hc
    cases old with
    | none => exact moveSeats_cases hs hread hstate hroom
    | some o =>
      obtain ⟨o, rfl⟩ := exists_course_of_kind ((hkind o rfl).trans hc)
      exact moveSeats_cases hs hread hstate hroom
  · refine .inl ⟨s, ?_⟩
    cases new
    case course => exact absurd rfl hc
    all_goals
      unfold moveSeatsOf
      split <;> first | rfl | contradiction

/-! ### Seats that an accepted course moves -/

theorem SeatMove.release_between {old : Option CourseState} {st : CourseState}
    (h : (SeatMove.between old st).release = some key) : old.bind CourseState.seat = some key := by
  simp only [SeatMove.between] at h
  split at h
  · cases h
  · exact h

theorem has_section_of_seat {k : Uuid} {c : Course} (hs : s.Conforms)
    (h : s.Holds .course k (.course c))
    (hseat : c.state.toOption.bind CourseState.seat = some key) : s.Has .sections key := by
  obtain ⟨q, hq, -, hentity⟩ := h
  have hstate : Entity.HasState (.course c) := by
    cases hst : c.state with
    | ok st => exact ⟨st, hst⟩
    | error fault => rw [hst] at hseat; cases hseat
  exact exists_isAt_of_isSeatedIn hs hq ((isSeatedIn_of_toEntity? hentity hstate).mpr hseat)

theorem canMove_of_held {kind : Kind} {k : Uuid} {e : Entity} (hs : s.Conforms)
    (h : s.Holds kind k e) : CanMove s e.seat none := by
  intro id hid
  cases e
  case course c =>
    obtain rfl : Kind.course = kind := h.matches.1
    unfold SeatMove.ofSeats at hid ⊢
    split at hid <;> rename_i hseat
    · exact absurd hid List.not_mem_nil
    · rw [if_neg hseat]
      have hseat : c.state.toOption.bind CourseState.seat = some id := by
        simpa [SeatMove.sections, Entity.seat] using hid
      obtain ⟨q, hq, hat⟩ := has_section_of_seat hs h hseat
      obtain ⟨r, rfl, hr⟩ := exists_section_of_isAt hat
      exact ⟨r, mem_typed_iff.mpr hq, hr, fun htake => by cases htake⟩
  all_goals exact absurd hid List.not_mem_nil

/-- The section that an accepted course takes a seat in has one left, and the one that it gives a
seat back in is stored. -/
theorem canMove_of_passes {whole : Snapshot} {ctx : Context} {c : Course} {old : Option Course}
    {k student subject trimester : Uuid} {st : CourseState} (hs : s.Conforms)
    (h : s.Shows whole ctx k)
    (hpasses : c.Passes (old.bind fun o => o.state.toOption) ctx student subject trimester st)
    (hheld : ∀ o ∈ old, s.Holds .course k (.course o)) :
    CanMove s (old.bind fun o => Entity.seat (.course o)) (Entity.seat (.course c)) := by
  rw [CanMove, ← between_eq_ofSeats_of_state hpasses.state]
  set m := SeatMove.between (old.bind fun o => o.state.toOption) st
  intro key hkey
  simp only [SeatMove.sections, List.mem_append, Option.mem_toList] at hkey
  rcases hkey with hrelease | htake
  · obtain ⟨st', hst', hseat⟩ := Option.bind_eq_some_iff.mp (SeatMove.release_between hrelease)
    obtain ⟨o, rfl, ho⟩ := Option.bind_eq_some_iff.mp hst'
    obtain ⟨q, hq, hat⟩ := has_section_of_seat hs (hheld o rfl) (by rw [ho]; exact hseat)
    obtain ⟨r, rfl, hid⟩ := exists_section_of_isAt hat
    exact ⟨r, mem_typed_iff.mpr hq, hid, fun _ hne => absurd hrelease hne⟩
  · obtain ⟨-, hsection, -⟩ := CourseState.of_eq_ok_iff.mp hpasses.state
    obtain ⟨sec, hsec, -⟩ := hpasses.sectionAt (hsection ▸ Course.section?_of_take htake)
    obtain ⟨r, hr, hid, rfl⟩ := h.exists_row hs hsec
    refine ⟨r, hr, hid, fun _ hne => ?_⟩
    have hseat := hpasses.seat
    rw [Course.checkSeat, show m.take = some key from htake, Option.bind_some, hsec] at hseat
    have happly : m.apply (s.joined r) = .ok (m.attempt (s.joined r)).1 :=
      map_eq_ok_iff.mpr ⟨(), hseat, rfl⟩
    have hsame : m.releaseIn (s.joined r) = s.joined r :=
      if_neg fun hrelease => hne (hrelease.trans (congrArg some hid))
    have hfull := (SeatMove.apply_eq_ok happly).2 (htake.trans (congrArg some hid.symm))
    rw [hsame] at hfull
    exact Int32.not_le.mp (of_decide_eq_false hfull)

theorem hasState_of_mayStand {e : Entity} {old : Option Entity} {ctx : Context}
    (h : e.mayStand old ctx = .ok ()) : e.HasState := by
  cases e
  case course c =>
    obtain ⟨_, hcheck⟩ := Course.check_of_accepted (Entity.accepted_of_mayStand h)
    obtain ⟨_, _, _, st, hpasses⟩ := Course.passes_of_check hcheck
    exact ⟨st, hpasses.state⟩
  all_goals trivial

theorem canMove_of_mayStand {whole : Snapshot} {ctx : Context} {e : Entity} {old : Option Entity}
    (hs : s.Conforms) (h : s.Shows whole ctx key) (hrules : e.mayStand old ctx = .ok ())
    (hheld : ∀ o ∈ old, s.Holds e.kind key o) : CanMove s (old.bind Entity.seat) e.seat := by
  have hkind : ∀ o ∈ old, o.kind = e.kind := fun o ho => (hheld o ho).matches.1
  by_cases hc : e.kind = .course
  · obtain ⟨c, rfl⟩ := exists_course_of_kind hc
    cases old with
    | none =>
      obtain ⟨_, _, _, st, hpasses⟩ := Course.passes_of_check hrules
      show CanMove s ((none : Option Course).bind fun o => Entity.seat (.course o)) _
      exact canMove_of_passes hs h hpasses fun _ ho => absurd ho (Option.not_mem_none _)
    | some o =>
      obtain ⟨o, rfl⟩ := exists_course_of_kind ((hkind o rfl).trans hc)
      obtain ⟨_, _, _, st, hpasses⟩ := Course.passes_of_check hrules
      show CanMove s ((some o).bind fun o => Entity.seat (.course o)) _
      refine canMove_of_passes hs h hpasses fun x hx => ?_
      obtain rfl := Option.some.inj hx
      exact hheld _ rfl
  · rw [bind_seat_eq_none hkind hc, Entity.seat_eq_none hc]
    exact fun _ hkey => absurd hkey List.not_mem_nil

end Registrar

end Enrollment
