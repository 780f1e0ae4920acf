import Enrollment.Proofs.Registrar.Frame
import Mathlib.Data.Nat.Init

/-! # Versions of rows

A call either keeps a row, together with what a section is joined to, or raises its version by one.
So the version of a row tells all that a client may have read of it, for as long as the row is
stored, and an update that was made from an old version comes too late.

* `Step.revised`: a row is kept by a call, or its version rises.
* `kept_or_lt`: the same over any part of a lifetime, as long as no version overflows.
* `no_lost_update`: updates are made from what is stored. -/

namespace Enrollment.Registrar

open Store

variable {s s' : Store} {kind : Kind} {key : Uuid} {r r' : Row}

/-! ### One call -/

/-- A row is the same after a call, and a section is joined to the same. -/
structure Kept (s s' : Store) (kind : Kind) (key : Uuid) (r r' : Row) : Prop where
  row : r' = r
  links : kind = .section →
    s'.spaceTimeIds key = s.spaceTimeIds key ∧ s'.teacherIds key = s.teacherIds key

theorem reseated_cases (m : SeatMove) (keys : List Uuid) (actor : String) (now : Instant)
    (q : Row) : q.reseated m keys actor now = q ∨
      (q.reseated m keys actor now).version = q.version.map (· + 1) := by
  cases q
  case «section» x =>
    by_cases hx : x.audit.id ∈ keys
    · right; rw [Row.reseated, SectionRow.reseated, if_pos hx]; rfl
    · left; rw [Row.reseated, SectionRow.reseated, if_neg hx]
  all_goals exact .inl rfl

theorem Stays.kept {call : Call} (h : Stays call s s' r r')
    (hat : r.isAt (tableOf kind) key = true) :
    Kept s s' kind key r r' ∨ r'.version = r.version.map (· + 1) := by
  obtain ⟨m, keys, actor, now, hrow⟩ := h.reseated
  have hcases : r' = r ∨ r'.version = r.version.map (· + 1) :=
    hrow ▸ reseated_cases m keys actor now r
  refine hcases.imp_left fun hsame => ⟨hsame, ?_⟩
  rintro rfl
  exact joined_congr (h.joins_eq key hat)

/-- **A revision is made from the stored version**, and stored in the next one. -/
theorem Updated.raised {clock : Clock} {e old new : Entity} (hs : s.Conforms)
    (h : Updated clock e old new s s') (hr : r ∈ s.rows)
    (hat : r.isAt (tableOf e.kind) (audit e).id = true) (hr' : r' ∈ s'.rows)
    (hat' : r'.isAt (tableOf e.kind) (audit e).id = true) :
    r.version = some (audit e).version ∧ r'.version = some ((audit e).version + 1) := by
  obtain ⟨row, hrow, hrowMem, hrowAt⟩ := h.exists_row hs
  obtain ⟨x, hx, hxat, hxold⟩ := h.held
  obtain ⟨snapshot, -, hreview⟩ := h.reviewed
  have hversion := (Entity.reviewRevision_eq_ok_iff.mp hreview).1.2.2
  obtain rfl := h.conforms.eq_of_isAt hr' hrowMem hat' hrowAt
  obtain rfl := hs.eq_of_isAt hr hx hat hxat
  constructor
  · rw [(matches_of_toEntity? hxold).version_eq, hversion]
  · rw [Row.version, Row.audit?_settled, ← Row.version, (matches_ofEntity hrow).version_eq,
      h.new_eq, Entity.audit_withAudit, ← hversion]
    rfl

theorem Updated.counter {clock : Clock} {sec : Section} {old new : Entity} {r r' : SectionRow}
    (hs : s.Conforms) (h : Updated clock (.section sec) old new s s') (hr : r ∈ s.sections)
    (hid : r.audit.id = sec.audit.id) (hr' : r' ∈ s'.sections) (hid' : r'.audit.id = sec.audit.id) :
    r.currentCapacity = sec.currentCapacity ∧ r'.currentCapacity = sec.currentCapacity := by
  obtain ⟨row, hrow, hrowMem, hrowAt⟩ := h.exists_row hs
  obtain ⟨x, hx, hxat, hxold⟩ := h.held
  obtain ⟨snapshot, -, hreview⟩ := h.reviewed
  have hrow' : row.settled = .section r' := h.conforms.eq_of_isAt hrowMem (mem_typed_iff.mp hr')
    hrowAt (Row.isAt_iff.mpr ⟨rfl, congrArg some hid'⟩)
  obtain rfl : x = .section r := hs.eq_of_isAt hx (mem_typed_iff.mp hr) hxat
    (Row.isAt_iff.mpr ⟨rfl, congrArg some hid⟩)
  obtain ⟨c, rfl, hc⟩ := section_of_ofEntity hrow hrow'
  obtain ⟨-, -, -, -, hcounter⟩ := SectionRow.of_eq_ok_iff.mp hc
  obtain rfl := Except.ok.inj (Option.some.inj hxold)
  obtain rfl := Entity.section.inj h.new_eq
  obtain ⟨hkept, -⟩ :=
    Section.counter_of_mayReplace (Entity.reviewRevision_eq_ok_iff.mp hreview).2.2
  exact ⟨hkept.symm, hcounter⟩

/-- **A row is kept by a call, or its version rises.** -/
theorem Step.revised {call : Call} (h : Step call s s') (hs : s.Conforms) (hr : r ∈ s.rows)
    (hat : r.isAt (tableOf kind) key = true) (hr' : r' ∈ s'.rows)
    (hat' : r'.isAt (tableOf kind) key = true) :
    Kept s s' kind key r r' ∨ r'.version = r.version.map (· + 1) := by
  rcases h.stays_or_revised hs hr hat hr' hat' with h | ⟨e, _, _, _, h, rfl, rfl, -⟩
  · exact h.kept hat
  · obtain ⟨hv, hv'⟩ := h.raised hs hr hat hr' hat'
    exact .inr (by rw [hv, hv']; rfl)

/-! ### Runs -/

theorem exists_version (h : r.isAt (tableOf kind) key = true) : ∃ v, r.version = some v := by
  cases r
  case sectionSpaceTime => cases kind <;> cases h
  case sectionTeacher => cases kind <;> cases h
  all_goals exact ⟨_, rfl⟩

/-- No version that is stored in a run is the last. -/
def VersionsBelow (calls : List Call) : Prop :=
  ∀ n ≤ calls.length, ∀ r ∈ (storeAt calls n).rows, ∀ v ∈ r.version, v < Int32.maxValue

instance (calls : List Call) : Decidable (VersionsBelow calls) :=
  -- there is one version at most to look at, not all the numbers there are
  letI (r : Row) : Decidable (∀ v ∈ r.version, v < Int32.maxValue) := Option.decidableForallMem _
  inferInstanceAs (Decidable (∀ n ≤ calls.length, ∀ r ∈ (storeAt calls n).rows,
    ∀ v ∈ r.version, v < Int32.maxValue))

/-- **Over a part of a lifetime** a row is kept, or its version rises. -/
theorem kept_or_lt {calls : List Call} (hv : VersionsBelow calls) {i j : Nat} (hij : i ≤ j)
    (hj : j ≤ calls.length) (hstored : StoredThroughout calls (tableOf kind) key i j)
    (hr : r ∈ (storeAt calls i).rows) (hat : r.isAt (tableOf kind) key = true)
    (hr' : r' ∈ (storeAt calls j).rows) (hat' : r'.isAt (tableOf kind) key = true) :
    Kept (storeAt calls i) (storeAt calls j) kind key r r' ∨
      ∃ v ∈ r.version, ∃ w ∈ r'.version, v < w := by
  induction j, hij using Nat.le_induction generalizing r' with
  | base =>
    have hs := (reachable_storeAt calls i).conforms
    exact .inl ⟨hs.eq_of_isAt hr' hr hat' hat, fun _ => ⟨rfl, rfl⟩⟩
  | succ n hin ih =>
    have hs := (reachable_storeAt calls n).conforms
    obtain ⟨x, hx, hxat⟩ := hstored n hin (Nat.le_succ n)
    have hlast := ih (by omega) (fun k hik hkn => hstored k hik (by omega)) hx hxat
    have hstep : Kept (storeAt calls n) (storeAt calls (n + 1)) kind key x r' ∨
        r'.version = x.version.map (· + 1) := by
      rcases step_storeAt calls n hs with ⟨call, -, hstep⟩ | ⟨-, hsame⟩
      · exact hstep.revised hs hx hxat hr' hat'
      · rw [hsame] at hr' ⊢
        exact .inl ⟨hs.eq_of_isAt hr' hx hat' hxat, fun _ => ⟨rfl, rfl⟩⟩
    rcases hstep with ⟨rfl, hlinks⟩ | hraised
    · refine hlast.imp_left fun hkept => ⟨hkept.row, fun hk => ?_⟩
      rw [(hlinks hk).1, (hlinks hk).2]
      exact hkept.links hk
    · -- the version of the last row is below the greatest, so the next one is above it
      obtain ⟨v, hxv⟩ := exists_version hxat
      have hbelow := hv n (by omega) x hx v hxv
      have hlt := lt_add_one_of_lt hbelow
      have hr'v : v + 1 ∈ r'.version := by rw [hraised, hxv]; rfl
      right
      rcases hlast with hkept | ⟨u, hu, w, hw, huw⟩
      · exact ⟨v, hkept.row ▸ hxv, v + 1, hr'v, hlt⟩
      · obtain rfl := Option.some.inj (hw.symm.trans hxv)
        exact ⟨u, hu, w + 1, hr'v, Int32.lt_trans huw hlt⟩

/-- In a lifetime, one version is one state. -/
theorem kept_of_version_eq {calls : List Call} (hv : VersionsBelow calls) {i j : Nat} (hij : i ≤ j)
    (hj : j ≤ calls.length) (hstored : StoredThroughout calls (tableOf kind) key i j)
    (hr : r ∈ (storeAt calls i).rows) (hat : r.isAt (tableOf kind) key = true)
    (hr' : r' ∈ (storeAt calls j).rows) (hat' : r'.isAt (tableOf kind) key = true)
    (hversion : r'.version = r.version) :
    Kept (storeAt calls i) (storeAt calls j) kind key r r' := by
  refine (kept_or_lt hv hij hj hstored hr hat hr' hat').resolve_right ?_
  rintro ⟨v, hrv, w, hrw, hlt⟩
  rw [hversion, hrv] at hrw
  obtain rfl := Option.some.inj hrw
  exact Int32.lt_irrefl hlt

/-- A call of a run revises an entity. -/
def RevisedAt (calls : List Call) (n : Nat) (e : Entity) : Prop :=
  ∃ call, calls[n]? = some call ∧ call.command = .update e ∧ call.Succeeds (storeAt calls n)

theorem RevisedAt.lt {calls : List Call} {n : Nat} {e : Entity} (h : RevisedAt calls n e) :
    n < calls.length := by
  obtain ⟨call, hcall, -⟩ := h
  exact (List.getElem?_eq_some_iff.mp hcall).1

theorem RevisedAt.updated {calls : List Call} {n : Nat} {e : Entity} (h : RevisedAt calls n e) :
    ∃ clock old new, Updated clock e old new (storeAt calls n) (storeAt calls (n + 1)) := by
  obtain ⟨call, hcall, hcommand, hok⟩ := h
  exact ⟨_, updated_storeAt hcall hcommand hok⟩

theorem RevisedAt.exists_rows {calls : List Call} {n : Nat} {e : Entity} (h : RevisedAt calls n e) :
    ∃ r ∈ (storeAt calls n).rows, r.isAt (tableOf e.kind) (audit e).id = true ∧
      r.version = some (audit e).version ∧
    ∃ r' ∈ (storeAt calls (n + 1)).rows, r'.isAt (tableOf e.kind) (audit e).id = true ∧
      r'.version = some ((audit e).version + 1) := by
  have hs := (reachable_storeAt calls n).conforms
  obtain ⟨clock, old, new, hupdated⟩ := h.updated
  obtain ⟨r, hr, hat, -⟩ := hupdated.held
  obtain ⟨row, -, hrow, hrowAt⟩ := hupdated.exists_row hs
  obtain ⟨hversion, hversion'⟩ := hupdated.raised hs hr hat hrow hrowAt
  exact ⟨r, hr, hat, hversion, _, hrow, hrowAt, hversion'⟩

/-- **What calls keep, unless they revise something against it**, holds throughout a run iff no
revision is against it. -/
theorem throughout_iff_of_step {P : Store → Prop} {Q : Store → Entity → Prop} (hempty : P .empty)
    (hstep : ∀ {call s s'}, Step call s s' → s.Conforms → P s →
      (P s' ↔ ∀ e new, Writes call s s' e new → Q s e))
    (hfresh : ∀ {clock e s s'}, Created clock e s s' → s.Conforms → Q s e) (calls : List Call) :
    (∀ n, P (storeAt calls n)) ↔ ∀ n e, RevisedAt calls n e → Q (storeAt calls n) e := by
  constructor
  · rintro hP n e ⟨call, hcall, hcommand, hok⟩
    have h := step_of_getElem? hcall
    obtain ⟨new, hw⟩ := h.exists_writes hok (.inr hcommand)
    exact (hstep h (reachable_storeAt calls n).conforms (hP n)).mp (hP (n + 1)) e new hw
  · intro hQ n
    induction n with
    | zero => exact hempty
    | succ n ih =>
      have hs := (reachable_storeAt calls n).conforms
      rcases step_storeAt calls n hs with ⟨call, hcall, h⟩ | ⟨-, hsame⟩
      · refine (hstep h hs ih).mpr fun e new hw => ?_
        cases hw with
        | created _ _ h => exact hfresh h hs
        | updated hcommand hok _ => exact hQ n e ⟨call, hcall, hcommand, hok⟩
      · rw [hsame]
        exact ih

/-- The first of two revisions from one version leaves the second nothing to be made from. -/
theorem RevisedAt.not_storedThroughout {calls : List Call} (hv : VersionsBelow calls) {i j : Nat}
    {e e' : Entity} (h : RevisedAt calls i e) (h' : RevisedAt calls j e') (hij : i < j)
    (hkind : e'.kind = e.kind) (hid : (audit e').id = (audit e).id)
    (hversion : (audit e').version = (audit e).version) :
    ¬ StoredThroughout calls (tableOf e.kind) (audit e).id i j := by
  intro hstored
  obtain ⟨r, hr, hat, hrv, x, hx, hxat, hxv⟩ := h.exists_rows
  obtain ⟨y, hy, hyat, hyv, -⟩ := h'.exists_rows
  rw [hkind, hid] at hyat
  rw [hversion] at hyv
  have hj := Nat.le_of_lt h'.lt
  have hlt := lt_add_one_of_lt (hv i (by omega) r hr _ hrv)
  have hlater : StoredThroughout calls (tableOf e.kind) (audit e).id (i + 1) j :=
    fun n hin hnj => hstored n (by omega) hnj
  -- the version never falls from the first revision to the second, so it is above the old one
  rcases kept_or_lt hv hij hj hlater hx hxat hy hyat with hkept | ⟨v, hxv', w, hyv', hvw⟩
  · rw [hkept.row, hxv] at hyv
    rw [Option.some.inj hyv] at hlt
    exact Int32.lt_irrefl hlt
  · obtain rfl := Option.some.inj (hxv.symm.trans hxv')
    obtain rfl := Option.some.inj (hyv.symm.trans hyv')
    exact Int32.lt_irrefl (Int32.lt_trans hlt hvw)

theorem RevisedAt.counter {calls : List Call} (hv : VersionsBelow calls) {i j : Nat}
    {sec read : Section} (h : RevisedAt calls j (.section sec)) (hij : i ≤ j)
    (hread : (storeAt calls i).find .section sec.audit.id = .ok (some (.section read)))
    (hversion : sec.audit.version = read.audit.version)
    (hstored : StoredThroughout calls (tableOf .section) sec.audit.id i j) :
    ∃ q ∈ (storeAt calls j).sections, q.audit.id = sec.audit.id ∧
      q.currentCapacity = read.currentCapacity ∧
    ∃ q' ∈ (storeAt calls (j + 1)).sections, q'.audit.id = sec.audit.id ∧
      q'.currentCapacity = q.currentCapacity := by
  obtain ⟨r, hr, hat, hrread⟩ := exists_row_of_find hread
  obtain ⟨x, hx, hxat, hxv, y, hy, hyat, -⟩ := h.exists_rows
  obtain ⟨clock, old, new, hupdated⟩ := h.updated
  have hkept : x = r := by
    refine (kept_of_version_eq hv hij (Nat.le_of_lt h.lt) hstored hr hat hx hxat ?_).row
    rw [hxv, (matches_of_toEntity? hrread).version_eq]
    exact congrArg some hversion
  obtain ⟨q, rfl, hq⟩ := section_of_toEntity? hrread rfl
  obtain ⟨q', rfl, hq'⟩ := exists_section_of_isAt hyat
  subst hkept
  have hx : q ∈ (storeAt calls j).sections := mem_typed_iff.mpr hx
  have hy : q' ∈ (storeAt calls (j + 1)).sections := mem_typed_iff.mpr hy
  have hqid : q.audit.id = sec.audit.id := Option.some.inj (Row.isAt_iff.mp hat).2
  obtain ⟨hcounter, hcounter'⟩ :=
    hupdated.counter (reachable_storeAt calls j).conforms hx hqid hy hq'
  obtain rfl := Entity.section.inj hq
  exact ⟨q, hx, hqid, rfl, q', hy, hq', hcounter'.trans hcounter.symm⟩

/-- **No lost update**, as long as no version overflows. In the lifetime of a row one version is one
state, with what a section is joined to. An update is made from the version that is stored, so of
two that are made from one version only one is done, and the update of a section keeps the counter
that was read. -/
theorem no_lost_update (calls : List Call) (hv : VersionsBelow calls) :
    (∀ kind key i j r r', i ≤ j → j ≤ calls.length →
      StoredThroughout calls (tableOf kind) key i j →
      r ∈ (storeAt calls i).rows → r.isAt (tableOf kind) key = true →
      r' ∈ (storeAt calls j).rows → r'.isAt (tableOf kind) key = true →
      r'.version = r.version → Kept (storeAt calls i) (storeAt calls j) kind key r r') ∧
    (∀ n e, RevisedAt calls n e → ∃ r ∈ (storeAt calls n).rows,
      r.isAt (tableOf e.kind) (audit e).id = true ∧ r.version = some (audit e).version) ∧
    (∀ i j e e', i < j → RevisedAt calls i e → RevisedAt calls j e' → e'.kind = e.kind →
      (audit e').id = (audit e).id → (audit e').version = (audit e).version →
      ¬ StoredThroughout calls (tableOf e.kind) (audit e).id i j) ∧
    ∀ i j sec read, i ≤ j →
      (storeAt calls i).find .section sec.audit.id = .ok (some (.section read)) →
      RevisedAt calls j (.section sec) → sec.audit.version = read.audit.version →
      StoredThroughout calls (tableOf .section) sec.audit.id i j →
      ∃ q ∈ (storeAt calls j).sections, q.audit.id = sec.audit.id ∧
        q.currentCapacity = read.currentCapacity ∧
      ∃ q' ∈ (storeAt calls (j + 1)).sections, q'.audit.id = sec.audit.id ∧
        q'.currentCapacity = q.currentCapacity := by
  refine ⟨?_, ?_, ?_, ?_⟩
  · intro kind key i j r r' hij hj hstored hr hat hr' hat' hversion
    exact kept_of_version_eq hv hij hj hstored hr hat hr' hat' hversion
  · intro n e h
    obtain ⟨r, hr, hat, hversion, -⟩ := h.exists_rows
    exact ⟨r, hr, hat, hversion⟩
  · intro i j e e' hij h h' hkind hid hversion
    exact h.not_storedThroughout hv h' hij hkind hid hversion
  · intro i j sec read hij hread h hversion hstored
    exact h.counter hv hij hread hversion hstored

namespace Sample

open Enrollment.Sample

/-- The section as it is read after the student has registered. -/
def registered : Section :=
  ⟨(block 7).next "registrar" noon, some (ident 1), some (ident 4), 30, 6, [ident 5], []⟩

def enlarged : Section := { registered with maxCapacity := 40 }

/-- Another client comes between the read and the update. -/
def revision : List Call :=
  calls ++ [⟨.still noon, .create (subject 9 "CSE103")⟩, ⟨.still noon, .update (.section enlarged)⟩]

end Sample

theorem no_lost_update_sample : ∃ q ∈ (storeAt Sample.revision 9).sections,
    q.audit.id = Sample.ident 7 ∧ q.currentCapacity = 6 ∧
    ∃ q' ∈ (storeAt Sample.revision 10).sections, q'.audit.id = Sample.ident 7 ∧
      q'.currentCapacity = q.currentCapacity := by
  have hv : VersionsBelow Sample.revision := by decide +kernel
  have hrevised : RevisedAt Sample.revision 9 (.section Sample.enlarged) :=
    ⟨⟨.still Sample.noon, .update (.section Sample.enlarged)⟩, rfl, rfl, by decide +kernel⟩
  have hstored : StoredThroughout Sample.revision (tableOf .section) (Sample.ident 7) 8 9 := by
    intro n hn hn'
    obtain rfl | rfl : n = 8 ∨ n = 9 := by omega
    · decide +kernel
    · decide +kernel
  have hread : (storeAt Sample.revision 8).find .section (Sample.ident 7) =
      .ok (some (.section Sample.registered)) := by decide +kernel
  exact (no_lost_update Sample.revision hv).2.2.2 8 9 Sample.enlarged Sample.registered
    (by decide) hread hrevised rfl hstored

end Enrollment.Registrar
