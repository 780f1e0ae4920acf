import Enrollment.Proofs.Registrar.Occupancy
import Enrollment.Proofs.Registrar.Progress
import Enrollment.Proofs.Registrar.Revision

/-! # The numbers that a call raises

A call raises the version of each row that it changes, and moves the counters of the sections whose
seats it moves. The counters stay between zero and the room there is, so they move by just as many
seats. Versions have no bound but that of their type: a row may be created in the greatest version,
and then no call changes it any more.

* `Step.counter_moved`: a counter moves by as many seats as are taken or given back.
* `Step.raised`: a row that changes was not in the greatest version.
* `versions_over_call`: so its version is one more, and an update that needs a version beyond the
  greatest leaves everything as it was. -/

namespace Enrollment

namespace Registrar

open Store

variable {s s' : Store} {call : Call}

/-- **A counter moves with the seats**: no step between goes below zero or beyond the room there
is. -/
theorem Step.counter_moved {r r' : SectionRow} (h : Step call s s') (hs : Accounted s)
    (hr : r ∈ s.sections) (hr' : r' ∈ s'.sections) (hid : r'.audit.id = r.audit.id) :
    r'.currentCapacity.toInt + s.seated r.audit.id =
      r.currentCapacity.toInt + s'.seated r.audit.id := by
  rcases h.carried hs hr' with hopened | ⟨x, hx, hrecounted⟩
  · -- what is created was not there
    obtain ⟨sec, hcommand, hok, hsec, -⟩ := hopened.created
    obtain ⟨new, hw⟩ := h.exists_writes hok (.inl hcommand)
    have hat : (Row.section r).isAt .sections sec.audit.id = true :=
      Row.isAt_iff.mpr ⟨rfl, congrArg some (hid.symm.trans hsec.symm)⟩
    cases hw with
    | created _ _ hw => exact absurd hat (Bool.eq_false_iff.mp (hw.fresh (mem_typed_iff.mp hr)))
    | updated hc => rw [hcommand] at hc; cases hc
  · obtain rfl := hs.conforms.section_eq hx hr (hrecounted.id_eq.symm.trans hid)
    exact hrecounted.balance

/-- **A row that changes is in the next version**, and there is one. -/
theorem Step.raised {kind : Kind} {key : Uuid} {r r' : Row} (h : Step call s s') (hs : s.Conforms)
    (hr : r ∈ s.rows) (hat : r.isAt (tableOf kind) key = true) (hr' : r' ∈ s'.rows)
    (hat' : r'.isAt (tableOf kind) key = true) :
    r' = r ∨ ∃ v < Int32.maxValue, r.version = some v ∧ r'.version = some (v + 1) := by
  obtain ⟨v, hv⟩ := exists_version hat
  rcases h.stays_or_revised hs hr hat hr' hat' with h | ⟨e, old, _, _, h, rfl, rfl, -⟩
  · obtain ⟨m, keys, actor, now, hreseated⟩ := h.reseated
    rcases reseated_cases m keys actor now r with hsame | hnext
    · exact .inl (hreseated.trans hsame)
    · refine h.version_lt.imp_right fun hlt => ⟨v, hlt v hv, hv, ?_⟩
      rw [hreseated, hnext, hv]
      rfl
  · obtain ⟨hversion, hversion'⟩ := h.raised hs hr hat hr' hat'
    obtain ⟨x, hx, hxat, hold⟩ := h.held
    obtain rfl := hs.eq_of_isAt hx hr hxat hat
    have hlt := h.version_lt
    rw [← Option.some.inj (hv.symm.trans (matches_of_toEntity? hold).version_eq)] at hlt
    obtain rfl := Option.some.inj (hversion.symm.trans hv)
    exact .inr ⟨_, hlt, hv, hversion'⟩

/-- **Versions never wrap.** A row that is stored before and after a call is the same, or its
version is greater, by one. The counter of a section moves by as many seats as are taken in it or
given back. So nothing overflows on the way of a call that is done; and where the next version would
be beyond the greatest, an update that the rules accept fails and leaves everything as it was. -/
theorem versions_over_call (hs : Reachable s) (call : Call) :
    (∀ kind key r r', r ∈ s.rows → r.isAt (tableOf kind) key = true →
      r' ∈ (call.after s).rows → r'.isAt (tableOf kind) key = true →
      r' = r ∨ ∃ v w, r.version = some v ∧ r'.version = some w ∧ v < w ∧
        w.toInt = v.toInt + 1) ∧
    (∀ r ∈ s.sections, ∀ r' ∈ (call.after s).sections, r'.audit.id = r.audit.id →
      r'.currentCapacity.toInt + s.seated r.audit.id =
        r.currentCapacity.toInt + (call.after s).seated r.audit.id) ∧
    ∀ e old part, call.command = .update e → s.find e.kind (audit e).id = .ok (some old) →
      s.load e (some old) = .ok part →
      e.reviewRevision old part.lookup call.clock.review = .ok () →
      (audit old).version = Int32.maxValue →
      call.answer s = .error .overflow ∧ call.after s = s := by
  have hstep := step_after hs.conforms call
  refine ⟨fun kind key r r' hr hat hr' hat' => ?_, fun r hr r' hr' hid => ?_,
    fun e old part hcommand hfind hload hreview hversion => ?_⟩
  · rcases hstep.raised hs.conforms hr hat hr' hat' with hsame | ⟨v, hlt, hv, hv'⟩
    · exact .inl hsame
    · exact .inr ⟨v, v + 1, hv, hv', lt_add_one_of_lt hlt, toInt_add_one_of_lt hlt⟩
  · exact hstep.counter_moved hs.accounted hr hr' hid
  · have hlast : ¬ (audit old).version < Int32.maxValue := by
      rw [hversion]
      exact Int32.lt_irrefl
    have hupdate : update {} call.clock e s = .error .overflow :=
      update_of_not_lt hfind hload hreview hlast
    have hanswer : call.answer s = .error .overflow := by
      rw [Call.answer, hcommand, Command.perform, hupdate]
      rfl
    exact ⟨hanswer, Call.after_of_error hanswer⟩

namespace Sample

open Enrollment.Sample

/-- The section after its revision. -/
def enlargedRow : SectionRow :=
  ⟨((block 7).next "registrar" noon).next "registrar" noon, ident 1, ident 4, 40, 6⟩

/-- A subject in the greatest version. -/
def aged : Entity :=
  .subject ⟨{ block 1 with version := Int32.maxValue }, "CSE102", "Programming", 3, .theory⟩

end Sample

/-- The section is enlarged, and it is in the next version; a subject that was created in the
greatest version stays as it is. -/
theorem versions_over_sample :
    (Row.section Sample.enlargedRow = .section Sample.sectionRow ∨
      ∃ v w, (Row.section Sample.sectionRow).version = some v ∧
        (Row.section Sample.enlargedRow).version = some w ∧ v < w ∧ w.toInt = v.toInt + 1) ∧
    let s := storeAfter [⟨.still Sample.noon, .create Sample.aged⟩]
    let call := Call.mk (.still Sample.noon) (.update Sample.aged)
    call.answer s = .error .overflow ∧ call.after s = s := by
  refine ⟨?_, ?_⟩
  · exact (versions_over_call (reachable_storeAfter Sample.calls)
      ⟨.still Sample.noon, .update (.section Sample.enlarged)⟩).1 .section (Sample.ident 7)
      (.section Sample.sectionRow) (.section Sample.enlargedRow) (by decide +kernel) rfl
      (by decide +kernel) rfl
  · intro s call
    have hs : Reachable s := reachable_storeAfter _
    obtain ⟨part, hload⟩ := exists_load hs.readable Sample.aged (some Sample.aged)
    have hreview := verdict_of_load
      (fun part => Sample.aged.reviewRevision Sample.aged part.lookup Sample.noon) hload
      (by decide +kernel)
    exact (versions_over_call hs call).2.2 Sample.aged Sample.aged part rfl (by decide +kernel)
      hload hreview rfl

end Registrar

end Enrollment
