import Enrollment.Proofs.Registrar.Frame
import Enrollment.Proofs.Registrar.Occupancy

/-! # The authors of rows

A row names its first and its latest author. A candidate has to name both, and the seats that move
with it are moved in the name of its latest author. A removal is made in a name that nobody looks
at, and if a course gives its seat back then that name is written on the section.

* `Step.authored`: where the authors of a row come from that is stored after a call.
* `Step.exists_updatedBy`: a removal leaves its name on the section that gets a seat back.
* `authorsNamed_throughout_iff`: the authors of all rows have names throughout a run iff no seated
  course is removed in a blank name. -/

namespace Enrollment

/-- Both authors of an audit block have names. -/
def Audit.IsSigned (a : Audit) : Prop :=
  Text.isBlank a.createdBy = false ∧ Text.isBlank a.updatedBy = false

instance (a : Audit) : Decidable a.IsSigned := inferInstanceAs (Decidable (_ ∧ _))

theorem Constraint.of_named {name : String} (h : Constraint.named name = none) :
    Text.isBlank name = false := by
  unfold named at h
  split at h
  · cases h
  · exact Bool.eq_false_iff.mpr ‹_›

theorem Entity.isSigned_of_violations {e : Entity} (h : e.violations = []) :
    (audit e).IsSigned := by
  have hsigned : ∀ c ∈ Audit.constraints, c.defect (audit e) = none := by
    cases e <;> exact (violationsOf_eq_nil_iff.mp h).1
  exact ⟨Constraint.of_named (hsigned _ List.mem_cons_self),
    Constraint.of_named (hsigned _ (List.mem_cons_of_mem _ List.mem_cons_self))⟩

namespace Registrar

open Store

variable {s s' : Store} {call : Call} {key : Uuid} {actor : String}

/-- The authors of all rows have names. -/
def AuthorsNamed (s : Store) : Prop := ∀ r ∈ s.rows, ∀ a ∈ r.audit?, a.IsSigned

instance (s : Store) : Decidable (AuthorsNamed s) :=
  letI (r : Row) : Decidable (∀ a ∈ r.audit?, a.IsSigned) := Option.decidableForallMem _
  inferInstanceAs (Decidable (∀ r ∈ s.rows, ∀ a ∈ r.audit?, a.IsSigned))

/-- A call that is done removes a course that is seated in a section, in a name. -/
def Call.Unseats (call : Call) (s : Store) (key : Uuid) (actor : String) : Prop :=
  call.Succeeds s ∧ ∃ c ∈ s.courses, c.isSeatedIn key = true ∧
    call.command = .delete .course c.audit.id actor

/-! ### One call -/

/-- Where the authors of a row come from that is stored after a call. -/
inductive Authored (call : Call) (s : Store) (t : Table) (a : Audit) : Prop where
  | written : a.IsSigned → Authored call s t a
  | kept {r : Row} : r ∈ s.rows → r.table = t → r.audit? = some a → Authored call s t a
  | recounted {r : SectionRow} {actor : String} {now : Instant} : t = .sections →
      r ∈ s.sections → a = r.audit.next actor now →
      Text.isBlank actor = false ∨ call.Unseats s r.audit.id actor → Authored call s t a

theorem Writes.isSigned {e new : Entity} (h : Writes call s s' e new) : (audit new).IsSigned := by
  cases h with
  | created _ _ h =>
    obtain ⟨snapshot, -, hreview⟩ := h.reviewed
    exact Entity.isSigned_of_violations (Entity.reviewNew_eq_ok_iff.mp hreview).1
  | updated _ _ h =>
    obtain ⟨snapshot, -, hreview⟩ := h.reviewed
    obtain ⟨⟨-, horigin, -⟩, hv, -⟩ := Entity.reviewRevision_eq_ok_iff.mp hreview
    obtain ⟨hcreated, hupdated⟩ := Entity.isSigned_of_violations hv
    rw [h.new_eq, Entity.audit_withAudit]
    exact ⟨(Audit.sameOrigin_iff.mp horigin).2.2 ▸ hcreated, hupdated⟩

theorem audit?_of_isJunction {r : Row} (h : r.table.isJunction = true) : r.audit? = none := by
  cases r <;> first | rfl | cases h

theorem authored_of_reseated {q : Row} {m : SeatMove} {now : Instant} {a : Audit}
    (hq : q ∈ s.rows)
    (hactor : ∀ key ∈ m.sections, Text.isBlank actor = false ∨ call.Unseats s key actor)
    (ha : (q.reseatedBy m actor now).audit? = some a) :
    Authored call s (q.reseatedBy m actor now).table a := by
  cases q
  case «section» r =>
    by_cases hkey : r.audit.id ∈ m.sections
    · rw [Row.reseatedBy, Row.reseated, SectionRow.reseated, if_pos hkey] at ha
      exact .recounted rfl (mem_typed_iff.mpr hq) (Option.some.inj ha).symm (hactor _ hkey)
    · rw [Row.reseatedBy, Row.reseated, SectionRow.reseated, if_neg hkey] at ha
      exact .kept hq rfl ha
  all_goals exact .kept hq rfl ha

theorem unseats_of_deleted {kind : Kind} {id : Uuid} {old : Entity} {now : Instant}
    (hcommand : call.command = .delete kind id actor) (hok : call.Succeeds s)
    (h : Deleted now kind id actor old s s')
    (hkey : key ∈ (SeatMove.ofSeats old.seat none).sections) : call.Unseats s key actor := by
  have hseat : old.seat = some key := by
    cases hseat : old.seat with
    | none => rw [hseat] at hkey; exact absurd hkey List.not_mem_nil
    | some k => rw [hseat] at hkey; rw [List.mem_singleton.mp hkey]
  obtain ⟨r, hr, hat, hold⟩ := h.held
  have hseated : r.isSeatedIn key = true :=
    (isSeatedIn_of_toEntity? hold (Entity.hasState_of_seat hseat)).mpr hseat
  obtain ⟨htable, hid⟩ := Row.isAt_iff.mp hat
  cases r <;> simp only [Row.isSeatedIn, Bool.false_eq_true] at hseated
  rename_i c
  obtain rfl : Kind.course = kind := tableOf_injective htable
  obtain rfl : c.audit.id = id := Option.some.inj hid
  exact ⟨hok, c, mem_typed_iff.mpr hr, hseated, hcommand⟩

/-- **Where the authors of a row come from**: they were there before, they are those of the
candidate, or the row is a section that has been recounted. -/
theorem Step.authored {r' : Row} {a : Audit} (h : Step call s s') (hr' : r' ∈ s'.rows)
    (ha : r'.audit? = some a) : Authored call s r'.table a := by
  cases h with
  | refused _ => exact .kept hr' rfl ha
  | created hcommand hok h =>
    have hw : Writes call s s' _ _ := .created hcommand hok h
    obtain ⟨row, hrow, hrows⟩ := h.rows
    rw [hrows, List.mem_append, List.mem_cons, List.mem_map] at hr'
    rcases hr' with ⟨q, hq, rfl⟩ | rfl | hlink
    · exact authored_of_reseated hq (fun _ _ => .inl hw.isSigned.2) ha
    · rw [Row.audit?_settled, (matches_ofEntity hrow).2] at ha
      exact .written (Option.some.inj ha ▸ hw.isSigned)
    · rw [audit?_of_isJunction (settled_of_mem_linkRows hlink).2.1] at ha
      cases ha
  | updated hcommand hok h =>
    have hw : Writes call s s' _ _ := .updated hcommand hok h
    obtain ⟨row, hrow, hrows⟩ := h.rows
    rw [hrows, List.mem_append, List.mem_filter, List.mem_map] at hr'
    rcases hr' with ⟨⟨x, hx, rfl⟩, -⟩ | hlink
    · obtain ⟨q, hq, rfl⟩ := List.mem_map.mp hx
      unfold Row.revisedBy at ha ⊢
      split at ha <;> rename_i hsame
      · rw [Row.audit?_settled, (matches_ofEntity hrow).2] at ha
        exact .written (Option.some.inj ha ▸ hw.isSigned)
      · rw [if_neg hsame]
        exact authored_of_reseated hq (fun _ _ => .inl hw.isSigned.2) ha
    · rw [audit?_of_isJunction (settled_of_mem_linkRows hlink).2.1] at ha
      cases ha
  | deleted hcommand hok h =>
    rw [h.rows, List.mem_filter, List.mem_map] at hr'
    obtain ⟨⟨q, hq, rfl⟩, -⟩ := hr'
    exact authored_of_reseated hq (fun _ hkey => .inr (unseats_of_deleted hcommand hok h hkey)) ha

/-- **A removal leaves its name** on the section that gets a seat back. -/
theorem Step.exists_updatedBy (h : Step call s s') (hs : Accounted s)
    (hu : call.Unseats s key actor) :
    ∃ r ∈ s'.sections, r.audit.id = key ∧ r.audit.updatedBy = actor := by
  obtain ⟨hok, c, hc, hseated, hcommand⟩ := hu
  cases h with
  | refused h => exact absurd hok h
  | created hcommand' => rw [hcommand] at hcommand'; cases hcommand'
  | updated hcommand' => rw [hcommand] at hcommand'; cases hcommand'
  | @deleted _ _ _ old _ hcommand' _ h =>
    obtain ⟨rfl, rfl, rfl⟩ := Command.delete.inj (hcommand.symm.trans hcommand')
    have hcourse := mem_typed_iff.mp hc
    obtain ⟨r, hr, hat, hold⟩ := h.held
    obtain rfl := hs.conforms.eq_of_isAt hr hcourse hat (Row.isAt_iff.mpr ⟨rfl, rfl⟩)
    have hseat : old.seat = some key :=
      (isSeatedIn_of_toEntity? hold (hs.hasState _ hcourse _ _ _ hold)).mp hseated
    -- the section is stored, and the removal of a course leaves it where it is
    obtain ⟨x, hx, hxat⟩ := exists_isAt_of_isSeatedIn hs.conforms hcourse hseated
    obtain ⟨q, rfl, rfl⟩ := exists_section_of_isAt hxat
    have hlinks : ∀ y, linksOf old y = false := by
      obtain ⟨o, rfl⟩ := exists_course_of_kind h.held.matches.1
      exact fun _ => rfl
    let m := SeatMove.ofSeats old.seat none
    have hkeys : q.audit.id ∈ m.sections := by
      rw [show m = .ofSeats (some q.audit.id) none from congrArg (SeatMove.ofSeats · none) hseat]
      exact List.mem_singleton_self _
    refine ⟨q.reseated m m.sections actor call.clock.write, ?_, q.id_reseated .., ?_⟩
    · rw [mem_typed_iff, h.rows, List.mem_filter]
      exact ⟨List.mem_map_of_mem hx, by rw [hlinks]; rfl⟩
    · rw [SectionRow.reseated, if_pos hkeys]
      rfl

/-! ### Runs -/

/-- A call of a run removes a seated course in a name. -/
def UnseatedAt (calls : List Call) (n : Nat) (actor : String) : Prop :=
  ∃ call key, calls[n]? = some call ∧ call.Unseats (storeAt calls n) key actor

/-- At each moment of a run the first author of a row has a name, and so has the latest, unless the
row is a section that got a seat back. -/
theorem authored_storeAt (calls : List Call) (n : Nat) {r : Row} {a : Audit}
    (hr : r ∈ (storeAt calls n).rows) (ha : r.audit? = some a) :
    Text.isBlank a.createdBy = false ∧ (Text.isBlank a.updatedBy = false ∨
      r.table = .sections ∧ ∃ i, UnseatedAt calls i a.updatedBy) := by
  induction n generalizing r a with
  | zero => exact absurd hr List.not_mem_nil
  | succ n ih =>
    rcases step_storeAt calls n (reachable_storeAt calls n).conforms with
      ⟨call, hcall, hstep⟩ | ⟨-, hsame⟩
    · cases hstep.authored hr ha with
      | written hsigned => exact ⟨hsigned.1, .inl hsigned.2⟩
      | kept hq htable hqa => exact htable ▸ ih hq hqa
      | recounted htable hq hqa hactor =>
        subst hqa
        refine ⟨(ih (mem_typed_iff.mp hq) rfl).1, hactor.imp_right fun hu => ?_⟩
        exact ⟨htable, n, call, _, hcall, hu⟩
    · rw [hsame] at hr
      exact ih hr ha

/-- **The authors of rows throughout a run.** First authors always have names, and so have latest
authors of all rows but those of sections. Latest authors of sections have names throughout iff no
seated course is removed in a blank name. -/
theorem authorsNamed_throughout_iff (calls : List Call) :
    (∀ n, ∀ r ∈ (storeAt calls n).rows, ∀ a ∈ r.audit?, Text.isBlank a.createdBy = false ∧
      (r.table ≠ .sections → Text.isBlank a.updatedBy = false)) ∧
    ((∀ n, AuthorsNamed (storeAt calls n)) ↔
      ∀ n actor, UnseatedAt calls n actor → Text.isBlank actor = false) := by
  refine ⟨fun n r hr a ha => ?_, fun hnamed n actor hunseated => ?_, fun hnamed n r hr a ha => ?_⟩
  · obtain ⟨hcreated, hupdated⟩ := authored_storeAt calls n hr ha
    exact ⟨hcreated, fun htable => hupdated.resolve_right fun h => htable h.1⟩
  · obtain ⟨call, key, hcall, hu⟩ := hunseated
    have hs := (reachable_storeAt calls n).accounted
    rcases step_storeAt calls n hs.conforms with ⟨call', hcall', hstep⟩ | ⟨hnone, -⟩
    · obtain rfl := Option.some.inj (hcall.symm.trans hcall')
      obtain ⟨r, hr, -, hactor⟩ := hstep.exists_updatedBy hs hu
      exact hactor ▸ (hnamed (n + 1) _ (mem_typed_iff.mp hr) _ rfl).2
    · rw [hnone] at hcall
      cases hcall
  · obtain ⟨hcreated, hupdated⟩ := authored_storeAt calls n hr ha
    refine ⟨hcreated, hupdated.elim id ?_⟩
    rintro ⟨-, i, hunseated⟩
    exact hnamed i _ hunseated

namespace Sample

open Enrollment.Sample

/-- The course is removed in no name after the student has registered. -/
def removed : List Call := calls ++ [⟨.still noon, .delete .course (ident 8) ""⟩]

end Sample

/-- The latest author of a section may be blank. -/
theorem blank_author_after_removal : ¬ ∀ calls, AuthorsNamed (storeAfter calls) := fun h =>
  absurd (h Sample.removed) (by decide +kernel)

end Registrar

end Enrollment
