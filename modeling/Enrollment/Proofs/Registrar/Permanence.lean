import Enrollment.Proofs.Registrar.Frame
import Mathlib.Data.Nat.Init

/-! # What is fixed when a row comes to be

The identifier of a row, and the time and the author of its first write, are fixed when the row is
created. So are the scope of a notification and the two ends of a prerequisite. A revision has to
agree with the stored row on these and takes the rest of its audit block from it, and a section that
is recounted keeps them as well.

* `Updated.persists`, `persists_reseated`: a revision, and a section that is recounted.
* `Step.persists`: a row that is stored before and after a call.
* `persists_throughout`: the same over any part of a lifetime.
* `fixed_throughout`: so a row has what it was created with for as long as it is stored. -/

namespace Enrollment

namespace Store

/-- The columns of a table that are fixed when a row comes to be. -/
def fixedColumns (t : Table) : List Column :=
  [.id, .createdAt, .createdBy] ++
    match t with
    | .notifications => [.scope]
    | .prerequisites => [.subjectId, .requiredSubjectId]
    | _ => []

namespace Row

variable {r r' r'' : Row}

/-- Another row is of the same table, with the same in the columns that are fixed. -/
structure Persists (r r' : Row) : Prop where
  table : r'.table = r.table
  cells : ∀ c ∈ fixedColumns r.table, r'.cell c = r.cell c

theorem Persists.refl (r : Row) : r.Persists r := ⟨rfl, fun _ _ => rfl⟩

theorem Persists.trans (h : r.Persists r') (h' : r'.Persists r'') : r.Persists r'' where
  table := h'.table.trans h.table
  cells c hc := (h'.cells c (h.table ▸ hc)).trans (h.cells c hc)

theorem cell_of_audit? {a : Audit} (h : r.audit? = some a) : r.cell .id = .uuid a.id ∧
    r.cell .createdAt = .time a.createdAt ∧ r.cell .createdBy = .text a.createdBy := by
  cases r <;> cases h <;> exact ⟨rfl, rfl, rfl⟩

theorem persists_of_sameOrigin {a a' : Audit} (htable : r'.table = r.table)
    (ha : r.audit? = some a) (ha' : r'.audit? = some a') (horigin : a.sameOrigin a' = true)
    (hscope : r.table = .notifications → r'.cell .scope = r.cell .scope)
    (hends : r.table = .prerequisites → r'.cell .subjectId = r.cell .subjectId ∧
      r'.cell .requiredSubjectId = r.cell .requiredSubjectId) : r.Persists r' where
  table := htable
  cells c hc := by
    obtain ⟨hid, hat, hby⟩ := cell_of_audit? ha
    obtain ⟨hid', hat', hby'⟩ := cell_of_audit? ha'
    obtain ⟨hsameId, hsameAt, hsameBy⟩ := Audit.sameOrigin_iff.mp horigin
    rcases List.mem_append.mp hc with hc | hc
    · simp only [List.mem_cons, List.not_mem_nil, or_false] at hc
      rcases hc with rfl | rfl | rfl
      · rw [hid, hid', hsameId]
      · rw [hat, hat', hsameAt]
      · rw [hby, hby', hsameBy]
    · split at hc <;> rename_i ht
      · obtain rfl := List.mem_singleton.mp hc
        exact hscope ht
      · simp only [List.mem_cons, List.not_mem_nil, or_false] at hc
        rcases hc with rfl | rfl
        · exact (hends ht).1
        · exact (hends ht).2
      · exact absurd hc List.not_mem_nil

end Row

end Store

namespace Registrar

open Store

variable {s s' : Store} {call : Call} {kind : Kind} {key : Uuid} {r r' : Row}

/-! ### One call -/

theorem persists_reseated (m : SeatMove) (keys : List Uuid) (actor : String) (now : Instant)
    (q : Row) : q.Persists (q.reseated m keys actor now) := by
  cases q
  case «section» x =>
    by_cases hx : x.audit.id ∈ keys
    · rw [Row.reseated, SectionRow.reseated, if_pos hx]
      refine Row.persists_of_sameOrigin rfl rfl rfl (Audit.next_sameOrigin x.audit actor now)
        ?_ ?_ <;> intro ht <;> cases ht
    · rw [Row.reseated, SectionRow.reseated, if_neg hx]
      exact .refl _
  all_goals exact .refl _

/-- No grade is fixed, so a store keeps what is fixed as it was given. -/
theorem persists_settled (q : Row) : q.Persists q.settled where
  table := q.table_settled
  cells c hc := by
    have hgrades : ∀ t, ∀ c ∈ fixedColumns t, c ≠ .minGrade ∧ c ≠ .grade := by
      intro t
      cases t <;> decide
    obtain ⟨hm, hg⟩ := hgrades _ c hc
    exact Row.cell_settled hm hg

/-- **A revision keeps what is fixed** in the row that it replaces. -/
theorem Updated.persists {clock : Clock} {e old new : Entity} {row : Row} (hs : s.Conforms)
    (h : Updated clock e old new s s') (hr : r ∈ s.rows)
    (hat : r.isAt (tableOf e.kind) (audit e).id = true) (hrow : Row.ofEntity new = .ok row) :
    r.Persists row.settled := by
  obtain ⟨x, hx, hxat, hold⟩ := h.held
  obtain rfl := hs.eq_of_isAt hx hr hxat hat
  obtain ⟨part, -, hreview⟩ := h.reviewed
  obtain ⟨⟨hkind, -⟩, -, hrules⟩ := Entity.reviewRevision_eq_ok_iff.mp hreview
  have hmatches := matches_of_toEntity? hold
  have hmatches' := matches_ofEntity hrow
  have haudit' : row.settled.audit? = some ((audit old).next (audit e).updatedBy clock.write) := by
    rw [Row.audit?_settled, hmatches'.2, h.new_eq, Entity.audit_withAudit]
  refine Row.persists_of_sameOrigin ?_ hmatches.2 haudit' (Audit.next_sameOrigin ..) ?_ ?_
  · rw [Row.table_settled, hmatches'.1, h.kind_new, hmatches.1, hkind]
  · intro htable
    have hnotification : old.kind = .notification :=
      tableOf_injective (hmatches.1.symm.trans htable)
    obtain ⟨o, rfl, rfl⟩ := notification_of_toEntity? hold hnotification
    cases e <;> simp only [Entity.kind, reduceCtorEq] at hkind
    rename_i n
    have hscope : n.scope = o.scope := by
      obtain ⟨hscope, -⟩ := check_bind_eq_ok_iff.mp hrules
      exact beq_iff_eq.mp (require_eq_ok_iff.mp hscope)
    obtain rfl := h.new_eq
    obtain rfl := Except.ok.inj hrow
    exact congrArg (fun scope : Scope => Cell.text (Named.name scope)) hscope
  · intro htable
    have hprerequisite : old.kind = .prerequisite :=
      tableOf_injective (hmatches.1.symm.trans htable)
    obtain ⟨p, rfl, rfl⟩ := prerequisite_of_toEntity? hold hprerequisite
    cases e <;> simp only [Entity.kind, reduceCtorEq] at hkind
    rename_i c
    have hends : c.edge = some (p.subjectId, p.requiredSubjectId) :=
      beq_iff_eq.mp (require_eq_ok_iff.mp hrules)
    obtain ⟨hsubject, hrequired⟩ := Prerequisite.edge_eq_some_iff.mp hends
    obtain rfl := h.new_eq
    have hnew := ofEntity_prerequisite
      (e := { c with audit := p.audit.next c.audit.updatedBy clock.write }) hsubject hrequired
    obtain rfl := Except.ok.inj (hnew.symm.trans hrow)
    exact ⟨rfl, rfl⟩

/-- **What is fixed outlasts every call**, whatever the call writes. -/
theorem Step.persists (h : Step call s s') (hs : s.Conforms) (hr : r ∈ s.rows)
    (hat : r.isAt (tableOf kind) key = true) (hr' : r' ∈ s'.rows)
    (hat' : r'.isAt (tableOf kind) key = true) : r.Persists r' := by
  rcases h.stays_or_revised hs hr hat hr' hat' with h | ⟨e, _, _, _, h, rfl, rfl, hrow, rfl⟩
  · obtain ⟨m, keys, actor, now, rfl⟩ := h.reseated
    exact persists_reseated m keys actor now r
  · exact h.persists hs hr hat hrow

/-! ### Runs -/

/-- **Over a part of a lifetime** a row keeps what is fixed. -/
theorem persists_throughout {calls : List Call} {i j : Nat} (hij : i ≤ j)
    (hstored : StoredThroughout calls (tableOf kind) key i j) (hr : r ∈ (storeAt calls i).rows)
    (hat : r.isAt (tableOf kind) key = true) (hr' : r' ∈ (storeAt calls j).rows)
    (hat' : r'.isAt (tableOf kind) key = true) : r.Persists r' := by
  induction j, hij using Nat.le_induction generalizing r' with
  | base =>
    obtain rfl := (reachable_storeAt calls i).conforms.eq_of_isAt hr' hr hat' hat
    exact .refl _
  | succ n hin ih =>
    have hs := (reachable_storeAt calls n).conforms
    obtain ⟨x, hx, hxat⟩ := hstored n hin (Nat.le_succ n)
    have hbefore : r.Persists x := ih (fun k hik hkn => hstored k hik (by omega)) hx hxat
    have hlast : x.Persists r' := by
      rcases step_storeAt calls n hs with ⟨call, -, hstep⟩ | ⟨-, hsame⟩
      · exact hstep.persists hs hx hxat hr' hat'
      · rw [hsame] at hr'
        obtain rfl := hs.eq_of_isAt hr' hx hat' hxat
        exact .refl _
    exact hbefore.trans hlast

theorem CreatedAt.exists_row {calls : List Call} {i n : Nat} {e : Entity}
    (h : CreatedAt calls i n e) : ∃ row, Row.ofEntity e = .ok row ∧
      row.settled ∈ (storeAt calls (i + 1)).rows := by
  obtain ⟨call, hcall, hcommand, hok⟩ := h.created
  obtain ⟨new, hw⟩ := (step_of_getElem? hcall).exists_writes hok (.inl hcommand)
  cases hw with
  | created _ _ h =>
    obtain ⟨row, hrow, hrows⟩ := h.rows
    exact ⟨row, hrow, by rw [hrows]; simp⟩
  | updated hupdate => rw [hcommand] at hupdate; cases hupdate

/-- **What is fixed at creation stays fixed**, in every run: the row of an entity that was created
has, for as long as it is stored, the identifier and the first write that it was created with, and
the scope of a notification or the ends of a prerequisite as well. Any two moments of its lifetime
agree on these. -/
theorem fixed_throughout (calls : List Call) :
    (∀ i n e r, CreatedAt calls i n e → r ∈ (storeAt calls n).rows →
      r.isAt (tableOf e.kind) (audit e).id = true → ∃ row, Row.ofEntity e = .ok row ∧
        ∀ c ∈ fixedColumns (tableOf e.kind), r.cell c = row.cell c) ∧
    ∀ kind key i j r r', i ≤ j → StoredThroughout calls (tableOf kind) key i j →
      r ∈ (storeAt calls i).rows → r.isAt (tableOf kind) key = true →
      r' ∈ (storeAt calls j).rows → r'.isAt (tableOf kind) key = true →
        ∀ c ∈ fixedColumns (tableOf kind), r'.cell c = r.cell c := by
  refine ⟨fun i n e r h hr hat => ?_, fun kind key i j r r' hij hstored hr hat hr' hat' c hc => ?_⟩
  · obtain ⟨row, hrow, hmem⟩ := h.exists_row
    have hpersists : row.Persists r := (persists_settled row).trans <|
      persists_throughout h.before h.stored hmem (isAt_settled_of_ofEntity hrow) hr hat
    refine ⟨row, hrow, fun c hc => hpersists.cells c ?_⟩
    rwa [(matches_ofEntity hrow).1]
  · refine (persists_throughout hij hstored hr hat hr' hat').cells c ?_
    rwa [(Row.isAt_iff.mp hat).1]

namespace Sample

open Enrollment.Sample

/-- The section as it was created. -/
def createdRow : SectionRow := ⟨block 7, ident 1, ident 4, 30, 5⟩

end Sample

/-- A student registers in a section, which is recounted. -/
theorem fixed_over_registration : (∃ row, Row.ofEntity (.section Sample.«section») = .ok row ∧
      ∀ c ∈ fixedColumns .sections, (Row.section Sample.sectionRow).cell c = row.cell c) ∧
    ∀ c ∈ fixedColumns .sections,
      (Row.section Sample.sectionRow).cell c = (Row.section Sample.createdRow).cell c := by
  have hstored : StoredThroughout Sample.calls (tableOf .section) (Sample.ident 7) 7 8 := by
    intro n hn hn'
    obtain rfl | rfl : n = 7 ∨ n = 8 := by omega
    · decide +kernel
    · decide +kernel
  have hcreated : CreatedAt Sample.calls 6 8 (.section Sample.«section») :=
    ⟨by omega, ⟨⟨.still Sample.noon, .create (.section Sample.«section»)⟩, rfl, rfl,
      by decide +kernel⟩, hstored⟩
  have hbefore : Row.section Sample.createdRow ∈ (storeAt Sample.calls 7).rows := by decide +kernel
  have hafter : Row.section Sample.sectionRow ∈ (storeAt Sample.calls 8).rows := by decide +kernel
  obtain ⟨hfixed, hkept⟩ := fixed_throughout Sample.calls
  exact ⟨hfixed 6 8 _ _ hcreated hafter rfl,
    hkept .section (Sample.ident 7) 7 8 _ _ (by omega) hstored hbefore rfl hafter rfl⟩

end Registrar

end Enrollment
