import Enrollment.Proofs.Registrar.Run
import Enrollment.Proofs.Review
import Enrollment.Proofs.Store.Loading

/-! # Stored requirements make no cycle

A prerequisite is stored only if no chain of stored requirements leads back from what it requires,
and it keeps its ends for good.

* `Step.extends`: a call adds one arrow at most, and no chain leads back along it.
* `requirements_acyclic`: no run leads to a cycle. -/

namespace Enrollment.Registrar

open Relation Store

variable {s s' : Store}

/-! ### One call -/

/-- The stored requirements are those that were stored, or one is new and no chain leads back. -/
def Extends (s s' : Store) : Prop :=
  (∀ x y, s'.requirements.Arrow x y → s.requirements.Arrow x y) ∨
    ∃ a b, ¬ s.requirements.Reaches b a ∧
      ∀ x y, s'.requirements.Arrow x y → s.requirements.Arrow x y ∨ x = a ∧ y = b

theorem extends_of_created {clock : Clock} {e : Entity} (h : Created clock e s s') :
    Extends s s' := by
  obtain ⟨row, hrow, hrows⟩ := h.rows
  -- an arrow that was not there is that of the candidate
  have hnew : ∀ x y, s'.requirements.Arrow x y → s.requirements.Arrow x y ∨
      ∃ c, e = .prerequisite c ∧ c.edge = some (x, y) := by
    intro x y hxy
    obtain ⟨p, hp, rfl, rfl⟩ := arrow_requirements_iff.mp hxy
    have hmem := mem_typed_iff.mp hp
    rw [hrows, List.mem_append, List.mem_cons, List.mem_map] at hmem
    rcases hmem with ⟨q, hq, hqp⟩ | hqp | hlink
    · rw [eq_of_reseated hqp nofun] at hq
      exact .inl (arrow_requirements_iff.mpr ⟨p, mem_typed_iff.mpr hq, rfl, rfl⟩)
    · exact .inr (prerequisite_of_ofEntity hrow hqp.symm)
    · exact absurd hlink (not_mem_linkRows rfl)
  by_cases hkind : ∃ c, e = .prerequisite c
  · obtain ⟨c, rfl⟩ := hkind
    obtain ⟨snapshot, hload, hreview⟩ := h.reviewed
    obtain ⟨a, b, hpasses⟩ :=
      Prerequisite.passes_of_mayEnter (Entity.reviewNew_eq_ok_iff.mp hreview).2
    have hback := (closing_load_eq_none_iff hload hpasses.requiredSubjectId).mp hpasses.closing
    refine .inr ⟨a, b, hback, fun x y hxy => ?_⟩
    refine (hnew x y hxy).imp_right fun ⟨c', hc', hedge'⟩ => ?_
    obtain rfl := Entity.prerequisite.inj hc'
    have := hpasses.edge_eq.symm.trans hedge'
    simp only [Option.some.injEq, Prod.mk.injEq] at this
    exact ⟨this.1.symm, this.2.symm⟩
  · exact .inl fun x y hxy => (hnew x y hxy).resolve_right fun ⟨c, hc, _⟩ => hkind ⟨c, hc⟩

theorem extends_of_updated {clock : Clock} {e old new : Entity} (hs : s.Conforms)
    (h : Updated clock e old new s s') : Extends s s' := by
  refine .inl fun x y hxy => ?_
  obtain ⟨before, r, after, row, hsplit, -, hr, -, hrow, hrows⟩ := h.exists_split hs
  obtain ⟨p, hp, rfl, rfl⟩ := arrow_requirements_iff.mp hxy
  have hmem := mem_typed_iff.mp hp
  rw [hrows, List.mem_append, List.mem_filter, List.mem_append, List.mem_cons, List.mem_map,
    List.mem_map] at hmem
  have hkept : .prerequisite p ∈ s.rows →
      s.requirements.Arrow p.subjectId p.requiredSubjectId := fun hq =>
    arrow_requirements_iff.mpr ⟨p, mem_typed_iff.mpr hq, rfl, rfl⟩
  rcases hmem with ⟨⟨q, hq, hqp⟩ | hqp | ⟨q, hq, hqp⟩, -⟩ | hlink
  · rw [eq_of_reseated hqp nofun] at hq
    exact hkept (hsplit ▸ List.mem_append_left _ hq)
  · -- the row of the revision has the ends of the row that it replaces
    obtain ⟨c, rfl, hedge⟩ := prerequisite_of_ofEntity hrow hqp.symm
    obtain ⟨c₀, rfl⟩ : ∃ c₀, e = .prerequisite c₀ := by
      have hkind := h.kind_new
      cases e <;> first | exact ⟨_, rfl⟩ | cases hkind
    obtain ⟨x, rfl, rfl⟩ := prerequisite_of_toEntity? hr h.held.matches.1
    obtain rfl := Entity.prerequisite.inj h.new_eq
    obtain ⟨snapshot, -, hreview⟩ := h.reviewed
    have hsame : c₀.edge = x.toPrerequisite.edge :=
      beq_iff_eq.mp (require_eq_ok_iff.mp (Entity.reviewRevision_eq_ok_iff.mp hreview).2.2)
    have hends :
        some (x.subjectId, x.requiredSubjectId) = some (p.subjectId, p.requiredSubjectId) :=
      hsame.symm.trans hedge
    simp only [Option.some.injEq, Prod.mk.injEq] at hends
    have hx : x ∈ s.prerequisites := by
      rw [mem_typed_iff, hsplit]
      exact List.mem_append_right _ List.mem_cons_self
    exact arrow_requirements_iff.mpr ⟨x, hx, hends.1, hends.2⟩
  · rw [eq_of_reseated hqp nofun] at hq
    exact hkept (hsplit ▸ List.mem_append_right _ (List.mem_cons_of_mem _ hq))
  · exact absurd hlink (not_mem_linkRows rfl)

theorem extends_of_deleted {now : Instant} {kind : Kind} {key : Uuid} {actor : String}
    {old : Entity} (h : Deleted now kind key actor old s s') : Extends s s' := by
  refine .inl fun x y hxy => ?_
  obtain ⟨p, hp, rfl, rfl⟩ := arrow_requirements_iff.mp hxy
  have hmem := mem_typed_iff.mp hp
  rw [h.rows, List.mem_filter, List.mem_map] at hmem
  obtain ⟨⟨q, hq, hqp⟩, -⟩ := hmem
  rw [eq_of_reseated hqp nofun] at hq
  exact arrow_requirements_iff.mpr ⟨p, mem_typed_iff.mpr hq, rfl, rfl⟩

/-- **What a call adds to the requirements** is one arrow at most, and no chain leads back. -/
theorem Step.extends {call : Call} (h : Step call s s') (hs : s.Conforms) : Extends s s' := by
  cases h with
  | refused _ => exact .inl fun _ _ => id
  | created _ _ h => exact extends_of_created h
  | updated _ _ h => exact extends_of_updated hs h
  | deleted _ _ h => exact extends_of_deleted h

theorem Extends.acyclic (h : Extends s s') (hs : s.requirements.Acyclic) :
    s'.requirements.Acyclic := by
  rcases h with h | ⟨a, b, hback, h⟩
  · exact hs.mono h
  · exact hs.of_arrow hback h

theorem Reachable.acyclic (h : Reachable s) : s.requirements.Acyclic := by
  induction h with
  | empty =>
    intro a ha
    obtain ⟨b, hab, -⟩ := TransGen.head'_iff.mp ha
    exact List.not_mem_nil hab
  | after hr call ih => exact ((step_after hr.conforms call).extends hr.conforms).acyclic ih

/-- **Stored requirements make no cycle**, whatever has been called. -/
theorem requirements_acyclic (calls : List Call) (a : Uuid) :
    ¬ TransGen (fun x y => ∃ p ∈ (storeAfter calls).prerequisites,
      p.subjectId = x ∧ p.requiredSubjectId = y) a a := by
  intro ha
  refine (reachable_storeAfter calls).acyclic a (TransGen.mono ?_ a a ha)
  exact fun _ _ h => arrow_requirements_iff.mpr h

end Enrollment.Registrar
