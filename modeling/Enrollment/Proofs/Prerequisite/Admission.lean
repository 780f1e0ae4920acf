import Enrollment.Proofs.Prerequisite.Shortest
import Enrollment.Proofs.Review
import Enrollment.Snapshot

/-! # Admitting requirements

A new requirement is held against the part of the stored requirements that chains lead to from the
subject it requires. That part has the same chains from there as the whole, so nothing is missed and
nothing is made up: the requirement is refused for a cycle iff it makes one with what is stored.

* `isShortest_congr`: arrows that start elsewhere do not matter to the shortest chains.
* `acyclic_cons_iff`: a requirement makes no cycle with others iff no chain of them leads back.
* `admits_iff_acyclic`: what is admitted, and what is reported of a cycle. -/

namespace Enrollment

namespace Graph

variable {g g' : Graph} {a b : Uuid} {p : List Uuid}

/-! ### Chains in a part of a graph -/

theorem isChain_congr (h : ∀ x, g.Reaches a x → ∀ y, g'.Arrow x y ↔ g.Arrow x y) :
    (a :: p).IsChain g'.Arrow ↔ (a :: p).IsChain g.Arrow := by
  induction p generalizing a with
  | nil => exact iff_of_true (.singleton a) (.singleton a)
  | cons b p ih =>
    rw [List.isChain_cons_cons, List.isChain_cons_cons, h a .refl b]
    exact and_congr_right fun hab => ih fun x hbx => h x (hbx.head hab)

theorem leads_congr (h : ∀ x, g.Reaches a x → ∀ y, g'.Arrow x y ↔ g.Arrow x y) :
    g'.Leads a b p ↔ g.Leads a b p := by
  constructor
  · rintro ⟨hhead, hlast, harrows⟩
    obtain ⟨l, rfl⟩ := List.head?_eq_some_iff.mp hhead
    exact ⟨hhead, hlast, (isChain_congr h).mp harrows⟩
  · rintro ⟨hhead, hlast, harrows⟩
    obtain ⟨l, rfl⟩ := List.head?_eq_some_iff.mp hhead
    exact ⟨hhead, hlast, (isChain_congr h).mpr harrows⟩

/-- **Arrows that start elsewhere do not matter** to the shortest chains from a subject. -/
theorem isShortest_congr (h : ∀ x, g.Reaches a x → ∀ y, g'.Arrow x y ↔ g.Arrow x y) :
    g'.IsShortest a b p ↔ g.IsShortest a b p := by
  constructor
  · rintro ⟨hleads, hnodup, hleast⟩
    exact ⟨(leads_congr h).mp hleads, hnodup, fun q hq => hleast q ((leads_congr h).mpr hq)⟩
  · rintro ⟨hleads, hnodup, hleast⟩
    exact ⟨(leads_congr h).mpr hleads, hnodup, fun q hq => hleast q ((leads_congr h).mp hq)⟩

end Graph

theorem Snapshot.isSome_subject_iff {s : Snapshot} {id : Uuid} :
    (s.lookup.subject id).isSome = true ↔ ∃ u ∈ s.subjects, u.audit.id = id := by
  change (rowById id s.subjects).isSome = true ↔ _
  rw [rowById, List.find?_isSome]
  exact exists_congr fun u => and_congr_right fun _ => beq_iff_eq

namespace Prerequisite

variable {p : Prerequisite} {ps : List Prerequisite} {a b : Uuid}

/-! ### One requirement more -/

theorem arrow_cons_iff (hedge : p.edge = some (a, b)) {x y : Uuid} :
    (Graph.ofPrerequisites (p :: ps)).Arrow x y ↔
      (Graph.ofPrerequisites ps).Arrow x y ∨ x = a ∧ y = b := by
  obtain ⟨ha, hb⟩ := edge_eq_some_iff.mp hedge
  simp only [arrow_ofPrerequisites_iff, List.exists_mem_cons_iff, ha, hb, Option.some.injEq]
  rw [or_comm, eq_comm (a := a), eq_comm (a := b)]

/-- **A requirement makes no cycle with others** iff they make none and no chain of them leads
back. -/
theorem acyclic_cons_iff (hedge : p.edge = some (a, b)) :
    (Graph.ofPrerequisites (p :: ps)).Acyclic ↔
      (Graph.ofPrerequisites ps).Acyclic ∧ ¬ (Graph.ofPrerequisites ps).Reaches b a := by
  have hmono : ∀ x y, (Graph.ofPrerequisites ps).Arrow x y →
      (Graph.ofPrerequisites (p :: ps)).Arrow x y := fun x y h =>
    (arrow_cons_iff hedge).mpr (.inl h)
  constructor
  · refine fun h => ⟨h.mono hmono, fun hback => h a ?_⟩
    exact .head' ((arrow_cons_iff hedge).mpr (.inr ⟨rfl, rfl⟩))
      (Relation.ReflTransGen.mono hmono _ _ hback)
  · rintro ⟨h, hback⟩
    exact h.of_arrow hback fun x y hxy => (arrow_cons_iff hedge).mp hxy

/-! ### The verdict -/

theorem isShortest_of_closing {l : Lookup} {cycle : List Uuid} (h : closing l a b = some cycle) :
    ∃ chain, cycle = a :: chain ∧
      (Graph.ofPrerequisites l.prerequisites).IsShortest b a chain := by
  obtain ⟨chain, hpath, rfl⟩ := Option.map_eq_some_iff.mp h
  exact ⟨chain, rfl, (Graph.isShortest_congr fun x hx => Graph.arrow_reach_iff_of_reaches hx).mp
    (Graph.isShortest_of_path hpath)⟩

theorem mayEnter_eq_ok_iff {l : Lookup} {now : Instant} (hedge : p.edge = some (a, b)) :
    p.mayEnter ⟨l, now, none⟩ = .ok () ↔
      (l.subject a).isSome = true ∧ (l.subject b).isSome = true ∧
        (∀ q ∈ l.prerequisites, q.edge ≠ some (a, b)) ∧
          ¬ (Graph.ofPrerequisites l.prerequisites).Reaches b a := by
  constructor
  · intro h
    obtain ⟨a', b', hpasses⟩ := passes_of_mayEnter h
    obtain ⟨rfl, rfl⟩ := Prod.mk.inj (Option.some.inj (hedge.symm.trans hpasses.edge_eq))
    refine ⟨hpasses.subjectStored, hpasses.requiredStored, fun q hq hjoined => ?_,
      closing_eq_none_iff.mp hpasses.closing⟩
    -- nothing is replaced, so each prerequisite stands against another of the same ends
    obtain ⟨hqa, hqb⟩ := edge_eq_some_iff.mp hjoined
    have haside := hpasses.unjoined q (List.mem_filter.mpr ⟨hq, decide_eq_true hqa⟩) hqb
    cases haside
  · rintro ⟨ha, hb, hunjoined, hback⟩
    have hne : a ≠ b := by
      rintro rfl
      exact hback .refl
    rw [mayEnter_eq hedge hne ha hb fun q hq hjoined => absurd hjoined (hunjoined q hq),
      closing_eq_none_iff.mpr hback]

/-- **A requirement is admitted iff it makes no cycle**, whatever the stored requirements are like
that make none: a prerequisite whose fields are as they have to be may enter iff its two subjects
are stored, no stored prerequisite has the same ends, and it makes no cycle with the stored ones. If
a cycle is all that stands against it, the refusal says which one: the new requirement, and then a
shortest chain of stored ones that leads back. -/
theorem admits_iff_acyclic (s : Snapshot) (p : Prerequisite) (now : Instant)
    (hacyclic : (Graph.ofPrerequisites s.prerequisites).Acyclic)
    (hfields : Entity.violations (.prerequisite p) = []) :
    ∃ a b, p.edge = some (a, b) ∧
      (Entity.reviewNew (.prerequisite p) s.lookup now = .ok () ↔
        (∃ u ∈ s.subjects, u.audit.id = a) ∧ (∃ u ∈ s.subjects, u.audit.id = b) ∧
          (∀ q ∈ s.prerequisites, q.edge ≠ some (a, b)) ∧
            (Graph.ofPrerequisites (p :: s.prerequisites)).Acyclic) ∧
      (¬ (Graph.ofPrerequisites (p :: s.prerequisites)).Acyclic → a ≠ b →
        (∀ q ∈ s.prerequisites, q.edge ≠ some (a, b)) →
        (∃ u ∈ s.subjects, u.audit.id = a) → (∃ u ∈ s.subjects, u.audit.id = b) →
          ∃ chain, (Graph.ofPrerequisites s.prerequisites).IsShortest b a chain ∧
            Entity.reviewNew (.prerequisite p) s.lookup now =
              .error (.rule (.noCycle ((a :: chain).map s.lookup.describe)))) := by
  obtain ⟨a, b, hedge⟩ := exists_edge (Entity.violationsOf_eq_nil_iff.mp hfields).2
  have hreview : Entity.reviewNew (.prerequisite p) s.lookup now =
      p.mayEnter ⟨s.lookup, now, none⟩ := by
    rw [Entity.reviewNew, hfields]
    rfl
  have hnew : (Graph.ofPrerequisites (p :: s.prerequisites)).Acyclic ↔
      (Graph.ofPrerequisites s.prerequisites).Acyclic ∧
        ¬ (Graph.ofPrerequisites s.prerequisites).Reaches b a := acyclic_cons_iff hedge
  refine ⟨a, b, hedge, ?_, fun hcycle hne hunjoined ha hb => ?_⟩
  · rw [hreview, mayEnter_eq_ok_iff hedge, Snapshot.isSome_subject_iff, Snapshot.isSome_subject_iff,
      hnew, and_iff_right hacyclic]
    rfl
  · have hback : (Graph.ofPrerequisites s.prerequisites).Reaches b a :=
      Classical.byContradiction fun hback => hcycle (hnew.mpr ⟨hacyclic, hback⟩)
    obtain ⟨cycle, hcycle⟩ : ∃ cycle, closing s.lookup a b = some cycle :=
      Option.ne_none_iff_exists'.mp fun hnone => closing_eq_none_iff.mp hnone hback
    obtain ⟨chain, rfl, hshortest⟩ := isShortest_of_closing hcycle
    refine ⟨chain, hshortest, ?_⟩
    rw [hreview, mayEnter_eq hedge hne (Snapshot.isSome_subject_iff.mpr ha)
      (Snapshot.isSome_subject_iff.mpr hb) fun q hq hjoined => absurd hjoined (hunjoined q hq),
      hcycle]

namespace Sample

open Enrollment.Sample

def requirement (n a b : Nat) : Prerequisite :=
  ⟨block n, some (ident a), some (ident b), Grade.lowest⟩

/-- Four subjects, with two ways from the last to the first. -/
def diamond : Snapshot :=
  { subjects := [(1, "A"), (2, "B"), (3, "C"), (4, "D")].map fun (n, code) =>
      ⟨block n, code, "Programming", 3, .theory⟩
    prerequisites := [requirement 11 2 1, requirement 12 3 1, requirement 13 4 2,
      requirement 14 4 3] }

end Sample

/-- The last subject may require the first once more, but not the first the last. -/
theorem admission_to_diamond :
    Entity.reviewNew (.prerequisite (Sample.requirement 15 4 1)) Sample.diamond.lookup .epoch =
      .ok () ∧
    ∃ chain, (Graph.ofPrerequisites Sample.diamond.prerequisites).IsShortest (Sample.ident 4)
        (Sample.ident 1) chain ∧
      Entity.reviewNew (.prerequisite (Sample.requirement 15 1 4)) Sample.diamond.lookup .epoch =
        .error (.rule (.noCycle
          ((Sample.ident 1 :: chain).map Sample.diamond.lookup.describe))) := by
  have hacyclic : (Graph.ofPrerequisites Sample.diamond.prerequisites).Acyclic := by decide +kernel
  constructor
  · obtain ⟨a, b, hedge, haccepted, -⟩ := admits_iff_acyclic Sample.diamond
      (Sample.requirement 15 4 1) .epoch hacyclic (by decide +kernel)
    obtain ⟨rfl, rfl⟩ := Prod.mk.inj (Option.some.inj hedge)
    exact haccepted.mpr (by decide +kernel)
  · obtain ⟨a, b, hedge, -, hcycle⟩ := admits_iff_acyclic Sample.diamond
      (Sample.requirement 15 1 4) .epoch hacyclic (by decide +kernel)
    obtain ⟨rfl, rfl⟩ := Prod.mk.inj (Option.some.inj hedge)
    exact hcycle (by decide +kernel) (by decide +kernel) (by decide +kernel) (by decide +kernel)
      (by decide +kernel)

end Prerequisite

end Enrollment
