import Enrollment.Proofs.Registrar.Run
import Enrollment.Proofs.Snapshot.Distinct

/-! # Snapshots that grow

A snapshot grows from the empty one by what the rules accept: new things are put into it, under new
identifiers or old ones, and revisions are put in the place of the rows that they replace. No other
check is made than that of the candidate against the snapshot as it is, and between two steps the
rows may change their order.

* `Sound.put`: what a sound snapshot admits keeps it sound.
* `Grown.sound`: every snapshot that has grown is sound.
* `Grown.keysUnique`: the natural keys in it are unique. -/

namespace Enrollment

/-- The counter of a section lies between nothing and the room there is, which is not nothing. -/
structure Section.IsCounted (s : Section) : Prop where
  nonneg : 0 ≤ s.currentCapacity
  within : s.currentCapacity ≤ s.maxCapacity
  room : 0 < s.maxCapacity

theorem Section.isCounted_of_mayEnter {s : Section} {ctx : Context}
    (hv : Entity.violations (.section s) = []) (h : s.mayEnter ctx = .ok ()) : s.IsCounted := by
  obtain ⟨hmax, hcurrent, -⟩ := bounds_of_fields hv
  exact ⟨hcurrent, capacity_of_mayEnter h, hmax⟩

namespace Snapshot

variable {s s' : Snapshot} {e old : Entity} {now : Instant}

/-- The requirements of a snapshot. -/
abbrev graph (s : Snapshot) : Graph := .ofPrerequisites s.prerequisites

/-- The snapshots that accepted candidates lead to from the empty one. -/
inductive Grown : Snapshot → Prop where
  | empty : Grown .empty
  | entered {s : Snapshot} (h : Grown s) (e : Entity) (now : Instant) :
      e.reviewNew s.lookup now = .ok () → Grown (s.put e)
  | revised {s : Snapshot} (h : Grown s) (old new : Entity) (now : Instant) :
      old ∈ s.entities old.kind → new.reviewRevision old s.lookup now = .ok () →
      Grown (s.put new)
  | rearranged {s s' : Snapshot} (h : Grown s) : s.Rearranges s' → Grown s'

/-- What the rules keep true of all rows together. -/
structure Sound (s : Snapshot) : Prop where
  distinct : s.Distinct
  counted : ∀ sec ∈ s.sections, sec.IsCounted
  ends : ∀ p ∈ s.prerequisites, ∃ a b, p.edge = some (a, b) ∧
    (s.lookup.subject a).isSome = true ∧ (s.lookup.subject b).isSome = true
  acyclic : s.graph.Acyclic

/-! ### Candidates -/

/-- What the rules have found of a candidate that is put into a snapshot. -/
structure Admits (s : Snapshot) (e : Entity) : Prop where
  alone : ∀ b ∈ s.entities e.kind, e.Rivals b → Audited.id b = Audited.id e
  counted : ∀ sec, e = .section sec → sec.IsCounted
  requirement : ∀ p, e = .prerequisite p → ∃ a b, p.edge = some (a, b) ∧
    (s.lookup.subject a).isSome = true ∧ (s.lookup.subject b).isSome = true ∧
      (s.graph.Arrow a b ∨ ¬ s.graph.Reaches b a)

theorem Distinct.admits_of_reviewNew (hs : s.Distinct) (h : e.reviewNew s.lookup now = .ok ()) :
    s.Admits e := by
  obtain ⟨hv, hmay⟩ := Entity.reviewNew_eq_ok_iff.mp h
  refine ⟨fun b hb hr => absurd hr (hs.not_rivals h hb), ?_, ?_⟩
  · rintro sec rfl
    exact Section.isCounted_of_mayEnter hv hmay
  · rintro p rfl
    obtain ⟨a, b, hpasses⟩ := Prerequisite.passes_of_mayEnter hmay
    exact ⟨a, b, hpasses.edge_eq, hpasses.subjectStored, hpasses.requiredStored,
      .inr (Prerequisite.closing_eq_none_iff.mp hpasses.closing)⟩

theorem Sound.exists_edge {p : Prerequisite} (hs : s.Sound) (hp : p ∈ s.prerequisites) :
    ∃ a b, p.edge = some (a, b) ∧ (s.lookup.subject a).isSome = true ∧
      (s.lookup.subject b).isSome = true ∧ s.graph.Arrow a b := by
  obtain ⟨a, b, hedge, ha, hb⟩ := hs.ends p hp
  exact ⟨a, b, hedge, ha, hb, Prerequisite.arrow_ofPrerequisites_iff.mpr
    ⟨p, hp, Prerequisite.edge_eq_some_iff.mp hedge⟩⟩

theorem Sound.admits_of_reviewRevision (hs : s.Sound) (hold : old ∈ s.entities old.kind)
    (h : e.reviewRevision old s.lookup now = .ok ()) : s.Admits e := by
  obtain ⟨⟨hkind, horigin, -⟩, hv, hmay⟩ := Entity.reviewRevision_eq_ok_iff.mp h
  refine ⟨fun b hb hr => ?_, ?_, ?_⟩
  · rw [hs.distinct.eq_of_rivals hold h hb hr]
    exact (Audit.sameOrigin_iff.mp horigin).1
  · rintro sec rfl
    exact Section.isCounted_of_mayEnter hv
      (Entity.mayEnter_of_accepted (.inr ⟨old, hmay⟩) nofun nofun)
  · rintro p rfl
    obtain ⟨o, rfl⟩ := Entity.exists_prerequisite hkind
    obtain ⟨o, ho, heq⟩ := List.mem_map.mp hold
    obtain rfl := Entity.prerequisite.inj heq
    -- the ends are those of the stored prerequisite, which is one of the requirements already
    obtain ⟨a, b, hedge, ha, hb, harrow⟩ := hs.exists_edge ho
    have hsame : p.edge = o.edge := beq_iff_eq.mp (require_eq_ok_iff.mp hmay)
    exact ⟨a, b, hsame.trans hedge, ha, hb, .inl harrow⟩

/-! ### Steps -/

theorem isSome_subject_put {id : Uuid} (h : (s.lookup.subject id).isSome = true) :
    ((s.put e).lookup.subject id).isSome = true := by
  cases e
  case subject x =>
    change (rowById id (putRow x s.subjects)).isSome = true
    rw [rowById_putRow]
    split
    · rfl
    · exact h
  all_goals exact h

theorem mem_sections_put {sec : Section} (h : sec ∈ (s.put e).sections) :
    e = .section sec ∨ sec ∈ s.sections := by
  cases e
  case «section» x => exact (mem_putRow h).imp_left fun hx => congrArg _ hx.symm
  all_goals exact .inr h

theorem mem_prerequisites_put {p : Prerequisite} (h : p ∈ (s.put e).prerequisites) :
    e = .prerequisite p ∨ p ∈ s.prerequisites := by
  cases e
  case prerequisite x => exact (mem_putRow h).imp_left fun hx => congrArg _ hx.symm
  all_goals exact .inr h

theorem Admits.acyclic_put (h : s.Admits e) (hs : s.graph.Acyclic) : (s.put e).graph.Acyclic := by
  cases e
  case prerequisite x =>
    obtain ⟨a, b, hedge, -, -, hab⟩ := h.requirement x rfl
    obtain ⟨ha, hb⟩ := Prerequisite.edge_eq_some_iff.mp hedge
    have hput : ∀ c d, (s.put (.prerequisite x)).graph.Arrow c d →
        s.graph.Arrow c d ∨ c = a ∧ d = b := by
      intro c d hcd
      obtain ⟨p, hp, hc, hd⟩ := Prerequisite.arrow_ofPrerequisites_iff.mp hcd
      rcases mem_prerequisites_put hp with hx | hp
      · obtain rfl := Entity.prerequisite.inj hx
        exact .inr ⟨Option.some.inj (hc.symm.trans ha), Option.some.inj (hd.symm.trans hb)⟩
      · exact .inl (Prerequisite.arrow_ofPrerequisites_iff.mpr ⟨p, hp, hc, hd⟩)
    rcases hab with hab | hback
    · refine hs.mono fun c d hcd => (hput c d hcd).elim id ?_
      rintro ⟨rfl, rfl⟩
      exact hab
    · exact hs.of_arrow hback hput
  all_goals exact hs

/-- **What a sound snapshot admits keeps it sound.** -/
theorem Sound.put (hs : s.Sound) (h : s.Admits e) : (s.put e).Sound where
  distinct := hs.distinct.put h.alone
  counted sec hsec := (mem_sections_put hsec).elim (h.counted sec) (hs.counted sec)
  ends p hp := by
    rcases mem_prerequisites_put hp with rfl | hp
    · obtain ⟨a, b, hedge, ha, hb, -⟩ := h.requirement p rfl
      exact ⟨a, b, hedge, isSome_subject_put ha, isSome_subject_put hb⟩
    · obtain ⟨a, b, hedge, ha, hb⟩ := hs.ends p hp
      exact ⟨a, b, hedge, isSome_subject_put ha, isSome_subject_put hb⟩
  acyclic := h.acyclic_put hs.acyclic

/-- Order does not matter to soundness. -/
theorem Sound.of_rearranges (hs : s.Sound) (h : s.Rearranges s') : s'.Sound where
  distinct := hs.distinct.of_rearranges h
  counted sec hsec := hs.counted sec (h.sections.mem_iff.mpr hsec)
  ends p hp := by
    have hsubject : ∀ id, s.lookup.subject id = s'.lookup.subject id :=
      rowById_eq_of_perm (hs.distinct .subject) (fun _ => rfl) h.subjects
    simp only [← hsubject]
    exact hs.ends p (h.prerequisites.mem_iff.mpr hp)
  acyclic := hs.acyclic.mono fun a b => by
    simp only [Prerequisite.arrow_ofPrerequisites_iff, h.prerequisites.mem_iff]
    exact id

theorem sound_empty : Snapshot.empty.Sound where
  distinct kind := by cases kind <;> exact .nil
  counted _ h := absurd h List.not_mem_nil
  ends _ h := absurd h List.not_mem_nil
  acyclic a ha := by
    obtain ⟨b, hab, -⟩ := Relation.TransGen.head'_iff.mp ha
    exact absurd hab List.not_mem_nil

/-! ### Growth -/

/-- **Every snapshot that has grown is sound.** -/
theorem Grown.sound (h : s.Grown) : s.Sound := by
  induction h with
  | empty => exact sound_empty
  | entered _ _ _ hreview ih => exact ih.put (ih.distinct.admits_of_reviewNew hreview)
  | revised _ _ _ _ hold hreview ih => exact ih.put (ih.admits_of_reviewRevision hold hreview)
  | rearranged _ hperm ih => exact ih.of_rearranges hperm

/-- No two rows share a natural key. -/
structure KeysUnique (s : Snapshot) : Prop where
  subjects : s.subjects.Pairwise fun a b => a.codeName ≠ b.codeName
  prerequisites : s.prerequisites.Pairwise fun a b =>
    (a.subjectId, a.requiredSubjectId) ≠ (b.subjectId, b.requiredSubjectId)
  trimesters : s.trimesters.Pairwise fun a b => a.code ≠ b.code
  spaceTimes : s.spaceTimes.Pairwise fun a b =>
    (a.roomNumber, a.dayOfWeek, a.timeSlot) ≠ (b.roomNumber, b.dayOfWeek, b.timeSlot)
  courses : s.courses.Pairwise fun a b =>
    (a.studentId, a.subjectId, a.trimesterId) ≠ (b.studentId, b.subjectId, b.trimesterId)
  students : s.students.Pairwise fun a b => a.universityId ≠ b.universityId
  sections : s.sections.Pairwise fun a b =>
    a.trimesterId = b.trimesterId → ∀ slot ∈ a.spaceTimeIds, slot ∉ b.spaceTimeIds

/-- **Validation alone keeps the natural keys unique.** -/
theorem Grown.keysUnique (h : s.Grown) : s.KeysUnique := by
  have hs := h.sound.distinct
  have hapart {α : Type} {f : α → Entity} {rows : List α}
      (h : (rows.map f).Pairwise Entity.Apart) : rows.Pairwise fun a b => ¬ (f a).Rivals (f b) :=
    (List.pairwise_map.mp h).imp And.right
  constructor
  · exact hapart (hs .subject)
  · refine (hapart (hs .prerequisite)).imp fun hab heq => hab ?_
    obtain ⟨hsubject, hrequired⟩ := Prod.mk.inj heq
    simp only [Entity.Rivals, Prerequisite.edge, hsubject, hrequired]
  · exact hapart (hs .trimester)
  · exact (hapart (hs .spaceTime)).imp fun hab heq => hab (by simpa [Entity.Rivals] using heq)
  · exact (hapart (hs .course)).imp fun hab heq => hab (by simpa [Entity.Rivals] using heq)
  · exact hapart (hs .student)
  · exact (hapart (hs .section)).imp fun hab htrimester slot ha hb => hab ⟨htrimester, slot, ha, hb⟩

/-! ### A snapshot

Subjects change places and a section loses its last free seat while a course is in it. -/

namespace Sample

open Enrollment.Sample Registrar.Sample

/-- The section has no more room than it needs. -/
def fullSection : Entity := .section { «section» with maxCapacity := 5 }

/-- The second subject is entered once more under another code, and its first code goes to the first
subject. -/
def snapshot : Snapshot :=
  Snapshot.empty.putAll [subject 1 "CSE102", subject 2 "CSE101", requirement, trimester, spaceTime,
    student, .section «section», .course course, fullSection, subject 2 "CSE103",
    subject 1 "CSE101"]

theorem grown_snapshot : snapshot.Grown := by
  have h₁ : Grown (.put .empty (subject 1 "CSE102")) :=
    .entered .empty _ noon (by decide +kernel)
  have h₂ := h₁.entered (subject 2 "CSE101") noon (by decide +kernel)
  have h₃ := h₂.entered requirement noon (by decide +kernel)
  have h₄ := h₃.entered trimester noon (by decide +kernel)
  have h₅ := h₄.entered spaceTime noon (by decide +kernel)
  have h₆ := h₅.entered student noon (by decide +kernel)
  have h₇ := h₆.entered (.section «section») noon (by decide +kernel)
  have h₈ := h₇.entered (.course course) noon (by decide +kernel)
  have h₉ := h₈.revised (.section «section») fullSection noon (by decide +kernel)
    (by decide +kernel)
  have h₁₀ := h₉.entered (subject 2 "CSE103") noon (by decide +kernel)
  exact h₁₀.revised (subject 1 "CSE102") (subject 1 "CSE101") noon (by decide +kernel)
    (by decide +kernel)

end Sample

theorem keysUnique_of_sample : Sample.snapshot.Grown ∧ Sample.snapshot.KeysUnique :=
  ⟨Sample.grown_snapshot, Sample.grown_snapshot.keysUnique⟩

end Snapshot

end Enrollment
