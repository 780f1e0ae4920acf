import Enrollment.Proofs.Fields
import Enrollment.Snapshot

/-! # Fields are named once

The constraints on a candidate are on different fields, save for two on the address of a user: that
it is not too long, and that it looks like an address. So a candidate that is refused for its fields
is told of no field twice, unless both of these are violated, and then of the address alone.

* `findings_pairwise`: two constraints on one field are those on an address.
* `violations_pairwise`: two violations of one field are those of an address that is none.
* `named_once_iff`: a refusal names each field once iff no such address is in the candidate. -/

namespace Enrollment

/-- A text that is too long for an address and does not look like one either. A blank text does not
count, since it is found to be blank alone. -/
structure IsNoAddress (email : String) : Prop where
  notBlank : Text.isBlank email = false
  tooLong : 100 < email.length
  noSign : '@' ∉ email.toList

namespace Entity

/-- The address of a user. -/
def email? : Entity → Option String
  | student e => some e.email
  | faculty e => some e.email
  | _ => none

/-- What is found of the length of an address. -/
def lengthFinding (email : String) : Finding := ⟨"email", Constraint.text 100 email⟩

/-- What is found of the form of an address. -/
def formFinding (email : String) : Finding :=
  ⟨"email", Constraint.holds .notAnAddress (Text.isBlank email || email.toList.contains '@')⟩

variable {e : Entity} {email : String} {vs : List Violation}

/-- **Two constraints on one field** are those on an address. -/
theorem findings_pairwise (e : Entity) : e.findings.Pairwise fun f g => f.field = g.field →
    ∃ email ∈ e.email?, f = lengthFinding email ∧ g = formFinding email := by
  cases e <;> simp [findings, ownFindings, Constraint.findings, Audit.constraints,
    Subject.constraints, Prerequisite.constraints, Trimester.constraints, Section.constraints,
    SpaceTime.constraints, Course.constraints, Notification.constraints, Student.constraints,
    Faculty.constraints, contactConstraints, lengthFinding, formFinding, email?]

theorem infix_findings (h : email ∈ e.email?) :
    [lengthFinding email, formFinding email] <:+: e.findings := by
  cases e <;> cases h
  case student => exact ⟨[_, _, _], [_], rfl⟩
  case faculty => exact ⟨[_, _, _], [], rfl⟩

theorem isNoAddress_of_findings {d d' : Defect} (hlength : (lengthFinding email).defect = some d)
    (hform : (formFinding email).defect = some d') :
    IsNoAddress email ∧ d = .tooLong 100 ∧ d' = .notAnAddress := by
  simp only [formFinding, Constraint.holds, Option.ite_none_left_eq_some, Bool.or_eq_true,
    not_or, Bool.not_eq_true, Option.some.injEq] at hform
  obtain ⟨⟨hblank, hsign⟩, rfl⟩ := hform
  simp only [lengthFinding, Constraint.text, hblank, Bool.false_eq_true, if_false,
    Option.ite_none_right_eq_some, Option.some.injEq] at hlength
  obtain ⟨hlong, rfl⟩ := hlength
  exact ⟨⟨hblank, hlong, by simpa using hsign⟩, rfl, rfl⟩

theorem report_of_isNoAddress (h : IsNoAddress email) :
    report [lengthFinding email, formFinding email] =
      [⟨"email", .tooLong 100⟩, ⟨"email", .notAnAddress⟩] := by
  have hlength : Constraint.text 100 email = some (.tooLong 100) := by
    simp [Constraint.text, h.notBlank, h.tooLong]
  have hform : Constraint.holds .notAnAddress (Text.isBlank email || email.toList.contains '@') =
      some .notAnAddress := by
    simp [Constraint.holds, h.notBlank, h.noSign]
  simp only [report, lengthFinding, formFinding, List.filterMap_cons, List.filterMap_nil, hlength,
    hform, Option.map_some]

/-- **Two violations of one field** are those of an address that is none. -/
theorem violations_pairwise (e : Entity) : e.violations.Pairwise fun v w => v.field = w.field →
    v = ⟨"email", .tooLong 100⟩ ∧ w = ⟨"email", .notAnAddress⟩ ∧
      ∃ email ∈ e.email?, IsNoAddress email := by
  rw [violations_eq_report, report, List.pairwise_filterMap]
  refine e.findings_pairwise.imp fun {f g} hfg v hv w hw hfield => ?_
  obtain ⟨d, hd, rfl⟩ := Option.map_eq_some_iff.mp hv
  obtain ⟨d', hd', rfl⟩ := Option.map_eq_some_iff.mp hw
  obtain ⟨email, hemail, rfl, rfl⟩ := hfg hfield
  obtain ⟨hnone, rfl, rfl⟩ := isNoAddress_of_findings hd hd'
  exact ⟨rfl, rfl, email, hemail, hnone⟩

theorem nodup_fields_iff (e : Entity) :
    (e.violations.map Violation.field).Nodup ↔ ¬ ∃ email ∈ e.email?, IsNoAddress email := by
  rw [List.Nodup, List.pairwise_map]
  constructor
  · rintro h ⟨email, hemail, hnone⟩
    have hsub : [⟨"email", .tooLong 100⟩, ⟨"email", .notAnAddress⟩].Sublist e.violations := by
      rw [violations_eq_report, ← report_of_isNoAddress hnone]
      exact (infix_findings hemail).sublist.filterMap _
    exact (List.pairwise_pair.mp (h.sublist hsub)) rfl
  · intro h
    refine e.violations_pairwise.imp fun {v w} hvw => ?_
    exact fun hfield : v.field = w.field => h (hvw hfield).2.2

theorem violations_of_reviewNew {l : Lookup} {now : Instant}
    (h : e.reviewNew l now = .error (.structural vs)) : vs = e.violations :=
  ((checked_eq_structural_iff fun hown => notStructural_mayStand hown none).mp h).2

theorem violations_of_reviewRevision {old : Entity} {l : Lookup} {now : Instant}
    (h : e.reviewRevision old l now = .error (.structural vs)) : vs = e.violations := by
  have hrevision : NotStructural (e.checkRevision old) :=
    .bind .rule fun _ => .bind .rule fun _ => .clash
  rw [reviewRevision] at h
  cases hcheck : e.checkRevision old with
  | error r =>
    rw [hcheck] at h
    exact absurd (hcheck.trans h) (hrevision vs)
  | ok a =>
    rw [hcheck] at h
    exact ((checked_eq_structural_iff fun hown => notStructural_mayStand hown (some old)).mp h).2

/-- **A refusal for fields names each field once**, unless the candidate has an address that is too
long and does not look like one. Then it names the address twice, once for each, and no other field
more than once. -/
theorem named_once_iff (e : Entity) (vs : List Violation)
    (h : (∃ l now, e.reviewNew l now = .error (.structural vs)) ∨
      ∃ old l now, e.reviewRevision old l now = .error (.structural vs)) :
    ((vs.map Violation.field).Nodup ↔ ¬ ∃ email ∈ e.email?, IsNoAddress email) ∧
    vs.Pairwise fun v w => v.field = w.field →
      v = ⟨"email", .tooLong 100⟩ ∧ w = ⟨"email", .notAnAddress⟩ := by
  obtain rfl : vs = e.violations := by
    rcases h with ⟨l, now, h⟩ | ⟨old, l, now, h⟩
    · exact violations_of_reviewNew h
    · exact violations_of_reviewRevision h
  refine ⟨e.nodup_fields_iff, e.violations_pairwise.imp fun {v w} hvw hfield => ?_⟩
  obtain ⟨hv, hw, -⟩ := hvw hfield
  exact ⟨hv, hw⟩

namespace Sample

/-- A student with a negative number and with so many letters for an address. -/
def lettered (count : Nat) : Entity :=
  .student ⟨.fresh ⟨1⟩ "registrar" .epoch, -1, "Student", String.ofList (List.replicate count 'a')⟩

/-- What is reported of a hundred letters. -/
def once : List Violation := [⟨"email", .notAnAddress⟩, ⟨"university_id", .negative⟩]

/-- What is reported of one letter more. -/
def twice : List Violation := ⟨"email", .tooLong 100⟩ :: once

end Sample

theorem named_once_of_letters :
    (∀ l now, (Sample.lettered 100).reviewNew l now = .error (.structural Sample.once)) ∧
    (Sample.once.map Violation.field).Nodup := by
  have hreview : ∀ l now,
      (Sample.lettered 100).reviewNew l now = .error (.structural Sample.once) := fun l now => by
    rw [reviewNew, show (Sample.lettered 100).violations = Sample.once by decide +kernel]
    rfl
  have hiff := (named_once_iff _ _ (.inl ⟨Snapshot.empty.lookup, .epoch, hreview _ _⟩)).1
  refine ⟨hreview, hiff.mpr ?_⟩
  rintro ⟨email, hemail, hnone⟩
  obtain rfl := Option.some.inj hemail
  exact absurd hnone.tooLong (by decide +kernel)

/-- With a letter more they are reported twice under one field. -/
theorem address_named_twice :
    (∀ l now, (Sample.lettered 101).reviewNew l now = .error (.structural Sample.twice)) ∧
    ¬ (Sample.twice.map Violation.field).Nodup := by
  refine ⟨fun l now => ?_, by decide⟩
  rw [reviewNew, show (Sample.lettered 101).violations = Sample.twice by decide +kernel]
  rfl

end Entity

end Enrollment
