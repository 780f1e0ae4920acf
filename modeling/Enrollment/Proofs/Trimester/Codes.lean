import Enrollment.Proofs.Registrar.Lawfulness
import Enrollment.Proofs.Snapshot.Growth

/-! # Codes of trimesters

A trimester is looked up by its code, which keeps two digits of its year. In a snapshot that has
grown the code of each trimester is that of its own year and season, also after it was revised. So
the rules find a trimester exactly if there is one of the same season whose year ends in the same
two digits.

* `TrimesterCode.of_eq_of_iff`: codes tell seasons apart, and years up to centuries.
* `Grown.lawful`: every row of a snapshot that has grown is lawful.
* `Grown.trimester_exists_iff`: when a trimester is said to exist already. -/

namespace Enrollment

/-! ### Codes -/

theorem Season.digit_cases (s : Season) :
    s.digit.toInt = 1 ∨ s.digit.toInt = 2 ∨ s.digit.toInt = 3 := by
  cases s <;> decide

theorem Season.digit_injective {s s' : Season} (h : s.digit.toInt = s'.digit.toInt) : s = s' := by
  revert h
  cases s <;> cases s' <;> decide

namespace TrimesterCode

variable {year year' : Int32} {season season' : Season}

theorem toInt_of (year : Int32) (season : Season) :
    (of year season).value.toInt = year.toInt.tmod 100 * 10 + season.digit.toInt := by
  have hdigit := season.digit_cases
  have hlow := Int.lt_tmod_of_pos year.toInt (show (0 : Int) < 100 by decide)
  have hhigh := Int.tmod_lt_of_pos year.toInt (show (0 : Int) < 100 by decide)
  have hrem : (year % 100).toInt = year.toInt.tmod 100 := Int32.toInt_mod year 100
  have hten : (year % 100 * 10).toInt = year.toInt.tmod 100 * 10 := by
    rw [Int32.toInt_mul, hrem]
    exact Int.bmod_eq_of_le (by simp; omega) (by simp; omega)
  rw [of, Int32.toInt_add, hten]
  exact Int.bmod_eq_of_le (by omega) (by omega)

/-- **Codes tell seasons apart**, and years up to centuries. -/
theorem of_eq_of_iff : of year season = of year' season' ↔
    season = season' ∧ year.toInt.tmod 100 = year'.toInt.tmod 100 := by
  constructor
  · intro h
    have hvalue := congrArg (fun c : TrimesterCode => c.value.toInt) h
    simp only [toInt_of] at hvalue
    have hdigit := season.digit_cases
    have hdigit' := season'.digit_cases
    exact ⟨Season.digit_injective (by omega), by omega⟩
  · rintro ⟨rfl, hyear⟩
    have hvalue : (of year season).value = (of year' season).value := by
      rw [← Int32.toInt_inj, toInt_of, toInt_of, hyear]
    exact congrArg mk hvalue

end TrimesterCode

theorem Trimester.earliestYear_le {t : Trimester} (h : Entity.ownViolations (.trimester t) = []) :
    2003 ≤ t.year.toInt := by
  have hyear := Constraint.of_holds (Constraint.violations_eq_nil_iff.mp h _ List.mem_cons_self)
  exact Int32.le_iff_toInt_le.mp (of_decide_eq_true hyear)

namespace Snapshot

variable {s : Snapshot} {now : Instant}

/-! ### Lawful rows -/

theorem mem_entities_put {e b : Entity} {kind : Kind} (h : b ∈ (s.put e).entities kind) :
    b = e ∨ b ∈ s.entities kind := by
  rw [entities_put] at h
  split at h
  · exact mem_putRow h
  · exact .inr h

/-- **Every row of a snapshot that has grown is lawful.** -/
theorem Grown.lawful (h : s.Grown) : ∀ kind, ∀ e ∈ s.entities kind, e.Lawful := by
  induction h with
  | empty =>
    intro kind e he
    cases kind <;> exact absurd he List.not_mem_nil
  | entered _ e now hreview ih =>
    intro kind b hb
    obtain ⟨hv, hmay⟩ := Entity.reviewNew_eq_ok_iff.mp hreview
    rcases mem_entities_put hb with rfl | hb
    · exact ⟨Entity.ownViolations_of_violations hv, Entity.keepsLaws_of_mayEnter hmay⟩
    · exact ih kind b hb
  | revised _ old new now hold hreview ih =>
    intro kind b hb
    obtain ⟨⟨hkind, -⟩, hv, hmay⟩ := Entity.reviewRevision_eq_ok_iff.mp hreview
    rcases mem_entities_put hb with rfl | hb
    · exact ⟨Entity.ownViolations_of_violations hv,
        Registrar.keepsLaws_of_mayReplace (ih old.kind old hold) hkind hmay⟩
    · exact ih kind b hb
  | rearranged _ hperm ih =>
    exact fun kind e he => ih kind e ((hperm.entities kind).mem_iff.mpr he)

theorem Grown.trimester_lawful (h : s.Grown) {t : Trimester} (ht : t ∈ s.trimesters) :
    t.code = t.expectedCode.value ∧ 2003 ≤ t.year.toInt := by
  have hlawful := h.lawful .trimester (.trimester t) (List.mem_map_of_mem ht)
  exact ⟨hlawful.laws.1, Trimester.earliestYear_le hlawful.fields⟩

/-! ### The same code -/

/-- What has passed everything else is held against the trimester of its code alone. -/
theorem reviewNew_trimester_eq {t : Trimester} (hv : (Entity.trimester t).violations = [])
    (hcode : t.code = t.expectedCode.value) (hcalendar : t.calendar.isChronological = true)
    (hstatus : t.calendar.allows t.status now = .ok ()) :
    (Entity.trimester t).reviewNew s.lookup now =
      require (!(s.trimesters.find? (·.code == t.code)).isSome)
        (.conflict (.trimester t.expectedCode)) := by
  have hnew : ((s.lookup.trimesterByCode t.code).any fun other =>
      Context.collides ⟨s.lookup, now, none⟩ other.audit.id) =
        (s.trimesters.find? (·.code == t.code)).isSome := by
    change Option.any _ (s.trimesters.find? _) = _
    cases s.trimesters.find? (·.code == t.code) <;> rfl
  rw [Entity.reviewNew, hv, Entity.mayEnter, Trimester.mayEnter, hcalendar, hstatus, hnew, ← hcode,
    beq_self_eq_true]
  rfl

/-- **A stored trimester has the code of another** iff it is of the same season, in a year that ends
in the same two digits. -/
theorem Grown.code_eq_iff (h : s.Grown) {t u : Trimester} (hu : u ∈ s.trimesters)
    (hcode : t.code = t.expectedCode.value) (hyear : 2003 ≤ t.year.toInt) :
    u.code = t.code ↔ u.season = t.season ∧ u.year.toInt % 100 = t.year.toInt % 100 := by
  obtain ⟨hucode, huyear⟩ := h.trimester_lawful hu
  have hof : u.code = t.code ↔ u.expectedCode = t.expectedCode := by
    rw [hucode, hcode]
    exact ⟨fun hvalue => congrArg TrimesterCode.mk hvalue, congrArg TrimesterCode.value⟩
  rw [hof, Trimester.expectedCode, Trimester.expectedCode, TrimesterCode.of_eq_of_iff,
    Int.tmod_eq_emod_of_nonneg (by omega), Int.tmod_eq_emod_of_nonneg (by omega)]

/-- **A trimester is said to exist already**, if everything else is right about it, iff a trimester
of the same season is stored whose year ends in the same two digits. Where no century lies between
the years, that is a trimester of the same season and year. -/
theorem Grown.trimester_exists_iff (h : s.Grown) {t : Trimester}
    (hv : (Entity.trimester t).violations = []) (hcode : t.code = t.expectedCode.value)
    (hcalendar : t.calendar.isChronological = true)
    (hstatus : t.calendar.allows t.status now = .ok ()) :
    ((Entity.trimester t).reviewNew s.lookup now = .error (.conflict (.trimester t.expectedCode)) ↔
      ∃ u ∈ s.trimesters, u.season = t.season ∧ u.year.toInt % 100 = t.year.toInt % 100) ∧
    ((∀ u ∈ s.trimesters, (u.year.toInt - t.year.toInt).natAbs < 100) →
      ((Entity.trimester t).reviewNew s.lookup now =
          .error (.conflict (.trimester t.expectedCode)) ↔
        ∃ u ∈ s.trimesters, u.season = t.season ∧ u.year = t.year)) := by
  have hyear := Trimester.earliestYear_le (Entity.ownViolations_of_violations hv)
  have hexists : (Entity.trimester t).reviewNew s.lookup now =
      .error (.conflict (.trimester t.expectedCode)) ↔
        ∃ u ∈ s.trimesters, u.season = t.season ∧ u.year.toInt % 100 = t.year.toInt % 100 := by
    rw [reviewNew_trimester_eq hv hcode hcalendar hstatus, require_eq_error_iff,
      Bool.not_eq_false', List.find?_isSome]
    refine exists_congr fun u => and_congr_right fun hu => ?_
    rw [beq_iff_eq]
    exact h.code_eq_iff hu hcode hyear
  refine ⟨hexists, fun hnear => hexists.trans ?_⟩
  refine exists_congr fun u => and_congr_right fun hu => and_congr_right fun _ => ?_
  have hapart := hnear u hu
  rw [← Int32.toInt_inj]
  omega

namespace Sample

open Enrollment.Sample Registrar.Sample

/-- A trimester of spring with the code of 2024. -/
def spring (year : Int32) : Trimester :=
  ⟨block 11, year, .spring, 241, .upcoming, ⟨none, none, none, none⟩⟩

end Sample

open Enrollment.Sample Registrar.Sample in
theorem spring_exists : Sample.snapshot.Grown ∧
    (Entity.trimester (Sample.spring 2024)).violations = [] ∧
    (Sample.spring 2024).code = (Sample.spring 2024).expectedCode.value ∧
    (Sample.spring 2024).calendar.isChronological = true ∧
    (Sample.spring 2024).calendar.allows .upcoming noon = .ok () ∧
    (Entity.trimester (Sample.spring 2024)).reviewNew Sample.snapshot.lookup noon =
      .error (.conflict (.trimester (.of 2024 .spring))) := by
  have hv : (Entity.trimester (Sample.spring 2024)).violations = [] := by decide +kernel
  have hstatus : (Sample.spring 2024).calendar.allows .upcoming noon = .ok () := rfl
  obtain ⟨hiff, -⟩ := Sample.grown_snapshot.trimester_exists_iff hv rfl rfl hstatus
  exact ⟨Sample.grown_snapshot, hv, rfl, rfl, hstatus, hiff.mpr (by decide +kernel)⟩

open Enrollment.Sample Registrar.Sample in
/-- A trimester is said to exist already a century later, when there is none of its year. -/
theorem spring_exists_in_advance : Sample.snapshot.Grown ∧
    (Entity.trimester (Sample.spring 2124)).violations = [] ∧
    (Sample.spring 2124).code = (Sample.spring 2124).expectedCode.value ∧
    (Sample.spring 2124).calendar.isChronological = true ∧
    (Sample.spring 2124).calendar.allows .upcoming noon = .ok () ∧
    (Entity.trimester (Sample.spring 2124)).reviewNew Sample.snapshot.lookup noon =
      .error (.conflict (.trimester (.of 2124 .spring))) ∧
    ∀ u ∈ Sample.snapshot.trimesters, u.year ≠ 2124 :=
  ⟨Sample.grown_snapshot, by decide +kernel, rfl, rfl, rfl, by decide +kernel, by decide +kernel⟩

end Snapshot

end Enrollment
