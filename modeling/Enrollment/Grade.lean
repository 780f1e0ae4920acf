import Enrollment.Binary32

/-! # Grades

A grade is a 32-bit number on the four-point scale, from 0 to 4 with both ends. -/

namespace Enrollment

/-- A number that may be a grade. -/
abbrev Grade := Binary32

namespace Grade

def lowest : Grade := Binary32.ofNat 0
def highest : Grade := Binary32.ofNat 4

/-- A number on the four-point scale. -/
def isValid (g : Grade) : Bool := Binary32.le lowest g && Binary32.le g highest

theorem isNumber_of_isValid {g : Grade} (h : isValid g = true) : g.isNumber = true := by
  simp only [isValid, Bool.and_eq_true, Binary32.le_iff] at h
  exact h.1.2.1

end Grade

end Enrollment
