import Enrollment.Course
import Enrollment.Notification
import Enrollment.Prerequisite
import Enrollment.Section
import Enrollment.SpaceTime
import Enrollment.Subject
import Enrollment.Trimester
import Enrollment.User

/-! # Entities

The nine kinds of things that the registrar keeps, as one type.

* `audit_withAudit`, `kind_withAudit`: a new audit block changes nothing but the audit block. -/

namespace Enrollment

/-- The kinds of things that are kept. -/
inductive Kind where
  | subject
  | prerequisite
  | trimester
  | section
  | spaceTime
  | course
  | notification
  | student
  | faculty
deriving DecidableEq, Repr

instance : Named Kind where
  all := [.subject, .prerequisite, .trimester, .section, .spaceTime, .course, .notification,
    .student, .faculty]
  name
    | .subject => "Subject"
    | .prerequisite => "Prerequisite"
    | .trimester => "Trimester"
    | .section => "Section"
    | .spaceTime => "SpaceTime"
    | .course => "Course"
    | .notification => "Notification"
    | .student => "Student"
    | .faculty => "Faculty"

/-- One thing of any kind. -/
inductive Entity where
  | subject (e : Subject)
  | prerequisite (e : Prerequisite)
  | trimester (e : Trimester)
  | section (e : Section)
  | spaceTime (e : SpaceTime)
  | course (e : Course)
  | notification (e : Notification)
  | student (e : Student)
  | faculty (e : Faculty)
deriving DecidableEq, Repr

namespace Entity

def kind : Entity → Kind
  | subject _ => .subject
  | prerequisite _ => .prerequisite
  | trimester _ => .trimester
  | .section _ => .section
  | spaceTime _ => .spaceTime
  | course _ => .course
  | notification _ => .notification
  | student _ => .student
  | faculty _ => .faculty

/-- The audit block of a thing of any kind. -/
def auditBlock : Entity → Audit
  | subject e => e.audit
  | prerequisite e => e.audit
  | trimester e => e.audit
  | .section e => e.audit
  | spaceTime e => e.audit
  | course e => e.audit
  | notification e => e.audit
  | student e => e.audit
  | faculty e => e.audit

instance : Audited Entity := ⟨auditBlock⟩

/-- The same thing with another audit block. -/
def withAudit (a : Audit) : Entity → Entity
  | subject e => subject { e with audit := a }
  | prerequisite e => prerequisite { e with audit := a }
  | trimester e => trimester { e with audit := a }
  | .section e => .section { e with audit := a }
  | spaceTime e => spaceTime { e with audit := a }
  | course e => course { e with audit := a }
  | notification e => notification { e with audit := a }
  | student e => student { e with audit := a }
  | faculty e => faculty { e with audit := a }

theorem audit_withAudit (a : Audit) (e : Entity) : audit (e.withAudit a) = a := by cases e <;> rfl

theorem kind_withAudit (a : Audit) (e : Entity) : (e.withAudit a).kind = e.kind := by
  cases e <;> rfl

end Entity

end Enrollment
