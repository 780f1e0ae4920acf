import Enrollment.Entity

/-! # Looking up stored things

What a rule may ask about the things that are stored. The prerequisites are given as a list, so that
the chains of requirements are finite in number; everything else is a question with an answer. -/

namespace Enrollment

/-- Answers about what is stored. -/
structure Lookup where
  subject : Uuid → Option Subject
  subjectByCode : String → Option Subject
  prerequisites : List Prerequisite
  trimester : Uuid → Option Trimester
  trimesterByCode : Int32 → Option Trimester
  sectionAt : Uuid → Option Section
  sectionsInTrimester : Uuid → List Section
  spaceTime : Uuid → Option SpaceTime
  spaceTimesAt : SlotKey → List SpaceTime
  courseFor : Uuid → Uuid → Uuid → Option Course
  student : Uuid → Option Student
  studentByUniversityId : Int64 → Option Student
  faculty : Uuid → Option Faculty

namespace Lookup

/-- The prerequisites whose dependent subject is the given one. -/
def prerequisitesOf (l : Lookup) (subject : Uuid) : List Prerequisite :=
  l.prerequisites.filter (·.subjectId = some subject)

/-- A subject in words: its code, or its identifier if it is not stored. -/
def describe (l : Lookup) (id : Uuid) : String := ((l.subject id).map (·.codeName)).getD id.text

end Lookup

/-- What a rule may consult besides the candidate. -/
structure Context where
  lookup : Lookup
  now : Instant
  /-- The row that an update replaces; none on insert. -/
  replacing : Option Uuid

/-- A stored row stands against a candidate unless it is the one that the candidate replaces. On
insert every stored row does, one with the identifier of the candidate included. -/
def Context.collides (ctx : Context) (stored : Uuid) : Bool := ctx.replacing != some stored

end Enrollment
