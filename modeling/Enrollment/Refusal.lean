import Enrollment.Entity
import Enrollment.Trimester.Phase

/-! # Refusals

Why a candidate is not stored. A structural refusal lists every field that is not as it has to be; a
rule that is broken, or a clash with what is stored, is reported alone. Whoever is refused mends the
fields, mends the request, or reads again and retries.

Each cause is a constructor with what its wording needs, and one function words each type. -/

namespace Enrollment

/-! ### Fields -/

/-- What is wrong with a field. -/
inductive Defect where
  | missing
  | blank
  | tooLong (most : Nat)
  | outsideInts (low high : Int)
  | outsideReals (low high : Binary32)
  | before (year : Int32)
  | notPositive
  | negative
  | noSlot
  | notAnAddress
  /-- A defect in words of its own. -/
  | stated (message : String)
deriving DecidableEq, Repr

/-- The wording of a defect. -/
def Defect.message : Defect → String
  | missing => "is required"
  | blank => "must not be blank"
  | tooLong most => "must be at most " ++ toString most ++ " characters"
  | outsideInts low high => "must be between " ++ toString low ++ " and " ++ toString high
  | outsideReals low high => "must be between " ++ low.text ++ " and " ++ high.text
  | before year => "must be " ++ toString year.toInt ++ " or later"
  | notPositive => "must be greater than 0"
  | negative => "must not be negative"
  | noSlot => "must contain at least one slot"
  | notAnAddress => "must be an email address"
  | stated message => message

/-- A field and what is wrong with it. -/
structure Violation where
  field : String
  defect : Defect
deriving DecidableEq, Repr

def Violation.message (v : Violation) : String := v.field ++ " " ++ v.defect.message

/-! ### Rules -/

/-- What a rule finds missing from the store. -/
inductive Referent where
  | subject
  | trimester
  | student
  | section
  | spaceTime
  | teacher
deriving DecidableEq, Repr

/-- A referent in words. -/
def Referent.text : Referent → String
  | subject => "subject"
  | trimester => "trimester"
  | student => "student"
  | .section => "section"
  | spaceTime => "space time"
  | teacher => "teacher"

/-- A business rule that a candidate breaks. -/
inductive Rule where
  /-- A thing keeps its kind. -/
  | kindFixed (old new : Kind)
  /-- A thing keeps its identity and its first author. -/
  | originFixed
  /-- What is referred to is stored. -/
  | exists (what : Referent) (id : Uuid)
  /-- No subject requires itself. -/
  | noSelfRequirement (subject : String)
  /-- Requirements make no cycle. -/
  | noCycle (chain : List String)
  /-- A prerequisite keeps its ends. -/
  | endsFixed
  /-- The code of a trimester is that of its year and season. -/
  | codeMatches (code : Int32) (season : Season) (year : Int32) (expected : TrimesterCode)
  /-- The bounds of a calendar are in order. -/
  | calendarInOrder
  /-- The calendar allows the status. -/
  | phase (fault : PhaseFault)
  /-- A room has the slot. -/
  | slotOfRoom (room : RoomType) (slot : Int16)
  /-- No more seats are taken than there are. -/
  | withinCapacity (current most : Int32)
  /-- A section lists a space time once. -/
  | slotOnce (spaceTime : Uuid)
  /-- Only teachers teach. -/
  | teacherTeaches (name : String) (userType : UserType)
  /-- Only courses move the seat counter of a section. -/
  | counterFixed (id : Uuid) (old new : Int32)
  /-- Section and grade go with the status. -/
  | state (fault : StateFault)
  /-- The section of a course is offered in its trimester. -/
  | sectionOffered (id trimester : Uuid)
  /-- The section of a course teaches its subject. -/
  | sectionTeaches (id subject : Uuid)
  /-- A seat is left. -/
  | seatLeft (id : Uuid) (current most : Int32)
  /-- Faculty are no students. -/
  | facultyType
  /-- The relations go with the scope. -/
  | scope (fault : ScopeFault)
  /-- The target of a notification is stored. -/
  | targetExists (aim : Scope)
  /-- A notification keeps its scope. -/
  | scopeFixed (old new : Scope)
  /-- A rule in words of its own. -/
  | stated (message : String)
deriving DecidableEq, Repr

/-- A scope in a sentence. -/
def Scope.word (s : Scope) : String := (Named.name s).map Char.toLower

/-- The wording of a broken rule. -/
def Rule.message : Rule → String
  | kindFixed old new => "a " ++ Named.name old ++ " cannot be replaced by a " ++ Named.name new
  | originFixed => "id, created_at and created_by cannot change"
  | .exists what id => what.text ++ " " ++ id.text ++ " does not exist"
  | noSelfRequirement subject => "subject " ++ subject ++ " cannot require itself"
  | noCycle chain => "prerequisite would create a cycle: " ++ " -> ".intercalate chain
  | endsFixed =>
    "the subjects of a prerequisite cannot change; delete and recreate it instead"
  | codeMatches code season year expected =>
    "code " ++ toString code.toInt ++ " does not match " ++ Named.name season ++ " " ++
      toString year.toInt ++ " (expected " ++ expected.text ++ ")"
  | calendarInOrder =>
    "calendar boundaries must run course selection start, course selection end, " ++
      "section registration start, section registration end"
  | phase fault => fault.message
  | slotOfRoom room slot =>
    "a " ++ Named.name room ++ " room only has slots " ++ toString room.firstSlot.toInt ++ " to " ++
      toString room.lastSlot.toInt ++ ", got " ++ toString slot.toInt
  | withinCapacity current most =>
    "current capacity " ++ toString current.toInt ++ " exceeds max capacity " ++
      toString most.toInt
  | slotOnce spaceTime => "space time " ++ spaceTime.text ++ " is listed twice"
  | teacherTeaches name userType =>
    name ++ " is " ++ Named.name userType ++ " and cannot teach a section"
  | counterFixed id old new =>
    "current capacity of section " ++ id.text ++ " is maintained by course registrations " ++
      "and cannot be set from " ++ toString old.toInt ++ " to " ++ toString new.toInt
  | state fault => fault.message
  | sectionOffered id trimester =>
    "section " ++ id.text ++ " is not offered in trimester " ++ trimester.text
  | sectionTeaches id subject =>
    "section " ++ id.text ++ " does not teach subject " ++ subject.text
  | seatLeft id current most =>
    "section " ++ id.text ++ " is full (" ++ toString current.toInt ++ " of " ++
      toString most.toInt ++ " seats taken)"
  | facultyType => "faculty must be a TEACHER or an ADMIN, not a STUDENT"
  | scope fault => fault.message
  | targetExists aim => "the " ++ aim.word ++ " this notification targets does not exist"
  | scopeFixed old new =>
    "notification scope cannot change from " ++ Named.name old ++ " to " ++ Named.name new
  | stated message => message

/-! ### Clashes -/

/-- What a candidate clashes with. -/
inductive Clash where
  /-- The candidate was made from another version than the stored one. -/
  | stale (kind : Kind) (id : Uuid) (candidate stored : Int32)
  /-- The stored row changed after it was read. -/
  | outdated (id : Uuid) (version : Int32)
  | subjectCode (code : String)
  | requirement (subject required : String)
  | trimester (code : TrimesterCode)
  | slot (key : SlotKey)
  | booking (place : String) (id : Uuid)
  | course (student subject : Uuid)
  | universityId (number : Int64)
  /-- Another transaction came first. -/
  | raced
  /-- A clash in words of its own. -/
  | stated (message : String)
deriving DecidableEq, Repr

/-- The wording of a clash. -/
def Clash.message : Clash → String
  | stale kind id candidate stored =>
    Named.name kind ++ " " ++ id.text ++ " was modified concurrently (version " ++
      toString candidate.toInt ++ " is stale, stored version is " ++ toString stored.toInt ++ ")"
  | outdated id version =>
    id.text ++ " was modified after version " ++ toString version.toInt ++ " was read"
  | subjectCode code => "subject code " ++ code ++ " is already taken"
  | requirement subject required => subject ++ " already requires " ++ required
  | trimester code => "trimester " ++ code.text ++ " already exists"
  | slot key => key.text ++ " already exists"
  | booking place id => place ++ " is already booked by section " ++ id.text ++ " this trimester"
  | course student subject =>
    "student " ++ student.text ++ " already has a course for subject " ++ subject.text ++
      " this trimester"
  | universityId number => "university id " ++ toString number.toInt ++ " is already taken"
  | raced => "the write raced a concurrent transaction"
  | stated message => message

/-! ### Refusals -/

/-- Why a candidate is not stored. -/
inductive Refusal where
  | structural (violations : List Violation)
  | rule (broken : Rule)
  | conflict (clash : Clash)
deriving DecidableEq, Repr

/-- What a check comes to. -/
abbrev Verdict := Except Refusal Unit

namespace Refusal

/-- The wording of a refusal. -/
def message : Refusal → String
  | structural violations =>
    "invalid fields: " ++ "; ".intercalate (violations.map Violation.message)
  | rule broken => "invalid operation: " ++ broken.message
  | conflict clash => "conflict: " ++ clash.message

/-- The refusal for one missing field. -/
def missing (field : String) : Refusal := structural [⟨field, .missing⟩]

/-- To read again and retry may help. -/
def isConflict : Refusal → Bool
  | conflict _ => true
  | _ => false

end Refusal

/-- A condition, and the refusal where it does not hold. -/
def require (condition : Bool) (refusal : Refusal) : Verdict :=
  if condition then .ok () else .error refusal

@[simp]
theorem require_eq_ok_iff {condition : Bool} {refusal : Refusal} :
    require condition refusal = .ok () ↔ condition = true := by
  cases condition <;> simp [require]

theorem require_eq_error_iff {condition : Bool} {refusal : Refusal} :
    require condition refusal = .error refusal ↔ condition = false := by
  cases condition <;> simp [require]

/-- A reference that the field checks have asked for already. -/
def present {α : Type} (value : Option α) (field : String) : Except Refusal α :=
  match value with
  | some a => .ok a
  | none => .error (.missing field)

end Enrollment
