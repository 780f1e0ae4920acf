import Enrollment.Audit
import Enrollment.Binary32
import Enrollment.Constraint
import Enrollment.Course
import Enrollment.Course.Rules
import Enrollment.Decimal.Rounding
import Enrollment.Decimal.Shortest
import Enrollment.Entity
import Enrollment.Grade
import Enrollment.Lookup
import Enrollment.Named
import Enrollment.Notification
import Enrollment.Notification.Rules
import Enrollment.Numeral
import Enrollment.Prerequisite
import Enrollment.Prerequisite.Graph
import Enrollment.Prerequisite.Rules
import Enrollment.Prerequisite.Search
import Enrollment.Proofs.Fields
import Enrollment.Proofs.Fields.Naming
import Enrollment.Proofs.Fields.Violations
import Enrollment.Proofs.Footprint
import Enrollment.Proofs.Outcome
import Enrollment.Proofs.Prerequisite.Admission
import Enrollment.Proofs.Prerequisite.Chains
import Enrollment.Proofs.Prerequisite.Shortest
import Enrollment.Proofs.Registrar.Authors
import Enrollment.Proofs.Registrar.Booking
import Enrollment.Proofs.Registrar.Effect
import Enrollment.Proofs.Registrar.Frame
import Enrollment.Proofs.Registrar.Fullness
import Enrollment.Proofs.Registrar.Lawfulness
import Enrollment.Proofs.Registrar.Occupancy
import Enrollment.Proofs.Registrar.Permanence
import Enrollment.Proofs.Registrar.Placement
import Enrollment.Proofs.Registrar.Progress
import Enrollment.Proofs.Registrar.Races
import Enrollment.Proofs.Registrar.ReadBack
import Enrollment.Proofs.Registrar.Recipients
import Enrollment.Proofs.Registrar.Removal
import Enrollment.Proofs.Registrar.Requirements
import Enrollment.Proofs.Registrar.Revision
import Enrollment.Proofs.Registrar.Run
import Enrollment.Proofs.Registrar.Seating
import Enrollment.Proofs.Registrar.Teaching
import Enrollment.Proofs.Registrar.Versions
import Enrollment.Proofs.Review
import Enrollment.Proofs.Sample
import Enrollment.Proofs.Section.Counting
import Enrollment.Proofs.Section.Walk
import Enrollment.Proofs.Snapshot.Distinct
import Enrollment.Proofs.Snapshot.Growth
import Enrollment.Proofs.Snapshot.Reentry
import Enrollment.Proofs.Snapshot.Repetition
import Enrollment.Proofs.Store.Assembly
import Enrollment.Proofs.Store.Closure
import Enrollment.Proofs.Store.Conformity
import Enrollment.Proofs.Store.Entities
import Enrollment.Proofs.Store.Fidelity
import Enrollment.Proofs.Store.Finding
import Enrollment.Proofs.Store.Loading
import Enrollment.Proofs.Store.Seats
import Enrollment.Proofs.Store.Statements
import Enrollment.Proofs.Time.Chronology
import Enrollment.Proofs.Trimester.Codes
import Enrollment.Proofs.Trimester.Phases
import Enrollment.Refusal
import Enrollment.Registrar.Failure
import Enrollment.Registrar.Writing
import Enrollment.Review
import Enrollment.Section
import Enrollment.Section.Rules
import Enrollment.Section.Seats
import Enrollment.Settings
import Enrollment.Snapshot
import Enrollment.SpaceTime
import Enrollment.SpaceTime.Rules
import Enrollment.Store.Basic
import Enrollment.Store.Conversion
import Enrollment.Store.Failure
import Enrollment.Store.Integrity
import Enrollment.Store.Listing
import Enrollment.Store.Migration
import Enrollment.Store.Reading
import Enrollment.Store.Relation
import Enrollment.Store.Row
import Enrollment.Store.Schema
import Enrollment.Subject
import Enrollment.Subject.Rules
import Enrollment.Text.Blank
import Enrollment.Text.Digits
import Enrollment.Text.Graphic
import Enrollment.Text.Quoted
import Enrollment.Time.Date
import Enrollment.Time.Instant
import Enrollment.Time.Window
import Enrollment.Trimester
import Enrollment.Trimester.Phase
import Enrollment.Trimester.Rules
import Enrollment.User
import Enrollment.User.Rules
import Enrollment.Uuid
