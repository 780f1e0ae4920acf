import Enrollment.Proofs.Registrar.Effect
import Enrollment.Proofs.Sample

/-! # Runs of the registrar

The calls of any number of clients come one after the other, each done as a whole or not at all, and
a call that fails leaves the store as it was. A read changes nothing, so a client reads what is
stored between two calls. References are looked at, and no writer outside the calls comes first.

* `step_after`: what a call makes of a conforming store, by cases.
* `Reachable.conforms`: every store that calls lead to from the empty one conforms. -/

namespace Enrollment.Registrar

open Store

/-- A command, and what the clock shows while it is carried out. -/
structure Call where
  clock : Clock
  command : Command
deriving DecidableEq, Repr

/-- What a call comes to. -/
def Call.answer (call : Call) (s : Store) : Except Failure (Option Entity × Store) :=
  call.command.perform {} call.clock s

/-- The call is done. -/
def Call.Succeeds (call : Call) (s : Store) : Prop := ∃ answer, call.answer s = .ok answer

instance (call : Call) (s : Store) : Decidable (call.Succeeds s) :=
  decidable_of_iff ((call.answer s).isOk = true) <| by
    unfold Call.Succeeds
    cases call.answer s <;> simp [Except.isOk, Except.toBool]

/-- The store after a call. -/
def Call.after (call : Call) (s : Store) : Store :=
  match call.answer s with
  | .ok (_, s') => s'
  | .error _ => s

theorem Call.after_of_ok {call : Call} {s s' : Store} {found : Option Entity}
    (h : call.answer s = .ok (found, s')) : call.after s = s' := by rw [Call.after, h]

theorem Call.after_of_error {call : Call} {s : Store} {f : Failure}
    (h : call.answer s = .error f) : call.after s = s := by rw [Call.after, h]

theorem Call.not_succeeds_of_error {call : Call} {s : Store} {f : Failure}
    (h : call.answer s = .error f) : ¬ call.Succeeds s := by
  rintro ⟨_, hok⟩
  rw [h] at hok
  cases hok

/-- The store after some calls on the empty one. -/
def storeAfter (calls : List Call) : Store := calls.foldl (fun s call => call.after s) .empty

/-- The store after the first of some calls. -/
def storeAt (calls : List Call) (n : Nat) : Store := storeAfter (calls.take n)

/-- A row under an identifier is stored at a moment of a run, at a later one, and at all moments
between. -/
def StoredThroughout (calls : List Call) (t : Table) (key : Uuid) (i j : Nat) : Prop :=
  ∀ n, i ≤ n → n ≤ j → ∃ r ∈ (storeAt calls n).rows, r.isAt t key = true

/-- A call of a run creates an entity, and its row is stored from then on up to a moment. -/
structure CreatedAt (calls : List Call) (i n : Nat) (e : Entity) : Prop where
  before : i < n
  created : ∃ call, calls[i]? = some call ∧ call.command = .create e ∧
    call.Succeeds (storeAt calls i)
  stored : StoredThroughout calls (tableOf e.kind) (audit e).id (i + 1) n

/-- A store that calls lead to from the empty one. -/
inductive Reachable : Store → Prop where
  | empty : Reachable .empty
  | after {s : Store} (h : Reachable s) (call : Call) : Reachable (call.after s)

/-! ### Moments of a run -/

theorem storeAt_succ (calls : List Call) (n : Nat) :
    storeAt calls (n + 1) = (calls[n]?.map fun call => call.after (storeAt calls n)).getD
      (storeAt calls n) := by
  unfold storeAt storeAfter
  rw [List.take_add_one]
  cases calls[n]? <;> simp

theorem storeAt_length (calls : List Call) : storeAt calls calls.length = storeAfter calls := by
  rw [storeAt, List.take_length]

theorem reachable_storeAt (calls : List Call) (n : Nat) : Reachable (storeAt calls n) := by
  induction n with
  | zero => exact .empty
  | succ n ih =>
    rw [storeAt_succ]
    cases calls[n]? with
    | none => exact ih
    | some call => exact ih.after call

theorem reachable_storeAfter (calls : List Call) : Reachable (storeAfter calls) :=
  storeAt_length calls ▸ reachable_storeAt calls calls.length

theorem StoredThroughout.succ {calls : List Call} {t : Table} {key : Uuid} {i n : Nat}
    (h : StoredThroughout calls t key i n)
    (hlast : ∃ r ∈ (storeAt calls (n + 1)).rows, r.isAt t key = true) :
    StoredThroughout calls t key i (n + 1) := by
  intro k hik hkn
  by_cases hk : k = n + 1
  · exact hk ▸ hlast
  · exact h k hik (by omega)

theorem CreatedAt.succ {calls : List Call} {i n : Nat} {e : Entity} (h : CreatedAt calls i n e)
    (hlast : ∃ r ∈ (storeAt calls (n + 1)).rows, r.isAt (tableOf e.kind) (audit e).id = true) :
    CreatedAt calls i (n + 1) e :=
  ⟨Nat.lt_succ_of_lt h.before, h.created, h.stored.succ hlast⟩

theorem createdAt_succ {calls : List Call} {n : Nat} {call : Call} {e : Entity}
    (hcall : calls[n]? = some call) (hcommand : call.command = .create e)
    (hok : call.Succeeds (storeAt calls n))
    (hlast : ∃ r ∈ (storeAt calls (n + 1)).rows, r.isAt (tableOf e.kind) (audit e).id = true) :
    CreatedAt calls n (n + 1) e := by
  refine ⟨Nat.lt_succ_self n, ⟨call, hcall, hcommand, hok⟩, fun k hik hkn => ?_⟩
  obtain rfl : k = n + 1 := by omega
  exact hlast

/-! ### One call -/

/-- What a call makes of a store. -/
inductive Step (call : Call) (s : Store) : Store → Prop where
  | refused : ¬ call.Succeeds s → Step call s s
  | created {e : Entity} {s' : Store} : call.command = .create e → call.Succeeds s →
      Created call.clock e s s' → Step call s s'
  | updated {e old new : Entity} {s' : Store} : call.command = .update e → call.Succeeds s →
      Updated call.clock e old new s s' → Step call s s'
  | deleted {kind : Kind} {key : Uuid} {actor : String} {old : Entity} {s' : Store} :
      call.command = .delete kind key actor → call.Succeeds s →
      Deleted call.clock.write kind key actor old s s' → Step call s s'

theorem step_after {s : Store} (hs : s.Conforms) (call : Call) : Step call s (call.after s) := by
  unfold Call.after
  cases h : call.answer s with
  | error f => exact .refused (Call.not_succeeds_of_error h)
  | ok answer =>
    obtain ⟨found, s'⟩ := answer
    have hok : call.Succeeds s := ⟨_, h⟩
    unfold Call.answer at h
    cases hc : call.command with
    | create e =>
      rw [hc] at h
      obtain ⟨⟨_, _⟩, h, he⟩ := map_eq_ok_iff.mp h
      cases he
      exact .created hc hok (created_of_create hs h).2
    | update e =>
      rw [hc] at h
      obtain ⟨⟨_, _⟩, h, he⟩ := map_eq_ok_iff.mp h
      cases he
      obtain ⟨old, h⟩ := updated_of_update hs h
      exact .updated hc hok h
    | delete kind key actor =>
      rw [hc] at h
      obtain ⟨_, h, he⟩ := map_eq_ok_iff.mp h
      cases he
      obtain ⟨old, h⟩ := deleted_of_delete hs h
      exact .deleted hc hok h

theorem step_storeAt (calls : List Call) (n : Nat) (hs : (storeAt calls n).Conforms) :
    (∃ call, calls[n]? = some call ∧ Step call (storeAt calls n) (storeAt calls (n + 1))) ∨
      calls[n]? = none ∧ storeAt calls (n + 1) = storeAt calls n := by
  rw [storeAt_succ]
  cases calls[n]? with
  | none => exact .inr ⟨rfl, rfl⟩
  | some call => exact .inl ⟨call, rfl, step_after hs call⟩

theorem Step.conforms {call : Call} {s s' : Store} (h : Step call s s') (hs : s.Conforms) :
    s'.Conforms := by
  cases h with
  | refused _ => exact hs
  | created _ _ h => exact h.conforms
  | updated _ _ h => exact h.conforms
  | deleted _ _ h => exact h.conforms

/-- **Every reachable store conforms to the schema.** -/
theorem Reachable.conforms {s : Store} (h : Reachable s) : s.Conforms := by
  induction h with
  | empty => exact conforms_empty
  | after _ call ih => exact (step_after ih call).conforms ih

theorem step_of_getElem? {calls : List Call} {n : Nat} {call : Call}
    (hcall : calls[n]? = some call) : Step call (storeAt calls n) (storeAt calls (n + 1)) := by
  rw [storeAt_succ, hcall]
  exact step_after (reachable_storeAt calls n).conforms call

theorem updated_storeAt {calls : List Call} {n : Nat} {call : Call} {e : Entity}
    (hcall : calls[n]? = some call) (hcommand : call.command = .update e)
    (hok : call.Succeeds (storeAt calls n)) :
    ∃ old new, Updated call.clock e old new (storeAt calls n) (storeAt calls (n + 1)) := by
  have hstep := step_of_getElem? hcall
  generalize storeAt calls (n + 1) = s' at hstep ⊢
  cases hstep with
  | refused h => exact absurd hok h
  | created h => rw [hcommand] at h; cases h
  | deleted h => rw [hcommand] at h; cases h
  | updated h _ hupdated =>
    obtain rfl := Command.update.inj (hcommand.symm.trans h)
    exact ⟨_, _, hupdated⟩

/-! ### A run

The calls that open a section and register a student in it. -/

namespace Sample

open Enrollment.Sample

def subject (n : Nat) (code : String) : Entity :=
  .subject ⟨block n, code, "Programming", 3, .theory⟩

def requirement : Entity := .prerequisite ⟨block 3, some (ident 1), some (ident 2), Grade.lowest⟩

def trimester : Entity :=
  .trimester ⟨block 4, 2024, .spring, 241, .upcoming, ⟨none, none, none, none⟩⟩

def spaceTime : Entity := .spaceTime ⟨block 5, "101", .monday, .theory, some 1⟩

def student : Entity := .student ⟨block 6, 42, "Student", "student@university"⟩

/-- Five seats were taken by others. -/
def «section» : Section := ⟨block 7, some (ident 1), some (ident 4), 30, 5, [ident 5], []⟩

def course : Course :=
  ⟨block 8, some (ident 6), some (ident 1), some (ident 4), .registered, some (ident 7), none⟩

def calls : List Call :=
  [subject 1 "CSE102", subject 2 "CSE101", requirement, trimester, spaceTime, student,
    .section «section», .course course].map fun e => ⟨.still noon, .create e⟩

/-- The section after the student has registered. -/
def sectionRow : SectionRow := ⟨(block 7).next "registrar" noon, ident 1, ident 4, 30, 6⟩

end Sample

end Enrollment.Registrar
