import Enrollment.Proofs.Registrar.ReadBack

/-! # Whom notifications are for

A notification for one user is reviewed together with that user, who has to be stored as a student
or as a member of the faculty. Since it may be either, no column of the schema refers to it, and the
review of a removal looks at no notification. So a user may be removed whom a stored notification is
for, and that is the only way in which a notification comes to be for nobody.

* `Step.recipient`: a call leaves a notification as it is, or writes it for somebody who is stored.
* `Step.hasUser_or_removed`: users stay stored unless they are removed.
* `exists_recipient`: whom a notification is for is stored, or has been removed since it was
  written.
* `recipients_throughout`: so nobody is missing throughout a run iff no removal strands one. -/

namespace Enrollment.Registrar

open Store

variable {s s' : Store} {call : Call} {e new : Entity} {key : Uuid} {r : NotificationRow}

/-- A student or a member of the faculty is stored under an identifier. -/
def HasUser (s : Store) (key : Uuid) : Prop := s.Has .students key ∨ s.Has .faculties key

/-- A notification is for one user. -/
def IsPersonal (r : NotificationRow) : Prop := r.scope = Named.name Scope.user

/-- Whom a stored notification is for, if it is for one user, is stored. -/
def RecipientsStored (s : Store) : Prop :=
  ∀ r ∈ s.notifications, IsPersonal r → ∃ key ∈ r.targetUserId, HasUser s key

instance (s : Store) (key : Uuid) : Decidable (HasUser s key) :=
  inferInstanceAs (Decidable (s.Has .students key ∨ s.Has .faculties key))

instance (r : NotificationRow) : Decidable (IsPersonal r) :=
  inferInstanceAs (Decidable (r.scope = Named.name Scope.user))

instance (s : Store) : Decidable (RecipientsStored s) :=
  inferInstanceAs (Decidable (∀ r ∈ s.notifications, IsPersonal r →
    ∃ key ∈ r.targetUserId, HasUser s key))

/-- A call removes the student or the member of the faculty under an identifier. -/
def Call.RemovesUser (call : Call) (s : Store) (key : Uuid) : Prop :=
  ∃ kind actor, (kind = .student ∨ kind = .faculty) ∧ call.command = .delete kind key actor ∧
    call.Succeeds s

/-! ### One call -/

theorem Writes.has (h : Writes call s s' e new) (hs : s.Conforms) (kind : Kind)
    (hk : s.Has (tableOf kind) key) : s'.Has (tableOf kind) key := by
  by_cases hplace : (kind, key) = (e.kind, (audit e).id)
  · obtain ⟨rfl, rfl⟩ := Prod.mk.inj hplace
    obtain ⟨row, -, hrow, hat⟩ := h.exists_row hs
    exact ⟨_, hrow, hat⟩
  · obtain ⟨q, hq, hat⟩ := hk
    cases h with
    | created _ _ h => exact ⟨_, (keepsElsewhere_of_created h).mem hplace hq hat⟩
    | updated _ _ h => exact ⟨_, (keepsElsewhere_of_updated h).mem hplace hq hat⟩

/-- What is stored stays stored, perhaps in another version, unless it is removed. -/
theorem Step.has_or_deleted (h : Step call s s') (hs : s.Conforms) (kind : Kind)
    (hk : s.Has (tableOf kind) key) : s'.Has (tableOf kind) key ∨
      ∃ actor, call.command = .delete kind key actor ∧ call.Succeeds s := by
  cases h with
  | refused => exact .inl hk
  | created hcommand hok h => exact .inl (Writes.has (.created hcommand hok h) hs kind hk)
  | updated hcommand hok h => exact .inl (Writes.has (.updated hcommand hok h) hs kind hk)
  | @deleted k id actor old _ hcommand hok h =>
    by_cases hplace : (kind, key) = (k, id)
    · obtain ⟨rfl, rfl⟩ := Prod.mk.inj hplace
      exact .inr ⟨actor, hcommand, hok⟩
    · obtain ⟨q, hq, hat⟩ := hk
      exact .inl ⟨_, (keepsElsewhere_of_deleted h).mem hplace hq hat⟩

/-- **Users stay stored** unless they are removed. -/
theorem Step.hasUser_or_removed (h : Step call s s') (hs : s.Conforms) (hu : HasUser s key) :
    HasUser s' key ∨ call.RemovesUser s key := by
  rcases hu with hu | hu
  · rcases h.has_or_deleted hs .student hu with hu' | ⟨actor, hdelete⟩
    · exact .inl (.inl hu')
    · exact .inr ⟨.student, actor, .inl rfl, hdelete⟩
  · rcases h.has_or_deleted hs .faculty hu with hu' | ⟨actor, hdelete⟩
    · exact .inl (.inr hu')
    · exact .inr ⟨.faculty, actor, .inr rfl, hdelete⟩

theorem hasUser_of_load {n : Notification} {old : Option Entity} {part : Snapshot}
    (h : s.load (.notification n) old = .ok part)
    (hfound : (part.lookup.student key).isSome = true ∨ (part.lookup.faculty key).isSome = true) :
    HasUser s key := by
  simp only [load, loadNotification, bind_eq_ok_iff, pure_eq_ok_iff] at h
  obtain ⟨_, -, faculties, hfaculties, rfl⟩ := h
  rcases hfound with hfound | hfound
  · exact .inl (Reader.students.has_of_rowById
      (Reader.students.selects_map (fun _ => rfl) (some ·.audit.id = n.targetUserId)) hfound)
  · exact .inr
      (Reader.faculties.has_of_rowById (Reader.faculties.selects_of_mapM hfaculties) hfound)

/-- **Whom a notification is written for** is stored then. -/
theorem Writes.hasUser {row : Row} (h : Writes call s s' e new) (hrow : Row.ofEntity new = .ok row)
    (hr : row.settled = .notification r) (hpersonal : IsPersonal r) :
    ∃ key, r.targetUserId = some key ∧ HasUser s key := by
  obtain ⟨n', rfl, rfl⟩ := notification_of_ofEntity hrow hr
  have hkind := h.kind_new
  obtain ⟨a, ha⟩ := h.exists_withAudit
  cases e <;> simp only [Entity.kind, reduceCtorEq] at hkind
  rename_i n
  obtain rfl := Entity.notification.inj ha
  obtain ⟨_, _, _, hload, -, hrules⟩ := h.accepted
  have henters := Entity.mayEnter_of_accepted hrules (by rintro ⟨⟩) (by rintro ⟨⟩)
  obtain ⟨key, hkey, hfound⟩ :=
    Notification.exists_user_of_mayEnter henters (Named.name_injective hpersonal)
  exact ⟨key, hkey, hasUser_of_load hload hfound⟩

/-- **A notification after a call** was there before, or it is for somebody who is stored. -/
theorem Step.recipient (h : Step call s s') (hs : s.Conforms) (hr : r ∈ s'.notifications)
    (hpersonal : IsPersonal r) :
    r ∈ s.notifications ∨ ∃ key, r.targetUserId = some key ∧ HasUser s' key := by
  cases h.origin hs (mem_typed_iff.mp hr) with
  | stored hstays =>
    obtain rfl := hstays.eq nofun
    exact .inl (mem_typed_iff.mpr hstays.mem)
  | written hw hrow heq =>
    obtain ⟨key, hkey, huser⟩ := hw.hasUser hrow heq.symm hpersonal
    exact .inr ⟨key, hkey, huser.imp (hw.has hs .student) (hw.has hs .faculty)⟩
  | joined _ hlink => exact absurd hlink (not_mem_linkRows rfl)

theorem Step.mem_notifications (h : Step call s s') (hremoved : call.RemovesUser s key)
    (hr : r ∈ s.notifications) : r ∈ s'.notifications := by
  obtain ⟨kind, actor, hkind, hcommand, -⟩ := hremoved
  cases h with
  | refused => exact hr
  | created hc => rw [hcommand] at hc; cases hc
  | updated hc => rw [hcommand] at hc; cases hc
  | @deleted _ id _ _ _ hc _ h =>
    obtain ⟨rfl, -, -⟩ := Command.delete.inj (hcommand.symm.trans hc)
    have hplace : (Kind.notification, r.audit.id) ≠ (kind, id) := by
      rintro ⟨⟩
      rcases hkind with hkind | hkind <;> cases hkind
    have hat : (Row.notification r).isAt (tableOf .notification) r.audit.id = true :=
      Row.isAt_iff.mpr ⟨rfl, rfl⟩
    exact mem_typed_iff.mpr
      ((keepsElsewhere_of_deleted h).mem hplace (mem_typed_iff.mp hr) hat).1

/-! ### Runs -/

/-- A call of a run removes the student or the member of the faculty under an identifier. -/
def UserRemovedAt (calls : List Call) (n : Nat) (key : Uuid) : Prop :=
  ∃ call, calls[n]? = some call ∧ call.RemovesUser (storeAt calls n) key

/-- **From one moment to the next** a notification stays, or is written for somebody stored. -/
theorem recipient_succ {calls : List Call} {n : Nat}
    (hr : r ∈ (storeAt calls (n + 1)).notifications) (hpersonal : IsPersonal r) :
    r ∈ (storeAt calls n).notifications ∨
      ∃ key, r.targetUserId = some key ∧ HasUser (storeAt calls (n + 1)) key := by
  have hs := (reachable_storeAt calls n).conforms
  rcases step_storeAt calls n hs with ⟨call, -, hstep⟩ | ⟨-, hsame⟩
  · exact hstep.recipient hs hr hpersonal
  · exact .inl (hsame ▸ hr)

theorem hasUser_succ {calls : List Call} {n : Nat} (hu : HasUser (storeAt calls n) key) :
    HasUser (storeAt calls (n + 1)) key ∨ UserRemovedAt calls n key := by
  have hs := (reachable_storeAt calls n).conforms
  rcases step_storeAt calls n hs with ⟨call, hcall, hstep⟩ | ⟨-, hsame⟩
  · exact (hstep.hasUser_or_removed hs hu).imp_right fun hremoved => ⟨call, hcall, hremoved⟩
  · exact .inl (hsame ▸ hu)

/-- A call of a run removes a user while a notification is stored, which stays as it is up to a
moment. -/
def Outlives (calls : List Call) (n : Nat) (r : NotificationRow) (key : Uuid) : Prop :=
  ∃ i < n, UserRemovedAt calls i key ∧ ∀ m, i ≤ m → m ≤ n → r ∈ (storeAt calls m).notifications

theorem Outlives.succ {calls : List Call} {n : Nat} (h : Outlives calls n r key)
    (hr : r ∈ (storeAt calls (n + 1)).notifications) : Outlives calls (n + 1) r key := by
  obtain ⟨i, hin, hremoved, hkept⟩ := h
  refine ⟨i, by omega, hremoved, fun m him hmn => ?_⟩
  by_cases hm : m = n + 1
  · exact hm ▸ hr
  · exact hkept m him (by omega)

theorem outlives_succ {calls : List Call} {n : Nat} (hremoved : UserRemovedAt calls n key)
    (hr : r ∈ (storeAt calls n).notifications)
    (hr' : r ∈ (storeAt calls (n + 1)).notifications) : Outlives calls (n + 1) r key := by
  refine ⟨n, Nat.lt_succ_self n, hremoved, fun m hnm hmn => ?_⟩
  obtain rfl | rfl : m = n ∨ m = n + 1 := by omega
  · exact hr
  · exact hr'

/-- **Whom a notification is for** is stored, or has been removed while the notification was stored
as it is. -/
theorem exists_recipient (calls : List Call) (n : Nat) (hr : r ∈ (storeAt calls n).notifications)
    (hpersonal : IsPersonal r) : ∃ key, r.targetUserId = some key ∧
      (HasUser (storeAt calls n) key ∨ Outlives calls n r key) := by
  induction n with
  | zero => exact absurd hr List.not_mem_nil
  | succ n ih =>
    rcases recipient_succ hr hpersonal with hold | ⟨key, hkey, huser⟩
    · obtain ⟨key, hkey, huser | houtlives⟩ := ih hold
      · refine ⟨key, hkey, (hasUser_succ huser).imp_right fun hremoved => ?_⟩
        exact outlives_succ hremoved hold hr
      · exact ⟨key, hkey, .inr (houtlives.succ hr)⟩
    · exact ⟨key, hkey, .inl huser⟩

/-- No removal of a user in a run leaves a notification for one who is not stored any more. -/
def SparesRecipients (calls : List Call) : Prop :=
  ∀ n key, UserRemovedAt calls n key → HasUser (storeAt calls (n + 1)) key ∨
    ∀ r ∈ (storeAt calls n).notifications, IsPersonal r → r.targetUserId ≠ some key

theorem sparesRecipients_of_stored {calls : List Call}
    (h : ∀ n, RecipientsStored (storeAt calls n)) : SparesRecipients calls := by
  intro n key hremoved
  refine or_iff_not_imp_right.mpr fun haddressed => ?_
  simp only [not_forall, not_not] at haddressed
  obtain ⟨r, hr, hpersonal, hkey⟩ := haddressed
  obtain ⟨call, hcall, hremoves⟩ := hremoved
  have hr' := (step_of_getElem? hcall).mem_notifications hremoves hr
  obtain ⟨key', hkey', huser⟩ := h (n + 1) r hr' hpersonal
  obtain rfl := Option.some.inj (hkey.symm.trans hkey')
  exact huser

theorem SparesRecipients.stored {calls : List Call} (h : SparesRecipients calls) (n : Nat) :
    RecipientsStored (storeAt calls n) := by
  induction n with
  | zero => exact fun r hr => absurd hr List.not_mem_nil
  | succ n ih =>
    intro r hr hpersonal
    rcases recipient_succ hr hpersonal with hold | ⟨key, hkey, huser⟩
    · obtain ⟨key, hkey, huser⟩ := ih r hold hpersonal
      refine ⟨key, hkey, (hasUser_succ huser).elim id fun hremoved => ?_⟩
      exact (h n key hremoved).resolve_right fun hnone => hnone r hold hpersonal hkey
    · exact ⟨key, hkey, huser⟩

/-- **Recipients in a run.** A notification for one user names one, and that user is stored, or has
been removed since the notification was last written. So the recipients are stored throughout the
run iff no removal of a user leaves a notification for one who is not stored any more. -/
theorem recipients_throughout (calls : List Call) :
    (∀ n, ∀ r ∈ (storeAt calls n).notifications, IsPersonal r → ∃ key, r.targetUserId = some key ∧
      (HasUser (storeAt calls n) key ∨ Outlives calls n r key)) ∧
    ((∀ n, RecipientsStored (storeAt calls n)) ↔ SparesRecipients calls) :=
  ⟨fun n _ hr hpersonal => exists_recipient calls n hr hpersonal, sparesRecipients_of_stored,
    SparesRecipients.stored⟩

namespace Sample

open Enrollment.Sample

/-- A notification for the student. -/
def greeting : Entity :=
  .notification ⟨block 10, .user, "Welcome", "Welcome", none, none, some (ident 6)⟩

/-- The student leaves, and the notification stays. -/
def departed : List Call :=
  [student, greeting].map (⟨.still noon, .create ·⟩) ++
    [⟨.still noon, .delete .student (ident 6) "registrar"⟩]

end Sample

/-- When the student has left, the notification is one that outlives the student. -/
theorem greeting_outlives_student : ∃ r ∈ (storeAt Sample.departed 3).notifications,
    IsPersonal r ∧ Outlives Sample.departed 3 r (Sample.ident 6) := by
  have hstored : ∃ r ∈ (storeAt Sample.departed 3).notifications,
      IsPersonal r ∧ r.targetUserId = some (Sample.ident 6) := by decide +kernel
  obtain ⟨r, hr, hpersonal, hr6⟩ := hstored
  obtain ⟨key, hkey, hcases⟩ := (recipients_throughout Sample.departed).1 3 r hr hpersonal
  obtain rfl := Option.some.inj (hr6.symm.trans hkey)
  exact ⟨r, hr, hpersonal, hcases.resolve_left (by decide +kernel)⟩

/-- A notification may be left for a user who is not stored any more. -/
theorem nobody_after_removal : ¬ ∀ calls, RecipientsStored (storeAfter calls) := fun h =>
  absurd (h Sample.departed) (by decide +kernel)

end Enrollment.Registrar
