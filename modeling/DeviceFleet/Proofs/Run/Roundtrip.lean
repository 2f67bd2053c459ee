/-
# Backup and restore

What one service exports, another one that has nothing yet can take in, and then it has the same
records and exports the same.  The records of a reachable state pass all checks and are kept under
their own identifiers, so none of them is refused, in whatever order a restore stores them.

Addresses of members are not stored; an export fills them in from a directory of users.  So the
directory of the second service has to know the members, too.
-/
import DeviceFleet.Proofs.Action.Heard
import DeviceFleet.Proofs.Run.Filled

namespace DeviceFleet.Service

open DeviceFleet.Action DeviceFleet.Access

variable {setting source target : Setting} {s t : State} {enabled enabled' : Bool}
  {token token' : String} {b : Backup} {memberships : List Membership}
  {address : String → Option String}

/-! ## Addresses of members -/

/-- The memberships with addresses filled in have the same members. -/
lemma memberIds_map_email (memberships : List Membership) (address : String → Option String) :
    memberIds (memberships.map fun m => { m with email := address m.memberId }) =
      memberIds memberships := by
  rw [memberIds, memberIds, List.map_map]
  rfl

/-- Whenever the directory is asked for the members, it replies in time and gives their
addresses. -/
def KnowsMembers (setting : Setting) (memberships : List Membership) : Prop :=
  memberships ≠ [] → ∀ calls store, ∃ users,
    (setting.findUsers calls store (memberIds memberships)).delay ≤ setting.rpcTimeout ∧
      (setting.findUsers calls store (memberIds memberships)).answer = .ok users ∧
        ∀ m ∈ memberships, emailOf users m.memberId = m.email

/-- Addresses that the directory knows are filled in. -/
lemma run_resolveEmails_ok
    (h : KnowsMembers setting (memberships.map fun m => { m with email := address m.memberId })) :
    (resolveEmails memberships setting s).1 =
      .ok (memberships.map fun m => { m with email := address m.memberId }) := by
  rw [run_resolveEmails]
  by_cases hempty : memberships = []
  · rw [if_pos hempty, hempty]
    rfl
  · obtain ⟨users, hintime, hanswer, hsame⟩ := h (by simpa using hempty) s.calls s.store
    rw [memberIds_map_email] at hintime hanswer
    rw [if_neg hempty, settle_eq_ok_iff.2 ⟨hintime, hanswer⟩]
    refine congrArg Except.ok (List.map_congr_left fun m hm => ?_)
    rw [hsame _ (List.mem_map.2 ⟨m, hm, rfl⟩)]

/-! ## Exporting -/

/-- What is exported are the contents of the store, with some addresses. -/
lemma ensures_backup :
    (backup token).Ensures setting s
      (fun b _ => ∃ address, b = s.store.contents.withEmails address) (fun _ _ => True) := by
  have hask : ∀ {α : Type} {method : Store.Method} {f : Store → α} {s : State},
      (ask method fun store => .ok (f store)).Ensures setting s
        (fun a s' => s' = s ∧ f s.store = a) (fun _ _ => True) := fun {α method f s} =>
    ensures_ask.mono (fun a s' h => ⟨h.1, Except.ok.inj h.2⟩) fun _ _ _ => trivial
  refine ((ensures_authorize (.root token)).mono_error fun _ _ _ => trivial).bind
    fun _ s₁ ⟨hunchanged, _⟩ => ?_
  rw [← hunchanged.store]
  refine hask.bind ?_
  rintro groups _ ⟨rfl, rfl⟩
  refine hask.bind ?_
  rintro things _ ⟨rfl, rfl⟩
  refine hask.bind ?_
  rintro profiles _ ⟨rfl, rfl⟩
  refine hask.bind ?_
  rintro exported s₁ ⟨rfl, rfl⟩
  refine (ensures_resolveEmails _).bind fun resolved s₂ ⟨address, hresolved⟩ => ?_
  exact ⟨address, by rw [hresolved]; rfl⟩

/-- The token is that of somebody who administers the platform, whenever it is asked, and this is
said in time. -/
def Administers (setting : Setting) (token : String) : Prop :=
  ∀ calls store, (setting.authorize calls store (.root token)).delay ≤ setting.rpcTimeout ∧
    (setting.authorize calls store (.root token)).answer = .ok ()

/-- An export succeeds if nothing is out of order and the caller administers the platform, and has
the addresses that the directory knows. -/
lemma run_backup_of_root (hfaults : setting.faults = []) (hroot : Grants setting s (.root token))
    (hknows : KnowsMembers setting (s.store.contents.withEmails address).memberships) :
    (backup token setting s).1 = .ok (s.store.contents.withEmails address) := by
  obtain ⟨s₁, hadmin, hunchanged⟩ := run_isAdmin (settle_eq_ok_iff_heard.2 hroot)
  rw [← hunchanged.store] at hknows ⊢
  have hresolved : resolveEmails s₁.store.exportMemberships setting s₁ =
      (.ok _, (resolveEmails s₁.store.exportMemberships setting s₁).2) :=
    Prod.ext (run_resolveEmails_ok hknows) rfl
  rw [backup, run_bind_ok hadmin, run_bind_ok (run_query hfaults _ _),
    run_bind_ok (run_query hfaults _ _), run_bind_ok (run_query hfaults _ _),
    run_bind_ok (run_query hfaults _ _), run_bind_ok hresolved]
  rfl

lemma run_backup (hfaults : setting.faults = []) (hadmin : Administers setting token)
    (hknows : KnowsMembers setting (s.store.contents.withEmails address).memberships) :
    (backup token setting s).1 = .ok (s.store.contents.withEmails address) :=
  run_backup_of_root hfaults (Setting.heard_eq_some_iff.2 (hadmin s.calls s.store)) hknows

/-! ## There and back -/

/-- **What one service exports, another one takes in and exports again.**  The source is in any
state that operations have led to.  The target has no records yet and nothing in its caches, the
caller administers its platform, and its directory of users gives the same addresses for the
members.  Then the restore succeeds, all records are those of the source, and the second export is
the first one again. -/
theorem Reachable.backup_restore_backup (h : Reachable anyCall enabled s)
    (hbackup : ((Operation.backup token).run source s).1 = .ok (.backup b))
    (hstore : t.store = ∅) (hcaches : t.caches = Caches.inMemory enabled')
    (hfaults : target.faults = []) (hadmin : Administers target token')
    (hknows : KnowsMembers target b.memberships) :
    ((Operation.restore token' b).run target t).1 = .ok .done ∧
      ((Operation.restore token' b).run target t).2.store = s.store ∧
        ((Operation.backup token').run target
          ((Operation.restore token' b).run target t).2).1 = .ok (.backup b) := by
  rw [Operation.run, run_map] at hbackup
  rw [Operation.run, Operation.run, run_completed, run_map]
  -- what was exported are the contents of the source
  obtain ⟨address, rfl⟩ : ∃ address, b = s.store.contents.withEmails address := by
    rcases hrun : backup token source s with ⟨⟨e⟩ | ⟨b'⟩, s'⟩
    · simp [hrun, Except.map] at hbackup
    · rw [hrun] at hbackup
      obtain rfl := Answer.backup.inj (Except.ok.inj hbackup)
      exact ensures_backup.of_ok hrun
  have hrestore := run_restore (b := s.store.contents.withEmails address) (s := t) hfaults
    ⟨_, by rw [hcaches]; rfl⟩ (settle_eq_ok_iff.2 (hadmin t.calls t.store))
  rw [hstore, Store.runAll_writes_contents h.coherent.sound h.filled address] at hrestore
  obtain ⟨hok, hrestored : _ = s.store⟩ := hrestore
  refine ⟨by rw [hok]; rfl, hrestored, ?_⟩
  -- the target has the same records now, so it exports the same contents
  generalize (restore token' (s.store.contents.withEmails address) target t).2 = t' at hrestored ⊢
  rw [← hrestored] at hknows ⊢
  rw [run_backup hfaults hadmin hknows]
  rfl

/-- Everybody may do everything, and the directory has an address for everybody. -/
def addressed : Setting where
  __ := permissive
  findUsers _ _ ids := ⟨0, .ok (ids.map fun id => ⟨id, id ++ "@example.org"⟩)⟩

/-- The export of the small fleet. -/
def fleetBackup : Backup where
  groups := [⟨"group", "org", "Group", "", ∅, .ofSeconds 0, .ofSeconds 0⟩]
  things := [sensor]
  profiles := [⟨"profile", "group", "Profile", ∅, ∅⟩]
  memberships :=
    [⟨"owner", "group", .owner, some "owner@example.org", .ofSeconds 0, .ofSeconds 0⟩]

/-- The small fleet is moved to a new service, and exported from there. -/
theorem smallFleet_moved :
    let moved := (Operation.restore "root" fleetBackup).run addressed
      (.initial ∅ (Caches.inMemory false))
    moved.1 = .ok .done ∧ moved.2.store = smallFleet.store ∧
      ((Operation.backup "root").run addressed moved.2).1 = .ok (.backup fleetBackup) := by
  have hreach : Reachable anyCall true smallFleet := reachable_smallFleet fun _ _ _ => trivial
  have hbackup : ((Operation.backup "root").run addressed smallFleet).1 =
      .ok (.backup fleetBackup) := by decide +kernel
  have hadmin : Administers addressed "root" := fun _ _ => ⟨Nat.zero_le _, rfl⟩
  have hknows : KnowsMembers addressed fleetBackup.memberships := fun _ _ _ =>
    ⟨_, Nat.zero_le _, rfl, by decide +kernel⟩
  exact Reachable.backup_restore_backup hreach hbackup rfl rfl rfl hadmin hknows

end DeviceFleet.Service
