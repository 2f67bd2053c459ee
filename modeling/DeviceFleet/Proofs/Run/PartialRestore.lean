/-
# Restores that stop midway

A restore stops at the first request that the store refuses, and what it has stored before stays.
So what is left is the store after the longest part of the requests, from their beginning on, that
is granted, and no record that was there is overwritten.  In particular a store does not take its
own contents: the first request is refused, since the store has that record.
-/
import DeviceFleet.Proofs.Action.Heard
import DeviceFleet.Proofs.Run.Roundtrip

namespace DeviceFleet.Service

open DeviceFleet.Action

variable {setting source : Setting} {s t : State} {enabled : Bool} {token token' : String}
  {b : Backup}

/-! ## The requests of a restore -/

/-- A restore that is permitted carries out the requests for its backup until one is refused. -/
lemma run_restore_writes (hs : s.Coherent) (hfaults : setting.faults = [])
    (hadmin : Grants setting s (.root token)) :
    ((Operation.restore token b).run setting s).1 =
        ((Store.runAll b.writes s.store).1.mapError .ofStore).map (fun _ => .done) ∧
      ((Operation.restore token b).run setting s).2.store = (Store.runAll b.writes s.store).2 := by
  obtain ⟨_, _, members, hcaches⟩ := hs.mirrors.inMemory
  have hcache : s.caches.groups = .memory members := by rw [hcaches]
  obtain ⟨hresult, hstore⟩ :=
    run_restore (b := b) hfaults ⟨members, hcache⟩ (settle_eq_ok_iff_heard.2 hadmin)
  rw [Operation.run, run_completed]
  exact ⟨by rw [hresult], hstore⟩

/-- A restore overwrites nothing, whoever asks for it. -/
lemma within_restore (hs : s.Coherent) :
    s.store.Within ((Operation.restore token b).run setting s).2.store := by
  have hfollows : Follows setting (.restore token b) s _ := follows_run hs _
  have heffect := hfollows.effect
  generalize ((Operation.restore token b).run setting s).2.store = store at heffect ⊢
  -- either nothing changes, or records are gained
  cases heffect with
  | nothing => exact .refl s.store
  | restore restored permitted gains => exact gains.within

/-! ## Bringing back what is there -/

/-- What is exported are the contents of the store, with some addresses. -/
lemma eq_contents_of_exported
    (h : ((Operation.backup token).run setting s).1 = .ok (.backup b)) :
    ∃ address, b = s.store.contents.withEmails address := by
  rw [Operation.run, run_map] at h
  rcases hrun : backup token setting s with ⟨⟨e⟩ | ⟨b'⟩, s'⟩
  · simp [hrun, Except.map] at h
  · rw [hrun] at h
    obtain rfl := Answer.backup.inj (Except.ok.inj h)
    exact ensures_backup.of_ok hrun

/-- When the store has a record already, the caller hears of a conflict. -/
lemma ofStore_of_isCollision {e : StoreError} (h : Store.IsCollision e) :
    ∃ message, ServiceError.ofStore e = .conflict message := by
  cases h with
  | key => exact ⟨_, rfl⟩
  | record kind id => exact ⟨_, rfl⟩

/-- A store is not changed when its own export is restored, and unless that is empty there is a
conflict. -/
lemma restore_own (h : Reachable anyCall enabled s) (hfaults : setting.faults = [])
    (hadmin : Grants setting s (.root token)) (hstore : t.store = s.store)
    (hexported : ((Operation.backup token').run source t).1 = .ok (.backup b)) :
    ((Operation.restore token b).run setting s).2.store = s.store ∧
      (b = ∅ → ((Operation.restore token b).run setting s).1 = .ok .done) ∧
        (b ≠ ∅ → ∃ message,
          ((Operation.restore token b).run setting s).1 = .error (.conflict message)) := by
  obtain ⟨hresult, hrecords⟩ := run_restore_writes (b := b) h.coherent hfaults hadmin
  rw [hresult, hrecords]
  by_cases hempty : b = ∅
  · have hnone : b.writes = [] := Store.writes_eq_nil_iff.2 hempty
    rw [hnone]
    exact ⟨rfl, fun _ => rfl, fun hne => absurd hempty hne⟩
  · obtain ⟨address, rfl⟩ := eq_contents_of_exported hexported
    rw [hstore] at hempty ⊢
    obtain ⟨e, hcollision, hrun⟩ :=
      Store.runAll_writes_own h.coherent.sound h.filled hempty
    obtain ⟨message, hconflict⟩ := ofStore_of_isCollision hcollision
    rw [hrun]
    refine ⟨rfl, fun hnone => absurd hnone hempty, fun _ => ⟨message, ?_⟩⟩
    rw [← hconflict]
    rfl

/-- **A restore stores what comes before the first request that is refused.**  In every reachable
state, for a caller who administers the platform and in a store that is in order: what is left is
the store after the longest part of the requests, from their beginning on, that is granted.  The
restore succeeds if these are all requests, and else it fails as the next of them does.  Whatever
was stored before is stored unchanged.  So a store that gets its own export back, with whatever
addresses, stays as it is, and there is a conflict unless the export is empty. -/
theorem Reachable.restored_until_refused (h : Reachable anyCall enabled s)
    (hfaults : setting.faults = []) (hadmin : Grants setting s (.root token)) (b : Backup) :
    let r := (Operation.restore token b).run setting s
    (∃ done, s.store.GrantsUpTo b.writes done ∧ r.2.store = s.store.after done ∧
        (r.1 = .ok .done ↔ done = b.writes) ∧
          ∀ c, done ++ [c] <+: b.writes →
            ∃ e, (c.run r.2.store).1 = .error e ∧ r.1 = .error (.ofStore e)) ∧
      s.store.Within r.2.store ∧
        ∀ (source : Setting) (token' : String) (t : State), t.store = s.store →
          ((Operation.backup token').run source t).1 = .ok (.backup b) →
            r.2.store = s.store ∧ (b = ∅ → r.1 = .ok .done) ∧
              (b ≠ ∅ → ∃ message, r.1 = .error (.conflict message)) := by
  intro r
  refine ⟨?_, within_restore h.coherent,
    fun source token' t hstore hexported => restore_own h hfaults hadmin hstore hexported⟩
  obtain ⟨hresult, hrecords⟩ : r.1 = _ ∧ r.2.store = _ :=
    run_restore_writes h.coherent hfaults hadmin
  obtain ⟨done, hdone, hafter, hall, hnext⟩ := Store.exists_grantsUpTo b.writes s.store
  have hstore : r.2.store = s.store.after done := hrecords.trans hafter
  refine ⟨done, hdone, hstore, ?_, fun c hc => ?_⟩
  · rw [← hall, hresult]
    rcases (Store.runAll b.writes s.store).1 with e | ⟨⟩
    · simp [Except.mapError, Except.map]
    · simp [Except.mapError, Except.map]
  · obtain ⟨e, hrefused, herror⟩ := hnext c hc
    refine ⟨e, by rw [hstore, hrefused], ?_⟩
    rw [hresult, herror]
    rfl

/-- The small fleet does not take its own export: its group is there already. -/
theorem smallFleet_not_taken_twice :
    let restored := (Operation.restore "root" fleetBackup).run permissive smallFleet
    restored.2.store = smallFleet.store ∧
      ∃ message, restored.1 = .error (.conflict message) := by
  have hreach : Reachable anyCall true smallFleet := reachable_smallFleet fun _ _ _ => trivial
  have hadmin : Grants permissive smallFleet (.root "root") := rfl
  have hexported : ((Operation.backup "root").run addressed smallFleet).1 =
      .ok (.backup fleetBackup) := by decide +kernel
  obtain ⟨-, -, hown⟩ := Reachable.restored_until_refused hreach rfl hadmin fleetBackup
  obtain ⟨hstore, -, hconflict⟩ := hown addressed "root" smallFleet rfl hexported
  exact ⟨hstore, hconflict (by decide)⟩

end DeviceFleet.Service
