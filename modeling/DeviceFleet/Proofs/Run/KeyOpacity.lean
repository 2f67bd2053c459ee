/-
# Keys are opaque

The same operations are carried out on two services that start without records, but all keys that
come in are different ones for the second.  The two services then answer alike, with the keys of the
second in its answers, fail for the same reasons and report the same.  So nothing that is said about
a failure, no order of a list and no decision depends on what is written in a key.

It matters only which keys are the same, which is empty, as a new identifier takes its place, and
which are blank, as those are refused.  New identifiers become keys too, so they have to stay the
same.
-/
import DeviceFleet.Proofs.Run.KeyRenaming
import DeviceFleet.Proofs.Run.Transparency
import DeviceFleet.Session.Surroundings
import Mathlib.Logic.Equiv.Basic

namespace DeviceFleet

/-- The authority takes roles from the store, but does not look at things. -/
lemma Surroundings.ignoreKeys (s : Surroundings) : s.collaborators.IgnoreKeys where
  authorize _ _ _ := rfl
  identify _ _ _ := rfl
  findUsers _ _ _ := rfl

/-- Two keys are exchanged. -/
def KeyRenaming.exchange (a b : String) (ha : Text.isBlank a = false)
    (hb : Text.isBlank b = false) : KeyRenaming where
  rename := Equiv.swap a b
  injective := (Equiv.swap a b).injective
  rename_empty := by
    refine Equiv.swap_apply_of_ne_of_ne ?_ ?_
    · rintro rfl
      simp at ha
    · rintro rfl
      simp at hb
  isBlank_rename key := by
    rw [Equiv.swap_apply_def]
    split_ifs with hkey hkey'
    · rw [hkey, ha, hb]
    · rw [hkey', ha, hb]
    · rfl

namespace Service

variable {ρ : KeyRenaming} {setting : Setting} {s t : State}

/-- Services that are the same but for their keys go on alike. -/
lemma trace_renamed (hsetting : setting.Overlooks ρ) (ops : List Operation)
    (hst : s.Renamed ρ t) (hlog : t.log = s.log) :
    (trace setting (ops.map ρ.operation) t).map (fun r => (r.1, r.2.log)) =
      (trace setting ops s).map fun r => (r.1.map ρ.answer, r.2.log) := by
  induction ops generalizing s t with
  | nil => rfl
  | cons op ops ih =>
    obtain ⟨hresult, hst', halong⟩ := corresponds_run ρ op hsetting hst
    have hlog' : ((ρ.operation op).run setting t).2.log = (op.run setting s).2.log := by
      obtain ⟨reported, hs, ht⟩ := halong.log
      rw [hs, ht, hlog]
    simp only [List.map_cons, trace, hresult, hlog', ih hst' hlog']

/-- **Keys are opaque.**  With collaborators that do not look at keys, and with other keys that keep
new identifiers, every operation of a run answers the same with other keys, or fails for the same
reason, and the same is reported. -/
theorem trace_initial_renamed (hcollaborators : setting.toCollaborators.IgnoreKeys)
    (hids : ∀ taken id, setting.newId taken = .ok id → ρ id = id) (enabled : Bool)
    (ops : List Operation) :
    (trace setting (ops.map ρ.operation) (.initial ∅ (Caches.inMemory enabled))).map
        (fun r => (r.1, r.2.log)) =
      (trace setting ops (.initial ∅ (Caches.inMemory enabled))).map
        fun r => (r.1.map ρ.answer, r.2.log) :=
  trace_renamed (hcollaborators.overlooks hids) ops (.initial ρ enabled) rfl

/-- A service with the simple authority, where one caller administers the platform. -/
def trial : Setting where
  __ := ((Surroundings.initial ⟨"id", none⟩).addAdmin "owner" ⟨"owner", "owner@example.org"⟩
    true).collaborators
  rpcTimeout := 1000
  faults := []

/-- Another key for the sensor of the small fleet. -/
theorem sensor_with_other_key :
    let exchanged := KeyRenaming.exchange "secret" "hidden" (by decide) (by decide)
    let ops : List Operation :=
      [.createGroups "owner" "org" [⟨"group", "", "Group", "", ∅, .ofSeconds 0, .ofSeconds 0⟩],
        .createProfiles "owner" [⟨"profile", "group", "Profile", ∅, ∅⟩],
        .createThings "owner" [{ sensor with key := "hidden" }],
        .identify "hidden"]
    (trace trial ops (.initial ∅ (Caches.inMemory true))).map (fun r => (r.1, r.2.log)) =
      (trace trial smallFleetOps (.initial ∅ (Caches.inMemory true))).map
        fun r => (r.1.map exchanged.answer, r.2.log) := by
  intro exchanged ops
  have hids : ∀ taken id, trial.newId taken = .ok id → exchanged id = id := by
    intro taken id hid
    obtain rfl : "id" ++ "-" ++ String.ofList (Text.padded 4 (taken + 1)) = id :=
      Except.ok.inj hid
    -- neither of the two keys starts like a new identifier
    refine Equiv.swap_apply_of_ne_of_ne (fun h => ?_) fun h => ?_
    · simpa using congrArg (fun s => s.toList.head?) h
    · simpa using congrArg (fun s => s.toList.head?) h
  exact trace_initial_renamed (Surroundings.ignoreKeys _) hids true smallFleetOps

end Service

end DeviceFleet
