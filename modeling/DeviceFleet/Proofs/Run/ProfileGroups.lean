/-
# Things and their profiles

Every stored thing has a stored profile, and one group owns both.  The store does not see to it;
the operations do, each in its own way: things are made and changed only after the owner of the
profile has been found, a profile in use is not taken out, and a group is taken out with all its
things and profiles.  A restore does not look, so it has to be given a backup that fits.

That the owner which an operation finds, maybe in a cache, is the one that the store has, is part
of the effects; so the invariant is preserved by every effect.
-/
import DeviceFleet.Proofs.Run.Step

namespace DeviceFleet

namespace Store

variable {s s' : Store} {b : Backup}

/-- Every stored thing has a stored profile in the group that owns the thing. -/
def ProfilesFit (s : Store) : Prop :=
  ∀ ⦃id : String⦄ ⦃t : Thing⦄, s.things[id]? = some t → s.OwnsProfile t.profileId t.groupId

lemma profilesFit_empty : (∅ : Store).ProfilesFit := by
  intro id t ht
  simp at ht

namespace ProfilesFit

/-- Profiles keep their groups, and a thing is an old one, maybe with another name, key or
metadata, or else its profile fits. -/
lemma of_things (h : s.ProfilesFit)
    (hprofiles : ∀ {id groupId : String}, s.OwnsProfile id groupId → s'.OwnsProfile id groupId)
    (hthings : ∀ {id : String} {t : Thing}, s'.things[id]? = some t →
      s'.OwnsProfile t.profileId t.groupId ∨
        ∃ t₀, s.things[id]? = some t₀ ∧ t₀.profileId = t.profileId ∧ t₀.groupId = t.groupId) :
    s'.ProfilesFit := by
  intro id t ht
  rcases hthings ht with hfits | ⟨t₀, ht₀, hprofile, hgroup⟩
  · exact hfits
  · rw [← hprofile, ← hgroup]
    exact hprofiles (h ht₀)

/-- Only things and profiles matter. -/
lemma congr (h : s.ProfilesFit) (hthings : s'.things = s.things)
    (hprofiles : s'.profiles = s.profiles) : s'.ProfilesFit := by
  refine h.of_things (fun {id g} hown => ?_) fun {id t} ht => .inr ⟨t, hthings ▸ ht, rfl, rfl⟩
  simpa only [OwnsProfile, hprofiles] using hown

/-- Records may be added if the profiles of the things among them fit. -/
lemma gains (h : s.ProfilesFit) (hgains : s.Gains b s')
    (hb : ∀ t ∈ b.things, s'.OwnsProfile t.profileId t.groupId) : s'.ProfilesFit := by
  -- profiles that are added replace none, so those that were there keep their groups
  refine h.of_things hgains.profile_owners fun {id t} ht => ?_
  rcases hgains.thing_iff.1 ht with hold | ⟨hmem, -⟩
  · exact .inr ⟨t, hold, rfl, rfl⟩
  · exact .inl (hb t hmem)

/-- A thing may be replaced by one whose profile fits. -/
lemma insertThing (h : s.ProfilesFit) {id : String} {new : Thing}
    (hnew : s.OwnsProfile new.profileId new.groupId) (keys : Std.ExtTreeMap String String) :
    ProfilesFit { s with things := s.things.insert id new, thingKeys := keys } := by
  refine h.of_things (fun hown => hown) fun {id' t} ht => ?_
  rcases eq_or_of_getElem?_insert ht with rfl | hold
  · exact .inl hnew
  · exact .inr ⟨t, hold, rfl, rfl⟩

lemma updateKey (h : s.ProfilesFit) (hs : s.Sound) {id key : String}
    (hupdate : s.updateKey id key = (.ok (), s')) : s'.ProfilesFit := by
  obtain ⟨-, stored, hstored, ⟨-, rfl⟩ | ⟨-, -, rfl⟩⟩ := updateKey_ok hs hupdate
  · exact h
  · have hfits := h hstored
    refine h.insertThing ?_ _
    exact hfits

lemma metadataChanged {granted : AuthorizeRequest → Prop} {token : String} (h : s.ProfilesFit)
    (hchanged : Service.MetadataChanged granted token s s') : s'.ProfilesFit := by
  refine h.of_things (fun {id g} hown => ?_) fun {id t} ht => .inr ?_
  · rw [hchanged.rest]
    exact hown
  · obtain ⟨stored, metadata, hstored, rfl⟩ := hchanged.origin ht
    exact ⟨stored, hstored, rfl, rfl⟩

lemma removeThings (h : s.ProfilesFit) (ids : List String) : (s.removeThings ids).ProfilesFit := by
  refine h.of_things (fun {id g} hown => ?_) fun {id t} ht => .inr ?_
  · simpa only [OwnsProfile, profiles_removeThings] using hown
  · rw [things_removeThings, Option.ite_none_left_eq_some] at ht
    exact ⟨t, ht.2, rfl, rfl⟩

/-- Profiles that are taken out are used by no thing. -/
lemma removeProfiles (h : s.ProfilesFit) {walk : Walk} {ids : List String}
    (hremove : s.removeProfiles walk ids = (.ok (), s')) : s'.ProfilesFit := by
  obtain ⟨hunused, hrest, hprofiles⟩ := removeProfiles_ok hremove
  intro id t ht
  rw [hrest] at ht
  obtain ⟨p, hp, hgroup⟩ := h ht
  -- a profile that a thing has is in use, so it is left
  exact ⟨p, by rw [hprofiles, if_neg (hunused ht)]; exact hp, hgroup⟩

/-- What a group leaves behind when it is taken out belongs to other groups. -/
lemma without {gone : String → Prop} (h : s.ProfilesFit) (hwithout : Without s gone s') :
    s'.ProfilesFit := by
  intro id t ht
  obtain ⟨hold, hnot⟩ := hwithout.things_iff.1 ht
  obtain ⟨p, hp, hgroup⟩ := h hold
  -- the profile belongs to the group of the thing, which is left
  exact ⟨p, hwithout.profiles_iff.2 ⟨hp, hgroup ▸ hnot⟩, hgroup⟩

end ProfilesFit

end Store

/-- Every thing of the backup has its profile there, in the group that owns the thing. -/
def Backup.ProfilesFit (b : Backup) : Prop :=
  ∀ t ∈ b.things, ∃ p ∈ b.profiles, p.id = t.profileId ∧ p.groupId = t.groupId

instance (b : Backup) : Decidable b.ProfilesFit :=
  inferInstanceAs
    (Decidable (∀ t ∈ b.things, ∃ p ∈ b.profiles, p.id = t.profileId ∧ p.groupId = t.groupId))

/-- A backup that fits may be added. -/
lemma Store.ProfilesFit.restore {s s' : Store} {b : Backup} (h : s.ProfilesFit)
    (hb : b.ProfilesFit) (hgains : s.Gains b s') : s'.ProfilesFit := by
  refine h.gains hgains fun t ht => ?_
  obtain ⟨p, hp, hid, hgroup⟩ := hb t ht
  exact ⟨p, hgains.profile_iff.2 (.inr ⟨hp, hid⟩), hgroup⟩

namespace Service

open DeviceFleet.Action DeviceFleet.Access

variable {setting : Setting} {s s' : State} {enabled : Bool}

/-- Every effect but that of a restore preserves that the profiles fit. -/
lemma Effect.profilesFit {granted : AuthorizeRequest → Prop} {op : Operation} {s s' : Store}
    (h : Effect granted op s s') (hs : s.Sound) (hfit : s.ProfilesFit)
    (hop : ∀ token b, op ≠ .restore token b) : s'.ProfilesFit := by
  cases h with
  | nothing => exact hfit
  | createThings things permitted profile gains =>
    exact hfit.gains gains fun t ht => gains.profile_owners (profile t ht)
  | updateThing found permitted profile => exact hfit.insertThing profile s.thingKeys
  | updateThingsMetadata changed => exact hfit.metadataChanged changed
  | updateKey found permitted updated => exact hfit.updateKey hs updated
  | removeThings permitted => exact hfit.removeThings _
  | createProfiles profiles permitted named gains => exact hfit.gains gains (by simp)
  | updateProfile found permitted =>
    refine hfit.of_things ?_ fun {id t} ht => .inr ⟨t, ht, rfl, rfl⟩
    intro id g hown
    refine (Store.kept_insertProfile found ?_).profile_owners not_false hown
    rfl
  | removeProfiles permitted removed => exact hfit.removeProfiles removed
  | createGroups groups memberships permitted org members gains =>
    exact hfit.gains gains (by simp)
  | updateGroup same permitted updated =>
    obtain ⟨stored, -, -, rfl⟩ := Store.updateGroup_ok updated
    exact hfit.congr rfl rfl
  | removeGroups permitted => exact hfit.without (Store.without_removeGroups hs _)
  | createMemberships memberships permitted group members gains =>
    exact hfit.gains gains (by simp)
  | updateMemberships memberships permitted members updated =>
    obtain rfl := Store.updateMemberships_ok updated
    rw [Store.foldl_changeRole_rest]
    exact hfit.congr rfl rfl
  | removeMemberships permitted =>
    rw [Store.removeMemberships_rest]
    exact hfit.congr rfl rfl
  | restore restored permitted gains => exact absurd rfl (hop _ _)

/-- A restore is admitted when it succeeds, the store being in order, and its backup fits. -/
def fittingRestores (s : State) (setting : Setting) (op : Operation) : Prop :=
  ∀ token b, op = .restore token b → b.ProfilesFit ∧ setting.faults = [] ∧
    ∃ answer, (op.run setting s).1 = .ok answer

lemma profilesFit_run (hs : s.Coherent) (hfit : s.store.ProfilesFit) {op : Operation}
    (hop : fittingRestores s setting op) : (op.run setting s).2.store.ProfilesFit := by
  by_cases hrestore : ∃ token b, op = .restore token b
  · obtain ⟨token, b, rfl⟩ := hrestore
    obtain ⟨hb, hfaults, answer, hok⟩ := hop token b rfl
    have hgains := (completed_ensures (ensures_restore hs) hok).2 hfaults
    exact hfit.restore hb hgains
  · exact (follows_run hs op).effect.profilesFit hs.sound hfit fun token b heq =>
      hrestore ⟨token, b, heq⟩

/-- In every reachable state the profiles fit. -/
lemma Reachable.profilesFit (h : Reachable fittingRestores enabled s) : s.store.ProfilesFit := by
  induction h with
  | refl => exact Store.profilesFit_empty
  | tail hleads hstep ih =>
    obtain ⟨setting, op, hop, rfl⟩ := hstep
    exact profilesFit_run (Reachable.coherent hleads) ih hop

/-! ## The configuration of a stored thing -/

lemma findProfileOfThing_eq {store : Store} {id : String} {t : Thing} {p : Profile}
    (ht : store.things[id]? = some t) (hp : store.profiles[t.profileId]? = some p) :
    store.findProfileOfThing id = .ok p := by
  simp only [Store.findProfileOfThing, Store.findProfile, ht, hp]

/-- **A stored thing has a stored profile in its group.**  So whoever asks for the configuration
of a stored thing, by its key or by its identifier, is given that of the profile, if the store is
in order. -/
theorem Reachable.profile_of_stored_thing (h : Reachable fittingRestores enabled s) {id : String}
    {t : Thing} (ht : s.store.things[id]? = some t) :
    ∃ p, s.store.profiles[t.profileId]? = some p ∧ p.groupId = t.groupId ∧
      ∀ {setting : Setting}, setting.faults = [] →
        ((Operation.publisherConfigByKey t.key).run setting s).1 =
            .ok (.publisher ⟨id, p.config⟩) ∧
          ((Operation.configOfThing id).run setting s).1 = .ok (.metadata p.config) := by
  obtain ⟨p, hp, hgroup⟩ := h.profilesFit ht
  have hprofile := findProfileOfThing_eq ht hp
  refine ⟨p, hp, hgroup, fun {setting} hfaults => ⟨?_, ?_⟩⟩
  · -- a cache may say what has the key, and in a coherent state it says what the store says
    have hidentify := resolved_identify setting h.coherent t.key
    have hid : (identify t.key setting s).1 = .ok id := by
      rw [hidentify.result_eq hfaults, h.coherent.sound.findThingId_eq_ok_iff.2 ⟨t, ht, rfl⟩]
      rfl
    have hstore := (hidentify.keeps h.coherent).store
    rw [Operation.run, run_map, publisherConfigByKey, run_bind_ok (Prod.ext hid rfl), run_bind,
      run_ask, hfaults, hstore, hprofile]
    rfl
  · rw [Operation.run, run_map, configOfThing, run_bind, run_ask, hfaults, hprofile]
    rfl

/-- A backup of the small fleet. -/
def smallBackup : Backup where
  groups := [⟨"group", "org", "Group", "", ∅, .ofSeconds 0, .ofSeconds 0⟩]
  things := [sensor]
  profiles := [⟨"profile", "group", "Profile", ∅, ∅⟩]
  memberships := []

/-- The small fleet after its group was taken out. -/
def emptiedFleet : State :=
  ((Operation.removeGroups "owner" ["group"]).run permissive smallFleet).2

/-- The small fleet after it was brought back. -/
def restoredFleet : State :=
  ((Operation.restore "root" smallBackup).run permissive emptiedFleet).2

/-- The sensor that was brought back has its profile. -/
theorem restored_sensor_has_profile :
    ∃ p, restoredFleet.store.profiles["profile"]? = some p ∧ p.groupId = "group" ∧
      ((Operation.configOfThing "sensor").run permissive restoredFleet).1 =
        .ok (.metadata p.config) := by
  have hsmall : Reachable fittingRestores true smallFleet := by
    refine reachable_smallFleet fun s op hop token b heq => ?_
    subst heq
    simp [smallFleetOps] at hop
  have hemptied : Reachable fittingRestores true emptiedFleet :=
    hsmall.step fun token b heq => nomatch heq
  have hrestored : Reachable fittingRestores true restoredFleet := by
    refine hemptied.step fun token b heq => ?_
    cases heq
    exact ⟨by decide, rfl, .done, by decide +kernel⟩
  have hsensor : restoredFleet.store.things["sensor"]? = some sensor := by decide +kernel
  obtain ⟨p, hp, hgroup, hanswers⟩ := Reachable.profile_of_stored_thing hrestored hsensor
  exact ⟨p, hp, hgroup, (hanswers rfl).2⟩

end Service

end DeviceFleet
