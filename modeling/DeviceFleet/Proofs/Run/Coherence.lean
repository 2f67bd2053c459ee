/-
# No stale access

In every reachable state whatever the caches hold is as it is stored.  So when a key or a record
has been taken out, no cache finds it, and whoever asks about it is told that it was not found,
until it is stored again.

The first is coherence, read entry by entry.  For the second it is enough that an operation which
takes out a key or a record leaves a store without it: in every later state without it a cache
that found it would hold what is not stored.
-/
import DeviceFleet.Proofs.Run.Step

namespace DeviceFleet

/-! ## What the caches hold -/

/-- The caches are in memory, and whatever they hold is as it is stored. -/
structure Caches.Truthful (caches : Caches) (s : Store) : Prop where
  /-- A key is held for the stored thing that has it, and a thing with the group that owns it. -/
  things : ∃ c, caches.things = .memory c ∧
    (∀ key id : String, c.keys[key]? = some id → ∃ t, s.things[id]? = some t ∧ t.key = key) ∧
    ∀ id g : String, c.groups[id]? = some g → ∃ t, s.things[id]? = some t ∧ t.groupId = g
  /-- A profile is held with the group that owns it. -/
  profiles : ∃ c, caches.profiles = .memory c ∧
    ∀ id g : String, c.groups[id]? = some g → ∃ p, s.profiles[id]? = some p ∧ p.groupId = g
  /-- A member is held with the groups of its memberships, in ascending order. -/
  members : ∃ c, caches.groups = .memory c ∧
    ∀ (m : String) (gs : List String), c.members[m]? = some gs → gs.Pairwise (· < ·) ∧
      ∀ g, g ∈ gs ↔
        ∃ x : Membership, s.memberships[x.key]? = some x ∧ x.memberId = m ∧ x.groupId = g

/-- Caches that mirror a sound store are truthful. -/
lemma State.Coherent.truthful {s : State} (hs : s.Coherent) : s.caches.Truthful s.store := by
  obtain ⟨ct, hct, ht⟩ := hs.mirrors.things
  obtain ⟨cp, hcp, hp⟩ := hs.mirrors.profiles
  obtain ⟨cg, hcg, hg⟩ := hs.mirrors.groups
  refine ⟨⟨ct, hct, fun _ _ => ht.names_of, fun _ _ => ht.owners_of⟩,
    ⟨cp, hcp, fun _ _ => hp.owners_of⟩, ⟨cg, hcg, ?_⟩⟩
  intro m gs hgs
  -- the list is the one that the store gives, which is in order
  obtain rfl := hg.groups_of hgs
  refine ⟨Store.groupIdsOfMember_pairwise hs.sound m, fun g => ?_⟩
  rw [Store.mem_groupIdsOfMember_iff hs.sound, Std.ExtTreeMap.mem_iff_isSome_getElem?,
    Option.isSome_iff_exists]
  constructor
  · rintro ⟨x, hx⟩
    have hkey := hs.sound.membership_key hx
    exact ⟨x, hkey ▸ hx, congrArg Membership.Key.memberId hkey,
      congrArg Membership.Key.groupId hkey⟩
  · rintro ⟨x, hx, rfl, rfl⟩
    exact ⟨x, hx⟩

/-! ## What is taken out -/

namespace Store

variable {s s' : Store} {id key : String} {t : Thing}

/-- A key is gone when the thing that had it is gone or has another one and no other thing is
new. -/
lemma not_hasKey (hs : s.Sound) (ht : s.things[id]? = some t)
    (hsame : ∀ t', s'.things[id]? = some t' → t'.key ≠ t.key)
    (hother : ∀ id' t', id' ≠ id → s'.things[id']? = some t' → s.things[id']? = some t') :
    ¬ s'.HasKey t.key := by
  rintro ⟨id', t', ht', hkey⟩
  by_cases heq : id' = id
  · subst heq
    exact hsame t' ht' hkey
  · exact heq (hs.key_inj (hother id' t' heq ht') ht hkey)

lemma not_hasKey_updateKey (hs : s.Sound) (h : s.updateKey id key = (.ok (), s'))
    (ht : s.things[id]? = some t) (hne : t.key ≠ key) : ¬ s'.HasKey t.key := by
  obtain ⟨-, stored, hstored, ⟨hkey, -⟩ | ⟨-, -, rfl⟩⟩ := updateKey_ok hs h
  · obtain rfl := Option.some.inj (ht.symm.trans hstored)
    exact absurd hkey hne
  · refine not_hasKey hs ht ?_ ?_
    · intro t' ht'
      simp only [Std.ExtTreeMap.getElem?_insert_self, Option.some.injEq] at ht'
      subst ht'
      exact Ne.symm hne
    · intro id' t' hid ht'
      simpa only [Std.ExtTreeMap.getElem?_insert, Std.compare_eq_iff_eq, if_neg (Ne.symm hid)]
        using ht'

lemma not_hasKey_removeThings (hs : s.Sound) {ids : List String} (ht : s.things[id]? = some t)
    (hid : id ∈ ids) : ¬ (s.removeThings ids).HasKey t.key := by
  refine not_hasKey hs ht ?_ ?_
  · intro t' ht'
    rw [things_removeThings, if_pos hid] at ht'
    simp at ht'
  · intro id' t' _ ht'
    rw [things_removeThings, Option.ite_none_left_eq_some] at ht'
    exact ht'.2

namespace Without

variable {gone : String → Prop}

lemma not_thing (h : Without s gone s') (ht : s.things[id]? = some t) (hgone : gone t.groupId)
    {t' : Thing} : s'.things[id]? ≠ some t' := by
  intro ht'
  obtain ⟨hold, hnot⟩ := h.things_iff.1 ht'
  obtain rfl := Option.some.inj (ht.symm.trans hold)
  exact hnot hgone

lemma not_profile (h : Without s gone s') {p p' : Profile} (hp : s.profiles[id]? = some p)
    (hgone : gone p.groupId) : s'.profiles[id]? ≠ some p' := by
  intro hp'
  obtain ⟨hold, hnot⟩ := h.profiles_iff.1 hp'
  obtain rfl := Option.some.inj (hp.symm.trans hold)
  exact hnot hgone

lemma not_hasKey (h : Without s gone s') (hs : s.Sound) (ht : s.things[id]? = some t)
    (hgone : gone t.groupId) : ¬ s'.HasKey t.key :=
  Store.not_hasKey hs ht (fun _ ht' => absurd ht' (h.not_thing ht hgone))
    fun _ _ _ ht' => (h.things_iff.1 ht').1

end Without

/-- The owner of a thing that is not stored is not found. -/
lemma findThing_map_eq_error (h : ¬ ∃ t, s.things[id]? = some t) :
    (s.findThing id).map (·.groupId) = .error (.notFound .thing id) := by
  rw [findThing, Option.eq_none_iff_forall_ne_some.2 fun t ht => h ⟨t, ht⟩]
  rfl

/-- The owner of a profile that is not stored is not found. -/
lemma findProfile_map_eq_error (h : ¬ ∃ p, s.profiles[id]? = some p) :
    (s.findProfile id).map (·.groupId) = .error (.notFound .profile id) := by
  rw [findProfile, Option.eq_none_iff_forall_ne_some.2 fun p hp => h ⟨p, hp⟩]
  rfl

end Store

namespace Service

/-- What things and profiles are asked for by. -/
inductive Handle where
  /-- The key of a thing. -/
  | key (key : String)
  /-- The identifier of a thing. -/
  | thing (id : String)
  /-- The identifier of a profile. -/
  | profile (id : String)

/-- Is something stored under the handle? -/
def Handle.Stored (s : Store) : Handle → Prop
  | .key k => s.HasKey k
  | .thing id => ∃ t, s.things[id]? = some t
  | .profile id => ∃ p, s.profiles[id]? = some p

/-- The handles that an operation takes out of the store `s`. -/
inductive Retires (s : Store) : Operation → Handle → Prop where
  /-- The key that a thing had before it was given another one. -/
  | updateKey {token id key : String} {t : Thing} (found : s.things[id]? = some t)
      (other : t.key ≠ key) : Retires s (.updateKey token id key) (.key t.key)
  /-- The key of a thing that is taken out. -/
  | keyOfThing {token id : String} {ids : List String} {t : Thing} (mem : id ∈ ids)
      (found : s.things[id]? = some t) : Retires s (.removeThings token ids) (.key t.key)
  /-- A thing that is taken out. -/
  | thing {token id : String} {ids : List String} (mem : id ∈ ids) :
      Retires s (.removeThings token ids) (.thing id)
  /-- A profile that is taken out. -/
  | profile {token id : String} {ids : List String} (mem : id ∈ ids) :
      Retires s (.removeProfiles token ids) (.profile id)
  /-- The key of a thing that is taken out with its group. -/
  | keyOfGroup {token id : String} {ids : List String} {t : Thing} (mem : t.groupId ∈ ids)
      (group : t.groupId ∈ s.groups) (found : s.things[id]? = some t) :
      Retires s (.removeGroups token ids) (.key t.key)
  /-- A thing that is taken out with its group. -/
  | thingOfGroup {token id : String} {ids : List String} {t : Thing} (mem : t.groupId ∈ ids)
      (group : t.groupId ∈ s.groups) (found : s.things[id]? = some t) :
      Retires s (.removeGroups token ids) (.thing id)
  /-- A profile that is taken out with its group. -/
  | profileOfGroup {token id : String} {ids : List String} {p : Profile} (mem : p.groupId ∈ ids)
      (group : p.groupId ∈ s.groups) (found : s.profiles[id]? = some p) :
      Retires s (.removeGroups token ids) (.profile id)

open DeviceFleet.Action DeviceFleet.Access

variable {setting : Setting} {s s' : State} {op : Operation} {answer : Answer} {handle : Handle}

/-- What an operation takes out is not stored afterwards. -/
lemma Retires.not_stored (hs : s.Coherent) (h : Retires s.store op handle)
    (hok : (op.run setting s).1 = .ok answer) : ¬ handle.Stored (op.run setting s).2.store := by
  have hsound := hs.sound
  cases h with
  | updateKey found other =>
    have hupdate := (completed_ensures (ensures_updateKey hs) hok).2
    exact Store.not_hasKey_updateKey hsound hupdate found other
  | keyOfThing mem found =>
    have hstore := (completed_ensures (ensures_removeThings hs _) hok).2
    exact hstore ▸ Store.not_hasKey_removeThings hsound found mem
  | @thing _ id _ mem =>
    have hstore := (completed_ensures (ensures_removeThings hs _) hok).2
    have hnone := (Store.things_removeThings _ s.store id).trans (if_pos mem)
    exact hstore ▸ fun ⟨t, ht⟩ => absurd (hnone.symm.trans ht) (by simp)
  | profile mem =>
    obtain ⟨walk, hremove⟩ := (completed_ensures (ensures_removeProfiles hs _) hok).2
    obtain ⟨-, -, hprofiles⟩ := Store.removeProfiles_ok hremove
    exact fun ⟨p, hp⟩ => absurd (((hprofiles _).trans (if_pos mem)).symm.trans hp) (by simp)
  | keyOfGroup mem group found =>
    have hstore := (completed_ensures (ensures_removeGroups hs _) hok).2
    exact hstore ▸ (Store.without_removeGroups hsound _).not_hasKey hsound found ⟨mem, group⟩
  | @thingOfGroup _ _ ids _ mem group found =>
    have hstore := (completed_ensures (ensures_removeGroups hs ids) hok).2
    have hwithout := Store.without_removeGroups hsound ids
    exact hstore ▸ fun ⟨_, ht⟩ => hwithout.not_thing found ⟨mem, group⟩ ht
  | @profileOfGroup _ _ ids _ mem group found =>
    have hstore := (completed_ensures (ensures_removeGroups hs ids) hok).2
    have hwithout := Store.without_removeGroups hsound ids
    exact hstore ▸ fun ⟨_, hp⟩ => hwithout.not_profile found ⟨mem, group⟩ hp

/-! ## What is not found -/

/-- The answer is that there is no such record. -/
def NotFound (result : Except ServiceError Answer) : Prop :=
  ∃ message, result = .error (.notFound message)

/-- No cache finds what the handle stands for. -/
def Handle.Uncached (caches : Caches) : Handle → Prop
  | .key k => caches.things.read (fun c => c.id? k) = .ok none
  | .thing id => caches.things.read (fun c => c.group? id) = .ok none
  | .profile id => caches.profiles.read (fun c => c.group? id) = .ok none

/-- The operations that look up a handle to begin with. -/
inductive Handle.Asks : Handle → Operation → Prop where
  /-- Which thing has the key? -/
  | identify {k : String} : Asks (.key k) (.identify k)
  /-- Does the thing with the key belong to the group? -/
  | canThingAccessGroup {k groupId : String} : Asks (.key k) (.canThingAccessGroup k groupId)
  /-- May the caller act on the thing? -/
  | canAccessThing {token id : String} {action : Role} :
      Asks (.thing id) (.canAccessThing token id action)
  /-- May the caller act on the profile? -/
  | canAccessProfile {token id : String} {action : Role} :
      Asks (.profile id) (.canAccessProfile token id action)

/-- Neither a cache nor the store finds what the handle stands for. -/
structure Handle.Missed (handle : Handle) (s : State) : Prop where
  /-- No cache finds it. -/
  uncached : handle.Uncached s.caches
  /-- Whoever asks about it is told that it was not found, if the store is in order. -/
  not_found : ∀ {setting : Setting} {op : Operation}, setting.faults = [] → handle.Asks op →
    NotFound (op.run setting s).1

/-- A look-up in a cache in memory that would find what is not stored finds nothing. -/
lemma read_eq_none {α β : Type} {cache : Lookaside α} {find : α → Option β}
    (h : ∃ c, cache = .memory c ∧ ∀ b, find c ≠ some b) : cache.read find = .ok none := by
  obtain ⟨c, rfl, hc⟩ := h
  exact congrArg Except.ok (Option.eq_none_iff_forall_ne_some.2 hc)

lemma uncached_of_not_stored (hs : s.Coherent) (h : ¬ handle.Stored s.store) :
    handle.Uncached s.caches := by
  obtain ⟨ct, hct, ht⟩ := hs.mirrors.things
  obtain ⟨cp, hcp, hp⟩ := hs.mirrors.profiles
  cases handle with
  | key k =>
    refine read_eq_none ⟨ct, hct, fun id hid => h ⟨id, ?_⟩⟩
    exact ht.of_id? hid
  | thing id =>
    refine read_eq_none ⟨ct, hct, fun g hg => h ?_⟩
    obtain ⟨t, ht, -⟩ := ht.of_group? hg
    exact ⟨t, ht⟩
  | profile id =>
    refine read_eq_none ⟨cp, hcp, fun g hg => h ?_⟩
    obtain ⟨p, hp, -⟩ := hp.of_group? hg
    exact ⟨p, hp⟩

/-- What is looked up first and is not found makes the whole fail. -/
lemma run_bind_of_error {α β : Type} {x : Action α} {f : α → Action β} {e : ServiceError}
    (h : (x setting s).1 = .error e) : ((x >>= f) setting s).1 = .error e := by
  rcases hx : x setting s with ⟨r, s'⟩
  rw [hx] at h
  obtain rfl : r = .error e := h
  rw [run_bind_error hx]

/-- In a coherent state a look-up fails as the store does. -/
lemma resolved_error {kind : CacheKind} {query : Store → Except StoreError String}
    {update : String → Caches → Caches} {x : Action String} {e : StoreError}
    (hx : Resolved kind query update setting s (x setting s).1 (x setting s).2)
    (hfaults : setting.faults = []) (hquery : query s.store = .error e) :
    (x setting s).1 = .error (.ofStore e) := by
  rw [hx.result_eq hfaults, hquery]
  rfl

lemma notFound_of_not_stored (hs : s.Coherent) (h : ¬ handle.Stored s.store)
    (hfaults : setting.faults = []) (hasks : handle.Asks op) : NotFound (op.run setting s).1 := by
  cases hasks with
  | identify =>
    have hidentify := resolved_error (resolved_identify setting hs _) hfaults
      (hs.sound.findThingId_eq_error h)
    refine ⟨StoreError.keyNotFound.message, ?_⟩
    rw [Operation.run, run_map, hidentify]
    rfl
  | canThingAccessGroup =>
    have hidentify := resolved_error (resolved_identify setting hs _) hfaults
      (hs.sound.findThingId_eq_error h)
    exact ⟨_, run_bind_of_error (run_bind_of_error hidentify)⟩
  | canAccessThing =>
    have howner := resolved_error (resolved_groupIdOfThing setting hs _) hfaults
      (Store.findThing_map_eq_error h)
    exact ⟨_, run_bind_of_error (run_bind_of_error howner)⟩
  | canAccessProfile =>
    have howner := resolved_error (resolved_groupIdOfProfile setting hs _) hfaults
      (Store.findProfile_map_eq_error h)
    exact ⟨_, run_bind_of_error (run_bind_of_error howner)⟩

/-! ## Every reachable state -/

/-- **No stale access.**  In every reachable state the caches hold only what is stored.  What an
operation takes out is not stored when it has succeeded; and in every later state in which it is
not stored, no cache finds it, and whoever asks about it is told that it was not found. -/
theorem Reachable.no_stale_access {enabled : Bool} (h : Reachable anyCall enabled s) :
    s.caches.Truthful s.store ∧
      ∀ {setting : Setting} {op : Operation} {handle : Handle} {answer : Answer},
        Retires s.store op handle → (op.run setting s).1 = .ok answer →
          ¬ handle.Stored (op.run setting s).2.store ∧
          ∀ {s' : State}, Leads anyCall (op.run setting s).2 s' → ¬ handle.Stored s'.store →
            handle.Missed s' := by
  refine ⟨h.coherent.truthful, fun {setting op handle answer} hretires hok => ?_⟩
  refine ⟨hretires.not_stored h.coherent hok, fun {s'} hleads hnot => ?_⟩
  -- every later state is coherent too, whatever has happened since
  have hs' : s'.Coherent := hleads.coherent (follows_run h.coherent op).coherent
  exact ⟨uncached_of_not_stored hs' hnot, fun hfaults hasks =>
    notFound_of_not_stored hs' hnot hfaults hasks⟩

/-- A cache finds the sensor by its key; when the key has been changed, none does. -/
theorem old_secret_missed :
    ¬ (Handle.key "secret").Uncached smallFleet.caches ∧
      (Handle.key "secret").Missed
        ((Operation.updateKey "owner" "sensor" "other").run permissive smallFleet).2 := by
  have hreach : Reachable anyCall true smallFleet := reachable_smallFleet fun _ _ _ => trivial
  have hretires : Retires smallFleet.store (.updateKey "owner" "sensor" "other") (.key "secret") :=
    .updateKey smallFleet_sensor (by decide)
  have hok : ((Operation.updateKey "owner" "sensor" "other").run permissive smallFleet).1 =
      .ok .done := by
    decide +kernel
  obtain ⟨hnot, hlater⟩ := (Reachable.no_stale_access hreach).2 hretires hok
  refine ⟨?_, hlater .refl hnot⟩
  unfold Handle.Uncached
  decide +kernel

end Service

end DeviceFleet
