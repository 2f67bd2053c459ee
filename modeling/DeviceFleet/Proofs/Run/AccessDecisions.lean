/-
# Decisions about access

In every reachable state the five questions about access are answered as the store has it.  First
comes whether there is anything to ask about: a thing, a profile or a key that is not stored is
not found, whoever asks.  Then comes who asks: an unknown token is told so, those who administer
the platform may do everything, and all others what their stored roles allow.  The owner of a thing
or a profile may come out of a cache; it is the owner that is stored, whatever has happened to
roles, keys and records before.
-/
import DeviceFleet.Proofs.Run.Coherence
import DeviceFleet.Proofs.Service.Scope
import DeviceFleet.Proofs.Session.Authority

namespace DeviceFleet.Service

open DeviceFleet.Action DeviceFleet.Access

/-! ## Answers -/

/-- The answer is that the caller is not known. -/
def Unauthenticated (result : Except ServiceError Answer) : Prop :=
  ∃ message, result = .error (.authentication message)

/-- The answer is that the caller may not. -/
def Unauthorized (result : Except ServiceError Answer) : Prop :=
  ∃ message, result = .error (.authorization message)

/-- The answer for the caller with a token, when `entitled` says which members may. -/
structure Decided (a : Authority) (token : String) (entitled : String → Prop)
    (result : Except ServiceError Answer) : Prop where
  /-- The caller is not known if the token is unknown. -/
  unauthenticated_iff : Unauthenticated result ↔ token ∉ a.identities
  /-- The caller may if they administer the platform or are entitled to. -/
  ok_iff : result = .ok .done ↔
    token ∈ a.admins ∨ ∃ identity, a.identities[token]? = some identity ∧ entitled identity.id
  /-- Otherwise the caller may not. -/
  unauthorized_iff : Unauthorized result ↔ ¬ Unauthenticated result ∧ result ≠ .ok .done

namespace Decided

variable {a : Authority} {token : String} {entitled entitled' : String → Prop}
  {result : Except ServiceError Answer}

/-- Nobody stands behind an unknown token, and so nobody who may. -/
lemma unknown (hunknown : token ∉ a.identities) (hadmin : token ∉ a.admins) (message : String) :
    Decided a token entitled (.error (.authentication message)) where
  unauthenticated_iff := ⟨fun _ => hunknown, fun _ => ⟨message, rfl⟩⟩
  ok_iff := by
    have hnone : a.identities[token]? = none := Std.ExtTreeMap.getElem?_eq_none hunknown
    simp [hadmin, hnone]
  unauthorized_iff := by simp [Unauthorized, Unauthenticated]

/-- The caller is known and may. -/
lemma granted (hknown : token ∈ a.identities)
    (hmay : token ∈ a.admins ∨ ∃ identity, a.identities[token]? = some identity ∧
      entitled identity.id) : Decided a token entitled (.ok .done) where
  unauthenticated_iff := by simp [Unauthenticated, hknown]
  ok_iff := ⟨fun _ => hmay, fun _ => rfl⟩
  unauthorized_iff := by simp [Unauthorized]

/-- The caller is known and may not. -/
lemma refused (hknown : token ∈ a.identities)
    (hnot : ¬ (token ∈ a.admins ∨ ∃ identity, a.identities[token]? = some identity ∧
      entitled identity.id)) (message : String) :
    Decided a token entitled (.error (.authorization message)) where
  unauthenticated_iff := by simp [Unauthenticated, hknown]
  ok_iff := ⟨fun hok => by simp at hok, fun hmay => absurd hmay hnot⟩
  unauthorized_iff := by simp [Unauthorized, Unauthenticated]

/-- Only who is entitled matters. -/
lemma congr (h : Decided a token entitled result) (hiff : ∀ m, entitled m ↔ entitled' m) :
    Decided a token entitled' result where
  unauthenticated_iff := h.unauthenticated_iff
  ok_iff := by simpa only [hiff] using h.ok_iff
  unauthorized_iff := h.unauthorized_iff

/-- Whoever is given a decision is not told that nothing was found. -/
lemma not_notFound (h : Decided a token entitled result) : ¬ NotFound result := by
  rintro ⟨message, rfl⟩
  have hunauthorized := h.unauthorized_iff.2 ⟨by simp [Unauthenticated], by simp⟩
  simp [Unauthorized] at hunauthorized

end Decided

/-! ## Objects -/

variable {w : Surroundings} {rpcTimeout : Nat} {s : State} {subject : Subject}
  {denied token object groupId : String} {action : Role}

/-- The authority is asked twice about one store. -/
lemma canAccess_eq (h : w.authority.Attending) :
    (canAccess subject denied token object action (w.setting rpcTimeout) s).1 =
      match w.authority.decide s.store (.root token) with
      | .ok () => .ok ()
      | .error _ => (w.authority.decide s.store
          (.forObject token object subject action)).mapError permissionRefused := by
  have hunchanged := unchanged_authorize (.root token) (w.setting rpcTimeout) s
  have hroot : (isAdmin token (w.setting rpcTimeout) s).1 =
      (w.authority.decide s.store (.root token)).mapError permissionRefused :=
    Surroundings.authorize_eq h
  rw [run_canAccess]
  rcases hrun : isAdmin token (w.setting rpcTimeout) s with ⟨r, s'⟩
  have hstore : s'.store = s.store := by
    rw [← hunchanged.store]
    exact congrArg (fun o => o.2.store) hrun.symm
  rw [hrun] at hroot
  obtain rfl : r = _ := hroot
  rcases w.authority.decide s.store (.root token) with e | ⟨⟩
  · change (authorize _ (w.setting rpcTimeout) s').1 = _
    rw [Surroundings.authorize_eq h, hstore]
  · rfl

/-- A question about an object is decided by who administers the platform and by the roles on the
object. -/
lemma decided_canAccess (h : w.authority.Attending) :
    Decided w.authority token
      (fun m => w.authority.permits s.store m (.forObject token object subject action) = true)
      (Operation.completed (canAccess subject denied token object action) (w.setting rpcTimeout)
        s).1 := by
  rw [run_completed, canAccess_eq h]
  rcases hidentity : w.authority.identities[token]? with _ | identity
  · have hadmin : token ∉ w.authority.admins := by
      intro hmem
      obtain ⟨identity, hknown⟩ := h.configured.identity_of_admin hmem
      simp [hidentity] at hknown
    rw [h.decide_unknown hidentity, h.decide_unknown hidentity]
    refine .unknown ?_ hadmin _
    rw [Std.ExtTreeMap.mem_iff_isSome_getElem?, hidentity]
    simp
  · have hknown : token ∈ w.authority.identities := by
      rw [Std.ExtTreeMap.mem_iff_isSome_getElem?, hidentity]
      rfl
    have hroot : w.authority.permits s.store identity.id (.root token) = true ↔
        token ∈ w.authority.admins := Authority.permits_root
    obtain ⟨message, hfirst⟩ := h.decide_known s.store (.root token) hidentity
    obtain ⟨message', hsecond⟩ :=
      h.decide_known s.store (.forObject token object subject action) hidentity
    rw [hfirst, hsecond]
    by_cases hadmin : token ∈ w.authority.admins
    · rw [if_pos (hroot.2 hadmin)]
      exact .granted hknown (.inl hadmin)
    · rw [if_neg (mt hroot.1 hadmin)]
      by_cases hpermits : w.authority.permits s.store identity.id
          (.forObject token object subject action) = true
      · rw [if_pos hpermits]
        exact .granted hknown (.inr ⟨identity, hidentity, hpermits⟩)
      · rw [if_neg hpermits]
        refine .refused hknown ?_ _
        rintro (hmem | ⟨identity', hidentity', hpermits'⟩)
        · exact hadmin hmem
        · obtain rfl := Option.some.inj (hidentity.symm.trans hidentity')
          exact hpermits hpermits'

/-- A question about a group is decided by the stored memberships in it. -/
lemma decided_canAccessGroup (h : w.authority.Attending) :
    Decided w.authority token (fun m => s.store.HoldsRole groupId m action)
      ((Operation.canAccessGroup token groupId action).run (w.setting rpcTimeout) s).1 :=
  (decided_canAccess h).congr fun _ => Authority.permits_group

/-! ## Things, profiles and keys -/

/-- A question about a thing or a profile is decided by the stored memberships in the group that
owns it in the store. -/
lemma decided_ofOwner {kind : CacheKind} {query : Store → Except StoreError String}
    {update : String → Caches → Caches} {owner : Action String} (h : w.authority.Attending)
    (hs : s.Coherent)
    (howner : Resolved kind query update (w.setting rpcTimeout) s
      (owner (w.setting rpcTimeout) s).1 (owner (w.setting rpcTimeout) s).2)
    (hquery : query s.store = .ok groupId) :
    Decided w.authority token (fun m => s.store.HoldsRole groupId m action)
      (Operation.completed (owner >>= fun g => canAccessGroup token g action)
        (w.setting rpcTimeout) s).1 := by
  have hstore := (howner.keeps hs).store
  rw [run_completed, run_bind_ok (howner.run_ok rfl hquery), ← run_completed, ← hstore]
  exact decided_canAccessGroup h

/-- About a stored thing the roles in its group decide. -/
lemma decided_canAccessThing {id : String} {t : Thing} (h : w.authority.Attending)
    (hs : s.Coherent) (ht : s.store.things[id]? = some t) :
    Decided w.authority token (fun m => s.store.HoldsRole t.groupId m action)
      ((Operation.canAccessThing token id action).run (w.setting rpcTimeout) s).1 :=
  decided_ofOwner h hs (resolved_groupIdOfThing _ hs id)
    (Store.findThing_map_eq_ok_iff.2 ⟨t, ht, rfl⟩)

/-- About a stored profile the roles in its group decide. -/
lemma decided_canAccessProfile {id : String} {p : Profile} (h : w.authority.Attending)
    (hs : s.Coherent) (hp : s.store.profiles[id]? = some p) :
    Decided w.authority token (fun m => s.store.HoldsRole p.groupId m action)
      ((Operation.canAccessProfile token id action).run (w.setting rpcTimeout) s).1 :=
  decided_ofOwner h hs (resolved_groupIdOfProfile _ hs id)
    (Store.findProfile_map_eq_ok_iff.2 ⟨p, hp, rfl⟩)

/-- The thing with a key has access to the group that owns it in the store, and to no other. -/
lemma run_canThingAccessGroup {setting : Setting} {id : String} {t : Thing} (hs : s.Coherent)
    (hfaults : setting.faults = []) (ht : s.store.things[id]? = some t) :
    ((Operation.canThingAccessGroup t.key groupId).run setting s).1 =
      if t.groupId = groupId then .ok .done
      else .error (.authorization s!"thing {id} does not belong to group {groupId}") := by
  have hidentify := resolved_identify setting hs t.key
  have hkeeps := hidentify.keeps hs
  have howner := resolved_groupIdOfThing setting hkeeps.coherent id
  have hid : s.store.findThingId t.key = .ok id := hs.sound.findThingId_eq_ok_iff.2 ⟨t, ht, rfl⟩
  have hgroup : ((identify t.key setting s).2.store.findThing id).map (·.groupId) =
      .ok t.groupId := by
    rw [Store.findThing_map_eq_ok_iff, hkeeps.store]
    exact ⟨t, ht, rfl⟩
  rw [Operation.run, run_completed, canThingAccessGroup,
    run_bind_ok (hidentify.run_ok hfaults hid),
    run_bind_ok (howner.run_ok hfaults hgroup)]
  by_cases hsame : t.groupId = groupId
  · rw [if_pos hsame, if_neg (not_not.2 hsame)]
    rfl
  · rw [if_neg hsame, if_pos hsame]
    rfl

/-- What is asked about is found if it is stored, whatever the answer is then. -/
lemma not_notFound_of_stored {handle : Handle} {op : Operation} (h : w.authority.Attending)
    (hs : s.Coherent) (hasks : handle.Asks op) (hstored : handle.Stored s.store) :
    ¬ NotFound (op.run (w.setting rpcTimeout) s).1 := by
  cases hasks with
  | identify =>
    obtain ⟨id, t, ht, rfl⟩ := hstored
    have hid : s.store.findThingId t.key = .ok id := hs.sound.findThingId_eq_ok_iff.2 ⟨t, ht, rfl⟩
    rw [Operation.run, run_map, (resolved_identify _ hs t.key).run_ok rfl hid]
    rintro ⟨message, hmessage⟩
    simp [Except.map] at hmessage
  | canThingAccessGroup =>
    obtain ⟨id, t, ht, rfl⟩ := hstored
    rw [run_canThingAccessGroup hs rfl ht]
    rintro ⟨message, hmessage⟩
    split at hmessage
    · simp at hmessage
    · simp at hmessage
  | canAccessThing =>
    obtain ⟨t, ht⟩ := hstored
    exact (decided_canAccessThing h hs ht).not_notFound
  | canAccessProfile =>
    obtain ⟨p, hp⟩ := hstored
    exact (decided_canAccessProfile h hs hp).not_notFound

/-! ## Every reachable state -/

/-- What is answered to the questions about access. -/
structure AccessDecided (w : Surroundings) (setting : Setting) (s : State) (token : String)
    (action : Role) : Prop where
  /-- A thing, a profile or a key that is asked about is not found if and only if it is not stored,
  whoever asks. -/
  notFound_iff : ∀ {handle : Handle} {op : Operation}, handle.Asks op →
    (NotFound (op.run setting s).1 ↔ ¬ handle.Stored s.store)
  /-- About a stored thing the roles in its group decide. -/
  things : ∀ {id : String} {t : Thing}, s.store.things[id]? = some t →
    Decided w.authority token (fun m => s.store.HoldsRole t.groupId m action)
      ((Operation.canAccessThing token id action).run setting s).1
  /-- About a stored profile the roles in its group decide. -/
  profiles : ∀ {id : String} {p : Profile}, s.store.profiles[id]? = some p →
    Decided w.authority token (fun m => s.store.HoldsRole p.groupId m action)
      ((Operation.canAccessProfile token id action).run setting s).1
  /-- About a group, stored or not, the roles in it decide. -/
  groups : ∀ groupId : String,
    Decided w.authority token (fun m => s.store.HoldsRole groupId m action)
      ((Operation.canAccessGroup token groupId action).run setting s).1
  /-- About an organization the roles that were given there decide. -/
  orgs : ∀ orgId : String,
    Decided w.authority token (fun m => w.authority.HoldsOrgRole orgId m action)
      ((Operation.canAccessOrg token orgId action).run setting s).1
  /-- The thing with a key has access to the group that owns it. -/
  key_ok_iff : ∀ {id : String} {t : Thing}, s.store.things[id]? = some t → ∀ groupId : String,
    (((Operation.canThingAccessGroup t.key groupId).run setting s).1 = .ok .done ↔
      t.groupId = groupId)
  /-- It may not have access to any other. -/
  key_unauthorized_iff : ∀ {id : String} {t : Thing}, s.store.things[id]? = some t →
    ∀ groupId : String,
      (Unauthorized ((Operation.canThingAccessGroup t.key groupId).run setting s).1 ↔
        t.groupId ≠ groupId)

/-- **Access is decided as the store has it.**  This holds in every reachable state, for every
token, identifier, key and role, while the authority attends. -/
theorem Reachable.access_decided {enabled : Bool} (h : Reachable anyCall enabled s)
    (hw : w.authority.Attending) (rpcTimeout : Nat) (token : String) (action : Role) :
    AccessDecided w (w.setting rpcTimeout) s token action where
  notFound_iff hasks :=
    ⟨fun hnotFound hstored => not_notFound_of_stored hw h.coherent hasks hstored hnotFound,
      fun hnot => notFound_of_not_stored h.coherent hnot rfl hasks⟩
  things := decided_canAccessThing hw h.coherent
  profiles := decided_canAccessProfile hw h.coherent
  groups groupId := decided_canAccessGroup hw
  orgs orgId := (decided_canAccess hw).congr fun _ => Authority.permits_org
  key_ok_iff {id t} ht groupId := by
    rw [run_canThingAccessGroup h.coherent rfl ht]
    by_cases hsame : t.groupId = groupId
    · simp [hsame]
    · simp [hsame]
  key_unauthorized_iff {id t} ht groupId := by
    rw [run_canThingAccessGroup h.coherent rfl ht]
    by_cases hsame : t.groupId = groupId
    · simp [hsame, Unauthorized]
    · simp [hsame, Unauthorized]

/-- Surroundings in which an owner and a visitor are known. -/
def smallOffice : Surroundings :=
  ((Surroundings.initial ⟨"id", none⟩).addUser "owner-token" ⟨"owner", ""⟩ true).addUser
    "visitor-token" ⟨"visitor", ""⟩ true

lemma attending_smallOffice : smallOffice.authority.Attending :=
  ⟨.addUser (.addUser (.addAdmin .empty _ _) _ _) _ _, rfl, rfl⟩

/-- The owner of its group and those who administer the platform may act on the sensor, a visitor
may not look at it, and of a thing that is not stored nothing is said. -/
theorem sensor_access_decided :
    ((Operation.canAccessThing "owner-token" "sensor" .owner).run (smallOffice.setting 0)
        smallFleet).1 = .ok .done ∧
      ((Operation.canAccessThing Surroundings.adminToken "sensor" .owner).run
        (smallOffice.setting 0) smallFleet).1 = .ok .done ∧
      Unauthorized ((Operation.canAccessThing "visitor-token" "sensor" .viewer).run
        (smallOffice.setting 0) smallFleet).1 ∧
      NotFound ((Operation.canAccessThing "unknown-token" "lamp" .viewer).run
        (smallOffice.setting 0) smallFleet).1 := by
  have hreach : Reachable anyCall true smallFleet := reachable_smallFleet fun _ _ _ => trivial
  have hdecided := fun token action =>
    Reachable.access_decided hreach attending_smallOffice 0 token action
  have howner : smallFleet.store.memberships[(⟨"group", "owner"⟩ : Membership.Key)]? =
      some (.granted "group" "owner" .owner (.ofSeconds 0)) := by
    decide +kernel
  have hvisitor :
      smallFleet.store.memberships[(⟨"group", "visitor"⟩ : Membership.Key)]? = none := by
    decide +kernel
  refine ⟨?_, ?_, ?_, ?_⟩
  · rw [((hdecided "owner-token" .owner).things smallFleet_sensor).ok_iff]
    exact .inr ⟨⟨"owner", ""⟩, by decide +kernel, _, howner, by decide⟩
  · rw [((hdecided Surroundings.adminToken .owner).things smallFleet_sensor).ok_iff]
    exact .inl (by decide +kernel)
  · have hvisits := (hdecided "visitor-token" .viewer).things smallFleet_sensor
    have hidentity : smallOffice.authority.identities["visitor-token"]? = some ⟨"visitor", ""⟩ := by
      decide +kernel
    rw [hvisits.unauthorized_iff, hvisits.unauthenticated_iff, Ne, hvisits.ok_iff]
    refine ⟨not_not.2 (by decide +kernel), ?_⟩
    rintro (hadmin | ⟨identity, hidentity', m, hm, -⟩)
    · revert hadmin
      decide +kernel
    · obtain rfl := Option.some.inj (hidentity.symm.trans hidentity')
      exact absurd (hvisitor.symm.trans hm) (by simp)
  · have hasks : (Handle.thing "lamp").Asks (.canAccessThing "unknown-token" "lamp" .viewer) :=
      .canAccessThing
    rw [(hdecided "unknown-token" .viewer).notFound_iff hasks]
    have hlamp : smallFleet.store.things["lamp"]? = none := by decide +kernel
    rintro ⟨t, ht⟩
    exact absurd (hlamp.symm.trans ht) (by simp)

end DeviceFleet.Service
