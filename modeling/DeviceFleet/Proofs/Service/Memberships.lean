/-
# The operations on memberships

What the operations that write memberships do: a failure leaves the records as they were, and a
success has an effect that was permitted.  The memberships are changed first, and the members are
forgotten afterwards.
-/
import DeviceFleet.Proofs.Service.Groups
import DeviceFleet.Service.Memberships

namespace DeviceFleet.Service

open DeviceFleet.Action DeviceFleet.Access

variable {setting : Setting} {s : State} {token groupId : String}

/-- The memberships that are given are in the group, and of the members that were named. -/
lemma ensures_grantAll (hs : s.Coherent) (members : List MemberRole) :
    (grantAll groupId members).Ensures setting s
      (fun memberships s' => s.Keeps s' ∧ ∀ m ∈ memberships,
        m.groupId = groupId ∧ m.memberId ∈ members.map (·.memberId))
      (fun _ s' => s.Keeps s') := by
  refine ensures_mapM (I := fun (done : List Membership) s' => s.Keeps s' ∧ ∀ m ∈ done,
    m.groupId = groupId ∧ m.memberId ∈ members.map (·.memberId)) ⟨.refl hs, by simp⟩
    fun done m s₁ hm ⟨hk₁, hdone⟩ => ?_
  refine ((readOnly_now.ensures hk₁.coherent).mono_error fun _ _ h => hk₁.trans h).bind
    fun time s₂ hk₂ => ?_
  have hnew : m.memberId ∈ members.map (·.memberId) := List.mem_map.2 ⟨m, hm, rfl⟩
  exact ensures_pure ⟨hk₁.trans hk₂,
    List.forall_mem_append.2 ⟨hdone, List.forall_mem_singleton.2 ⟨rfl, hnew⟩⟩⟩

/-- Members are only given roles in a group that is stored. -/
lemma ensures_createMemberships (hs : s.Coherent) (members : List MemberRole) :
    (createMemberships token groupId members).Ensures setting s
      (fun _ s' => Follows setting (.createMemberships token groupId members) s s')
      (fun _ s' => s.Keeps s') := by
  refine (ensures_canAccess.mono_error fun _ s' h => h.keeps hs).bind
    fun _ s₁ ⟨hunchanged, hpermits⟩ => ?_
  have hk₁ : s.Keeps s₁ := hunchanged.keeps hs
  refine (ensures_ask.failing fun _ => hk₁).bind
    fun g s' ⟨hs', hfind⟩ => ?_
  obtain rfl := hs'.symm
  have hgroup : groupId ∈ s₁.store.groups := by
    by_contra hnot
    have hnone : s₁.store.groups[groupId]? = none := by simpa using hnot
    simp [Store.findGroup, hnone] at hfind
  refine ((ensures_grantAll hk₁.coherent members).mono_error
    fun _ _ h => hk₁.trans h).bind fun memberships s₂ ⟨hk, hgranted⟩ => ?_
  have hk₂ := hk₁.trans hk
  refine (ensures_saveMemberships hk₂.coherent (forgets_forM members (·.memberId))
    fun m hm => (hgranted m hm).2).mono ?_ ?_
  · rintro _ s₃ ⟨hs₃, hp, hgains⟩
    rw [hk₂.store] at hgains
    refine ⟨hs₃, hk₂.precedes.trans hp, ?_⟩
    exact .createMemberships memberships (hpermits.later (hk.precedes.trans hp))
      (hk₁.store ▸ hgroup) (fun m hm => (hgranted m hm).1) hgains
  · rintro - s' rfl
    exact hk₂

lemma couples_createMemberships (token groupId : String) (members : List MemberRole) :
    Couples State.Coherent (createMemberships token groupId members) := by
  refine (readOnly_canAccessGroup token groupId .admin).couples.bind_blind fun _ => ?_
  refine Blind.bind (blind_ask _ _) fun _ => ?_
  refine Blind.bind (Blind.mapM fun m _ => blind_now.bind fun time => blind_pure _) fun ms => ?_
  exact (blind_change _ _).bind fun _ => Blind.forM fun m _ => blind_forgetMember m.memberId

lemma ensures_updateMemberships (hs : s.Coherent) (members : List MemberRole) :
    (updateMemberships token groupId members).Ensures setting s
      (fun _ s' => Follows setting (.updateMemberships token groupId members) s s')
      (fun _ s' => s.Keeps s') := by
  refine (ensures_canAccess.mono_error fun _ s' h => h.keeps hs).bind
    fun _ s₁ ⟨hunchanged, hpermits⟩ => ?_
  have hk₁ : s.Keeps s₁ := hunchanged.keeps hs
  refine ((ensures_grantAll hk₁.coherent members).mono_error
    fun _ _ h => hk₁.trans h).bind fun memberships s₂ ⟨hk, hgranted⟩ => ?_
  have hk₂ := hk₁.trans hk
  refine (ensures_changeMembers (f := fun s => s.updateMemberships memberships) hk₂.coherent
    (forgets_forM members (·.memberId)) (fun _ _ => Store.updateMemberships_error)
    fun store hupdate => ?_).mono ?_ ?_
  · have hsound := (hk₂.coherent.sound.updateMemberships memberships).of_outcome hupdate
    obtain rfl := Store.updateMemberships_ok hupdate
    refine ⟨hsound, Store.foldl_changeRole_rest memberships s₂.store, fun m _ => ?_⟩
    refine Store.groupIdsOfMember_congr hk₂.coherent.sound hsound fun g => ?_
    exact (Store.mem_foldl_changeRole_iff memberships s₂.store _).symm
  · rintro _ s₃ ⟨hs₃, hp, hupdate⟩
    rw [hk₂.store] at hupdate
    refine ⟨hs₃, hk₂.precedes.trans hp, ?_⟩
    exact .updateMemberships memberships (hpermits.later (hk.precedes.trans hp))
      (fun m hm => (hgranted m hm).1) hupdate fun m hm => (hgranted m hm).2
  · rintro - s' rfl
    exact hk₂

lemma couples_updateMemberships (token groupId : String) (members : List MemberRole) :
    Couples State.Coherent (updateMemberships token groupId members) := by
  refine (readOnly_canAccessGroup token groupId .admin).couples.bind_blind fun _ => ?_
  refine Blind.bind (Blind.mapM fun m _ => blind_now.bind fun time => blind_pure _) fun ms => ?_
  exact (blind_change _ _).bind fun _ => Blind.forM fun m _ => blind_forgetMember m.memberId

lemma ensures_removeMemberships (hs : s.Coherent) (memberIds : List String) :
    (removeMemberships token groupId memberIds).Ensures setting s
      (fun _ s' => Follows setting (.removeMemberships token groupId memberIds) s s')
      (fun _ s' => s.Keeps s') := by
  refine (ensures_canAccess.mono_error fun _ s' h => h.keeps hs).bind
    fun _ s₁ ⟨hunchanged, hpermits⟩ => ?_
  have hk₁ : s.Keeps s₁ := hunchanged.keeps hs
  have hforget : Forgets (memberIds.forM forgetMember) memberIds := by
    simpa only [List.map_id'] using forgets_forM memberIds fun id => id
  refine (ensures_changeMembers (f := fun s => (.ok (), s.removeMemberships groupId memberIds))
    hk₁.coherent hforget (by simp) fun store hremove => ?_).mono ?_ ?_
  · obtain rfl : s₁.store.removeMemberships groupId memberIds = store := congrArg Prod.snd hremove
    have hsound := hk₁.coherent.sound.removeMemberships groupId memberIds
    refine ⟨hsound, Store.removeMemberships_rest groupId memberIds s₁.store, fun m hm => ?_⟩
    refine Store.groupIdsOfMember_congr hk₁.coherent.sound hsound fun g => ?_
    simp only [Std.ExtTreeMap.mem_iff_isSome_getElem?, Store.memberships_removeMemberships, hm,
      and_false, if_false]
  · rintro _ s₂ ⟨hs₂, hp, hremove⟩
    obtain hstore : s₁.store.removeMemberships groupId memberIds = s₂.store :=
      congrArg Prod.snd hremove
    refine ⟨hs₂, hk₁.precedes.trans hp, ?_⟩
    rw [← hstore, hk₁.store]
    exact .removeMemberships (hpermits.later hp)
  · rintro - s' rfl
    exact hk₁

lemma couples_removeMemberships (token groupId : String) (memberIds : List String) :
    Couples State.Coherent (removeMemberships token groupId memberIds) :=
  (readOnly_canAccessGroup token groupId .admin).couples.bind_blind fun _ =>
    (blind_change _ _).bind fun _ => Blind.forM fun m _ => blind_forgetMember m

end DeviceFleet.Service
