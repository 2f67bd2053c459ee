/-
# Scopes and lists

When lists are asked for, what is shown depends on who asks.  Those who administer the platform
see whatever there is; anyone else sees what belongs to the groups in which they have a role
themselves.  A list of an organization is cut down further to its own groups, and only those who
may look at the organization are given it at all; a role there shows them nothing more.

The groups of a member come out of a cache or of the store, and a page is cut out of a sorted
list by one of several requests to the store.  Here all this becomes one statement: the page shows
exactly what the caller sees.
-/
import DeviceFleet.Proofs.Action.Heard
import DeviceFleet.Proofs.Service.Permission
import DeviceFleet.Proofs.Store.Pages
import DeviceFleet.Service.Groups
import DeviceFleet.Service.Profiles

namespace DeviceFleet

/-! ## The groups of an organization -/

namespace Store

variable {s : Store} {orgId groupId memberId : String}

/-- The group is stored and belongs to the organization. -/
def InOrg (s : Store) (orgId groupId : String) : Prop :=
  ∃ g : Group, s.groups[groupId]? = some g ∧ g.orgId = orgId

instance : Decidable (s.InOrg orgId groupId) :=
  decidable_of_iff ((s.groups[groupId]?.any fun g => g.orgId == orgId) = true) <| by
    simp [InOrg, Option.any_eq_true]

lemma mem_groupIdsOfOrg_iff (h : s.Sound) :
    groupId ∈ s.groupIdsOfOrg orgId ↔ s.InOrg orgId groupId := by
  simp only [groupIdsOfOrg, groupsWhere, List.mem_map, List.mem_filter, h.mem_groups_iff,
    beq_iff_eq]
  constructor
  · rintro ⟨g, ⟨hg, horg⟩, rfl⟩
    exact ⟨g, hg, horg⟩
  · rintro ⟨g, hg, horg⟩
    obtain rfl := h.group_id hg
    exact ⟨g, ⟨hg, horg⟩, rfl⟩

lemma mem_groupIdsOfOrgMember_iff (h : s.Sound) :
    groupId ∈ s.groupIdsOfOrgMember orgId memberId ↔
      s.InOrg orgId groupId ∧ (⟨groupId, memberId⟩ : Membership.Key) ∈ s.memberships := by
  rw [groupIdsOfOrgMember, List.mem_filter, mem_groupIdsOfOrg_iff h, decide_eq_true_iff]

end Store

/-! ## Questions to a steady collaborator -/

namespace Access

open DeviceFleet.Action

variable {setting : Setting} {s : State} {subject : Subject} {denied token object : String}
  {action : Role}

/-- The first request decides if it succeeds, else the second one. -/
lemma run_canAccess :
    (canAccess subject denied token object action setting s).1 =
      match isAdmin token setting s with
      | (.ok _, _) => .ok ()
      | (.error _, s') => (authorize (.forObject token object subject action) setting s').1 := by
  simp only [canAccess, run_bind, run_attempt]
  rcases isAdmin token setting s with ⟨⟨e⟩ | ⟨⟨⟩⟩, s'⟩
  · simp only [run_bind, run_attempt]
    rcases authorize (.forObject token object subject action) setting s' with ⟨⟨e⟩ | ⟨⟨⟩⟩, s''⟩
    · rfl
    · rfl
  · rfl

/-- A question about an object is answered by yes if it is asked next: the first request is granted,
or else the second one. -/
def Passes (setting : Setting) (s : State) (token : String) (subject : Subject) (object : String)
    (action : Role) : Prop :=
  Grants setting s (.root token) ∨
    Grants setting { s with calls := s.calls + 1 } (.forObject token object subject action)

lemma canAccess_eq_ok_iff_passes :
    (canAccess subject denied token object action setting s).1 = .ok () ↔
      Passes setting s token subject object action := by
  have hroot : (isAdmin token setting s).1 = .ok () ↔ Grants setting s (.root token) :=
    authorize_eq_ok_iff
  have hcalls : (isAdmin token setting s).2.calls = s.calls + 1 := by
    rw [isAdmin, run_authorize]
  have hunchanged : s.Unchanged (isAdmin token setting s).2 := unchanged_authorize _ setting s
  rw [run_canAccess]
  rcases hrun : isAdmin token setting s with ⟨⟨e⟩ | ⟨⟨⟩⟩, s'⟩
  · -- the caller does not administer the platform
    rw [hrun] at hroot hcalls hunchanged
    have hnot : ¬ Grants setting s (.root token) := fun hgrants => by simpa using hroot.2 hgrants
    rw [authorize_eq_ok_iff, Passes, or_iff_right hnot, Grants, Grants, hcalls, hunchanged.store]
  · rw [hrun] at hroot
    exact ⟨fun _ => .inl (hroot.1 rfl), fun _ => rfl⟩

lemma Passes.run_canAccess (h : Passes setting s token subject object action) (denied : String) :
    ∃ s', canAccess subject denied token object action setting s = (.ok (), s') ∧
      s.Unchanged s' :=
  ⟨_, Prod.ext (canAccess_eq_ok_iff_passes.2 h) rfl, unchanged_canAccess setting s⟩

/-- Of a steady collaborator it does not matter that the second request comes later. -/
lemma canAccess_eq_ok_iff (hsteady : setting.Steady) :
    (canAccess subject denied token object action setting s).1 = .ok () ↔
      Permits (Grants setting s) token subject object action := by
  rw [canAccess_eq_ok_iff_passes, Passes, Permits]
  exact or_congr_right (hsteady.grants_iff rfl)

/-- Whether the question is answered by yes tells whether the caller has the permission. -/
lemma ensures_canAccess_grants (hsteady : setting.Steady) :
    (canAccess subject denied token object action).Ensures setting s
      (fun _ s' => s.Unchanged s' ∧ Permits (Grants setting s) token subject object action)
      (fun _ s' => s.Unchanged s' ∧ ¬ Permits (Grants setting s) token subject object action) := by
  refine (ensures_of_ok_iff (unchanged_canAccess setting s)
    fun _ => canAccess_eq_ok_iff hsteady).mono_error ?_
  rintro e s' ⟨hunchanged', hnot⟩
  exact ⟨hunchanged', hnot ()⟩

/-- The groups of a member are those of the store, unless the store is out of order. -/
lemma ensures_groupIdsOfMember (hs : s.Coherent) (memberId : String) :
    (groupIdsOfMember memberId).Ensures setting s
      (fun ids s' => s.Keeps s' ∧ ids = s.store.groupIdsOfMember memberId)
      (fun _ _ => setting.faults ≠ []) := by
  have hresolved : Resolved .group (fun s => .ok (s.groupIdsOfMember memberId))
      (withMember memberId) setting s (groupIdsOfMember memberId setting s).1
      (groupIdsOfMember memberId setting s).2 := by
    rw [groupIdsOfMember_eq]
    exact resolved_resolve (recalls_groupIdsOfMember memberId) hs
  rw [ensures_iff]
  constructor
  · intro ids s' hrun
    rw [hrun] at hresolved
    exact ⟨hresolved.keeps hs, (Except.ok.inj (hresolved.answer ids rfl)).symm⟩
  · intro e s' hrun hfaults
    rw [hrun] at hresolved
    simpa [Except.mapError] using hresolved.result_eq hfaults

end Access

/-! ## Who sees what -/

namespace Service

open DeviceFleet.Action DeviceFleet.Access

variable {α : Type} {setting : Setting} {s : State} {token orgId groupId : String}

/-- The caller sees what belongs to a group, because they administer the platform or because they
have a role in the group. -/
def Sees (setting : Setting) (s : State) (token groupId : String) : Prop :=
  Grants setting s (.root token) ∨
    ∃ identity, Identifies setting s token identity ∧
      (⟨groupId, identity.id⟩ : Membership.Key) ∈ s.store.memberships

/-- Who does not administer the platform sees the groups in which they have a role. -/
lemma sees_iff_of_identifies (hnot : ¬ Grants setting s (.root token)) {identity : Identity}
    (hidentity : Identifies setting s token identity) :
    Sees setting s token groupId ↔
      (⟨groupId, identity.id⟩ : Membership.Key) ∈ s.store.memberships := by
  constructor
  · rintro (hgrants | ⟨identity', hidentity', hmember⟩)
    · exact absurd hgrants hnot
    · rwa [hidentity.unique hidentity']
  · intro hmember
    exact .inr ⟨identity, hidentity, hmember⟩

/-- The first step of every list: it is found out whether the caller administers the platform. -/
lemma ensures_attempt_isAdmin (token : String) {E : ServiceError → State → Prop} :
    (attempt (isAdmin token)).Ensures setting s
      (fun r s' => s.Unchanged s' ∧
        ((r = .ok () ∧ Grants setting s (.root token)) ∨
          ((∃ e, r = .error e) ∧ ¬ Grants setting s (.root token)))) E := by
  refine Ensures.attempt ((ensures_authorize_grants (.root token)).mono ?_ ?_)
  · rintro - s' ⟨hunchanged, hgrants⟩
    exact ⟨hunchanged, .inl ⟨rfl, hgrants⟩⟩
  · rintro e s' ⟨hunchanged, hnot⟩
    exact ⟨hunchanged, .inr ⟨⟨e, rfl⟩, hnot⟩⟩

/-- The caller's own groups. -/
lemma ensures_memberGroupIds (hs : s.Coherent) (token : String) :
    (memberGroupIds token).Ensures setting s
      (fun ids s' => s.Keeps s' ∧ ∃ identity, Identifies setting s token identity ∧
        ∀ g, g ∈ ids ↔ (⟨g, identity.id⟩ : Membership.Key) ∈ s.store.memberships)
      (fun _ _ => setting.faults ≠ [] ∨ ∀ identity, ¬ Identifies setting s token identity) := by
  refine ((ensures_identifyCaller token).mono_error fun _ _ h => .inr h.2).bind ?_
  rintro identity s₁ ⟨hunchanged, hidentity⟩
  have hkeeps := hunchanged.keeps hs
  refine (ensures_groupIdsOfMember hkeeps.coherent identity.id).mono ?_ fun _ _ h => .inl h
  rintro ids s₂ ⟨hkeeps', rfl⟩
  refine ⟨hkeeps.trans hkeeps', identity, hidentity, fun g => ?_⟩
  rw [hunchanged.store, Store.mem_groupIdsOfMember_iff hs.sound]

/-- What makes two requests to the store those of a list: one shows all records, the other one
those of some groups. -/
structure Lists (s : Store) (r : PageRequest) (name id group : α → String) (stored : α → Prop)
    (everything : Store → Page α) (ofGroups : List String → Store → Page α) : Prop where
  /-- One shows all records. -/
  everything : (everything s).ShowsExactly r name id stored
  /-- The other one shows those of some groups. -/
  ofGroups : ∀ ids, (ofGroups ids s).ShowsExactly r name id fun a => stored a ∧ group a ∈ ids

section Lists

variable {r : PageRequest} {name id group : α → String} {stored : α → Prop}
  {everything : Store → Page α} {ofGroups : List String → Store → Page α}
  {method method' : Store.Method}

/-- A list shows exactly what the caller sees.  It fails only if the store is out of order or the
caller is not made known. -/
lemma ensures_listScoped (hs : s.Coherent) (hsteady : setting.Steady)
    (h : Lists s.store r name id group stored everything ofGroups) :
    (listScoped token (ask method fun store => .ok (everything store))
        fun ids => ask method' fun store => .ok (ofGroups ids store)).Ensures setting s
      (fun page _ => page.ShowsExactly r name id fun a =>
        stored a ∧ Sees setting s token (group a))
      (fun _ _ => setting.faults ≠ [] ∨
        (¬ Grants setting s (.root token) ∧
          ∀ identity, ¬ Identifies setting s token identity)) := by
  refine (ensures_attempt_isAdmin token).bind ?_
  rintro r s₁ ⟨hunchanged, ⟨rfl, hgrants⟩ | ⟨⟨e, rfl⟩, hnot⟩⟩
  · refine (ensures_query method everything).mono ?_ fun _ _ h => .inl h
    rintro page s₂ ⟨-, rfl⟩
    rw [hunchanged.store]
    exact h.everything.congr fun a => (and_iff_left (.inl hgrants)).symm
  · have hkeeps := hunchanged.keeps hs
    refine ((ensures_memberGroupIds hkeeps.coherent token).mono_error ?_).bind ?_
    · rintro - - (hfaults | hunknown)
      · exact .inl hfaults
      · exact .inr ⟨hnot, fun i hi => hunknown i ((hsteady.identifies_iff hunchanged.store).2 hi)⟩
    · rintro ids s₂ ⟨hkeeps', identity, hidentity, hids⟩
      rw [hsteady.identifies_iff hunchanged.store] at hidentity
      refine (ensures_query method' (ofGroups ids)).mono ?_ fun _ _ h => .inl h
      rintro page s₃ ⟨-, rfl⟩
      rw [hkeeps'.store, hunchanged.store]
      refine (h.ofGroups ids).congr fun a => and_congr_right fun _ => ?_
      rw [hids, hunchanged.store, sees_iff_of_identifies hnot hidentity]

/-- The groups of an organization that the caller sees. -/
lemma ensures_orgGroupIds (hs : s.Coherent) (hsteady : setting.Steady) :
    (orgGroupIds token orgId).Ensures setting s
      (fun ids s' => s'.store = s.store ∧ Permits (Grants setting s) token .org orgId .viewer ∧
        ∀ g, g ∈ ids ↔ s.store.InOrg orgId g ∧ Sees setting s token g)
      (fun _ _ => True) := by
  refine (ensures_attempt_isAdmin token).bind ?_
  rintro r s₁ ⟨hunchanged, ⟨rfl, hgrants⟩ | ⟨⟨e, rfl⟩, hnot⟩⟩
  · refine (ensures_query .groupIdsOfOrg _).mono ?_ fun _ _ _ => trivial
    rintro ids s₂ ⟨rfl, rfl⟩
    refine ⟨hunchanged.store, .inl hgrants, fun g => ?_⟩
    rw [hunchanged.store, Store.mem_groupIdsOfOrg_iff hs.sound]
    exact (and_iff_left (.inl hgrants)).symm
  · -- the organization opens the list, and the caller's own groups are all that it shows
    refine ((ensures_canAccess_grants hsteady).mono_error fun _ _ _ => trivial).bind ?_
    rintro - s₂ ⟨hunchanged', hpermits⟩
    have hunchanged₂ := hunchanged.trans hunchanged'
    refine ((ensures_identifyCaller token).mono_error fun _ _ _ => trivial).bind ?_
    rintro identity s₃ ⟨hunchanged'', hidentity⟩
    rw [hsteady.identifies_iff hunchanged₂.store] at hidentity
    have hstore := (hunchanged₂.trans hunchanged'').store
    refine (ensures_query .groupIdsOfOrgMember _).mono ?_ fun _ _ _ => trivial
    rintro ids s₄ ⟨rfl, rfl⟩
    refine ⟨hstore, ?_, fun g => ?_⟩
    · exact hpermits.mono fun request => (hsteady.grants_iff hunchanged.store).1
    · rw [hstore, Store.mem_groupIdsOfOrgMember_iff hs.sound,
        sees_iff_of_identifies hnot hidentity]

/-- A list of an organization shows exactly what the caller sees there. -/
lemma ensures_listOfOrg (hs : s.Coherent) (hsteady : setting.Steady)
    (h : Lists s.store r name id group stored everything ofGroups) :
    (orgGroupIds token orgId >>= fun ids =>
        ask method fun store => .ok (ofGroups ids store)).Ensures setting s
      (fun page _ => page.ShowsExactly r name id fun a =>
        stored a ∧ s.store.InOrg orgId (group a) ∧ Sees setting s token (group a))
      (fun _ _ => True) := by
  refine (ensures_orgGroupIds hs hsteady).bind ?_
  rintro ids s₁ ⟨hstore, -, hids⟩
  refine (ensures_query method (ofGroups ids)).mono ?_ fun _ _ _ => trivial
  rintro page s₂ ⟨-, rfl⟩
  rw [hstore]
  exact (h.ofGroups ids).congr fun a => and_congr_right fun _ => hids (group a)

end Lists

/-! ## The lists -/

variable {r : PageRequest}

lemma lists_things (hs : s.Coherent) :
    Lists s.store r Thing.name Thing.id Thing.groupId (fun t => s.store.things[t.id]? = some t)
      (fun store => store.listThings r) fun ids store => store.listThingsOfGroups ids r where
  everything := (hs.sound.showsExactly_pageOfThings _).congr fun t => and_iff_left rfl
  ofGroups ids := (hs.sound.showsExactly_pageOfThings _).congr fun t => by
    rw [List.contains_iff_mem]

lemma lists_profiles (hs : s.Coherent) :
    Lists s.store r Profile.name Profile.id Profile.groupId
      (fun p => s.store.profiles[p.id]? = some p)
      (fun store => store.listProfiles r) fun ids store => store.listProfilesOfGroups ids r where
  everything := (hs.sound.showsExactly_pageOfProfiles _).congr fun p => and_iff_left rfl
  ofGroups ids := (hs.sound.showsExactly_pageOfProfiles _).congr fun p => by
    rw [List.contains_iff_mem]

/-- A group belongs to itself. -/
lemma lists_groups (hs : s.Coherent) :
    Lists s.store r Group.name Group.id Group.id (fun g => s.store.groups[g.id]? = some g)
      (fun store => store.listGroups r) fun ids store => store.listGroupsWithIds ids r where
  everything := (hs.sound.showsExactly_pageOfGroups _).congr fun g => and_iff_left rfl
  ofGroups ids := (hs.sound.showsExactly_pageOfGroups _).congr fun g => by
    rw [List.contains_iff_mem]

end Service

end DeviceFleet
