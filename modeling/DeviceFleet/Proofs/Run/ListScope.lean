/-
# Lists show what the caller sees

In every reachable state, and whatever steady collaborators tell about the caller, the six lists
that depend on who asks show exactly what the caller sees: no record of a group that is hidden
from the caller, and none left out.  A role in an organization opens the lists of the organization,
but what they show is decided by the roles in its groups.
-/
import DeviceFleet.Proofs.Run.Step
import DeviceFleet.Proofs.Service.Scope

namespace DeviceFleet.Service

open DeviceFleet.Action

variable {α : Type} {setting : Setting} {s : State} {token : String} {r : PageRequest}
  {name id : α → String} {p : α → Prop}

/-- The answer, if there is one, is the page that is asked for of the records that satisfy `p`. -/
def Shows (result : Except ServiceError Answer) (wrap : Page α → Answer) (r : PageRequest)
    (name id : α → String) (p : α → Prop) : Prop :=
  ∀ answer, result = .ok answer → ∃ page, answer = wrap page ∧ page.ShowsExactly r name id p

/-- An answer that is handed on comes from an action that succeeds. -/
lemma ok_of_map_ok {x : Action α} {f : α → Answer} {answer : Answer}
    (h : ((f <$> x) setting s).1 = .ok answer) :
    ∃ a, x setting s = (.ok a, ((f <$> x) setting s).2) ∧ answer = f a := by
  rw [run_map] at h ⊢
  rcases hx : x setting s with ⟨⟨e⟩ | ⟨a⟩, s'⟩
  · simp [hx, Except.map] at h
  · rw [hx] at h
    exact ⟨a, rfl, (Except.ok.inj h).symm⟩

/-- What an action shows is shown by the operation that hands on its page. -/
lemma shows_map {x : Action (Page α)} {wrap : Page α → Answer} {E : ServiceError → State → Prop}
    (h : x.Ensures setting s (fun page _ => page.ShowsExactly r name id p) E) :
    Shows ((wrap <$> x) setting s).1 wrap r name id p := by
  intro answer hanswer
  obtain ⟨page, hrun, rfl⟩ := ok_of_map_ok hanswer
  exact ⟨page, rfl, h.of_ok hrun⟩

/-- Whoever is given a list of an organization may look at the organization. -/
lemma viewer_of_ok {orgId : String} {f : List String → Action (Page α)} {wrap : Page α → Answer}
    {answer : Answer} (hs : s.Coherent) (hsteady : setting.Steady)
    (hok : ((wrap <$> (orgGroupIds token orgId >>= f)) setting s).1 = .ok answer) :
    Permits (Grants setting s) token .org orgId .viewer := by
  obtain ⟨page, hrun, -⟩ := ok_of_map_ok hok
  rcases horg : orgGroupIds token orgId setting s with ⟨⟨e⟩ | ⟨ids⟩, s₁⟩
  · rw [run_bind_error horg] at hrun
    exact absurd (congrArg Prod.fst hrun) (by simp)
  · exact ((ensures_orgGroupIds hs hsteady).of_ok horg).2.1

/-- The lists show exactly what the caller sees. -/
structure ListsWhatIsSeen (setting : Setting) (s : State) (token : String) (r : PageRequest) :
    Prop where
  /-- The things of the groups that the caller sees. -/
  things : Shows ((Operation.listThings token r).run setting s).1 .thingPage r (·.name) (·.id)
    fun t => s.store.things[t.id]? = some t ∧ Sees setting s token t.groupId
  /-- The profiles of the groups that the caller sees. -/
  profiles : Shows ((Operation.listProfiles token r).run setting s).1 .profilePage r (·.name) (·.id)
    fun p => s.store.profiles[p.id]? = some p ∧ Sees setting s token p.groupId
  /-- The groups that the caller sees. -/
  groups : Shows ((Operation.listGroups token r).run setting s).1 .groupPage r (·.name) (·.id)
    fun g => s.store.groups[g.id]? = some g ∧ Sees setting s token g.id
  /-- Those things that belong to a group of the organization. -/
  thingsOfOrg : ∀ orgId, Shows ((Operation.listThingsByOrg token orgId r).run setting s).1
    .thingPage r (·.name) (·.id) fun t => s.store.things[t.id]? = some t ∧
      s.store.InOrg orgId t.groupId ∧ Sees setting s token t.groupId
  /-- Those profiles that belong to a group of the organization. -/
  profilesOfOrg : ∀ orgId, Shows ((Operation.listProfilesByOrg token orgId r).run setting s).1
    .profilePage r (·.name) (·.id) fun p => s.store.profiles[p.id]? = some p ∧
      s.store.InOrg orgId p.groupId ∧ Sees setting s token p.groupId
  /-- Those groups that belong to the organization. -/
  groupsOfOrg : ∀ orgId, Shows ((Operation.listGroupsByOrg token orgId r).run setting s).1
    .groupPage r (·.name) (·.id) fun g => s.store.groups[g.id]? = some g ∧
      s.store.InOrg orgId g.id ∧ Sees setting s token g.id
  /-- A list of an organization is for those who may look at the organization. -/
  viewers : ∀ orgId, ∀ op ∈ [Operation.listThingsByOrg token orgId r,
      .listProfilesByOrg token orgId r, .listGroupsByOrg token orgId r],
    ∀ answer, (op.run setting s).1 = .ok answer →
      Permits (Grants setting s) token .org orgId .viewer

/-- **Every list shows exactly what the caller sees.** -/
theorem Reachable.lists_what_is_seen {enabled : Bool} (h : Reachable anyCall enabled s)
    (hsteady : setting.Steady) (token : String) (r : PageRequest) :
    ListsWhatIsSeen setting s token r where
  things := shows_map (ensures_listScoped h.coherent hsteady (lists_things h.coherent))
  profiles := shows_map (ensures_listScoped h.coherent hsteady (lists_profiles h.coherent))
  groups := shows_map (ensures_listScoped h.coherent hsteady (lists_groups h.coherent))
  thingsOfOrg orgId := shows_map (ensures_listOfOrg h.coherent hsteady (lists_things h.coherent))
  profilesOfOrg orgId :=
    shows_map (ensures_listOfOrg h.coherent hsteady (lists_profiles h.coherent))
  groupsOfOrg orgId := shows_map (ensures_listOfOrg h.coherent hsteady (lists_groups h.coherent))
  viewers orgId op hop answer hanswer := by
    simp only [List.mem_cons, List.not_mem_nil, or_false] at hop
    rcases hop with rfl | rfl | rfl
    · exact viewer_of_ok h.coherent hsteady hanswer
    · exact viewer_of_ok h.coherent hsteady hanswer
    · exact viewer_of_ok h.coherent hsteady hanswer

/-- Everybody may look at every organization, and nothing else is granted. -/
def orgViewers : Setting where
  __ := permissive
  authorize _ _ request :=
    if request.subject = .org then ⟨0, .ok ()⟩ else ⟨0, .error (.permissionDenied "denied")⟩

/-- The sensor is shown to the owner of its group, and not to a visitor who may look at the
organization as well. -/
theorem sensor_shown_to_owner_only :
    orgViewers.Steady ∧
      (∃ page, ((Operation.listThingsByOrg "owner" "org" ⟨0, 10, none⟩).run orgViewers
          smallFleet).1 = .ok (.thingPage page) ∧ sensor ∈ page.items) ∧
      ∃ page, ((Operation.listThingsByOrg "visitor" "org" ⟨0, 10, none⟩).run orgViewers
        smallFleet).1 = .ok (.thingPage page) ∧ sensor ∉ page.items := by
  have hreach : Reachable anyCall true smallFleet := reachable_smallFleet fun _ _ _ => trivial
  have hsteady : orgViewers.Steady := ⟨fun _ _ _ _ => rfl, fun _ _ _ _ => rfl⟩
  have hshown : ∀ {token : String} {page : Page Thing},
      ((Operation.listThingsByOrg token "org" ⟨0, 10, none⟩).run orgViewers smallFleet).1 =
        .ok (.thingPage page) → page.total ≤ 10 →
      (sensor ∈ page.items ↔ smallFleet.store.things["sensor"]? = some sensor ∧
        smallFleet.store.InOrg "org" "group" ∧ Sees orgViewers smallFleet token "group") := by
    intro token page hok hroom
    have hlists := Reachable.lists_what_is_seen hreach hsteady token ⟨0, 10, none⟩
    obtain ⟨page', hpage, hshows⟩ := hlists.thingsOfOrg "org" _ hok
    obtain rfl := Answer.thingPage.inj hpage
    exact hshows.mem_items_iff rfl rfl hroom
  have hsees : ∀ token, Sees orgViewers smallFleet token "group" ↔
      (⟨"group", token⟩ : Membership.Key) ∈ smallFleet.store.memberships := by
    intro token
    have hnot : ¬ Grants orgViewers smallFleet (.root token) := by
      simp [Grants, Setting.heard, orgViewers, AuthorizeRequest.root]
    have hidentity : Identifies orgViewers smallFleet token ⟨token, ""⟩ := by
      simp [Identifies, Setting.heard, orgViewers, permissive]
    rw [sees_iff_of_identifies hnot hidentity]
  have howner : ((Operation.listThingsByOrg "owner" "org" ⟨0, 10, none⟩).run orgViewers
      smallFleet).1 = .ok (.thingPage ⟨[sensor], 1, 0, 10⟩) := by decide +kernel
  have hvisitor : ((Operation.listThingsByOrg "visitor" "org" ⟨0, 10, none⟩).run orgViewers
      smallFleet).1 = .ok (.thingPage ⟨[], 0, 0, 10⟩) := by decide +kernel
  refine ⟨hsteady, ⟨_, howner, ?_⟩, ⟨_, hvisitor, ?_⟩⟩
  · rw [hshown howner (by decide), hsees]
    have hgroup : smallFleet.store.InOrg "org" "group" :=
      ⟨⟨"group", "org", "Group", "", ∅, .ofSeconds 0, .ofSeconds 0⟩, by decide +kernel, rfl⟩
    exact ⟨smallFleet_sensor, hgroup, by decide +kernel⟩
  · rw [hshown hvisitor (by decide), hsees]
    rintro ⟨-, -, hmember⟩
    revert hmember
    decide +kernel

end DeviceFleet.Service
