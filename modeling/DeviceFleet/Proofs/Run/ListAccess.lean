/-
# Lists and access agree

A list is made from the groups of the caller, which may come out of the cache of members; a
question about access goes from a record to its group, which may come out of another cache, and
on to the role of the caller there.  In every reachable state, while the authority attends, the two
ways lead to one result: a list with room for all shows exactly the records that the caller may
look at, and each of them once.
-/
import DeviceFleet.Proofs.Run.AccessDecisions
import DeviceFleet.Proofs.Run.ListScope

namespace DeviceFleet

/-- A membership grants at least the lowest role. -/
lemma Store.holdsRole_viewer_iff {s : Store} {groupId memberId : String} :
    s.HoldsRole groupId memberId .viewer ↔
      (⟨groupId, memberId⟩ : Membership.Key) ∈ s.memberships := by
  rw [Std.ExtTreeMap.mem_iff_isSome_getElem?, Option.isSome_iff_exists]
  constructor
  · rintro ⟨m, hm, -⟩
    exact ⟨m, hm⟩
  · rintro ⟨m, hm⟩
    exact ⟨m, hm, Nat.zero_le _⟩

namespace Service

open DeviceFleet.Action DeviceFleet.Access

variable {α : Type} {w : Surroundings} {rpcTimeout : Nat} {s : State} {token groupId : String}
  {r : PageRequest}

/-- Who sees a group may look at it. -/
lemma sees_iff (hw : w.authority.Attending) :
    Sees (w.setting rpcTimeout) s token groupId ↔
      token ∈ w.authority.admins ∨ ∃ identity, w.authority.identities[token]? = some identity ∧
        s.store.HoldsRole groupId identity.id .viewer := by
  have hroot : Grants (w.setting rpcTimeout) s (.root token) ↔ token ∈ w.authority.admins := by
    rw [Surroundings.grants_iff hw]
    constructor
    · rintro ⟨identity, -, hpermits⟩
      exact Authority.permits_root.1 hpermits
    · intro hadmin
      obtain ⟨identity, hidentity⟩ := hw.configured.identity_of_admin hadmin
      exact ⟨identity, hidentity, Authority.permits_root.2 hadmin⟩
  simp only [Sees, hroot, Surroundings.identifies_iff hw, Store.holdsRole_viewer_iff]

/-- The list is answered by a page, which shows, if it has room for all, each stored record once
that may be looked at, and no others. -/
def ShowsAccessible (list : Except ServiceError Answer) (wrap : Page α → Answer) (limit : Nat)
    (stored : α → Prop) (access : α → Except ServiceError Answer) : Prop :=
  ∃ page, list = .ok (wrap page) ∧ (page.total ≤ limit →
    page.items.Nodup ∧ ∀ a, a ∈ page.items ↔ stored a ∧ access a = .ok .done)

/-- A caller who is known is given a list, and if to see a record is to have access to it, the list
shows those to which the caller has access. -/
lemma showsAccessible_map {x : Action (Page α)} {wrap : Page α → Answer}
    {name id group : α → String} {stored : α → Prop} {access : α → Except ServiceError Answer}
    {identity : Identity}
    (hw : w.authority.Attending) (hknown : w.authority.identities[token]? = some identity)
    (hstart : r.offset = 0) (hname : r.name = none)
    (hx : x.Ensures (w.setting rpcTimeout) s
      (fun page _ => page.ShowsExactly r name id fun a =>
        stored a ∧ Sees (w.setting rpcTimeout) s token (group a))
      (fun _ _ => (w.setting rpcTimeout).faults ≠ [] ∨
        (¬ Grants (w.setting rpcTimeout) s (.root token) ∧
          ∀ identity, ¬ Identifies (w.setting rpcTimeout) s token identity)))
    (haccess : ∀ a, stored a → Decided w.authority token
      (fun m => s.store.HoldsRole (group a) m .viewer) (access a)) :
    ShowsAccessible ((wrap <$> x) (w.setting rpcTimeout) s).1 wrap r.limit stored access := by
  have hidentity : Identifies (w.setting rpcTimeout) s token identity :=
    (Surroundings.identifies_iff hw).2 hknown
  obtain ⟨page, s', hrun, hshows⟩ := hx.exists_ok <| by
    rintro - - (hfaults | ⟨-, hunknown⟩)
    · exact hfaults rfl
    · exact hunknown identity hidentity
  refine ⟨page, by rw [run_map, hrun]; rfl, fun hroom => ⟨hshows.nodup, fun a => ?_⟩⟩
  rw [hshows.mem_items_iff hstart hname hroom]
  refine and_congr_right fun hstored => ?_
  rw [sees_iff hw, (haccess a hstored).ok_iff]

/-! ## Every reachable state -/

/-- The lists show exactly what the caller may look at. -/
structure ListsAccessible (setting : Setting) (s : State) (token : String) (r : PageRequest) :
    Prop where
  /-- The things. -/
  things : ShowsAccessible ((Operation.listThings token r).run setting s).1 .thingPage r.limit
    (fun t => s.store.things[t.id]? = some t)
    fun t => ((Operation.canAccessThing token t.id .viewer).run setting s).1
  /-- The profiles. -/
  profiles : ShowsAccessible ((Operation.listProfiles token r).run setting s).1 .profilePage r.limit
    (fun p => s.store.profiles[p.id]? = some p)
    fun p => ((Operation.canAccessProfile token p.id .viewer).run setting s).1
  /-- The groups. -/
  groups : ShowsAccessible ((Operation.listGroups token r).run setting s).1 .groupPage r.limit
    (fun g => s.store.groups[g.id]? = some g)
    fun g => ((Operation.canAccessGroup token g.id .viewer).run setting s).1

/-- **Lists and access agree.**  This holds in every reachable state for every known token, for a
page from the beginning of all names, while the authority attends. -/
theorem Reachable.lists_accessible {enabled : Bool} (h : Reachable anyCall enabled s)
    (hw : w.authority.Attending) (rpcTimeout : Nat) {identity : Identity}
    (hknown : w.authority.identities[token]? = some identity) (r : PageRequest)
    (hstart : r.offset = 0) (hname : r.name = none) :
    ListsAccessible (w.setting rpcTimeout) s token r := by
  have hs := h.coherent
  have hsteady := w.steady_setting rpcTimeout
  constructor
  · exact showsAccessible_map hw hknown hstart hname
      (ensures_listScoped hs hsteady (lists_things hs))
      fun t ht => decided_canAccessThing hw hs ht
  · exact showsAccessible_map hw hknown hstart hname
      (ensures_listScoped hs hsteady (lists_profiles hs))
      fun p hp => decided_canAccessProfile hw hs hp
  · exact showsAccessible_map hw hknown hstart hname
      (ensures_listScoped hs hsteady (lists_groups hs))
      fun g _ => decided_canAccessGroup hw

/-- The owner is shown the sensor and may look at it, a visitor neither. -/
theorem sensor_listed_as_accessible :
    ((Operation.listThings "owner-token" ⟨0, 10, none⟩).run (smallOffice.setting 0)
        smallFleet).1 = .ok (.thingPage ⟨[sensor], 1, 0, 10⟩) ∧
      ((Operation.canAccessThing "owner-token" "sensor" .viewer).run (smallOffice.setting 0)
        smallFleet).1 = .ok .done ∧
      ((Operation.listThings "visitor-token" ⟨0, 10, none⟩).run (smallOffice.setting 0)
        smallFleet).1 = .ok (.thingPage ⟨[], 0, 0, 10⟩) ∧
      ((Operation.canAccessThing "visitor-token" "sensor" .viewer).run (smallOffice.setting 0)
        smallFleet).1 ≠ .ok .done := by
  have hreach : Reachable anyCall true smallFleet := reachable_smallFleet fun _ _ _ => trivial
  have hagree : ∀ {token : String} {identity : Identity} {page : Page Thing},
      smallOffice.authority.identities[token]? = some identity →
      ((Operation.listThings token ⟨0, 10, none⟩).run (smallOffice.setting 0) smallFleet).1 =
        .ok (.thingPage page) → page.total ≤ 10 →
      (sensor ∈ page.items ↔ ((Operation.canAccessThing token "sensor" .viewer).run
        (smallOffice.setting 0) smallFleet).1 = .ok .done) := by
    intro token identity page hknown hlist hroom
    have hlists :=
      Reachable.lists_accessible hreach attending_smallOffice 0 hknown ⟨0, 10, none⟩ rfl rfl
    obtain ⟨page', hlist', hshows⟩ := hlists.things
    obtain rfl := Answer.thingPage.inj (Except.ok.inj (hlist.symm.trans hlist'))
    exact ((hshows hroom).2 sensor).trans (and_iff_right smallFleet_sensor)
  have howner : ((Operation.listThings "owner-token" ⟨0, 10, none⟩).run (smallOffice.setting 0)
      smallFleet).1 = .ok (.thingPage ⟨[sensor], 1, 0, 10⟩) := by decide +kernel
  have hvisitor : ((Operation.listThings "visitor-token" ⟨0, 10, none⟩).run (smallOffice.setting 0)
      smallFleet).1 = .ok (.thingPage ⟨[], 0, 0, 10⟩) := by decide +kernel
  have hknown : smallOffice.authority.identities["owner-token"]? = some ⟨"owner", ""⟩ := by
    decide +kernel
  have hknown' : smallOffice.authority.identities["visitor-token"]? = some ⟨"visitor", ""⟩ := by
    decide +kernel
  refine ⟨howner, ?_, hvisitor, ?_⟩
  · rw [← hagree hknown howner (by decide)]
    decide
  · rw [Ne, ← hagree hknown' hvisitor (by decide)]
    decide

end Service

end DeviceFleet
