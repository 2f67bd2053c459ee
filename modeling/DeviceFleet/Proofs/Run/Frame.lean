/-
# What an operation leaves alone

Which operation can change what: every field of every kind of record has at most two operations
that change it, and only in the records that they name, whatever other values the caller sends
along.  Taking out and adding records are other operations again, and all that remain leave the
store alone.  This holds of operations that fail midway, too.

A record that is there before and after an operation is compared with itself; every effect is gone
through, and those that replace records are put together from one lemma on maps.
-/
import DeviceFleet.Proofs.Run.Filled

namespace DeviceFleet

section Related

lemma rel_self {α : Type} {r : α → α → Prop} (hrefl : ∀ a, r a a) (o : Option α) :
    Option.Rel r o o := by
  rcases o with _ | a
  · exact .none
  · exact .some (hrefl a)

lemma isSome_eq_of_rel {α : Type} {r : α → α → Prop} {o o' : Option α} (h : Option.Rel r o o') :
    o.isSome = o'.isSome := by
  rcases h with - | - <;> rfl

variable {κ α : Type} [Ord κ] [Std.TransOrd κ] {m m' : Std.ExtTreeMap κ α} {R : κ → α → α → Prop}

/-- When one value in a map is replaced by a related one, all values are related to what becomes of
them. -/
lemma rel_getElem?_insert [Std.LawfulEqOrd κ] [DecidableEq κ] {k : κ} {a new : α}
    (hrefl : ∀ k a, R k a a) (h : m[k]? = some a) (hnew : R k a new) (k' : κ) :
    Option.Rel (R k') m[k']? (m.insert k new)[k']? := by
  by_cases hk : k = k'
  · subst hk
    rw [h, Std.ExtTreeMap.getElem?_insert_self]
    exact .some hnew
  · simp only [Std.ExtTreeMap.getElem?_insert, Std.compare_eq_iff_eq, hk, if_false]
    exact rel_self (hrefl k') _

/-- Related maps have values in the same places. -/
lemma mem_iff_of_rel {k : κ} (h : Option.Rel (R k) m[k]? m'[k]?) : k ∈ m ↔ k ∈ m' := by
  rw [Std.ExtTreeMap.mem_iff_isSome_getElem?, Std.ExtTreeMap.mem_iff_isSome_getElem?,
    isSome_eq_of_rel h]

end Related

namespace Service

/-! ## What may become of a record -/

section Frames

variable (op : Operation)

/-- What an operation may make of the thing with an identifier. -/
structure ThingFrame (id : String) (t t' : Thing) : Prop where
  /-- A thing keeps its identifier. -/
  id_eq : t'.id = t.id
  /-- It stays in its group. -/
  groupId_eq : t'.groupId = t.groupId
  /-- It has another key only if it was to be given that. -/
  key : t'.key ≠ t.key → ∃ token, op = .updateKey token id t'.key
  /-- It has another name only if it was to be updated. -/
  name : t'.name ≠ t.name → ∃ token input, op = .updateThing token input ∧ input.id = id
  /-- It has another profile only if it was to be updated. -/
  profileId : t'.profileId ≠ t.profileId →
    ∃ token input, op = .updateThing token input ∧ input.id = id
  /-- It has other metadata only if it was to be updated, or metadata was to be merged into its
  metadata. -/
  metadata : t'.metadata ≠ t.metadata →
    (∃ token input, op = .updateThing token input ∧ input.id = id) ∨
      ∃ token inputs, op = .updateThingsMetadata token inputs ∧ ∃ input ∈ inputs, input.id = id

/-- What an operation may make of the profile with an identifier. -/
structure ProfileFrame (id : String) (p p' : Profile) : Prop where
  /-- A profile keeps its identifier. -/
  id_eq : p'.id = p.id
  /-- It stays in its group. -/
  groupId_eq : p'.groupId = p.groupId
  /-- It is another one only if it was to be updated. -/
  updated : p' ≠ p → ∃ token input, op = .updateProfile token input ∧ input.id = id

/-- What an operation may make of the group with an identifier. -/
structure GroupFrame (id : String) (g g' : Group) : Prop where
  /-- A group keeps its identifier. -/
  id_eq : g'.id = g.id
  /-- It stays in its organization. -/
  orgId_eq : g'.orgId = g.orgId
  /-- It was made when it was made. -/
  createdAt_eq : g'.createdAt = g.createdAt
  /-- It is another one only if it was to be updated. -/
  updated : g' ≠ g → ∃ token input, op = .updateGroup token input ∧ input.id = id

/-- What an operation may make of the membership with a key. -/
structure MembershipFrame (key : Membership.Key) (m m' : Membership) : Prop where
  /-- A membership keeps its key. -/
  key_eq : m'.key = m.key
  /-- It was given when it was given. -/
  createdAt_eq : m'.createdAt = m.createdAt
  /-- The address of the member does not change. -/
  email_eq : m'.email = m.email
  /-- It is another one only if the role of the member in the group was to be changed. -/
  updated : m' ≠ m → ∃ token inputs, op = .updateMemberships token key.groupId inputs ∧
    ∃ input ∈ inputs, input.memberId = key.memberId

variable {op}

lemma ThingFrame.refl (id : String) (t : Thing) : ThingFrame op id t t :=
  ⟨rfl, rfl, fun hne => absurd rfl hne, fun hne => absurd rfl hne, fun hne => absurd rfl hne,
    fun hne => absurd rfl hne⟩

lemma ProfileFrame.refl (id : String) (p : Profile) : ProfileFrame op id p p :=
  ⟨rfl, rfl, fun hne => absurd rfl hne⟩

lemma GroupFrame.refl (id : String) (g : Group) : GroupFrame op id g g :=
  ⟨rfl, rfl, rfl, fun hne => absurd rfl hne⟩

lemma MembershipFrame.refl (key : Membership.Key) (m : Membership) : MembershipFrame op key m m :=
  ⟨rfl, rfl, rfl, fun hne => absurd rfl hne⟩

end Frames

namespace Operation

/-- Does the operation take out records? -/
def removes : Operation → Bool
  | .removeThings .. | .removeProfiles .. | .removeGroups .. | .removeMemberships .. => true
  | _ => false

/-- Does the operation add records? -/
def adds : Operation → Bool
  | .createThings .. | .createProfiles .. | .createGroups .. | .createMemberships ..
  | .restore .. => true
  | _ => false

/-- Does the operation update records? -/
def updates : Operation → Bool
  | .updateThing .. | .updateThingsMetadata .. | .updateKey .. | .updateProfile ..
  | .updateGroup .. | .updateMemberships .. => true
  | _ => false

end Operation

end Service

/-! ## What is there before and after -/

namespace Store

variable {s s' : Store}

/-- For every record of the store `s` there is one of the same kind, with the same identifier, in
the store `s'`. -/
structure Retained (s s' : Store) : Prop where
  /-- For every thing. -/
  things : ∀ id ∈ s.things, id ∈ s'.things
  /-- For every profile. -/
  profiles : ∀ id ∈ s.profiles, id ∈ s'.profiles
  /-- For every group. -/
  groups : ∀ id ∈ s.groups, id ∈ s'.groups
  /-- For every membership. -/
  memberships : ∀ key ∈ s.memberships, key ∈ s'.memberships

lemma Within.retained (h : s.Within s') : s.Retained s' where
  things _ hid := mem_of_getElem? (h.things (Std.ExtTreeMap.getElem?_eq_some_getElem hid))
  profiles _ hid := mem_of_getElem? (h.profiles (Std.ExtTreeMap.getElem?_eq_some_getElem hid))
  groups _ hid := mem_of_getElem? (h.groups (Std.ExtTreeMap.getElem?_eq_some_getElem hid))
  memberships _ hkey :=
    mem_of_getElem? (h.memberships (Std.ExtTreeMap.getElem?_eq_some_getElem hkey))

/-- What is left when groups are taken out was there before. -/
lemma Without.within {gone : String → Prop} (h : s.Without gone s') : s'.Within s :=
  ⟨fun ht => (h.things_iff.1 ht).1, fun hp => (h.profiles_iff.1 hp).1,
    fun hg => (h.groups_iff.1 hg).1, fun hm => (h.memberships_iff.1 hm).1⟩

lemma within_removeThings (s : Store) (ids : List String) : (s.removeThings ids).Within s where
  things ht := by
    rw [things_removeThings, Option.ite_none_left_eq_some] at ht
    exact ht.2
  profiles hp := by simpa using hp
  groups hg := by simpa using hg
  memberships hm := by simpa using hm

lemma within_removeProfiles {walk : Walk} {ids : List String}
    (h : s.removeProfiles walk ids = (.ok (), s')) : s'.Within s := by
  obtain ⟨-, hrest, hprofiles⟩ := removeProfiles_ok h
  rw [hrest]
  refine { Within.refl s with profiles := fun {id p} hp => ?_ }
  rw [hprofiles, Option.ite_none_left_eq_some] at hp
  exact hp.2

lemma within_removeMemberships (s : Store) (groupId : String) (memberIds : List String) :
    (s.removeMemberships groupId memberIds).Within s := by
  rw [removeMemberships_rest groupId memberIds s]
  refine { Within.refl s with memberships := fun {key m} hm => ?_ }
  rw [memberships_removeMemberships, Option.ite_none_left_eq_some] at hm
  exact hm.2

end Store

namespace Service

/-- Between the stores `s` and `s'` an operation has updated records, and it has neither taken out
nor added any. -/
structure Updated (op : Operation) (s s' : Store) : Prop where
  /-- What has become of a thing. -/
  things : ∀ id : String, Option.Rel (ThingFrame op id) s.things[id]? s'.things[id]?
  /-- What has become of a profile. -/
  profiles : ∀ id : String, Option.Rel (ProfileFrame op id) s.profiles[id]? s'.profiles[id]?
  /-- What has become of a group. -/
  groups : ∀ id : String, Option.Rel (GroupFrame op id) s.groups[id]? s'.groups[id]?
  /-- What has become of a membership. -/
  memberships : ∀ key : Membership.Key,
    Option.Rel (MembershipFrame op key) s.memberships[key]? s'.memberships[key]?

/-- What an operation leaves alone between the stores `s` and `s'`. -/
structure Framed (op : Operation) (s s' : Store) : Prop where
  /-- A thing that is there before and after the operation. -/
  thing : ∀ {id : String} {t t' : Thing}, s.things[id]? = some t → s'.things[id]? = some t' →
    ThingFrame op id t t'
  /-- A profile that is there before and after. -/
  profile : ∀ {id : String} {p p' : Profile}, s.profiles[id]? = some p →
    s'.profiles[id]? = some p' → ProfileFrame op id p p'
  /-- A group that is there before and after. -/
  group : ∀ {id : String} {g g' : Group}, s.groups[id]? = some g → s'.groups[id]? = some g' →
    GroupFrame op id g g'
  /-- A membership that is there before and after. -/
  membership : ∀ {key : Membership.Key} {m m' : Membership}, s.memberships[key]? = some m →
    s'.memberships[key]? = some m' → MembershipFrame op key m m'
  /-- Nothing is taken out, unless that is what the operation does. -/
  retained : op.removes = false → s.Retained s'
  /-- Nothing is added, unless that is what the operation does. -/
  nothing_new : op.adds = false → s'.Retained s
  /-- Nothing changes at all, if the operation does neither and does not update records. -/
  untouched : op.removes = false → op.adds = false → op.updates = false → s' = s

variable {op : Operation} {s s' : Store} {granted : AuthorizeRequest → Prop} {token : String}

namespace Updated

lemma refl (op : Operation) (s : Store) : Updated op s s where
  things _ := rel_self (ThingFrame.refl _) _
  profiles _ := rel_self (ProfileFrame.refl _) _
  groups _ := rel_self (GroupFrame.refl _) _
  memberships _ := rel_self (MembershipFrame.refl _) _

/-- One thing is replaced. -/
lemma insertThing {id : String} {t new : Thing} (h : s.things[id]? = some t)
    (hnew : ThingFrame op id t new) (keys : Std.ExtTreeMap String String) :
    Updated op s { s with things := s.things.insert id new, thingKeys := keys } where
  __ := refl op s
  things := rel_getElem?_insert ThingFrame.refl h hnew

/-- One profile is replaced. -/
lemma insertProfile {id : String} {p new : Profile} (h : s.profiles[id]? = some p)
    (hnew : ProfileFrame op id p new) :
    Updated op s { s with profiles := s.profiles.insert id new } where
  things _ := rel_self (ThingFrame.refl _) _
  profiles := rel_getElem?_insert ProfileFrame.refl h hnew
  groups _ := rel_self (GroupFrame.refl _) _
  memberships _ := rel_self (MembershipFrame.refl _) _

/-- One group is replaced. -/
lemma insertGroup {id : String} {g new : Group} (h : s.groups[id]? = some g)
    (hnew : GroupFrame op id g new) :
    Updated op s { s with groups := s.groups.insert id new } where
  things _ := rel_self (ThingFrame.refl _) _
  profiles _ := rel_self (ProfileFrame.refl _) _
  groups := rel_getElem?_insert GroupFrame.refl h hnew
  memberships _ := rel_self (MembershipFrame.refl _) _

/-- A thing is updated. -/
lemma updateThing {input stored : Thing} (h : s.things[input.id]? = some stored) :
    Updated (.updateThing token input) s
      { s with
        things := s.things.insert input.id
          { stored with
            name := input.name, profileId := input.profileId, metadata := input.metadata } } := by
  refine insertThing h ?_ s.thingKeys
  have hupdated : ∃ token' input', Operation.updateThing token input = .updateThing token' input' ∧
      input'.id = input.id := ⟨token, input, rfl, rfl⟩
  exact ⟨rfl, rfl, fun hne => absurd rfl hne, fun _ => hupdated, fun _ => hupdated,
    fun _ => .inl hupdated⟩

/-- A thing is given another key, or keeps the one that it has. -/
lemma updateKey (hs : s.Sound) {id key : String} (h : s.updateKey id key = (.ok (), s')) :
    Updated (.updateKey token id key) s s' := by
  obtain ⟨-, stored, hstored, ⟨-, rfl⟩ | ⟨-, -, rfl⟩⟩ := Store.updateKey_ok hs h
  · exact refl _ s'
  · refine insertThing hstored ?_ _
    exact ⟨rfl, rfl, fun _ => ⟨token, rfl⟩, fun hne => absurd rfl hne, fun hne => absurd rfl hne,
      fun hne => absurd rfl hne⟩

/-- Things are given other metadata. -/
lemma metadataChanged {inputs : List Thing} (h : MetadataChanged granted token s s')
    (hnamed : ∀ id : String, s'.things[id]? ≠ s.things[id]? → ∃ t ∈ inputs, t.id = id) :
    Updated (.updateThingsMetadata token inputs) s s' := by
  rw [h.rest]
  refine { refl _ s with things := fun id => ?_ }
  by_cases hsame : s'.things[id]? = s.things[id]?
  · rw [hsame]
    exact rel_self (ThingFrame.refl _) _
  · rcases h.things id with hsame' | ⟨stored, metadata, hstored, hnew, -⟩
    · exact absurd hsame' hsame
    · have hmerged := hnamed id hsame
      rw [hstored, hnew]
      exact .some ⟨rfl, rfl, fun hne => absurd rfl hne, fun hne => absurd rfl hne,
        fun hne => absurd rfl hne, fun _ => .inr ⟨token, inputs, rfl, hmerged⟩⟩

/-- A profile is updated. -/
lemma updateProfile {input stored : Profile} (h : s.profiles[input.id]? = some stored) :
    Updated (.updateProfile token input) s
      { s with
        profiles := s.profiles.insert input.id
          { stored with
            name := input.name, config := input.config, metadata := input.metadata } } :=
  insertProfile h ⟨rfl, rfl, fun _ => ⟨token, input, rfl, rfl⟩⟩

/-- A group is updated. -/
lemma updateGroup {input g changed : Group} (hid : g.id = input.id)
    (h : s.updateGroup g = (.ok changed, s')) : Updated (.updateGroup token input) s s' := by
  obtain ⟨stored, hstored, rfl, rfl⟩ := Store.updateGroup_ok h
  exact insertGroup hstored ⟨rfl, rfl, rfl, fun _ => ⟨token, input, rfl, hid.symm⟩⟩

/-- The roles of members in a group are changed. -/
lemma changeRoles {groupId : String} {inputs : List MemberRole} {memberships : List Membership}
    (hgroup : ∀ m ∈ memberships, m.groupId = groupId)
    (hnamed : ∀ m ∈ memberships, m.memberId ∈ inputs.map (·.memberId)) :
    Updated (.updateMemberships token groupId inputs) s (memberships.foldl Store.changeRole s) := by
  rw [Store.foldl_changeRole_rest memberships s]
  refine { refl _ s with memberships := fun key => ?_ }
  obtain ⟨hsome, hnone, hsame⟩ := Store.memberships_foldl_changeRole memberships s key
  -- a membership is changed only if one of the list has its key
  by_cases hkey : ∃ m ∈ memberships, m.key = key
  · rcases hstored : s.memberships[key]? with _ | stored
    · rw [hnone hstored]
      exact .none
    · obtain ⟨role, time, hnew⟩ := hsome stored hstored
      obtain ⟨m, hm, rfl⟩ := hkey
      obtain ⟨input, hinput, hmember⟩ := List.mem_map.1 (hnamed m hm)
      rw [hnew]
      refine .some ⟨rfl, rfl, rfl, fun _ => ⟨token, inputs, ?_, input, hinput, hmember⟩⟩
      rw [Membership.key, hgroup m hm]
  · rw [hsame fun m hm heq => hkey ⟨m, hm, heq⟩]
    exact rel_self (MembershipFrame.refl _) _

end Updated

namespace Framed

lemma of_updated (h : Updated op s s') (huntouched : op.updates = false → s' = s) :
    Framed op s s' where
  thing {id _ _} ht ht' := by simpa [ht, ht'] using h.things id
  profile {id _ _} hp hp' := by simpa [hp, hp'] using h.profiles id
  group {id _ _} hg hg' := by simpa [hg, hg'] using h.groups id
  membership {key _ _} hm hm' := by simpa [hm, hm'] using h.memberships key
  retained _ :=
    ⟨fun id => (mem_iff_of_rel (h.things id)).1, fun id => (mem_iff_of_rel (h.profiles id)).1,
      fun id => (mem_iff_of_rel (h.groups id)).1,
      fun key => (mem_iff_of_rel (h.memberships key)).1⟩
  nothing_new _ :=
    ⟨fun id => (mem_iff_of_rel (h.things id)).2, fun id => (mem_iff_of_rel (h.profiles id)).2,
      fun id => (mem_iff_of_rel (h.groups id)).2,
      fun key => (mem_iff_of_rel (h.memberships key)).2⟩
  untouched _ _ := huntouched

lemma refl (op : Operation) (s : Store) : Framed op s s := of_updated (.refl op s) fun _ => rfl

/-- An operation that updates records. -/
lemma of_updates (hop : op.updates = true) (h : Updated op s s') : Framed op s s' :=
  of_updated h fun hnot => by simp [hnot] at hop

/-- An operation that adds records, without changing those that are there. -/
lemma of_adds (hop : op.adds = true) (h : s.Within s') : Framed op s s' where
  thing ht ht' := by
    obtain rfl := Option.some.inj ((h.things ht).symm.trans ht')
    exact .refl _ _
  profile hp hp' := by
    obtain rfl := Option.some.inj ((h.profiles hp).symm.trans hp')
    exact .refl _ _
  group hg hg' := by
    obtain rfl := Option.some.inj ((h.groups hg).symm.trans hg')
    exact .refl _ _
  membership hm hm' := by
    obtain rfl := Option.some.inj ((h.memberships hm).symm.trans hm')
    exact .refl _ _
  retained _ := h.retained
  nothing_new hnot := by simp [hnot] at hop
  untouched _ hnot _ := by simp [hnot] at hop

/-- An operation that takes out records, without changing those that it leaves. -/
lemma of_removes (hop : op.removes = true) (h : s'.Within s) : Framed op s s' where
  thing ht ht' := by
    obtain rfl := Option.some.inj ((h.things ht').symm.trans ht)
    exact .refl _ _
  profile hp hp' := by
    obtain rfl := Option.some.inj ((h.profiles hp').symm.trans hp)
    exact .refl _ _
  group hg hg' := by
    obtain rfl := Option.some.inj ((h.groups hg').symm.trans hg)
    exact .refl _ _
  membership hm hm' := by
    obtain rfl := Option.some.inj ((h.memberships hm').symm.trans hm)
    exact .refl _ _
  retained hnot := by simp [hnot] at hop
  nothing_new _ := h.retained
  untouched hnot _ _ := by simp [hnot] at hop

/-- Every effect leaves alone what its operation has nothing to do with. -/
lemma of_effect (hs : s.Sound) (h : Effect granted op s s') : Framed op s s' := by
  cases h with
  | nothing => exact refl op s
  | createThings things permitted profile gains => exact of_adds rfl gains.within
  | updateThing found permitted profile => exact of_updates rfl (.updateThing found)
  | updateThingsMetadata changed named => exact of_updates rfl (.metadataChanged changed named)
  | updateKey found permitted updated => exact of_updates rfl (.updateKey hs updated)
  | removeThings permitted => exact of_removes rfl (s.within_removeThings _)
  | createProfiles profiles permitted named gains => exact of_adds rfl gains.within
  | updateProfile found permitted => exact of_updates rfl (.updateProfile found)
  | removeProfiles permitted removed =>
    exact of_removes rfl (Store.within_removeProfiles removed)
  | createGroups groups memberships permitted org members gains => exact of_adds rfl gains.within
  | updateGroup same permitted updated => exact of_updates rfl (.updateGroup same updated)
  | removeGroups permitted => exact of_removes rfl (Store.without_removeGroups hs _).within
  | createMemberships memberships permitted group members gains => exact of_adds rfl gains.within
  | updateMemberships memberships permitted members updated named =>
    obtain rfl := Store.updateMemberships_ok updated
    exact of_updates rfl (.changeRoles members named)
  | removeMemberships permitted => exact of_removes rfl (s.within_removeMemberships _ _)
  | restore restored permitted gains => exact of_adds rfl gains.within

end Framed

/-! ## Every reachable state -/

/-- **What an operation leaves alone.**  In every reachable state, in whatever setting, and whether
the operation succeeds or fails: the records that are there before and after are the same but for
what the operation is about; only operations for that take out or add records, and operations that
do neither and do not update records change nothing.  There are never addresses in memberships. -/
theorem Reachable.framed {enabled : Bool} {s : State} (h : Reachable anyCall enabled s)
    (setting : Setting) (op : Operation) :
    Framed op s.store (op.run setting s).2.store ∧
      ∀ {key : Membership.Key} {m : Membership},
        (op.run setting s).2.store.memberships[key]? = some m → m.email = none := by
  have hfollows : Follows setting op s (op.run setting s).2 := follows_run h.coherent op
  have hnext : Reachable anyCall enabled (op.run setting s).2 := h.step trivial
  exact ⟨.of_effect h.coherent.sound hfollows.effect, hnext.filled.email⟩

/-- Whoever updates the sensor may send another group and another key along; it is only given the
name. -/
theorem sensor_keeps_group_and_key :
    let op := Operation.updateThing "owner"
      { sensor with groupId := "elsewhere", name := "Renamed", key := "other" }
    ∃ t, (op.run permissive smallFleet).2.store.things["sensor"]? = some t ∧
      t.groupId = sensor.groupId ∧ t.name = "Renamed" ∧ t.key = sensor.key := by
  intro op
  have hreach : Reachable anyCall true smallFleet := reachable_smallFleet fun _ _ _ => trivial
  obtain ⟨hframed, -⟩ := Reachable.framed hreach permissive op
  have hafter : (op.run permissive smallFleet).2.store.things["sensor"]? =
      some { sensor with name := "Renamed" } := by decide +kernel
  have hthing : ThingFrame op "sensor" sensor _ := hframed.thing smallFleet_sensor hafter
  refine ⟨_, hafter, hthing.groupId_eq, rfl, ?_⟩
  by_contra hkey
  -- only to give it another key would change the key
  obtain ⟨token, hop⟩ := hthing.key hkey
  simp [op] at hop

end Service

end DeviceFleet
