/-
# Effects

What an operation can do to the records, said once: for every operation that writes there is one
case, with the permission that was granted and with what else the operation has made sure of.
Whatever is to be shown of all changes of the records is shown by going through these cases.
That the operations do nothing else is shown where they are described.
-/
import DeviceFleet.Proofs.Service.Permission
import DeviceFleet.Service.Operation

namespace DeviceFleet

namespace Service

/-- Between the stores `s` and `s'` things in groups that the caller may edit were given other
metadata, and nothing else has changed. -/
structure MetadataChanged (granted : AuthorizeRequest → Prop) (token : String) (s s' : Store) :
    Prop where
  /-- What has become of a thing. -/
  things : ∀ id : String, s'.things[id]? = s.things[id]? ∨
    ∃ stored metadata, s.things[id]? = some stored ∧
      s'.things[id]? = some { stored with metadata := metadata } ∧
      Permits granted token .group stored.groupId .editor
  /-- Nothing else changes. -/
  rest : s' = { s with things := s'.things }

namespace MetadataChanged

variable {granted granted' : AuthorizeRequest → Prop} {token id : String} {s s' : Store}

lemma refl (s : Store) : MetadataChanged granted token s s := ⟨fun _ => .inl rfl, rfl⟩

lemma mono (h : MetadataChanged granted token s s')
    (hg : ∀ request, granted request → granted' request) :
    MetadataChanged granted' token s s' := by
  refine ⟨fun id => (h.things id).imp_right ?_, h.rest⟩
  rintro ⟨stored, metadata, hstored, hnew, hpermits⟩
  exact ⟨stored, metadata, hstored, hnew, hpermits.mono hg⟩

/-- One more thing is given other metadata. -/
lemma insert (h : MetadataChanged granted token s s') {current : Thing} {metadata : Metadata}
    (hcurrent : s'.things[id]? = some current)
    (hpermits : Permits granted token .group current.groupId .editor) :
    MetadataChanged granted token s
      { s' with things := s'.things.insert id { current with metadata := metadata } } := by
  refine ⟨fun id' => ?_, by rw [h.rest]⟩
  simp only [Std.ExtTreeMap.getElem?_insert, Std.compare_eq_iff_eq]
  by_cases hid : id = id'
  · subst hid
    simp only [if_true]
    right
    rcases h.things id with hsame | ⟨stored, metadata', hstored, hnew, -⟩
    · exact ⟨current, metadata, hsame ▸ hcurrent, rfl, hpermits⟩
    · obtain rfl := Option.some.inj (hcurrent.symm.trans hnew)
      exact ⟨stored, metadata, hstored, rfl, hpermits⟩
  · simpa only [if_neg hid] using h.things id'

/-- Every thing was there before, maybe with other metadata. -/
lemma origin (h : MetadataChanged granted token s s') {t : Thing} (ht : s'.things[id]? = some t) :
    ∃ stored metadata, s.things[id]? = some stored ∧ { stored with metadata := metadata } = t := by
  rcases h.things id with hsame | ⟨stored, metadata, hstored, hnew, -⟩
  · exact ⟨t, t.metadata, hsame ▸ ht, rfl⟩
  · exact ⟨stored, metadata, hstored, Option.some.inj (hnew.symm.trans ht)⟩

end MetadataChanged

/-- The effect of an operation on the records, when some requests for permission were granted
meanwhile. -/
inductive Effect (granted : AuthorizeRequest → Prop) : Operation → Store → Store → Prop where
  /-- Nothing changes. -/
  | nothing {op : Operation} {s : Store} : Effect granted op s s
  /-- Things are added to groups that the caller may edit and that own their profiles. -/
  | createThings {token : String} {input : List Thing} {s s' : Store} (things : List Thing)
      (permitted : ∀ t ∈ things, Permits granted token .group t.groupId .editor)
      (profile : ∀ t ∈ things, s.OwnsProfile t.profileId t.groupId)
      (gains : s.Gains ⟨[], things, [], []⟩ s') : Effect granted (.createThings token input) s s'
  /-- A thing in a group that the caller may edit is given another profile of the group. -/
  | updateThing {token : String} {t stored : Thing} {s : Store}
      (found : s.things[t.id]? = some stored)
      (permitted : Permits granted token .group stored.groupId .editor)
      (profile : s.OwnsProfile t.profileId stored.groupId) :
      Effect granted (.updateThing token t) s
        { s with
          things := s.things.insert t.id
            { stored with name := t.name, profileId := t.profileId, metadata := t.metadata } }
  /-- Things that were named, in groups that the caller may edit, are given other metadata. -/
  | updateThingsMetadata {token : String} {input : List Thing} {s s' : Store}
      (changed : MetadataChanged granted token s s')
      (named : ∀ id : String, s'.things[id]? ≠ s.things[id]? → ∃ t ∈ input, t.id = id) :
      Effect granted (.updateThingsMetadata token input) s s'
  /-- A thing in a group that the caller may edit is given a key that was free. -/
  | updateKey {token id key : String} {stored : Thing} {s s' : Store}
      (found : s.things[id]? = some stored)
      (permitted : Permits granted token .group stored.groupId .editor)
      (updated : s.updateKey id key = (.ok (), s')) : Effect granted (.updateKey token id key) s s'
  /-- Things in groups that the caller may edit are taken out. -/
  | removeThings {token : String} {ids : List String} {s : Store}
      (permitted : ∀ id ∈ ids, ∃ g, s.OwnsThing id g ∧ Permits granted token .group g .editor) :
      Effect granted (.removeThings token ids) s (s.removeThings ids)
  /-- Profiles are added to groups that the caller has named and may edit. -/
  | createProfiles {token : String} {input : List Profile} {s s' : Store} (profiles : List Profile)
      (permitted : ∀ p ∈ profiles, Permits granted token .group p.groupId .editor)
      (named : ∀ p ∈ profiles, ∃ q ∈ input, p.groupId = q.groupId)
      (gains : s.Gains ⟨[], [], profiles, []⟩ s') :
      Effect granted (.createProfiles token input) s s'
  /-- A profile in a group that the caller may edit is changed. -/
  | updateProfile {token : String} {p stored : Profile} {s : Store}
      (found : s.profiles[p.id]? = some stored)
      (permitted : Permits granted token .group stored.groupId .editor) :
      Effect granted (.updateProfile token p) s
        { s with
          profiles := s.profiles.insert p.id
            { stored with name := p.name, config := p.config, metadata := p.metadata } }
  /-- Profiles that no thing uses, in groups that the caller may edit, are taken out. -/
  | removeProfiles {token : String} {ids : List String} {walk : Store.Walk} {s s' : Store}
      (permitted : ∀ id ∈ ids, ∃ g, s.OwnsProfile id g ∧ Permits granted token .group g .editor)
      (removed : s.removeProfiles walk ids = (.ok (), s')) :
      Effect granted (.removeProfiles token ids) s s'
  /-- Groups are added to an organization that the caller may edit, with members for them. -/
  | createGroups {token orgId : String} {input : List Group} {s s' : Store} (groups : List Group)
      (memberships : List Membership)
      (permitted : Permits granted token .org orgId .editor)
      (org : ∀ g ∈ groups, g.orgId = orgId)
      (members : ∀ m ∈ memberships, ∃ g ∈ groups, m.groupId = g.id)
      (gains : s.Gains ⟨groups, [], [], memberships⟩ s') :
      Effect granted (.createGroups token orgId input) s s'
  /-- A group that the caller may edit is changed. -/
  | updateGroup {token : String} {g g' changed : Group} {s s' : Store}
      (same : g'.id = g.id)
      (permitted : Permits granted token .group g.id .editor)
      (updated : s.updateGroup g' = (.ok changed, s')) :
      Effect granted (.updateGroup token g) s s'
  /-- Groups that the caller owns are taken out with whatever they own. -/
  | removeGroups {token : String} {ids : List String} {s : Store}
      (permitted : ∀ id ∈ ids, Permits granted token .group id .owner) :
      Effect granted (.removeGroups token ids) s (s.removeGroups ids)
  /-- Members are added to a stored group that the caller administers. -/
  | createMemberships {token groupId : String} {input : List MemberRole} {s s' : Store}
      (memberships : List Membership)
      (permitted : Permits granted token .group groupId .admin)
      (group : groupId ∈ s.groups)
      (members : ∀ m ∈ memberships, m.groupId = groupId)
      (gains : s.Gains ⟨[], [], [], memberships⟩ s') :
      Effect granted (.createMemberships token groupId input) s s'
  /-- Roles of members that were named, in a group that the caller administers, are changed. -/
  | updateMemberships {token groupId : String} {input : List MemberRole} {s s' : Store}
      (memberships : List Membership)
      (permitted : Permits granted token .group groupId .admin)
      (members : ∀ m ∈ memberships, m.groupId = groupId)
      (updated : s.updateMemberships memberships = (.ok (), s'))
      (named : ∀ m ∈ memberships, m.memberId ∈ input.map (·.memberId)) :
      Effect granted (.updateMemberships token groupId input) s s'
  /-- Members are taken out of a group that the caller administers. -/
  | removeMemberships {token groupId : String} {memberIds : List String} {s : Store}
      (permitted : Permits granted token .group groupId .admin) :
      Effect granted (.removeMemberships token groupId memberIds) s
        (s.removeMemberships groupId memberIds)
  /-- Records of a backup are added for a caller who administers the platform. -/
  | restore {token : String} {b : Backup} {s s' : Store} (restored : Backup)
      (permitted : granted (.root token))
      (gains : s.Gains restored s') : Effect granted (.restore token b) s s'

/-- What was permitted when less was granted is permitted when more is. -/
lemma Effect.mono {granted granted' : AuthorizeRequest → Prop} {op : Operation} {s s' : Store}
    (h : Effect granted op s s') (hg : ∀ request, granted request → granted' request) :
    Effect granted' op s s' := by
  cases h with
  | nothing => exact .nothing
  | createThings things permitted profile gains =>
    exact .createThings things (fun t ht => (permitted t ht).mono hg) profile gains
  | updateThing found permitted profile => exact .updateThing found (permitted.mono hg) profile
  | updateThingsMetadata changed named => exact .updateThingsMetadata (changed.mono hg) named
  | updateKey found permitted updated => exact .updateKey found (permitted.mono hg) updated
  | removeThings permitted =>
    refine .removeThings fun id hid => ?_
    obtain ⟨g, hown, hpermits⟩ := permitted id hid
    exact ⟨g, hown, hpermits.mono hg⟩
  | createProfiles profiles permitted named gains =>
    exact .createProfiles profiles (fun p hp => (permitted p hp).mono hg) named gains
  | updateProfile found permitted => exact .updateProfile found (permitted.mono hg)
  | removeProfiles permitted removed =>
    refine .removeProfiles (fun id hid => ?_) removed
    obtain ⟨g, hown, hpermits⟩ := permitted id hid
    exact ⟨g, hown, hpermits.mono hg⟩
  | createGroups groups memberships permitted org members gains =>
    exact .createGroups groups memberships (permitted.mono hg) org members gains
  | updateGroup same permitted updated => exact .updateGroup same (permitted.mono hg) updated
  | removeGroups permitted => exact .removeGroups fun id hid => (permitted id hid).mono hg
  | createMemberships memberships permitted group members gains =>
    exact .createMemberships memberships (permitted.mono hg) group members gains
  | updateMemberships memberships permitted members updated named =>
    exact .updateMemberships memberships (permitted.mono hg) members updated named
  | removeMemberships permitted => exact .removeMemberships (permitted.mono hg)
  | restore restored permitted gains => exact .restore restored (hg _ permitted) gains

variable {setting : Setting} {op : Operation} {s s' : State}

/-- Where an operation leads: to a coherent state, with an effect of the operation on the
records. -/
structure Follows (setting : Setting) (op : Operation) (s s' : State) : Prop where
  /-- The state is coherent. -/
  coherent : s'.Coherent
  /-- Something may have been asked. -/
  precedes : s.Precedes s'
  /-- The records are those after an effect of the operation. -/
  effect : Effect (Granted setting s s') op s.store s'.store

/-- An operation that changes no record has no effect. -/
lemma Follows.of_keeps (h : s.Keeps s') : Follows setting op s s' :=
  ⟨h.coherent, h.precedes, by rw [h.store]; exact .nothing⟩

/-- After some look-ups the records are changed. -/
lemma Follows.of_change {store : Store} (h : s.Keeps s')
    (hcoherent : State.Coherent { s' with store := store })
    (heffect : Effect (Granted setting s { s' with store := store }) op s'.store store) :
    Follows setting op s { s' with store := store } :=
  ⟨hcoherent, h.precedes.trans (.of_eq rfl rfl), h.store ▸ heffect⟩

/-- Whatever is done afterwards to the caches and the reports does not matter. -/
lemma Follows.trans_keeps {s'' : State} (h : Follows setting op s s') (hkeeps : s'.Keeps s'') :
    Follows setting op s s'' :=
  ⟨hkeeps.coherent, h.precedes.trans hkeeps.precedes,
    hkeeps.store ▸ h.effect.mono fun _ hg => hg.mono_right hkeeps.precedes⟩

/-- So does a report not matter. -/
lemma Follows.report (h : Follows setting op s s') (event : LogEvent) :
    Follows setting op s { s' with log := event :: s'.log } :=
  h.trans_keeps ⟨rfl, h.coherent.congr rfl rfl, .of_eq rfl rfl⟩

end Service

/-! ## Coherent states after a change -/

namespace State.Coherent

variable {s : State} {store : Store} {things profiles groups : String → Prop}

/-- The caches must not remember anything about what changes. -/
lemma change (hs : s.Coherent) (havoid : s.caches.Avoid things profiles groups)
    (hkept : s.store.KeptBut things profiles groups store) (hsound : store.Sound) :
    State.Coherent { s with store := store } :=
  ⟨hsound, hs.mirrors.change havoid hkept⟩

/-- When nothing that was known changes, the caches may remember anything. -/
lemma change_of_kept (hs : s.Coherent) (hkept : s.store.Kept store) (hsound : store.Sound) :
    State.Coherent { s with store := store } :=
  hs.change s.caches.avoid_nothing hkept hsound

end State.Coherent

end DeviceFleet
