/-
# Whatever is shown may be seen

Whatever collaborator grants permissions, and whatever it answers: when an operation shows the
records of a group, then the caller was granted meanwhile, for the token of the operation, to act
on the whole platform or to act in the right role on that group.

Most of these operations ask about the very group whose records they show.  But some ask about one
record and show another one: the profile of a thing, the things of a profile, the group of either.
They rely on it that a thing and its profile belong to one group, and that the owner of a record
which is found in a cache is the one that is stored.
-/
import DeviceFleet.Proofs.Run.ProfileGroups
import DeviceFleet.Proofs.Store.Pages

namespace DeviceFleet

/-- The groups that own the records of an answer; a group owns itself. -/
def Answer.groupIds : Answer → List String
  | .thing t => [t.groupId]
  | .things ts => ts.map (·.groupId)
  | .thingPage page => page.items.map (·.groupId)
  | .profile p => [p.groupId]
  | .profiles ps => ps.map (·.groupId)
  | .profilePage page => page.items.map (·.groupId)
  | .group g => [g.id]
  | .groups gs => gs.map (·.id)
  | .groupPage page => page.items.map (·.id)
  | .memberships ms => ms.map (·.groupId)
  | .membershipPage page => page.items.map (·.groupId)
  | .backup b => b.groups.map (·.id) ++ b.things.map (·.groupId) ++ b.profiles.map (·.groupId) ++
      b.memberships.map (·.groupId)
  | _ => []

namespace Service

open DeviceFleet.Action DeviceFleet.Access

namespace Operation

/-- The token that an operation shows the records of a group for, and the role in the group that
it takes: the lowest one to look at them, the highest one to export them. -/
def reader? : Operation → Option (String × Role)
  | .viewThing token _ | .viewProfile token _ | .viewProfileByThing token _ => some (token, .viewer)
  | .viewGroup token _ | .viewGroupByThing token _ | .viewGroupByProfile token _ =>
    some (token, .viewer)
  | .listThingsByGroup token _ _ | .listProfilesByGroup token _ _ | .listThingsByProfile token _ _
  | .listMemberships token _ _ => some (token, .viewer)
  | .backupThingsByGroup token _ | .backupProfilesByGroup token _ | .backupMemberships token _ =>
    some (token, .owner)
  | _ => none

end Operation

variable {α : Type} {setting : Setting} {s : State} {token id groupId : String} {role : Role}

/-- Between `s` and `s'` the caller was granted to act on the whole platform, or in the role on each
of the groups. -/
def Opened (setting : Setting) (token : String) (role : Role) (s s' : State)
    (groupIds : List String) : Prop :=
  ∀ g ∈ groupIds, Permits (Granted setting s s') token .group g role

namespace Opened

variable {s' s'' : State} {groupIds : List String}

lemma singleton (h : Permits (Granted setting s s') token .group groupId role) :
    Opened setting token role s s' [groupId] :=
  List.forall_mem_singleton.2 h

/-- All records belong to one group that was opened. -/
lemma of_forall {group : α → String} {items : List α}
    (h : Permits (Granted setting s s') token .group groupId role)
    (hall : ∀ a ∈ items, group a = groupId) :
    Opened setting token role s s' (items.map group) := by
  intro g hg
  obtain ⟨a, ha, rfl⟩ := List.mem_map.1 hg
  rwa [hall a ha]

/-- What was opened stays open. -/
lemma later (h : Opened setting token role s s' groupIds) (h' : s'.Precedes s'') :
    Opened setting token role s s'' groupIds :=
  fun g hg => (h g hg).later h'

end Opened

/-! ## Checks -/

lemma ensures_openGroup (hs : s.Coherent) :
    (canAccessGroup token groupId role).Ensures setting s
      (fun _ s' => s.Keeps s' ∧ Permits (Granted setting s s') token .group groupId role)
      (fun _ _ => True) :=
  ensures_canAccess.mono (fun _ _ h => ⟨h.1.keeps hs, h.2⟩) fun _ _ _ => trivial

/-- Who may act on a thing may act on the group of the stored thing. -/
lemma ensures_openThing (hs : s.Coherent) :
    (canAccessThing token id role).Ensures setting s
      (fun _ s' => s.Keeps s' ∧ ∃ t, s.store.things[id]? = some t ∧
        Permits (Granted setting s s') token .group t.groupId role)
      (fun _ _ => True) := by
  refine (ensures_canAccessThing hs).mono ?_ fun _ _ _ => trivial
  rintro - s' ⟨hkeeps, -, -, ⟨t, ht, rfl⟩, hpermits⟩
  exact ⟨hkeeps, t, ht, hpermits⟩

/-- Who may act on a profile may act on the group of the stored profile. -/
lemma ensures_openProfile (hs : s.Coherent) :
    (canAccessProfile token id role).Ensures setting s
      (fun _ s' => s.Keeps s' ∧ ∃ p, s.store.profiles[id]? = some p ∧
        Permits (Granted setting s s') token .group p.groupId role)
      (fun _ _ => True) := by
  refine (ensures_canAccessProfile hs).mono ?_ fun _ _ _ => trivial
  rintro - s' ⟨hkeeps, -, -, ⟨p, hp, rfl⟩, hpermits⟩
  exact ⟨hkeeps, p, hp, hpermits⟩

/-- What the store answers after a check, it answers about the store before. -/
lemma ensures_check_ask {x : Action Unit} {P : State → Prop} {Q : α → State → Prop}
    {method : Store.Method} {f : Store → Except StoreError α}
    (h : x.Ensures setting s (fun _ s' => s.Keeps s' ∧ P s') (fun _ _ => True))
    (hQ : ∀ {a : α} {s' : State}, P s' → f s.store = .ok a → Q a s') :
    (x >>= fun _ => ask method f).Ensures setting s Q (fun _ _ => True) := by
  refine h.bind fun _ s₁ ⟨hkeeps, hP⟩ => ?_
  refine ensures_ask.mono ?_ fun _ _ _ => trivial
  rintro a s₂ ⟨rfl, ha⟩
  rw [hkeeps.store] at ha
  exact hQ hP ha

/-! ## One record -/

lemma ensures_viewThing (hs : s.Coherent) :
    (viewThing token id).Ensures setting s
      (fun t s' => Permits (Granted setting s s') token .group t.groupId .viewer)
      (fun _ _ => True) := by
  refine ensures_check_ask (ensures_openThing hs) ?_
  rintro t s' ⟨t₀, ht₀, hpermits⟩ hfind
  rw [Store.findThing, ht₀] at hfind
  obtain rfl := Except.ok.inj hfind
  exact hpermits

lemma ensures_viewProfile (hs : s.Coherent) :
    (viewProfile token id).Ensures setting s
      (fun p s' => Permits (Granted setting s s') token .group p.groupId .viewer)
      (fun _ _ => True) := by
  refine ensures_check_ask (ensures_openProfile hs) ?_
  rintro p s' ⟨p₀, hp₀, hpermits⟩ hfind
  rw [Store.findProfile, hp₀] at hfind
  obtain rfl := Except.ok.inj hfind
  exact hpermits

/-- The profile belongs to the group of the thing, because the profiles fit. -/
lemma ensures_viewProfileByThing (hs : s.Coherent) (hfit : s.store.ProfilesFit) :
    (viewProfileByThing token id).Ensures setting s
      (fun p s' => Permits (Granted setting s s') token .group p.groupId .viewer)
      (fun _ _ => True) := by
  refine ensures_check_ask (ensures_openThing hs) ?_
  rintro p s' ⟨t, ht, hpermits⟩ hfind
  obtain ⟨p₀, hp₀, hgroup⟩ := hfit ht
  rw [findProfileOfThing_eq ht hp₀] at hfind
  obtain rfl := Except.ok.inj hfind
  rwa [hgroup]

/-- A group is found under its own identifier. -/
lemma id_of_findGroup {store : Store} {g : Group} (hs : store.Sound)
    (h : store.findGroup groupId = .ok g) : g.id = groupId := by
  unfold Store.findGroup at h
  rcases hg : store.groups[groupId]? with _ | g'
  · simp [hg] at h
  · rw [hg] at h
    obtain rfl := Except.ok.inj h
    exact hs.group_id hg

lemma ensures_viewGroup (hs : s.Coherent) :
    (viewGroup token id).Ensures setting s
      (fun g s' => Permits (Granted setting s s') token .group g.id .viewer)
      (fun _ _ => True) := by
  refine ensures_check_ask (ensures_openGroup hs) ?_
  intro g s' hpermits hfind
  rwa [id_of_findGroup hs.sound hfind]

/-- The group that is found for the owner of a record is the one that owns the stored record. -/
lemma ensures_findOwner {kind : CacheKind} {query : Store → Except StoreError String}
    {update : String → Caches → Caches} {owner : Action String} (hs : s.Coherent)
    (h : Resolved kind query update setting s (owner setting s).1 (owner setting s).2)
    (hquery : query s.store = .ok groupId) :
    (owner >>= findGroup).Ensures setting s (fun g s' => s.Precedes s' ∧ g.id = groupId)
      (fun _ _ => True) := by
  refine ((h.ensures hs).mono_error fun _ _ _ => trivial).bind ?_
  rintro g s₁ ⟨hkeeps, -, hg⟩
  obtain rfl := Except.ok.inj (hquery.symm.trans hg)
  refine ensures_ask.mono ?_ fun _ _ _ => trivial
  rintro found s₂ ⟨rfl, hfind⟩
  exact ⟨hkeeps.precedes, id_of_findGroup hkeeps.coherent.sound hfind⟩

lemma ensures_viewGroupByThing (hs : s.Coherent) :
    (viewGroupByThing token id).Ensures setting s
      (fun g s' => Permits (Granted setting s s') token .group g.id .viewer)
      (fun _ _ => True) := by
  refine (ensures_openThing hs).bind ?_
  rintro - s₁ ⟨hkeeps, t, ht, hpermits⟩
  refine (ensures_findOwner hkeeps.coherent (resolved_groupIdOfThing setting hkeeps.coherent id)
    (Store.findThing_map_eq_ok_iff.2 ⟨t, hkeeps.store ▸ ht, rfl⟩)).mono_ok ?_
  rintro g s₂ ⟨hprecedes, hid⟩
  rw [hid]
  exact hpermits.later hprecedes

lemma ensures_viewGroupByProfile (hs : s.Coherent) :
    (viewGroupByProfile token id).Ensures setting s
      (fun g s' => Permits (Granted setting s s') token .group g.id .viewer)
      (fun _ _ => True) := by
  refine (ensures_openProfile hs).bind ?_
  rintro - s₁ ⟨hkeeps, p, hp, hpermits⟩
  refine (ensures_findOwner hkeeps.coherent (resolved_groupIdOfProfile setting hkeeps.coherent id)
    (Store.findProfile_map_eq_ok_iff.2 ⟨p, hkeeps.store ▸ hp, rfl⟩)).mono_ok ?_
  rintro g s₂ ⟨hprecedes, hid⟩
  rw [hid]
  exact hpermits.later hprecedes

/-! ## Many records -/

variable {r : PageRequest}

lemma ensures_listThingsByGroup (hs : s.Coherent) :
    (listThingsByGroup token groupId r).Ensures setting s
      (fun page s' => Opened setting token .viewer s s' (page.items.map (·.groupId)))
      (fun _ _ => True) := by
  refine ensures_check_ask (ensures_openGroup hs) ?_
  intro page s' hpermits hlist
  obtain rfl := Except.ok.inj hlist
  refine .of_forall hpermits fun t ht => ?_
  have hgroup := ((hs.sound.showsExactly_pageOfThings _).of_mem_items ht).2
  simpa using hgroup

lemma ensures_listProfilesByGroup (hs : s.Coherent) :
    (listProfilesByGroup token groupId r).Ensures setting s
      (fun page s' => Opened setting token .viewer s s' (page.items.map (·.groupId)))
      (fun _ _ => True) := by
  refine ensures_check_ask (ensures_openGroup hs) ?_
  intro page s' hpermits hlist
  obtain rfl := Except.ok.inj hlist
  refine .of_forall hpermits fun p hp => ?_
  have hgroup := ((hs.sound.showsExactly_pageOfProfiles _).of_mem_items hp).2
  simpa using hgroup

/-- The things belong to the group of their profile, because the profiles fit. -/
lemma ensures_listThingsByProfile (hs : s.Coherent) (hfit : s.store.ProfilesFit) :
    (listThingsByProfile token id r).Ensures setting s
      (fun page s' => Opened setting token .viewer s s' (page.items.map (·.groupId)))
      (fun _ _ => True) := by
  refine ensures_check_ask (ensures_openProfile hs) ?_
  rintro page s' ⟨p, hp, hpermits⟩ hlist
  obtain rfl := Except.ok.inj hlist
  refine .of_forall hpermits fun t ht => ?_
  obtain ⟨hstored, hprofile⟩ := (hs.sound.showsExactly_pageOfThings _).of_mem_items ht
  obtain ⟨p', hp', hgroup⟩ := hfit hstored
  rw [beq_iff_eq.1 hprofile] at hp'
  obtain rfl := Option.some.inj (hp.symm.trans hp')
  exact hgroup.symm

/-- Exported records are those of the group. -/
lemma ensures_exportGroup {group : α → String} {method : Store.Method} {f : Store → List α}
    (hs : s.Coherent) (hf : ∀ a ∈ f s.store, group a = groupId) :
    (canAccessGroup token groupId role >>= fun _ =>
        ask method fun store => .ok (f store)).Ensures setting s
      (fun items s' => Opened setting token role s s' (items.map group)) (fun _ _ => True) := by
  refine ensures_check_ask (ensures_openGroup hs) ?_
  intro items s' hpermits hexport
  obtain rfl := Except.ok.inj hexport
  exact .of_forall hpermits hf

/-- Filling in the addresses of members opens nothing more. -/
lemma ensures_resolveEmails_opened {s' : State} {memberships : List Membership} (hs : s'.Coherent)
    (h : Opened setting token role s s' (memberships.map (·.groupId))) :
    (resolveEmails memberships).Ensures setting s'
      (fun resolved s'' => Opened setting token role s s'' (resolved.map (·.groupId)))
      (fun _ _ => True) := by
  refine ((ensures_resolveEmails memberships).and
    ((readOnly_resolveEmails memberships).ensures hs)).mono ?_ fun _ _ _ => trivial
  rintro resolved s'' ⟨⟨address, rfl⟩, hkeeps⟩
  rw [List.map_map]
  exact h.later hkeeps.precedes

lemma ensures_listMemberships (hs : s.Coherent) :
    (listMemberships token groupId r).Ensures setting s
      (fun page s' => Opened setting token .viewer s s' (page.items.map (·.groupId)))
      (fun _ _ => True) := by
  refine (ensures_openGroup hs).bind ?_
  rintro - s₁ ⟨hkeeps, hpermits⟩
  refine (ensures_ask.mono_error fun _ _ _ => trivial).bind ?_
  rintro page s₂ ⟨rfl, hlist⟩
  obtain rfl := Except.ok.inj hlist
  have hopened : Opened setting token .viewer s s₂ <|
      (s₂.store.listMembershipsOfGroup groupId r).items.map (·.groupId) := by
    refine .of_forall hpermits fun m hm => ?_
    have hfiltered := List.mem_of_mem_drop (List.mem_of_mem_take hm)
    simpa using (List.mem_filter.1 hfiltered).2
  exact (ensures_resolveEmails_opened hkeeps.coherent hopened).bind fun _ _ h => ensures_pure h

lemma ensures_backupMemberships (hs : s.Coherent) :
    (backupMemberships token groupId).Ensures setting s
      (fun ms s' => Opened setting token .owner s s' (ms.map (·.groupId))) (fun _ _ => True) := by
  refine (ensures_openGroup hs).bind ?_
  rintro - s₁ ⟨hkeeps, hpermits⟩
  refine (ensures_ask.mono_error fun _ _ _ => trivial).bind ?_
  rintro memberships s₂ ⟨rfl, hexport⟩
  obtain rfl := Except.ok.inj hexport
  refine ensures_resolveEmails_opened hkeeps.coherent (.of_forall hpermits fun m hm => ?_)
  simpa using (List.mem_filter.1 hm).2

/-! ## Every reachable state -/

/-- An operation that shows the records of groups has been given access to each of the groups. -/
lemma ensures_reader {op : Operation} (hs : s.Coherent) (hfit : s.store.ProfilesFit)
    (hop : op.reader? = some (token, role)) :
    op.run.Ensures setting s
      (fun answer s' => Opened setting token role s s' answer.groupIds) (fun _ _ => True) := by
  cases op with
  | viewThing =>
    cases hop
    exact Ensures.map ((ensures_viewThing hs).mono_ok fun _ _ h => .singleton h)
  | viewProfile =>
    cases hop
    exact Ensures.map ((ensures_viewProfile hs).mono_ok fun _ _ h => .singleton h)
  | viewProfileByThing =>
    cases hop
    exact Ensures.map ((ensures_viewProfileByThing hs hfit).mono_ok fun _ _ h => .singleton h)
  | viewGroup =>
    cases hop
    exact Ensures.map ((ensures_viewGroup hs).mono_ok fun _ _ h => .singleton h)
  | viewGroupByThing =>
    cases hop
    exact Ensures.map ((ensures_viewGroupByThing hs).mono_ok fun _ _ h => .singleton h)
  | viewGroupByProfile =>
    cases hop
    exact Ensures.map ((ensures_viewGroupByProfile hs).mono_ok fun _ _ h => .singleton h)
  | listThingsByGroup =>
    cases hop
    exact Ensures.map (ensures_listThingsByGroup hs)
  | listProfilesByGroup =>
    cases hop
    exact Ensures.map (ensures_listProfilesByGroup hs)
  | listThingsByProfile =>
    cases hop
    exact Ensures.map (ensures_listThingsByProfile hs hfit)
  | listMemberships =>
    cases hop
    exact Ensures.map (ensures_listMemberships hs)
  | backupThingsByGroup =>
    cases hop
    refine Ensures.map (ensures_exportGroup hs fun t ht => ?_)
    simpa using (List.mem_filter.1 ht).2
  | backupProfilesByGroup =>
    cases hop
    refine Ensures.map (ensures_exportGroup hs fun p hp => ?_)
    simpa using (List.mem_filter.1 hp).2
  | backupMemberships =>
    cases hop
    exact Ensures.map (ensures_backupMemberships hs)
  | _ => simp [Operation.reader?] at hop

/-- **Whatever is shown may be seen.**  In every reachable state, restores having brought back
backups that fit, and with whatever collaborators: for each group that owns a record of the answer,
permission was granted meanwhile, for the token of the operation, in the role that it takes. -/
theorem Reachable.answers_opened {enabled : Bool} (h : Reachable fittingRestores enabled s)
    (setting : Setting) {op : Operation} (hop : op.reader? = some (token, role)) {answer : Answer}
    (hok : (op.run setting s).1 = .ok answer) :
    Opened setting token role s (op.run setting s).2 answer.groupIds :=
  (ensures_reader h.coherent h.profilesFit hop).of_ok (Prod.ext hok rfl)

/-- The owner may look at the group, and nothing else is granted to anybody. -/
def groupViewer : Setting where
  __ := permissive
  authorize _ _ request :=
    if request = .forObject "owner" "group" .group .viewer then ⟨0, .ok ()⟩
    else ⟨0, .error (.permissionDenied "denied")⟩

/-- The profile of the sensor is shown, because the sensor may be looked at, on behalf of the group
that owns the profile. -/
theorem sensor_profile_opened :
    ∃ p, ((Operation.viewProfileByThing "owner" "sensor").run groupViewer smallFleet).1 =
        .ok (.profile p) ∧
      Permits
        (Granted groupViewer smallFleet
          ((Operation.viewProfileByThing "owner" "sensor").run groupViewer smallFleet).2)
        "owner" .group p.groupId .viewer := by
  have hreach : Reachable fittingRestores true smallFleet := by
    refine reachable_smallFleet fun s op hop token b heq => ?_
    subst heq
    simp [smallFleetOps] at hop
  have hok : ((Operation.viewProfileByThing "owner" "sensor").run groupViewer smallFleet).1 =
      .ok (.profile ⟨"profile", "group", "Profile", ∅, ∅⟩) := by
    decide +kernel
  exact ⟨_, hok, Reachable.answers_opened hreach groupViewer rfl hok "group" (by decide)⟩

end Service

end DeviceFleet
