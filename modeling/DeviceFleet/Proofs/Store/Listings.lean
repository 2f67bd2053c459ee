/-
# Listings

The store hands out lists of records in pages, by nine kinds of requests.  Behind every page there
is one whole list: the records of a kind that are in the scope of the request and pass its name
filter, in an order that leaves no choice, since no two records of a kind have one place in it.
Whoever asks for one page after the other gets this list, piece by piece, with nothing left out and
nothing twice; and the list depends on which records the store has, not on how it got them.
-/
import DeviceFleet.Proofs.Store.History
import DeviceFleet.Proofs.Store.Pages
import DeviceFleet.Proofs.Text.ByteOrder

namespace DeviceFleet

/-! ## The records of a kind -/

namespace EntityKind

/-- The type of the records of a kind. -/
abbrev Record : EntityKind → Type
  | .thing => Thing
  | .profile => Profile
  | .group => Group
  | .membership => Membership

/-- The records of a kind that a store has. -/
def records : (kind : EntityKind) → Store → List kind.Record
  | .thing, s => Store.recordsOf s.things
  | .profile, s => Store.recordsOf s.profiles
  | .group, s => Store.recordsOf s.groups
  | .membership, s => Store.recordsOf s.memberships

/-- The name of a record; memberships have none. -/
def name? : (kind : EntityKind) → kind.Record → Option String
  | .thing, t => some t.name
  | .profile, p => some p.name
  | .group, g => some g.name
  | .membership, _ => none

/-- The place of a record in a list: its name and identifier, of a membership the group and the
member. -/
def place : (kind : EntityKind) → kind.Record → String × String
  | .thing, t => (t.name, t.id)
  | .profile, p => (p.name, p.id)
  | .group, g => (g.name, g.id)
  | .membership, m => (m.groupId, m.memberId)

/-- Records are listed by ascending place, texts being compared byte by byte. -/
def Before (kind : EntityKind) (a b : kind.Record) : Prop :=
  Text.bytes (kind.place a).1 < Text.bytes (kind.place b).1 ∨
    (kind.place a).1 = (kind.place b).1 ∧
      Text.bytes (kind.place a).2 < Text.bytes (kind.place b).2

/-- Sorts records into that order; memberships are kept in it. -/
def sorted : (kind : EntityKind) → List kind.Record → List kind.Record
  | .thing, things => Store.byName Thing.name Thing.id things
  | .profile, profiles => Store.byName Profile.name Profile.id profiles
  | .group, groups => Store.byName Group.name Group.id groups
  | .membership, memberships => memberships

/-- A page of records of a kind as an answer. -/
def pageAnswer : (kind : EntityKind) → Page kind.Record → Answer
  | .thing => .thingPage
  | .profile => .profilePage
  | .group => .groupPage
  | .membership => .membershipPage

/-- Does a record pass a name filter?  Records without a name do. -/
def passes (kind : EntityKind) (filter : Option String) (a : kind.Record) : Bool :=
  (kind.name? a).all fun name => PageRequest.admits ⟨0, 0, filter⟩ name

variable {kind : EntityKind} {a b : kind.Record} {items : List kind.Record} {s : Store}

lemma mem_sorted : a ∈ kind.sorted items ↔ a ∈ items := by
  cases kind with
  | thing | profile | group => exact Store.mem_byName
  | membership => exact Iff.rfl

/-- An answer tells which page it is. -/
lemma pageAnswer_inj {page page' : Page kind.Record} :
    kind.pageAnswer page = kind.pageAnswer page' ↔ page = page' := by
  cases kind with
  | thing => exact Answer.thingPage.injEq page page' ▸ Iff.rfl
  | profile => exact Answer.profilePage.injEq page page' ▸ Iff.rfl
  | group => exact Answer.groupPage.injEq page page' ▸ Iff.rfl
  | membership => exact Answer.membershipPage.injEq page page' ▸ Iff.rfl

lemma before_iff :
    kind.Before a b ↔ ComesBefore (fun a => (kind.place a).1) (fun a => (kind.place a).2) a b := by
  rw [Before, ComesBefore, Text.bytes_lt_iff, Text.bytes_lt_iff]

lemma Before.ne (h : kind.Before a b) : a ≠ b := (before_iff.1 h).ne

lemma Before.asymm (h : kind.Before a b) : ¬ kind.Before b a := by
  rw [before_iff]
  exact (before_iff.1 h).asymm

end EntityKind

/-! ## Requests for pages -/

/-- A request for a page of records of a kind, but for which page and which name filter. -/
inductive Listing : EntityKind → Type where
  /-- The things of some groups. -/
  | thingsOfGroups (groupIds : List String) : Listing .thing
  /-- The things of a profile. -/
  | thingsOfProfile (profileId : String) : Listing .thing
  /-- All things. -/
  | things : Listing .thing
  /-- The profiles of some groups. -/
  | profilesOfGroups (groupIds : List String) : Listing .profile
  /-- All profiles. -/
  | profiles : Listing .profile
  /-- The groups with some identifiers. -/
  | groupsWithIds (ids : List String) : Listing .group
  /-- The groups of an organization. -/
  | groupsOfOrg (orgId : String) : Listing .group
  /-- All groups. -/
  | groups : Listing .group
  /-- The memberships of a group. -/
  | membershipsOfGroup (groupId : String) : Listing .membership

namespace Listing

variable {kind : EntityKind}

/-- The request to the store. -/
def command : {kind : EntityKind} → Listing kind → PageRequest → Store.Command
  | _, .thingsOfGroups groupIds => .listThingsOfGroups groupIds
  | _, .thingsOfProfile profileId => .listThingsOfProfile profileId
  | _, .things => .listThings
  | _, .profilesOfGroups groupIds => .listProfilesOfGroups groupIds
  | _, .profiles => .listProfiles
  | _, .groupsWithIds ids => .listGroupsWithIds ids
  | _, .groupsOfOrg orgId => .listGroupsOfOrg orgId
  | _, .groups => .listGroups
  | _, .membershipsOfGroup groupId => .listMembershipsOfGroup groupId

/-- Is the record in the scope of the request? -/
def scope : {kind : EntityKind} → Listing kind → kind.Record → Bool
  | _, .thingsOfGroups groupIds, t => groupIds.contains t.groupId
  | _, .thingsOfProfile profileId, t => t.profileId == profileId
  | _, .things, _ => true
  | _, .profilesOfGroups groupIds, p => groupIds.contains p.groupId
  | _, .profiles, _ => true
  | _, .groupsWithIds ids, g => ids.contains g.id
  | _, .groupsOfOrg orgId, g => g.orgId == orgId
  | _, .groups, _ => true
  | _, .membershipsOfGroup groupId, m => m.groupId == groupId

/-- The whole list that the pages are cut out of. -/
def whole (q : Listing kind) (s : Store) (filter : Option String) : List kind.Record :=
  kind.sorted ((kind.records s).filter fun a => q.scope a && kind.passes filter a)

variable {q : Listing kind} {s s' : Store} {filter : Option String} {limit : Nat}

/-- Every page is a window of the whole list. -/
lemma run_command (q : Listing kind) (s : Store) (r : PageRequest) :
    (q.command r).run s = (.ok (kind.pageAnswer (r.paginate (q.whole s r.name))), s) := by
  cases q with
  | membershipsOfGroup groupId =>
    have hscope : (fun m : Membership => m.groupId == groupId) = fun m =>
        (membershipsOfGroup groupId).scope m && EntityKind.membership.passes r.name m := by
      funext m
      exact (Bool.and_true _).symm
    simp only [command, Store.Command.run, Store.listMembershipsOfGroup, Store.membershipsWhere,
      hscope]
    rfl
  | _ => rfl

/-- The whole list has exactly the records that are asked for. -/
lemma mem_whole_iff {a : kind.Record} :
    a ∈ q.whole s filter ↔
      a ∈ kind.records s ∧ q.scope a = true ∧ kind.passes filter a = true := by
  rw [whole, EntityKind.mem_sorted, List.mem_filter, Bool.and_eq_true]

/-! ## The order of the list -/

/-- Memberships are kept in the order of their groups and then of their members. -/
lemma pairwise_memberships (h : s.Sound) :
    (Store.recordsOf s.memberships).Pairwise
      (ComesBefore Membership.groupId Membership.memberId) := by
  rw [Store.recordsOf, List.pairwise_map]
  refine s.memberships.ordered_keys_toList.imp_of_mem ?_
  rintro ⟨key, m⟩ ⟨key', m'⟩ hm hm' hlt
  rw [Std.ExtTreeMap.mem_toList_iff_getElem?_eq_some] at hm hm'
  obtain rfl := h.membership_key hm
  obtain rfl := h.membership_key hm'
  change (compare m.groupId m'.groupId).then (compare m.memberId m'.memberId) = .lt at hlt
  rw [Ordering.then_eq_lt, compare_lt_iff_lt, compare_lt_iff_lt, Std.compare_eq_iff_eq] at hlt
  exact hlt

/-- The whole list is strictly in order. -/
lemma pairwise_whole (h : s.Sound) : (q.whole s filter).Pairwise kind.Before := by
  have hplaces : (q.whole s filter).Pairwise
      (ComesBefore (fun a => (kind.place a).1) fun a => (kind.place a).2) := by
    cases kind with
    | thing => exact Store.pairwise_byName ((Store.pairwise_recordsOf h.thing_id).filter _)
    | profile => exact Store.pairwise_byName ((Store.pairwise_recordsOf h.profile_id).filter _)
    | group => exact Store.pairwise_byName ((Store.pairwise_recordsOf h.group_id).filter _)
    | membership => exact (pairwise_memberships h).filter _
  exact hplaces.imp EntityKind.before_iff.2

/-- The order leaves no choice: stores with the same records have the same list. -/
lemma whole_congr (h : s.Sound) (h' : s'.Sound)
    (hsame : ∀ a, a ∈ kind.records s' ↔ a ∈ kind.records s) :
    q.whole s' filter = q.whole s filter := by
  have hsorted : (q.whole s filter).Pairwise kind.Before := pairwise_whole h
  have hsorted' : (q.whole s' filter).Pairwise kind.Before := pairwise_whole h'
  have hperm : (q.whole s' filter).Perm (q.whole s filter) := by
    rw [List.perm_ext_iff_of_nodup (hsorted'.imp EntityKind.Before.ne)
      (hsorted.imp EntityKind.Before.ne)]
    intro a
    rw [mem_whole_iff, mem_whole_iff, hsame]
  refine hperm.eq_of_pairwise ?_ hsorted' hsorted
  intro a b _ _ hab hba
  exact absurd hba hab.asymm

end Listing

/-! ## One page after the other -/

/-- The multiples of `limit` below a bound, ascending. -/
def multiplesBelow (limit bound : Nat) : List Nat :=
  (List.range bound).filter fun n => limit ∣ n

example : multiplesBelow 4 13 = [0, 4, 8, 12] := by decide

lemma mem_multiplesBelow_iff {limit bound n : Nat} :
    n ∈ multiplesBelow limit bound ↔ limit ∣ n ∧ n < bound := by
  rw [multiplesBelow, List.mem_filter, List.mem_range, decide_eq_true_eq, and_comm]

lemma multiplesBelow_eq {limit : Nat} (h : 0 < limit) (bound : Nat) :
    multiplesBelow limit bound =
      (List.range ((bound + limit - 1) / limit)).map fun k => k * limit := by
  have hleft : (multiplesBelow limit bound).Pairwise (· < ·) := List.pairwise_lt_range.filter _
  have hright : ((List.range ((bound + limit - 1) / limit)).map fun k => k * limit).Pairwise
      (· < ·) := by
    rw [List.pairwise_map]
    exact List.pairwise_lt_range.imp fun hlt => Nat.mul_lt_mul_of_pos_right hlt h
  have hcount : ∀ k : Nat, k < (bound + limit - 1) / limit ↔ k * limit < bound := by
    intro k
    rw [Nat.lt_div_iff_mul_lt h]
    omega
  refine List.Pairwise.eq_of_mem_iff hleft hright fun n => ?_
  simp only [mem_multiplesBelow_iff, List.mem_map, List.mem_range, hcount]
  constructor
  · rintro ⟨⟨k, rfl⟩, hlt⟩
    rw [Nat.mul_comm] at hlt ⊢
    exact ⟨k, hlt, rfl⟩
  · rintro ⟨k, hlt, rfl⟩
    exact ⟨Nat.dvd_mul_left limit k, hlt⟩

/-- Windows that follow one another make up the beginning of a list. -/
lemma flatMap_windows {α : Type} (items : List α) (limit count : Nat) :
    ((List.range count).map fun k => k * limit).flatMap
        (fun offset => (items.drop offset).take limit) = items.take (count * limit) := by
  induction count with
  | zero => simp
  | succ count ih =>
    rw [List.range_succ, List.map_append, List.flatMap_append, ih, Nat.succ_mul, List.take_add]
    simp

/-- The windows at all multiples of their length make up the list. -/
lemma flatMap_multiplesBelow {α : Type} {items : List α} {limit bound : Nat} (h : 0 < limit)
    (hlength : items.length ≤ bound) :
    (multiplesBelow limit bound).flatMap (fun offset => (items.drop offset).take limit) =
      items := by
  rw [multiplesBelow_eq h, flatMap_windows]
  refine List.take_of_length_le (hlength.trans ?_)
  have hdiv := Nat.div_add_mod (bound + limit - 1) limit
  have hmod := Nat.mod_lt (bound + limit - 1) h
  rw [Nat.mul_comm] at hdiv
  omega

namespace Listing

variable {kind : EntityKind} {q : Listing kind} {s s' : Store} {filter : Option String}

/-- What is answered to a request for a page. -/
lemma run_command_eq_ok_iff {r : PageRequest} {page : Page kind.Record} :
    ((q.command r).run s).1 = .ok (kind.pageAnswer page) ↔
      page = r.paginate (q.whole s r.name) := by
  rw [run_command, Except.ok.injEq, EntityKind.pageAnswer_inj, eq_comm]

/-- The pages that are handed out with a name filter are cut out of the list `whole`. -/
structure CutOutOf (q : Listing kind) (s : Store) (filter : Option String)
    (whole : List kind.Record) : Prop where
  /-- The list is strictly in order. -/
  ordered : whole.Pairwise kind.Before
  /-- It has no record twice. -/
  nodup : whole.Nodup
  /-- It has the stored records that are in the scope of the request and pass the filter. -/
  mem_iff : ∀ a, a ∈ whole ↔
    a ∈ kind.records s ∧ q.scope a = true ∧ kind.passes filter a = true
  /-- Every page is a window of the list, with the length of the list as the total. -/
  window : ∀ offset limit, (q.command ⟨offset, limit, filter⟩).run s =
    (.ok (kind.pageAnswer ⟨(whole.drop offset).take limit, whole.length, offset, limit⟩), s)
  /-- The pages at the multiples of a limit make up the list.  Places in a list, like offsets, are
  numbers of 64 bits. -/
  complete : ∀ limit, 0 < limit → whole.length ≤ 2 ^ 64 → ∀ page : Nat → Page kind.Record,
    (∀ offset, limit ∣ offset → offset < 2 ^ 64 →
      ((q.command ⟨offset, limit, filter⟩).run s).1 = .ok (kind.pageAnswer (page offset))) →
    (multiplesBelow limit (2 ^ 64)).flatMap (fun offset => (page offset).items) = whole

lemma cutOutOf_whole (h : s.Sound) : q.CutOutOf s filter (q.whole s filter) where
  ordered := pairwise_whole h
  nodup := (pairwise_whole h).imp EntityKind.Before.ne
  mem_iff _ := mem_whole_iff
  window offset limit := run_command q s ⟨offset, limit, filter⟩
  complete := by
    intro limit hlimit hlength page hpage
    have hitems : ∀ offset ∈ multiplesBelow limit (2 ^ 64),
        (page offset).items = ((q.whole s filter).drop offset).take limit := by
      intro offset hoffset
      rw [mem_multiplesBelow_iff] at hoffset
      rw [run_command_eq_ok_iff.1 (hpage offset hoffset.1 hoffset.2)]
      rfl
    rw [List.flatMap_congr hitems]
    exact flatMap_multiplesBelow hlimit hlength

/-- **The pages of every listing partition one list.**  After any history, whatever the scope of
the request and the name filter, there is one list that all pages are cut out of: it is strictly
ordered by name and identifier, memberships by group and member, it has exactly the records that
are asked for, and the pages at the multiples of any limit make it up.  A store with the same
records, whatever its history, gives the same answers. -/
theorem pages_partition (history : List Store.Command) (q : Listing kind)
    (filter : Option String) :
    let s := (∅ : Store).after history
    (∃ whole, q.CutOutOf s filter whole) ∧
      ∀ history' : List Store.Command,
        let s' := (∅ : Store).after history'
        (∀ a, a ∈ kind.records s' ↔ a ∈ kind.records s) →
          ∀ offset limit, ((q.command ⟨offset, limit, filter⟩).run s').1 =
            ((q.command ⟨offset, limit, filter⟩).run s).1 := by
  intro s
  have hsound : s.Sound := Store.sound_empty.after history
  refine ⟨⟨_, cutOutOf_whole hsound⟩, ?_⟩
  intro history' s' hsame offset limit
  have hsound' : s'.Sound := Store.sound_empty.after history'
  rw [run_command, run_command, whole_congr hsound hsound' hsame]

end Listing

end DeviceFleet
