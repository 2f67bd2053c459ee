/-
# What a store gains

Records are only ever added in free places.  Which records were added is written as a backup: it
has a list for every kind, and to bring a backup back is to gain its records.
-/
import DeviceFleet.Proofs.Store.Groups
import DeviceFleet.Proofs.Store.Memberships
import DeviceFleet.Proofs.Store.Profiles

namespace DeviceFleet

namespace Backup

instance : EmptyCollection Backup := ⟨⟨[], [], [], []⟩⟩

/-- The records of one backup and then those of another, kind by kind. -/
instance : Append Backup :=
  ⟨fun b b' => ⟨b.groups ++ b'.groups, b.things ++ b'.things, b.profiles ++ b'.profiles,
    b.memberships ++ b'.memberships⟩⟩

variable {b b' : Backup}

@[simp] lemma mk_append_mk (groups groups' : List Group) (things things' : List Thing)
    (profiles profiles' : List Profile) (memberships memberships' : List Membership) :
    mk groups things profiles memberships ++ mk groups' things' profiles' memberships' =
      mk (groups ++ groups') (things ++ things') (profiles ++ profiles')
        (memberships ++ memberships') := rfl

@[simp] lemma groups_append : (b ++ b').groups = b.groups ++ b'.groups := rfl

@[simp] lemma things_append : (b ++ b').things = b.things ++ b'.things := rfl

@[simp] lemma profiles_append : (b ++ b').profiles = b.profiles ++ b'.profiles := rfl

@[simp] lemma memberships_append : (b ++ b').memberships = b.memberships ++ b'.memberships := rfl

/-- Every record of the backup passes the check that the store makes before it takes one. -/
structure Checked (b : Backup) : Prop where
  /-- The things do. -/
  things : ∀ t ∈ b.things, Store.checkThing t = .ok ()
  /-- The profiles do. -/
  profiles : ∀ p ∈ b.profiles, Store.checkProfile p = .ok ()
  /-- The groups do. -/
  groups : ∀ g ∈ b.groups, Store.checkGroup g = .ok ()
  /-- The memberships do. -/
  memberships : ∀ m ∈ b.memberships, Store.checkMembership m = .ok ()

lemma checked_empty : (∅ : Backup).Checked := by constructor <;> exact List.forall_mem_nil _

lemma Checked.append (h : b.Checked) (h' : b'.Checked) : (b ++ b').Checked where
  things := List.forall_mem_append.2 ⟨h.things, h'.things⟩
  profiles := List.forall_mem_append.2 ⟨h.profiles, h'.profiles⟩
  groups := List.forall_mem_append.2 ⟨h.groups, h'.groups⟩
  memberships := List.forall_mem_append.2 ⟨h.memberships, h'.memberships⟩

end Backup

namespace Store

variable {s s' s'' : Store} {b b' : Backup}

/-- The store `s'` is `s` with the records of `b` added, none of them in the place of another. -/
structure Gains (s : Store) (b : Backup) (s' : Store) : Prop where
  /-- The things are added. -/
  things : Added s.things (b.things.map fun t => (t.id, t)) s'.things
  /-- Their keys are added. -/
  thingKeys : Added s.thingKeys (b.things.map fun t => (t.key, t.id)) s'.thingKeys
  /-- The profiles are added. -/
  profiles : Added s.profiles (b.profiles.map fun p => (p.id, p)) s'.profiles
  /-- The groups are added. -/
  groups : Added s.groups (b.groups.map fun g => (g.id, g)) s'.groups
  /-- The memberships are added, without the addresses of the members. -/
  memberships : Added s.memberships (b.memberships.map fun m => (m.key, { m with email := none }))
    s'.memberships
  /-- All of them have passed the checks of the store. -/
  checked : b.Checked

namespace Gains

lemma refl (s : Store) : Gains s ∅ s :=
  ⟨.refl _, .refl _, .refl _, .refl _, .refl _, Backup.checked_empty⟩

lemma trans (h : Gains s b s') (h' : Gains s' b' s'') : Gains s (b ++ b') s'' := by
  refine ⟨?_, ?_, ?_, ?_, ?_, h.checked.append h'.checked⟩
  · simpa using h.things.trans h'.things
  · simpa using h.thingKeys.trans h'.thingKeys
  · simpa using h.profiles.trans h'.profiles
  · simpa using h.groups.trans h'.groups
  · simpa using h.memberships.trans h'.memberships

lemma of_things {things : List Thing} (h : ThingsAdded s things s')
    (hchecked : ∀ t ∈ things, checkThing t = .ok ()) : Gains s ⟨[], things, [], []⟩ s' := by
  rw [h.rest]
  exact ⟨h.stored, h.indexed, .refl _, .refl _, .refl _,
    { Backup.checked_empty with things := hchecked }⟩

lemma of_profiles {profiles : List Profile} (h : ProfilesAdded s profiles s')
    (hchecked : ∀ p ∈ profiles, checkProfile p = .ok ()) : Gains s ⟨[], [], profiles, []⟩ s' := by
  rw [h.rest]
  exact ⟨.refl _, .refl _, h.stored, .refl _, .refl _,
    { Backup.checked_empty with profiles := hchecked }⟩

lemma of_memberships {memberships : List Membership} (h : MembershipsAdded s memberships s')
    (hchecked : ∀ m ∈ memberships, checkMembership m = .ok ()) :
    Gains s ⟨[], [], [], memberships⟩ s' := by
  rw [h.rest]
  exact ⟨.refl _, .refl _, .refl _, .refl _, h.stored,
    { Backup.checked_empty with memberships := hchecked }⟩

lemma of_group {g : Group} (hg : g.id ∉ s.groups) (hchecked : checkGroup g = .ok ()) :
    Gains s ⟨[g], [], [], []⟩ { s with groups := s.groups.insert g.id g } :=
  ⟨.refl _, .refl _, .refl _, (Added.refl _).cons hg, .refl _,
    { Backup.checked_empty with groups := List.forall_mem_singleton.2 hchecked }⟩

/-- A thing found afterwards was there or was gained. -/
lemma thing_iff (h : Gains s b s') {id : String} {t : Thing} :
    s'.things[id]? = some t ↔ s.things[id]? = some t ∨ t ∈ b.things ∧ t.id = id := by
  rw [h.things.getElem?_iff]
  simp only [List.mem_map, Prod.mk.injEq]
  grind

lemma profile_iff (h : Gains s b s') {id : String} {p : Profile} :
    s'.profiles[id]? = some p ↔ s.profiles[id]? = some p ∨ p ∈ b.profiles ∧ p.id = id := by
  rw [h.profiles.getElem?_iff]
  simp only [List.mem_map, Prod.mk.injEq]
  grind

lemma group_iff (h : Gains s b s') {id : String} {g : Group} :
    s'.groups[id]? = some g ↔ s.groups[id]? = some g ∨ g ∈ b.groups ∧ g.id = id := by
  rw [h.groups.getElem?_iff]
  simp only [List.mem_map, Prod.mk.injEq]
  grind

/-- A membership found afterwards was there or was gained, without the address. -/
lemma membership_iff (h : Gains s b s') {key : Membership.Key} {m : Membership} :
    s'.memberships[key]? = some m ↔ s.memberships[key]? = some m ∨
      ∃ m₀ ∈ b.memberships, m₀.key = key ∧ { m₀ with email := none } = m := by
  simp only [h.memberships.getElem?_iff, List.mem_map, Prod.mk.injEq]

end Gains

/-- The records that are found in the store `s` are found unchanged in the store `s'`. -/
structure Within (s s' : Store) : Prop where
  /-- The things are. -/
  things : ∀ {id : String} {t : Thing}, s.things[id]? = some t → s'.things[id]? = some t
  /-- The profiles are. -/
  profiles : ∀ {id : String} {p : Profile}, s.profiles[id]? = some p → s'.profiles[id]? = some p
  /-- The groups are. -/
  groups : ∀ {id : String} {g : Group}, s.groups[id]? = some g → s'.groups[id]? = some g
  /-- The memberships are. -/
  memberships : ∀ {key : Membership.Key} {m : Membership}, s.memberships[key]? = some m →
    s'.memberships[key]? = some m

lemma Within.refl (s : Store) : s.Within s := ⟨id, id, id, id⟩

/-- To gain records is to keep those that are there. -/
lemma Gains.within (h : s.Gains b s') : s.Within s' :=
  ⟨h.things.old, h.profiles.old, h.groups.old, h.memberships.old⟩

end Store

end DeviceFleet
