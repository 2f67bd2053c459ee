/-
# Other keys in the store

The keys of things are secrets, so nothing should depend on them but which of them are the same,
which is empty and which are blank.  Here all keys are replaced by others, different ones by
different ones, and two stores are compared that are the same but for that.  Every request to the
one, with other keys in its arguments, is granted or refused like the request to the other, with
other keys in the answer, and the stores stay the same but for their keys.
-/
import DeviceFleet.Proofs.Store.Sound
import Mathlib.Logic.Function.Basic

namespace DeviceFleet

/-- Other keys in place of all keys. -/
structure KeyRenaming where
  /-- The key in place of a key. -/
  rename : String → String
  /-- Different keys stay different. -/
  injective : Function.Injective rename
  /-- The empty key stays empty. -/
  rename_empty : rename "" = ""
  /-- Blank keys stay blank, and no others become blank. -/
  isBlank_rename : ∀ key, Text.isBlank (rename key) = Text.isBlank key

namespace KeyRenaming

instance : CoeFun KeyRenaming fun _ => String → String := ⟨rename⟩

/-- All keys are kept. -/
protected def id : KeyRenaming := ⟨fun key => key, fun _ _ h => h, rfl, fun _ => rfl⟩

/-- The thing with another key. -/
def thing (ρ : KeyRenaming) (t : Thing) : Thing := { t with key := ρ t.key }

/-- The page with other keys in its things. -/
def page (ρ : KeyRenaming) (p : Page Thing) : Page Thing := p.withItems (p.items.map ρ.thing)

/-- The backup with other keys in its things. -/
def backup (ρ : KeyRenaming) (b : Backup) : Backup := { b with things := b.things.map ρ.thing }

variable {ρ : KeyRenaming} {t : Thing}

lemma rename_inj {key key' : String} : ρ key = ρ key' ↔ key = key' := ρ.injective.eq_iff

lemma rename_eq_empty_iff {key : String} : ρ key = "" ↔ key = "" :=
  ρ.injective.eq_iff' ρ.rename_empty

@[simp] lemma thing_id : (ρ.thing t).id = t.id := rfl

@[simp] lemma thing_name : (ρ.thing t).name = t.name := rfl

@[simp] lemma id_rename (key : String) : KeyRenaming.id.rename key = key := rfl

@[simp] lemma id_thing : KeyRenaming.id.thing = fun t => t := rfl

@[simp] lemma id_page (p : Page Thing) : KeyRenaming.id.page p = p := by
  simp [page, Page.withItems]

@[simp] lemma id_backup (b : Backup) : KeyRenaming.id.backup b = b := by
  simp [backup]

/-! ## Indices of keys -/

/-- The index `m'` finds for the other keys what the index `m` finds for the keys. -/
def Reindexes {α : Type} (ρ : KeyRenaming) (m m' : Std.ExtTreeMap String α) : Prop :=
  ∀ key, m'[ρ key]? = m[key]?

namespace Reindexes

variable {α : Type} {m m' : Std.ExtTreeMap String α} {key : String}

lemma mem_iff (h : ρ.Reindexes m m') : ρ key ∈ m' ↔ key ∈ m := by
  rw [Std.ExtTreeMap.mem_iff_isSome_getElem?, h, ← Std.ExtTreeMap.mem_iff_isSome_getElem?]

lemma insert (h : ρ.Reindexes m m') (key : String) (a : α) :
    ρ.Reindexes (m.insert key a) (m'.insert (ρ key) a) := by
  intro key'
  by_cases hkey : key = key'
  · simp [hkey]
  · simp [Std.ExtTreeMap.getElem?_insert, hkey, rename_inj, h key']

lemma erase (h : ρ.Reindexes m m') (key : String) :
    ρ.Reindexes (m.erase key) (m'.erase (ρ key)) := by
  intro key'
  by_cases hkey : key = key'
  · simp [hkey]
  · simp [Std.ExtTreeMap.getElem?_erase, hkey, rename_inj, h key']

/-- A key is taken out if it is an index of something in particular. -/
lemma erase_if [DecidableEq α] (h : ρ.Reindexes m m') (key : String) (a : α) :
    ρ.Reindexes (if m[key]? = some a then m.erase key else m)
      (if m'[ρ key]? = some a then m'.erase (ρ key) else m') := by
  rw [h key]
  split
  · exact h.erase key
  · exact h

lemma eq_of_id (h : KeyRenaming.id.Reindexes m m') : m' = m := Std.ExtTreeMap.ext_getElem? h

end Reindexes

end KeyRenaming

namespace Store

variable {ρ : KeyRenaming} {s t : Store} {α β : Type}

/-- The store without its things. -/
def withoutThings (s : Store) : Store := { s with things := ∅, thingKeys := ∅ }

/-- The store without the keys of its things. -/
def withoutKeys (s : Store) : Store :=
  { s with things := s.things.map fun _ x => { x with key := "" }, thingKeys := ∅ }

/-- The store `t` is `s` with other keys. -/
structure Renamed (ρ : KeyRenaming) (s t : Store) : Prop where
  /-- The things have other keys. -/
  things : t.things = s.things.map fun _ => ρ.thing
  /-- The other keys find the same things. -/
  thingKeys : ρ.Reindexes s.thingKeys t.thingKeys
  /-- The profiles are the same. -/
  profiles : t.profiles = s.profiles
  /-- The groups are the same. -/
  groups : t.groups = s.groups
  /-- The memberships are the same. -/
  memberships : t.memberships = s.memberships

/-- The outcome `o'` is `o` with other keys; `f` tells what becomes of an answer. -/
structure Outcome.Renamed (ρ : KeyRenaming) (f : α → β) (o : Outcome α) (o' : Outcome β) :
    Prop where
  /-- The answer has other keys, and a refusal is the same. -/
  answer : o'.1 = o.1.map f
  /-- The store has other keys. -/
  store : o.2.Renamed ρ o'.2

/-- Either both requests are refused for the same reason, or both are granted. -/
lemma Outcome.Renamed.cases {f : α → β} {o : Outcome α} {o' : Outcome β}
    (h : Outcome.Renamed ρ f o o') :
    (∃ e s' t', o = (.error e, s') ∧ o' = (.error e, t') ∧ s'.Renamed ρ t') ∨
      ∃ a s' t', o = (.ok a, s') ∧ o' = (.ok (f a), t') ∧ s'.Renamed ρ t' := by
  obtain ⟨r, s'⟩ := o
  obtain ⟨r', t'⟩ := o'
  obtain ⟨rfl, hstore⟩ := h
  rcases r with e | a
  · exact .inl ⟨e, s', t', rfl, rfl, hstore⟩
  · exact .inr ⟨a, s', t', rfl, rfl, hstore⟩

namespace Renamed

/-! ## What is found -/

lemma thing (h : s.Renamed ρ t) (id : String) : t.things[id]? = s.things[id]?.map ρ.thing := by
  rw [h.things, Std.ExtTreeMap.getElem?_map]

lemma mem_things_iff (h : s.Renamed ρ t) {id : String} : id ∈ t.things ↔ id ∈ s.things := by
  rw [h.things, Std.ExtTreeMap.mem_map]

/-- The store that keeps its keys is itself. -/
protected lemma id (s : Store) : s.Renamed KeyRenaming.id s where
  things := by
    apply Std.ExtTreeMap.ext_getElem?
    simp
  thingKeys _ := rfl
  profiles := rfl
  groups := rfl
  memberships := rfl

/-- No store but itself is the store with its own keys. -/
lemma eq_of_id (h : s.Renamed KeyRenaming.id t) : t = s := by
  have hthings : t.things = s.things := by
    apply Std.ExtTreeMap.ext_getElem?
    intro id
    simp [h.thing]
  have hkeys : t.thingKeys = s.thingKeys := h.thingKeys.eq_of_id
  obtain ⟨things, thingKeys, profiles, groups, memberships⟩ := t
  obtain ⟨-, -, rfl, rfl, rfl⟩ := h
  simp only at hthings hkeys
  rw [hthings, hkeys]

lemma empty (ρ : KeyRenaming) : (∅ : Store).Renamed ρ ∅ where
  things := by
    apply Std.ExtTreeMap.ext_getElem?
    simp
  thingKeys _ := rfl
  profiles := rfl
  groups := rfl
  memberships := rfl

/-- Without keys there is no difference. -/
lemma withoutKeys_eq (h : s.Renamed ρ t) : t.withoutKeys = s.withoutKeys := by
  have hthings : (t.things.map fun _ x => { x with key := "" }) =
      s.things.map fun _ x => { x with key := "" } := by
    apply Std.ExtTreeMap.ext_getElem?
    intro id
    rw [Std.ExtTreeMap.getElem?_map, Std.ExtTreeMap.getElem?_map, h.thing, Option.map_map]
    rfl
  simp only [withoutKeys, hthings, h.profiles, h.groups, h.memberships]

/-- Things and their keys may be replaced, in the same way but for the keys. -/
lemma change_things (h : s.Renamed ρ t) {things things' : Std.ExtTreeMap String Thing}
    {keys keys' : Std.ExtTreeMap String String}
    (hthings : ∀ id : String, things'[id]? = things[id]?.map ρ.thing)
    (hkeys : ρ.Reindexes keys keys') :
    Renamed ρ { s with things := things, thingKeys := keys }
      { t with things := things', thingKeys := keys' } := by
  refine ⟨?_, hkeys, h.profiles, h.groups, h.memberships⟩
  apply Std.ExtTreeMap.ext_getElem?
  intro id
  rw [hthings, Std.ExtTreeMap.getElem?_map]

/-! ## Lists of things -/

lemma recordsOf_things (h : s.Renamed ρ t) :
    recordsOf t.things = (recordsOf s.things).map ρ.thing := by
  simp only [recordsOf, h.things, Std.ExtTreeMap.toList_map, List.map_map]
  rfl

/-- Conditions that do not depend on the keys are met by the same things. -/
lemma thingsWhere (h : s.Renamed ρ t) {p : Thing → Bool} (hp : ∀ x, p (ρ.thing x) = p x) :
    t.thingsWhere p = (s.thingsWhere p).map ρ.thing := by
  have hcomp : p ∘ ρ.thing = p := funext hp
  rw [Store.thingsWhere, Store.thingsWhere, h.recordsOf_things, List.filter_map, hcomp]

/-- A walk goes by identifiers, so it does not depend on the keys. -/
lemma thingsAlong (h : s.Renamed ρ t) (walk : Walk) :
    t.thingsAlong walk = (s.thingsAlong walk).map ρ.thing := by
  have hkeys : t.things.keys = s.things.keys := by
    rw [h.things, Std.ExtTreeMap.keys_map]
  simp only [Store.thingsAlong, hkeys, List.map_filterMap, h.thing]

/-- Pages of things do not depend on the keys: neither what is on them, nor in which order. -/
lemma pageOfThings (h : s.Renamed ρ t) {p : Thing → Bool} (hp : ∀ x, p (ρ.thing x) = p x)
    (r : PageRequest) : t.pageOfThings p r = ρ.page (s.pageOfThings p r) := by
  have hwhere : t.thingsWhere (fun x => p x && r.admits x.name) =
      (s.thingsWhere fun x => p x && r.admits x.name).map ρ.thing :=
    h.thingsWhere fun x => by rw [hp]; rfl
  have hsorted : ∀ items : List Thing, byName (·.name) (·.id) (items.map ρ.thing) =
      (byName (·.name) (·.id) items).map ρ.thing := by
    intro items
    have hsort := List.map_mergeSort (f := ρ.thing) (l := items)
      (r := fun a b => pairLe (a.name, a.id) (b.name, b.id))
      (s := fun a b => pairLe (a.name, a.id) (b.name, b.id))
      fun a _ b _ => by simp only [KeyRenaming.thing_name, KeyRenaming.thing_id]
    exact hsort.symm
  rw [Store.pageOfThings, Store.pageOfThings, hwhere, hsorted]
  simp [PageRequest.paginate, KeyRenaming.page, Page.withItems, List.map_take, List.map_drop]

/-! ## Requests -/

/-- A request that is refused. -/
lemma refused (h : s.Renamed ρ t) (f : α → β) (e : StoreError) :
    Outcome.Renamed ρ f (.error e, s) (.error e, t) := ⟨rfl, h⟩

/-- A request that is granted. -/
lemma granted (h : s.Renamed ρ t) (f : α → β) (a : α) :
    Outcome.Renamed ρ f (.ok a, s) (.ok (f a), t) := ⟨rfl, h⟩

/-- A change of one record after the other. -/
lemma foldl {f : Store → α → Store}
    (hf : ∀ {s t : Store} (x : α), s.Renamed ρ t → (f s x).Renamed ρ (f t x))
    (h : s.Renamed ρ t) (xs : List α) : (xs.foldl f s).Renamed ρ (xs.foldl f t) := by
  induction xs generalizing s t with
  | nil => exact h
  | cons x xs ih => exact ih (hf x h)

/-- A batch is stored like the other batch. -/
lemma insertEach {insert : α → Store → Outcome Unit} {insert' : β → Store → Outcome Unit}
    (undo : α → Store → Store) (undo' : β → Store → Store) {f : α → β}
    (hinsert : ∀ {s t : Store} (x : α), s.Renamed ρ t →
      Outcome.Renamed ρ id (insert x s) (insert' (f x) t))
    (hundo : ∀ {s t : Store} (x : α), s.Renamed ρ t → (undo x s).Renamed ρ (undo' (f x) t))
    (h : s.Renamed ρ t) (saved xs : List α) :
    Outcome.Renamed ρ id (Store.insertEach insert undo saved xs s)
      (Store.insertEach insert' undo' (saved.map f) (xs.map f) t) := by
  induction xs generalizing saved s t with
  | nil => exact h.granted id ()
  | cons x xs ih =>
    rw [List.map_cons, Store.insertEach, Store.insertEach]
    obtain ⟨e, s', t', hx, hx', h'⟩ | ⟨⟨⟩, s', t', hx, hx', h'⟩ := (hinsert x h).cases
    · -- those that are in already are taken out of both
      have hundone : (saved.foldr undo s').Renamed ρ ((saved.map f).foldr undo' t') := by
        induction saved with
        | nil => exact h'
        | cons y saved ihsaved => exact hundo y ihsaved
      rw [hx, hx']
      exact hundone.refused id e
    · rw [hx, hx']
      exact ih h' (x :: saved)

/-- Two batches of the same records. -/
lemma insertEach_same {insert : α → Store → Outcome Unit} (undo : α → Store → Store)
    (hinsert : ∀ {s t : Store} (x : α), s.Renamed ρ t →
      Outcome.Renamed ρ id (insert x s) (insert x t))
    (hundo : ∀ {s t : Store} (x : α), s.Renamed ρ t → (undo x s).Renamed ρ (undo x t))
    (h : s.Renamed ρ t) (xs : List α) :
    Outcome.Renamed ρ id (Store.insertEach insert undo [] xs s)
      (Store.insertEach insert undo [] xs t) := by
  simpa only [List.map_id] using h.insertEach (f := id) undo undo hinsert hundo [] xs

end Renamed

/-! ## Requests about things -/

lemma require_rename (ρ : KeyRenaming) (key field : String) :
    require (ρ key) field = require key field := by
  rw [require, require, ρ.isBlank_rename]

/-- Whether a thing passes its check depends on its key only in that it may be blank. -/
lemma checkThing_thing (ρ : KeyRenaming) (x : Thing) : checkThing (ρ.thing x) = checkThing x := by
  simp only [checkThing, KeyRenaming.thing, require_rename]

lemma forM_checkThing (ρ : KeyRenaming) (things : List Thing) :
    (things.map ρ.thing).forM checkThing = things.forM checkThing := by
  simp only [List.forM_eq_forM, List.forM_map, checkThing_thing]

namespace Renamed

lemma insertThing (h : s.Renamed ρ t) (x : Thing) :
    Outcome.Renamed ρ id (Store.insertThing x s) (Store.insertThing (ρ.thing x) t) := by
  have hkey : (ρ.thing x).key ∈ t.thingKeys ↔ x.key ∈ s.thingKeys := h.thingKeys.mem_iff
  have hid : (ρ.thing x).id ∈ t.things ↔ x.id ∈ s.things := h.mem_things_iff
  have hindexed := h.thingKeys.insert x.key x.id
  unfold Store.insertThing
  by_cases htaken : x.key ∈ s.thingKeys
  · rw [if_pos htaken, if_pos (hkey.2 htaken)]
    exact h.refused id .duplicateKey
  · rw [if_neg htaken, if_neg (mt hkey.1 htaken)]
    by_cases hstored : x.id ∈ s.things
    · rw [if_pos hstored, if_pos (hid.2 hstored)]
      exact (h.change_things h.thing (hindexed.erase x.key)).refused id (.alreadyExists .thing x.id)
    · rw [if_neg hstored, if_neg (mt hid.1 hstored)]
      refine (h.change_things (fun id => ?_) hindexed).granted id ()
      by_cases hx : x.id = id
      · simp [KeyRenaming.thing, hx]
      · simp [KeyRenaming.thing, Std.ExtTreeMap.getElem?_insert, hx, h.thing]

lemma eraseThing (h : s.Renamed ρ t) (id : String) :
    (Store.eraseThing id s).Renamed ρ (Store.eraseThing id t) := by
  rw [Store.eraseThing, Store.eraseThing, h.thing]
  rcases s.things[id]? with _ | x
  · exact h
  · refine h.change_things (fun id' => ?_) (h.thingKeys.erase_if x.key id)
    by_cases hid : id = id'
    · simp [hid]
    · simp [Std.ExtTreeMap.getElem?_erase, hid, h.thing]

lemma saveThings (h : s.Renamed ρ t) (things : List Thing) :
    Outcome.Renamed ρ (List.map ρ.thing) (s.saveThings things)
      (t.saveThings (things.map ρ.thing)) := by
  rw [Store.saveThings, Store.saveThings, forM_checkThing]
  rcases things.forM checkThing with e | ⟨⟩
  · exact h.refused _ e
  · have hbatch := h.insertEach (f := ρ.thing) (fun x => Store.eraseThing x.id)
      (fun x => Store.eraseThing x.id) (fun x h => h.insertThing x)
      (fun x h => h.eraseThing x.id) [] things
    rw [List.map_nil] at hbatch
    obtain ⟨e, s', t', hs, ht, h'⟩ | ⟨⟨⟩, s', t', hs, ht, h'⟩ := hbatch.cases
    · simp only [hs, ht]
      exact h'.refused _ e
    · simp only [hs, ht]
      exact h'.granted _ things

/-- One thing is changed in both stores. -/
lemma modify (h : s.Renamed ρ t) (thingId : String) (f f' : Thing → Thing)
    (hf : ∀ x, f' (ρ.thing x) = ρ.thing (f x)) (id : String) :
    (t.things.modify thingId f')[id]? = (s.things.modify thingId f)[id]?.map ρ.thing := by
  have hcomp : f' ∘ ρ.thing = ρ.thing ∘ f := funext hf
  simp only [Std.ExtTreeMap.getElem?_modify, h.thing, apply_ite (Option.map ρ.thing),
    Option.map_map, hcomp]

lemma updateThing (h : s.Renamed ρ t) (x : Thing) :
    Outcome.Renamed ρ id (s.updateThing x) (t.updateThing (ρ.thing x)) := by
  have hid : (ρ.thing x).id ∈ t.things ↔ x.id ∈ s.things := h.mem_things_iff
  unfold Store.updateThing
  by_cases hstored : x.id ∈ s.things
  · rw [if_pos hstored, if_pos (hid.2 hstored)]
    let change (stored : Thing) : Thing :=
      { stored with name := x.name, profileId := x.profileId, metadata := x.metadata }
    have hmodify := h.modify x.id change change fun _ => rfl
    exact (h.change_things hmodify h.thingKeys).granted id ()
  · rw [if_neg hstored, if_neg (mt hid.1 hstored)]
    exact h.refused id (.notFound .thing x.id)

lemma updateKey (h : s.Renamed ρ t) (thingId key : String) :
    Outcome.Renamed ρ id (s.updateKey thingId key) (t.updateKey thingId (ρ key)) := by
  rw [Store.updateKey, Store.updateKey, require_rename, h.thing]
  rcases require key "thing key" with e | ⟨⟩
  · exact h.refused id e
  · rcases s.things[thingId]? with _ | x
    · exact h.refused id (.notFound .thing thingId)
    · have hsame : (ρ.thing x).key = ρ key ↔ x.key = key := KeyRenaming.rename_inj
      have htaken : ρ key ∈ t.thingKeys ↔ key ∈ s.thingKeys := h.thingKeys.mem_iff
      simp only [Option.map_some, hsame, htaken]
      split
      · exact h.granted id ()
      · split
        · exact h.refused id .duplicateKey
        · have hmodify := h.modify thingId (fun stored => { stored with key := key })
            (fun stored => { stored with key := ρ key }) fun _ => rfl
          have hindexed := (h.thingKeys.insert key thingId).erase_if x.key thingId
          exact (h.change_things hmodify hindexed).granted id ()

lemma removeThings (h : s.Renamed ρ t) (ids : List String) :
    (s.removeThings ids).Renamed ρ (t.removeThings ids) :=
  h.foldl (fun id h => h.eraseThing id) ids

lemma findThing (h : s.Renamed ρ t) (id : String) :
    t.findThing id = (s.findThing id).map ρ.thing := by
  rw [Store.findThing, Store.findThing, h.thing]
  rcases s.things[id]? with _ | x <;> rfl

lemma findThingId (h : s.Renamed ρ t) (key : String) :
    t.findThingId (ρ key) = s.findThingId key := by
  rw [Store.findThingId, Store.findThingId, h.thingKeys]

lemma listThingsOfGroups (h : s.Renamed ρ t) (groupIds : List String) (r : PageRequest) :
    t.listThingsOfGroups groupIds r = ρ.page (s.listThingsOfGroups groupIds r) :=
  h.pageOfThings (fun _ => rfl) r

lemma listThingsOfProfile (h : s.Renamed ρ t) (profileId : String) (r : PageRequest) :
    t.listThingsOfProfile profileId r = ρ.page (s.listThingsOfProfile profileId r) :=
  h.pageOfThings (fun _ => rfl) r

lemma listThings (h : s.Renamed ρ t) (r : PageRequest) :
    t.listThings r = ρ.page (s.listThings r) :=
  h.pageOfThings (fun _ => rfl) r

lemma exportThings (h : s.Renamed ρ t) : t.exportThings = s.exportThings.map ρ.thing :=
  h.thingsWhere fun _ => rfl

lemma exportThingsOfGroups (h : s.Renamed ρ t) (groupIds : List String) :
    t.exportThingsOfGroups groupIds = (s.exportThingsOfGroups groupIds).map ρ.thing :=
  h.thingsWhere fun _ => rfl

/-! ## Requests about other records -/

lemma withoutThings_eq (h : s.Renamed ρ t) : t.withoutThings = s.withoutThings := by
  simp only [withoutThings, h.profiles, h.groups, h.memberships]

/-- What depends on the other records alone is the same. -/
lemma query_eq (h : s.Renamed ρ t) {f : Store → α} (hf : ∀ s : Store, f s.withoutThings = f s) :
    f t = f s := by
  rw [← hf t, ← hf s, h.withoutThings_eq]

lemma findProfileOfThing (h : s.Renamed ρ t) (thingId : String) :
    t.findProfileOfThing thingId = s.findProfileOfThing thingId := by
  have hfind : ∀ id, t.findProfile id = s.findProfile id := fun id =>
    h.query_eq (f := fun s => s.findProfile id) fun _ => rfl
  rw [Store.findProfileOfThing, Store.findProfileOfThing, h.thing]
  rcases s.things[thingId]? with _ | x
  · rfl
  · exact hfind x.profileId

lemma change_profiles (h : s.Renamed ρ t) (profiles : Std.ExtTreeMap String Profile) :
    Renamed ρ { s with profiles := profiles } { t with profiles := profiles } :=
  { h with profiles := rfl }

lemma change_groups (h : s.Renamed ρ t) (groups : Std.ExtTreeMap String Group) :
    Renamed ρ { s with groups := groups } { t with groups := groups } :=
  { h with groups := rfl }

lemma change_memberships (h : s.Renamed ρ t)
    (memberships : Std.ExtTreeMap Membership.Key Membership) :
    Renamed ρ { s with memberships := memberships } { t with memberships := memberships } :=
  { h with memberships := rfl }

/-- The same profiles and memberships are left in both stores. -/
lemma keepRest (h : s.Renamed ρ t) (p : String → Profile → Bool)
    (q : Membership.Key → Membership → Bool) :
    Renamed ρ { s with profiles := s.profiles.filter p, memberships := s.memberships.filter q }
      { t with profiles := t.profiles.filter p, memberships := t.memberships.filter q } := by
  rw [h.profiles, h.memberships]
  exact { h with profiles := rfl, memberships := rfl }

/-! ### Profiles -/

lemma insertProfile (h : s.Renamed ρ t) (p : Profile) :
    Outcome.Renamed ρ id (Store.insertProfile p s) (Store.insertProfile p t) := by
  rw [Store.insertProfile, Store.insertProfile, h.profiles]
  split
  · exact h.refused id (.alreadyExists .profile p.id)
  · exact (h.change_profiles _).granted id ()

lemma eraseProfile (h : s.Renamed ρ t) (profileId : String) :
    (Store.eraseProfile profileId s).Renamed ρ (Store.eraseProfile profileId t) := by
  rw [Store.eraseProfile, Store.eraseProfile, h.profiles]
  exact h.change_profiles _

lemma saveProfiles (h : s.Renamed ρ t) (profiles : List Profile) :
    Outcome.Renamed ρ id (s.saveProfiles profiles) (t.saveProfiles profiles) := by
  rw [Store.saveProfiles, Store.saveProfiles]
  rcases profiles.forM checkProfile with e | ⟨⟩
  · exact h.refused id e
  · have hbatch := h.insertEach_same (fun p : Profile => Store.eraseProfile p.id)
      (fun p h => h.insertProfile p) (fun p h => h.eraseProfile p.id) profiles
    obtain ⟨e, s', t', hs, ht, h'⟩ | ⟨⟨⟩, s', t', hs, ht, h'⟩ := hbatch.cases
    · simp only [hs, ht]
      exact h'.refused id e
    · simp only [hs, ht]
      exact h'.granted id profiles

lemma updateProfile (h : s.Renamed ρ t) (p : Profile) :
    Outcome.Renamed ρ id (s.updateProfile p) (t.updateProfile p) := by
  rw [Store.updateProfile, Store.updateProfile, h.profiles]
  split
  · exact (h.change_profiles _).granted id ()
  · exact h.refused id (.notFound .profile p.id)

lemma removeProfiles (h : s.Renamed ρ t) (walk : Walk) (ids : List String) :
    Outcome.Renamed ρ id (s.removeProfiles walk ids) (t.removeProfiles walk ids) := by
  have herased : (ids.foldl (fun s id => Store.eraseProfile id s) s).Renamed ρ
      (ids.foldl (fun s id => Store.eraseProfile id s) t) :=
    h.foldl (fun profileId h => h.eraseProfile profileId) ids
  have husers : (t.thingsAlong walk).find? (fun x => ids.contains x.profileId) =
      ((s.thingsAlong walk).find? fun x => ids.contains x.profileId).map ρ.thing := by
    rw [h.thingsAlong, List.find?_map]
    rfl
  rw [Store.removeProfiles, Store.removeProfiles, husers]
  rcases hused : (s.thingsAlong walk).find? fun x => ids.contains x.profileId with _ | x
  · simp only [hused]
    exact herased.granted id ()
  · simp only [hused]
    exact h.refused id (.profileAssigned x.profileId)

/-! ### Groups -/

lemma saveGroup (h : s.Renamed ρ t) (g : Group) :
    Outcome.Renamed ρ id (s.saveGroup g) (t.saveGroup g) := by
  rw [Store.saveGroup, Store.saveGroup, h.groups]
  rcases checkGroup g with e | ⟨⟩
  · exact h.refused id e
  · simp only
    split
    · exact h.refused id (.alreadyExists .group g.id)
    · exact (h.change_groups _).granted id g

lemma updateGroup (h : s.Renamed ρ t) (g : Group) :
    Outcome.Renamed ρ id (s.updateGroup g) (t.updateGroup g) := by
  rw [Store.updateGroup, Store.updateGroup, h.groups]
  rcases s.groups[g.id]? with _ | stored
  · exact h.refused id (.notFound .group g.id)
  · exact (h.change_groups _).granted id _

lemma eraseGroup (h : s.Renamed ρ t) (groupId : String) :
    (Store.eraseGroup groupId s).Renamed ρ (Store.eraseGroup groupId t) := by
  have howned : (t.thingsWhere fun x => x.groupId == groupId).map (·.id) =
      (s.thingsWhere fun x => x.groupId == groupId).map (·.id) := by
    rw [h.thingsWhere fun _ => rfl, List.map_map]
    rfl
  rw [Store.eraseGroup, Store.eraseGroup, howned, h.groups]
  split
  · have hremoved := (h.change_groups (s.groups.erase groupId)).removeThings
      ((s.thingsWhere fun x => x.groupId == groupId).map (·.id))
    exact hremoved.keepRest _ _
  · exact h

lemma removeGroups (h : s.Renamed ρ t) (ids : List String) :
    (s.removeGroups ids).Renamed ρ (t.removeGroups ids) :=
  h.foldl (fun groupId h => h.eraseGroup groupId) ids

/-! ### Memberships -/

lemma insertMembership (h : s.Renamed ρ t) (m : Membership) :
    Outcome.Renamed ρ id (Store.insertMembership m s) (Store.insertMembership m t) := by
  rw [Store.insertMembership, Store.insertMembership, h.memberships]
  split
  · exact h.refused id (.alreadyExists .membership m.key.label)
  · exact (h.change_memberships _).granted id ()

lemma eraseMembership (h : s.Renamed ρ t) (key : Membership.Key) :
    (Store.eraseMembership key s).Renamed ρ (Store.eraseMembership key t) := by
  rw [Store.eraseMembership, Store.eraseMembership, h.memberships]
  exact h.change_memberships _

lemma saveMemberships (h : s.Renamed ρ t) (memberships : List Membership) :
    Outcome.Renamed ρ id (s.saveMemberships memberships) (t.saveMemberships memberships) := by
  rw [Store.saveMemberships, Store.saveMemberships]
  rcases memberships.forM checkMembership with e | ⟨⟩
  · exact h.refused id e
  · exact h.insertEach_same (fun m : Membership => Store.eraseMembership m.key)
      (fun m h => h.insertMembership m) (fun m h => h.eraseMembership m.key) memberships

lemma changeRole (h : s.Renamed ρ t) (m : Membership) :
    (Store.changeRole s m).Renamed ρ (Store.changeRole t m) := by
  rw [Store.changeRole, Store.changeRole, h.memberships]
  exact h.change_memberships _

lemma updateMemberships (h : s.Renamed ρ t) (memberships : List Membership) :
    Outcome.Renamed ρ id (s.updateMemberships memberships) (t.updateMemberships memberships) := by
  rw [Store.updateMemberships, Store.updateMemberships, h.memberships]
  split
  · exact h.refused id _
  · exact (h.foldl (fun m h => h.changeRole m) memberships).granted id ()

lemma removeMemberships (h : s.Renamed ρ t) (groupId : String) (memberIds : List String) :
    (s.removeMemberships groupId memberIds).Renamed ρ (t.removeMemberships groupId memberIds) :=
  h.foldl (fun memberId h => h.eraseMembership ⟨groupId, memberId⟩) memberIds

end Renamed

end Store

end DeviceFleet
