/-
# Records written and read

A record is read back from the JSON that it is written as.  Time stamps have to have plain years,
and bags hold values in their canonical form, as all bags do that are read from JSON.  In the
other direction, a bag that is read is nested no more deeply than the JSON that it is read from,
except that a bag that is left out is written as an empty one.
-/
import DeviceFleet.Entity.Encoding
import DeviceFleet.Proofs.Json.Record
import DeviceFleet.Proofs.Maps
import DeviceFleet.Proofs.Time.Stamps

namespace DeviceFleet

open Json (record? record?_ofFields isPart_of_record? exists_of_required_list?)

/-! ## Bags -/

namespace Metadata

/-- The values of a bag are as a program holds them: objects are maps, written by ascending name,
whole numbers have 64 bits, and everything in it stands for a value. -/
def IsHeld (m : Metadata) : Prop :=
  ∀ f ∈ m.toList, f.2.canonical = f.2 ∧ f.2.Ranged ∧ f.2.isUsable = true

/-- A bag has no other numbers than whole ones. -/
def IsWhole (m : Metadata) : Prop := ∀ f ∈ m.toList, f.2.Whole

/-- A bag is made up of its entries. -/
lemma ofList_toList (m : Metadata) : Std.ExtTreeMap.ofList m.toList = m := by
  apply Std.ExtTreeMap.ext_getElem?
  intro k
  cases h : m[k]? with
  | some v =>
    exact Std.ExtTreeMap.getElem?_ofList_of_mem Std.ReflCmp.compare_self
      Std.ExtTreeMap.distinct_keys_toList (Std.ExtTreeMap.mem_toList_iff_getElem?_eq_some.mpr h)
  | none =>
    refine Std.ExtTreeMap.getElem?_ofList_of_contains_eq_false ?_
    simpa using h

lemma ofJson?_toJson {m : Metadata} (h : m.IsHeld) : ofJson? m.toJson = some m := by
  have hfold : ofFields m.toList = m := by
    conv_rhs => rw [← ofList_toList m, Std.ExtTreeMap.ofList_eq_foldl]
    exact List.foldl_ext _ _ _ fun m' f hf => by rw [(h f hf).1]
  rw [toJson, ofJson?, if_pos (Json.usableFields_iff.mpr fun f hf => (h f hf).2.2), hfold]

/-- An entry of a bag is the canonical form of a field that it was read from. -/
lemma exists_of_mem_ofFields {fields : List (String × Json)} {f : String × Json}
    (h : f ∈ (ofFields fields).toList) : ∃ g ∈ fields, f.2 = g.2.canonical := by
  suffices ∀ m : Metadata, (fields.foldl (fun m f => m.insert f.1 f.2.canonical) m)[f.1]? =
      some f.2 → (∃ g ∈ fields, f.2 = g.2.canonical) ∨ m[f.1]? = some f.2 by
    simpa using this ∅ (Std.ExtTreeMap.mem_toList_iff_getElem?_eq_some.mp h)
  clear h
  induction fields with
  | nil => exact fun m h => .inr h
  | cons g gs ih =>
    intro m h
    rcases ih _ h with ⟨e, he, hf⟩ | h
    · exact .inl ⟨e, List.mem_cons_of_mem _ he, hf⟩
    · exact (eq_or_of_getElem?_insert h).imp_left fun hf => ⟨g, List.mem_cons_self, hf⟩

/-- A bag is nested at most as deeply as the value it was read from, or not at all. -/
lemma depth_toJson_le_of_ofJson? {m : Metadata} {j : Json} (h : ofJson? j = some m) :
    m.toJson.depth ≤ j.depth := by
  cases j with
  | object fields =>
    rw [ofJson?] at h
    split_ifs at h
    cases h
    rw [toJson, Json.depth.eq_def (.object fields), Json.depth_object_le_iff]
    intro f hf
    obtain ⟨g, hg, hf⟩ := exists_of_mem_ofFields hf
    rw [hf]
    exact (Json.depth_canonical_le g.2).trans (Json.fieldDepth_le_iff.mp le_rfl g hg)
  | _ => cases h

lemma isHeld_of_ofJson? {m : Metadata} {j : Json} (h : ofJson? j = some m) (hj : j.Ranged) :
    m.IsHeld := by
  cases j with
  | object fields =>
    rw [ofJson?] at h
    split_ifs at h with husable
    cases h
    intro f hf
    obtain ⟨g, hg, hf⟩ := exists_of_mem_ofFields hf
    rw [hf]
    exact ⟨Json.canonical_canonical g.2, (Json.allNumbers_object_iff.mp hj g hg).canonical,
      Json.isUsable_canonical (Json.usableFields_iff.mp husable g hg)⟩
  | _ => cases h

/-- The bag belongs to a record that was read from the value.  A bag that is left out is nested no
more deeply than an empty one. -/
structure ReadWithin (m : Metadata) (j : Json) : Prop where
  depth_le : m.toJson.depth + 1 ≤ max 2 j.depth
  isHeld : j.Ranged → m.IsHeld

lemma readWithin_of_record? {names : List String} {j : Json} {parts : List (Option Json)}
    (h : record? names j = some parts) {part : Option Json} (hpart : part ∈ parts) {m : Metadata}
    (hm : Json.optional ∅ ofJson? part = some m) : m.ReadWithin j := by
  cases part with
  | none =>
    cases hm
    exact ⟨le_max_left 2 _, fun _ => by simp [IsHeld]⟩
  | some p =>
    have hp := isPart_of_record? h hpart
    refine ⟨?_, fun hj => isHeld_of_ofJson? hm (hp.ranged hj)⟩
    have hle := depth_toJson_le_of_ofJson? hm
    have hlt := hp.depth_lt
    omega

end Metadata

/-! ## Instants and roles -/

@[simp] lemma Instant.ofJson?_toJson [Instant.Format] [Instant.LawfulFormat] {i : Instant}
    (h : i.HasPlainYear) : Instant.ofJson? i.toJson = some i :=
  Instant.LawfulFormat.parse?_render h

@[simp] lemma Role.ofJson?_toJson (r : Role) : Role.ofJson? r.toJson = some r :=
  Role.ofName?_name r

/-! ## Things -/

namespace Thing

lemma ofJson?_toJson {t : Thing} (h : t.metadata.IsHeld) : ofJson? t.toJson = some t := by
  have hrecord : record? ["id", "group_id", "profile_id", "name", "key", "metadata"] t.toJson = _ :=
    record?_ofFields (by decide) [("id", some (.string t.id)),
      ("group_id", some (.string t.groupId)), ("profile_id", some (.string t.profileId)),
      ("name", some (.string t.name)), ("key", some (.string t.key)),
      ("metadata", some t.metadata.toJson)] rfl
  simp [ofJson?, hrecord, Json.required, Json.optional, Json.string?, Metadata.ofJson?_toJson h]

lemma readWithin_of_ofJson? {t : Thing} {j : Json} (h : ofJson? j = some t) :
    t.metadata.ReadWithin j := by
  obtain ⟨parts, hparts, h⟩ := Option.bind_eq_some_iff.mp h
  split at h
  · simp only [Option.bind_eq_bind, Option.bind_eq_some_iff] at h
    obtain ⟨_, _, _, _, _, _, _, _, _, _, m, hm, h⟩ := h
    cases h
    exact Metadata.readWithin_of_record? hparts (by simp) hm
  · cases h

end Thing

/-! ## Profiles -/

namespace Profile

lemma ofJson?_toJson {p : Profile} (hconfig : p.config.IsHeld) (hmetadata : p.metadata.IsHeld) :
    ofJson? p.toJson = some p := by
  have hrecord : record? ["id", "group_id", "name", "config", "metadata"] p.toJson = _ :=
    record?_ofFields (by decide) [("id", some (.string p.id)),
      ("group_id", some (.string p.groupId)), ("name", some (.string p.name)),
      ("config", some p.config.toJson), ("metadata", some p.metadata.toJson)] rfl
  simp [ofJson?, hrecord, Json.required, Json.optional, Json.string?,
    Metadata.ofJson?_toJson hconfig, Metadata.ofJson?_toJson hmetadata]

lemma readWithin_of_ofJson? {p : Profile} {j : Json} (h : ofJson? j = some p) :
    p.config.ReadWithin j ∧ p.metadata.ReadWithin j := by
  obtain ⟨parts, hparts, h⟩ := Option.bind_eq_some_iff.mp h
  split at h
  · simp only [Option.bind_eq_bind, Option.bind_eq_some_iff] at h
    obtain ⟨_, _, _, _, _, _, config, hconfig, metadata, hmetadata, h⟩ := h
    cases h
    exact ⟨Metadata.readWithin_of_record? hparts (by simp) hconfig,
      Metadata.readWithin_of_record? hparts (by simp) hmetadata⟩
  · cases h

end Profile

/-! ## Groups -/

namespace Group

variable [Instant.Format]

lemma ofJson?_toJson [Instant.LawfulFormat] {g : Group} (h : g.metadata.IsHeld)
    (hcreated : g.createdAt.HasPlainYear) (hupdated : g.updatedAt.HasPlainYear) :
    ofJson? g.toJson = some g := by
  have hrecord : record? ["id", "org_id", "name", "description", "metadata", "created_at",
      "updated_at"] g.toJson = _ :=
    record?_ofFields (by decide) [("id", some (.string g.id)), ("org_id", some (.string g.orgId)),
      ("name", some (.string g.name)), ("description", some (.string g.description)),
      ("metadata", some g.metadata.toJson), ("created_at", some g.createdAt.toJson),
      ("updated_at", some g.updatedAt.toJson)] rfl
  simp [ofJson?, hrecord, Json.required, Json.optional, Json.string?, Metadata.ofJson?_toJson h,
    hcreated, hupdated]

lemma readWithin_of_ofJson? {g : Group} {j : Json} (h : ofJson? j = some g) :
    g.metadata.ReadWithin j := by
  obtain ⟨parts, hparts, h⟩ := Option.bind_eq_some_iff.mp h
  split at h
  · simp only [Option.bind_eq_bind, Option.bind_eq_some_iff] at h
    obtain ⟨_, _, _, _, _, _, _, _, metadata, hmetadata, _, _, _, _, h⟩ := h
    cases h
    exact Metadata.readWithin_of_record? hparts (by simp) hmetadata
  · cases h

end Group

/-! ## Memberships -/

namespace Membership

variable [Instant.Format]

lemma ofJson?_toJson [Instant.LawfulFormat] {m : Membership} (hcreated : m.createdAt.HasPlainYear)
    (hupdated : m.updatedAt.HasPlainYear) : ofJson? m.toJson = some m := by
  have hrecord : record? ["member_id", "group_id", "role", "email", "created_at", "updated_at"]
      m.toJson = _ :=
    record?_ofFields (by decide) [("member_id", some (.string m.memberId)),
      ("group_id", some (.string m.groupId)), ("role", some m.role.toJson),
      ("email", m.email.map .string), ("created_at", some m.createdAt.toJson),
      ("updated_at", some m.updatedAt.toJson)] rfl
  have hemail : Json.optional none (Json.nullable? Json.string?) (m.email.map .string) =
      some m.email := by
    cases m.email <;> rfl
  simp [ofJson?, hrecord, Json.required, Json.string?, hemail, hcreated, hupdated]

@[simp] lemma depth_toJson (m : Membership) : m.toJson.depth = 1 := by
  cases h : m.email <;>
    simp [toJson, h, Json.ofFields, Json.depth, Json.fieldDepth, Instant.toJson, Role.toJson]

@[simp] lemma allNumbers_toJson (m : Membership) (p : Json → Prop) :
    Json.AllNumbers p m.toJson := by
  cases h : m.email <;> simp [toJson, h, Json.ofFields, Instant.toJson, Role.toJson]

end Membership

/-! ## Backups -/

namespace Backup

/-- All bags of a backup. -/
def bags (b : Backup) : List Metadata :=
  b.groups.map (·.metadata) ++ b.things.map (·.metadata) ++
    b.profiles.flatMap fun p => [p.config, p.metadata]

/-- All instants of a backup. -/
def stamps (b : Backup) : List Instant :=
  b.groups.flatMap (fun g => [g.createdAt, g.updatedAt]) ++
    b.memberships.flatMap fun m => [m.createdAt, m.updatedAt]

lemma list?_map {α : Type} {read : Json → Option α} {write : α → Json} {l : List α}
    (h : ∀ a ∈ l, read (write a) = some a) : Json.list? read (.array (l.map write)) = some l := by
  simpa [Json.list?] using Json.mapM_eq_some (h := id) h

variable [Instant.Format]

/-- A backup is read back from the JSON that it is written as. -/
lemma ofJson?_toJson [Instant.LawfulFormat] {b : Backup} (hbags : ∀ m ∈ b.bags, m.IsHeld)
    (hstamps : ∀ i ∈ b.stamps, i.HasPlainYear) : ofJson? b.toJson = some b := by
  have hrecord : record? ["groups", "things", "profiles", "group_memberships"] b.toJson = _ :=
    record?_ofFields (by decide) [("groups", some (.array (b.groups.map Group.toJson))),
      ("things", some (.array (b.things.map Thing.toJson))),
      ("profiles", some (.array (b.profiles.map Profile.toJson))),
      ("group_memberships", some (.array (b.memberships.map Membership.toJson)))] rfl
  simp only [bags, stamps, List.forall_mem_append, List.forall_mem_map, List.forall_mem_flatMap,
    List.forall_mem_cons] at hbags hstamps
  obtain ⟨⟨hgroups, hthings⟩, hprofiles⟩ := hbags
  obtain ⟨hgroupStamps, hmembershipStamps⟩ := hstamps
  have hreadGroups := list?_map fun g hg =>
    Group.ofJson?_toJson (hgroups g hg) (hgroupStamps g hg).1 (hgroupStamps g hg).2.1
  have hreadThings := list?_map fun t ht => Thing.ofJson?_toJson (hthings t ht)
  have hreadProfiles := list?_map fun p hp =>
    Profile.ofJson?_toJson (hprofiles p hp).1 (hprofiles p hp).2.1
  have hreadMemberships := list?_map fun m hm =>
    Membership.ofJson?_toJson (hmembershipStamps m hm).1 (hmembershipStamps m hm).2.1
  simp [ofJson?, hrecord, Json.required, hreadGroups, hreadThings, hreadProfiles,
    hreadMemberships]

/-- The JSON of a backup has no other numbers than its bags. -/
lemma allNumbers_toJson_iff {b : Backup} {p : Json → Prop} :
    Json.AllNumbers p b.toJson ↔ ∀ m ∈ b.bags, ∀ f ∈ m.toList, Json.AllNumbers p f.2 := by
  simp only [bags, List.forall_mem_append, List.forall_mem_map, List.forall_mem_flatMap,
    List.forall_mem_cons]
  simp [toJson, Group.toJson, Thing.toJson, Profile.toJson, Membership.allNumbers_toJson,
    Metadata.toJson, Instant.toJson, and_assoc]

/-- Around a bag there are three containers. -/
lemma depth_toJson_le_iff {b : Backup} {n : Nat} :
    b.toJson.depth ≤ n + 3 ↔ ∀ m ∈ b.bags, m.toJson.depth ≤ n := by
  simp only [bags, List.forall_mem_append, List.forall_mem_map, List.forall_mem_flatMap,
    List.forall_mem_cons]
  simp [toJson, Group.toJson, Thing.toJson, Profile.toJson, Membership.depth_toJson,
    Instant.toJson, Json.depth_object_le_iff, Json.depth_array_le_iff, and_assoc]

/-- The bags of a backup are read from values that are nested in what the backup is read from. -/
lemma readWithin_of_ofJson? {b : Backup} {j : Json} (h : ofJson? j = some b) :
    ∀ m ∈ b.bags, ∃ j', m.ReadWithin j' ∧ j'.depth + 2 ≤ j.depth ∧ (j.Ranged → j'.Ranged) := by
  obtain ⟨parts, hparts, h⟩ := Option.bind_eq_some_iff.mp h
  split at h
  · simp only [Option.bind_eq_bind, Option.bind_eq_some_iff] at h
    obtain ⟨groups, hgroups, things, hthings, profiles, hprofiles, _, _, h⟩ := h
    cases h
    intro m hm
    simp only [bags, List.mem_append, List.mem_map, List.mem_flatMap] at hm
    rcases hm with (⟨g, hg, rfl⟩ | ⟨t, ht, rfl⟩) | ⟨p, hp, hm⟩
    · obtain ⟨j', hread, hj'⟩ := exists_of_required_list? hparts (by simp) hgroups hg
      exact ⟨j', Group.readWithin_of_ofJson? hread, hj'⟩
    · obtain ⟨j', hread, hj'⟩ := exists_of_required_list? hparts (by simp) hthings ht
      exact ⟨j', Thing.readWithin_of_ofJson? hread, hj'⟩
    · obtain ⟨j', hread, hj'⟩ := exists_of_required_list? hparts (by simp) hprofiles hp
      obtain ⟨hconfig, hmetadata⟩ := Profile.readWithin_of_ofJson? hread
      rcases List.mem_cons.mp hm with rfl | hm
      · exact ⟨j', hconfig, hj'⟩
      · exact ⟨j', List.mem_singleton.mp hm ▸ hmetadata, hj'⟩
  · cases h

end Backup

end DeviceFleet
