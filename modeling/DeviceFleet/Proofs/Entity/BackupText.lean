/-
# Backups as texts

A backup is kept as a JSON text.  The text gives the backup back unless it is nested more deeply
than the reader goes: in the bags of a backup three containers are open already.  A backup that
was read from some text is never nested so deeply, so from then on its text stands for it, whatever
the first text said besides it.

The texts are those of two libraries, one for JSON and one for time stamps, of which nothing is used
but what they promise.
-/
import DeviceFleet.Proofs.Entity.Encoding
import DeviceFleet.Proofs.Json.Reader

namespace DeviceFleet.Backup

section Libraries

variable [Json.Format] [Instant.Format]

/-- The text of a backup. -/
def encode (b : Backup) : String := Json.Format.render b.toJson

/-- Reads the text of a backup. -/
def decode? (text : String) : Option Backup := (Json.Format.parse? text).bind ofJson?

variable [Json.LawfulFormat] {b : Backup}

/-- The text of a backup that is not nested too deeply gives it back. -/
lemma decode?_encode [Instant.LawfulFormat] (hheld : ∀ m ∈ b.bags, m.IsHeld)
    (hwhole : ∀ m ∈ b.bags, m.IsWhole) (hstamps : ∀ i ∈ b.stamps, i.HasPlainYear)
    (hdepth : b.toJson.depth ≤ Json.Reader.maxDepth) :
    decode? b.encode = some b := by
  have hranged : b.toJson.Ranged := allNumbers_toJson_iff.mpr fun m hm f hf => (hheld m hm f hf).2.1
  have hwhole : b.toJson.Whole := allNumbers_toJson_iff.mpr hwhole
  rw [decode?, encode, Json.LawfulFormat.parse?_render hranged hwhole hdepth]
  exact ofJson?_toJson hheld hstamps

/-- A backup that is read is not nested too deeply. -/
lemma depth_le_of_decode? {text : String} (h : decode? text = some b) :
    b.toJson.depth ≤ Json.Reader.maxDepth := by
  obtain ⟨j, hj, hb⟩ := Option.bind_eq_some_iff.mp h
  have hdepth := (Json.LawfulFormat.fits_of_parse? hj).1
  -- around a bag that was read there were three containers too, and an empty bag always fits
  refine (depth_toJson_le_iff (n := 124)).mpr fun m hm => ?_
  obtain ⟨j', hm, hj', -⟩ := readWithin_of_ofJson? hb m hm
  have hle := hm.depth_le
  unfold Json.Reader.maxDepth at hdepth
  omega

lemma isHeld_of_decode? {text : String} (h : decode? text = some b) :
    ∀ m ∈ b.bags, m.IsHeld := by
  obtain ⟨j, hj, hb⟩ := Option.bind_eq_some_iff.mp h
  intro m hm
  obtain ⟨j', hm, -, hranged⟩ := readWithin_of_ofJson? hb m hm
  exact hm.isHeld (hranged (Json.LawfulFormat.fits_of_parse? hj).2)

end Libraries

/-! ## Deeply nested bags -/

/-- So many lists, each the only item of the next one. -/
def lists : Nat → Json
  | 0 => .null
  | n + 1 => .array [lists n]

lemma depth_lists (n : Nat) : (lists n).depth = n := by
  induction n with
  | zero => rfl
  | succ n ih => simp [lists, Json.depth, Json.itemDepth, ih]

lemma canonical_lists (n : Nat) : (lists n).canonical = lists n := by
  induction n with
  | zero => rfl
  | succ n ih => simp [lists, Json.canonical, Json.canonicalItems, ih]

lemma isUsable_lists (n : Nat) : (lists n).isUsable = true := by
  induction n with
  | zero => rfl
  | succ n ih => simp [lists, Json.isUsable, Json.usableItems, ih]

lemma allNumbers_lists (n : Nat) (p : Json → Prop) : Json.AllNumbers p (lists n) := by
  induction n with
  | zero => exact .null
  | succ n ih => exact .array _ (by simpa using ih)

/-- A backup with one thing, whose metadata is nested so deeply. -/
def nested (n : Nat) : Backup where
  groups := []
  things := [⟨"t1", "g1", "p1", "Sensor", "k1", Metadata.ofFields [("deep", lists n)]⟩]
  profiles := []
  memberships := []

lemma forall_bags_nested {n : Nat} {p : Metadata → Prop} :
    (∀ m ∈ (nested n).bags, p m) ↔ p (Metadata.ofFields [("deep", lists n)]) := by
  simp [nested, bags]

lemma forall_entries_nested {n : Nat} {p : String × Json → Prop} :
    (∀ f ∈ (Metadata.ofFields [("deep", lists n)]).toList, p f) ↔ p ("deep", lists n) := by
  have hmem : ∀ f, f ∈ (Metadata.ofFields [("deep", lists n)]).toList ↔ f = ("deep", lists n) := by
    rintro ⟨k, v⟩
    rw [Std.ExtTreeMap.mem_toList_iff_getElem?_eq_some, Metadata.ofFields, List.foldl_cons,
      List.foldl_nil, canonical_lists, Std.ExtTreeMap.getElem?_insert]
    by_cases hk : k = "deep"
    · simp [hk, eq_comm]
    · simp [hk, Ne.symm hk]
  simp [hmem]

lemma isHeld_nested (n : Nat) : ∀ m ∈ (nested n).bags, m.IsHeld := by
  rw [forall_bags_nested, Metadata.IsHeld, forall_entries_nested]
  exact ⟨canonical_lists n, allNumbers_lists n _, isUsable_lists n⟩

lemma isWhole_nested (n : Nat) : ∀ m ∈ (nested n).bags, m.IsWhole := by
  rw [forall_bags_nested, Metadata.IsWhole, forall_entries_nested]
  exact allNumbers_lists n _

lemma hasPlainYear_nested (n : Nat) : ∀ i ∈ (nested n).stamps, i.HasPlainYear := by
  simp [nested, stamps]

lemma depth_nested_le_iff {n d : Nat} : (nested n).toJson.depth ≤ d + 4 ↔ n ≤ d := by
  rw [depth_toJson_le_iff (n := d + 1), forall_bags_nested, Metadata.toJson,
    Json.depth_object_le_iff, forall_entries_nested, depth_lists]

/-! ## Writing and reading -/

/-- The text of a backup without fractional numbers and with plain years gives the backup back
exactly if no more containers are open in it at a time than the reader allows.  And the text of a
backup that was read from any text gives it back. -/
theorem encode_decode [Json.Format] [Json.LawfulFormat] [Instant.Format] [Instant.LawfulFormat] :
    (∀ b : Backup, (∀ m ∈ b.bags, m.IsHeld) → (∀ m ∈ b.bags, m.IsWhole) →
      (∀ i ∈ b.stamps, i.HasPlainYear) →
        (decode? b.encode = some b ↔ b.toJson.depth ≤ Json.Reader.maxDepth)) ∧
    ∀ text b, decode? text = some b → (∀ m ∈ b.bags, m.IsWhole) →
      (∀ i ∈ b.stamps, i.HasPlainYear) → decode? b.encode = some b :=
  ⟨fun _ hheld hwhole hstamps =>
      ⟨depth_le_of_decode?, decode?_encode hheld hwhole hstamps⟩,
    fun _ _ h hwhole hstamps =>
      decode?_encode (isHeld_of_decode? h) hwhole hstamps (depth_le_of_decode? h)⟩

-- what stands in a field that is not known does not have to stand for a value
example : decode? ("\x7b\"groups\":[],\"things\":[],\"profiles\":[],\"group_memberships\":[]," ++
    "\"more\":[1e400,\"\\ud800\"]\x7d") = some ⟨[], [], [], []⟩ := by
  decide +kernel

/-- A backup with 123 lists inside each other is given back. -/
theorem nested_kept : decode? (nested 123).encode = some (nested 123) :=
  (encode_decode.1 _ (isHeld_nested 123) (isWhole_nested 123) (hasPlainYear_nested 123)).mpr
    (depth_nested_le_iff.mpr le_rfl)

/-- With one more list it is not: the reader stops where too many containers are open. -/
theorem nested_lost :
    (∀ m ∈ (nested 124).bags, m.IsHeld) ∧ (∀ m ∈ (nested 124).bags, m.IsWhole) ∧
      (∀ i ∈ (nested 124).stamps, i.HasPlainYear) ∧
        decode? (nested 124).encode ≠ some (nested 124) := by
  refine ⟨isHeld_nested 124, isWhole_nested 124, hasPlainYear_nested 124, fun h => ?_⟩
  have hle : 124 ≤ 123 := depth_nested_le_iff.mp (depth_le_of_decode? h)
  exact absurd hle (by decide)

end DeviceFleet.Backup
