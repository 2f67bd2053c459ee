/-
# The shape of JSON values

What is said of JSON values by going through them: how deeply they are nested, what their numbers
are, and that the canonical form of a value changes none of it for the worse.  The canonical form is
its own canonical form, so values that are in it can be told by that.
-/
import DeviceFleet.Json.Canonical
import Mathlib.Data.String.Basic
import Mathlib.Tactic.Common

namespace DeviceFleet.Json

/-! ## Induction -/

/-- A property of values that passes from the parts of a container to the container holds of all
values. -/
@[elab_as_elim]
theorem induction {motive : Json → Prop} (null : motive .null) (bool : ∀ b, motive (.bool b))
    (integer : ∀ n, motive (.integer n)) (decimal : ∀ s d e, motive (.decimal s d e))
    (string : ∀ s, motive (.string s))
    (array : ∀ items, (∀ j ∈ items, motive j) → motive (.array items))
    (object : ∀ fields, (∀ f ∈ fields, motive f.2) → motive (.object fields))
    (unusable : motive .unusable) (j : Json) : motive j :=
  @Json.rec motive (fun js => ∀ j ∈ js, motive j) (fun fs => ∀ f ∈ fs, motive f.2)
    (fun f => motive f.2) null bool integer decimal string array object unusable
    (by simp) (fun _ _ h hs => List.forall_mem_cons.mpr ⟨h, hs⟩)
    (by simp) (fun _ _ h hs => List.forall_mem_cons.mpr ⟨h, hs⟩)
    (fun _ _ h => h) j

/-! ## Nesting -/

mutual

/-- How many containers are open at a time in the text of a value, at most. -/
def depth : Json → Nat
  | .array items => itemDepth items + 1
  | .object fields => fieldDepth fields + 1
  | _ => 0

/-- The depth of the deepest item. -/
def itemDepth : List Json → Nat
  | [] => 0
  | j :: js => max (depth j) (itemDepth js)

/-- The depth of the deepest value of a field. -/
def fieldDepth : List (String × Json) → Nat
  | [] => 0
  | (_, v) :: fs => max (depth v) (fieldDepth fs)

end

lemma itemDepth_le_iff {items : List Json} {n : Nat} :
    itemDepth items ≤ n ↔ ∀ j ∈ items, j.depth ≤ n := by
  induction items with
  | nil => simp [itemDepth]
  | cons j js ih => simp [itemDepth, ih]

lemma fieldDepth_le_iff {fields : List (String × Json)} {n : Nat} :
    fieldDepth fields ≤ n ↔ ∀ f ∈ fields, f.2.depth ≤ n := by
  induction fields with
  | nil => simp [fieldDepth]
  | cons f fs ih => simp [fieldDepth, ih]

lemma depth_array_le_iff {items : List Json} {n : Nat} :
    (Json.array items).depth ≤ n + 1 ↔ ∀ j ∈ items, j.depth ≤ n := by
  rw [depth, Nat.add_le_add_iff_right, itemDepth_le_iff]

lemma depth_object_le_iff {fields : List (String × Json)} {n : Nat} :
    (Json.object fields).depth ≤ n + 1 ↔ ∀ f ∈ fields, f.2.depth ≤ n := by
  rw [depth, Nat.add_le_add_iff_right, fieldDepth_le_iff]

lemma depth_lt_of_mem_array {items : List Json} {j : Json} (h : j ∈ items) :
    j.depth < (Json.array items).depth := by
  rw [depth, Nat.lt_succ_iff]
  exact itemDepth_le_iff.mp le_rfl j h

lemma depth_lt_of_mem_object {fields : List (String × Json)} {f : String × Json} (h : f ∈ fields) :
    f.2.depth < (Json.object fields).depth := by
  rw [depth, Nat.lt_succ_iff]
  exact fieldDepth_le_iff.mp le_rfl f h

@[simp] lemma depth_string (s : String) : (Json.string s).depth = 0 := rfl

/-! ## Numbers -/

/-- The numbers of a value satisfy `p`, and so does what stands for no value. -/
inductive AllNumbers (p : Json → Prop) : Json → Prop where
  | null : AllNumbers p .null
  | bool (b : Bool) : AllNumbers p (.bool b)
  | integer (n : Int) (h : p (.integer n)) : AllNumbers p (.integer n)
  | decimal (negative : Bool) (digits : Nat) (exponent : Int)
      (h : p (.decimal negative digits exponent)) : AllNumbers p (.decimal negative digits exponent)
  | string (s : String) : AllNumbers p (.string s)
  | array (items : List Json) (h : ∀ j ∈ items, AllNumbers p j) : AllNumbers p (.array items)
  | object (fields : List (String × Json)) (h : ∀ f ∈ fields, AllNumbers p f.2) :
      AllNumbers p (.object fields)
  | unusable (h : p .unusable) : AllNumbers p .unusable

/-- The whole numbers of a value fit into 64 bits. -/
def Ranged : Json → Prop := AllNumbers fun
  | .integer n => InRange n
  | _ => True

/-- A value has no other numbers than whole ones, and nothing in it stands for no value. -/
def Whole : Json → Prop := AllNumbers fun
  | .integer _ => True
  | _ => False

section AllNumbers

variable {p : Json → Prop}

@[simp] lemma allNumbers_array_iff {items : List Json} :
    AllNumbers p (.array items) ↔ ∀ j ∈ items, AllNumbers p j :=
  ⟨fun | .array _ h => h, .array items⟩

@[simp] lemma allNumbers_object_iff {fields : List (String × Json)} :
    AllNumbers p (.object fields) ↔ ∀ f ∈ fields, AllNumbers p f.2 :=
  ⟨fun | .object _ h => h, .object fields⟩

@[simp] lemma allNumbers_integer_iff {n : Int} : AllNumbers p (.integer n) ↔ p (.integer n) :=
  ⟨fun | .integer _ h => h, .integer n⟩

@[simp] lemma allNumbers_decimal_iff {negative : Bool} {digits : Nat} {exponent : Int} :
    AllNumbers p (.decimal negative digits exponent) ↔ p (.decimal negative digits exponent) :=
  ⟨fun | .decimal _ _ _ h => h, .decimal negative digits exponent⟩

@[simp] lemma allNumbers_unusable_iff : AllNumbers p .unusable ↔ p .unusable :=
  ⟨fun | .unusable h => h, .unusable⟩

@[simp] lemma allNumbers_string (s : String) : AllNumbers p (.string s) := .string s

end AllNumbers

/-! ## Fields with ascending names -/

lemma mem_of_mem_insertField {name : String} {value : Json} {fs : List (String × Json)}
    {f : String × Json} (h : f ∈ insertField name value fs) : f = (name, value) ∨ f ∈ fs := by
  induction fs with
  | nil => exact .inl (List.mem_singleton.mp h)
  | cons g gs ih =>
    rw [insertField] at h
    split_ifs at h
    · simpa using h
    · rcases List.mem_cons.mp h with h | h
      exacts [.inl h, .inr (List.mem_cons_of_mem _ h)]
    · rcases List.mem_cons.mp h with h | h
      · exact .inr (h ▸ List.mem_cons_self)
      · exact (ih h).imp_right (List.mem_cons_of_mem _)

lemma ascendingNames_insertField (name : String) (value : Json) {fs : List (String × Json)}
    (h : AscendingNames fs) : AscendingNames (insertField name value fs) := by
  induction fs with
  | nil => exact List.pairwise_singleton _ _
  | cons g gs ih =>
    obtain ⟨hg, hgs⟩ := List.pairwise_cons.mp h
    rw [insertField]
    split_ifs with hlt heq
    · refine List.pairwise_cons.mpr ⟨?_, h⟩
      rintro f hf
      rcases List.mem_cons.mp hf with rfl | hf
      exacts [hlt, hlt.trans (hg f hf)]
    · exact List.pairwise_cons.mpr ⟨fun f hf => heq ▸ hg f hf, hgs⟩
    · refine List.pairwise_cons.mpr ⟨?_, ih hgs⟩
      intro f hf
      rcases mem_of_mem_insertField hf with rfl | hf
      exacts [lt_of_le_of_ne (not_lt.mp hlt) (Ne.symm heq), hg f hf]

/-- A field whose name comes after all others is put behind them. -/
lemma insertField_of_lt {name : String} {value : Json} {fs : List (String × Json)}
    (h : ∀ f ∈ fs, f.1 < name) : insertField name value fs = fs ++ [(name, value)] := by
  induction fs with
  | nil => rfl
  | cons g gs ih =>
    have hg := h g List.mem_cons_self
    rw [insertField, if_neg (lt_asymm hg), if_neg (ne_of_gt hg),
      ih fun f hf => h f (List.mem_cons_of_mem _ hf), List.cons_append]

lemma ascendingNames_foldl_insertField (fs : List (String × Json)) {sorted : List (String × Json)}
    (h : AscendingNames sorted) :
    AscendingNames (fs.foldl (fun sorted f => insertField f.1 f.2 sorted) sorted) := by
  induction fs generalizing sorted with
  | nil => exact h
  | cons f fs ih => exact ih (ascendingNames_insertField f.1 f.2 h)

lemma ascendingNames_sortFields (fs : List (String × Json)) : AscendingNames (sortFields fs) :=
  ascendingNames_foldl_insertField fs .nil

lemma mem_of_mem_sortFields {fs : List (String × Json)} {f : String × Json}
    (h : f ∈ sortFields fs) : f ∈ fs := by
  suffices ∀ sorted, f ∈ fs.foldl (fun sorted f => insertField f.1 f.2 sorted) sorted →
      f ∈ sorted ∨ f ∈ fs by simpa using this [] h
  clear h
  induction fs with
  | nil => exact fun _ => .inl
  | cons g gs ih =>
    intro sorted h
    rcases ih _ h with h | h
    · rcases mem_of_mem_insertField h with rfl | h
      exacts [.inr List.mem_cons_self, .inl h]
    · exact .inr (List.mem_cons_of_mem _ h)

/-- Fields with ascending names are sorted already. -/
lemma sortFields_of_ascendingNames {fs : List (String × Json)} (h : AscendingNames fs) :
    sortFields fs = fs := by
  suffices ∀ sorted, AscendingNames (sorted ++ fs) →
      fs.foldl (fun sorted f => insertField f.1 f.2 sorted) sorted = sorted ++ fs from this [] h
  clear h
  induction fs with
  | nil => simp
  | cons f fs ih =>
    intro sorted h
    have hlt : ∀ g ∈ sorted, g.1 < f.1 := fun g hg =>
      (List.pairwise_append.mp h).2.2 g hg f List.mem_cons_self
    rw [List.foldl_cons, insertField_of_lt hlt, ih _ (by simpa using h)]
    simp

/-! ## The canonical form -/

lemma canonicalItems_eq_map (items : List Json) : canonicalItems items = items.map canonical := by
  induction items with
  | nil => rfl
  | cons j js ih => rw [canonicalItems, ih, List.map_cons]

lemma canonicalFields_eq_map (fields : List (String × Json)) :
    canonicalFields fields = fields.map fun f => (f.1, f.2.canonical) := by
  induction fields with
  | nil => rfl
  | cons f fs ih => rw [canonicalFields, ih, List.map_cons]

/-- A field of the canonical form is the canonical form of a field. -/
lemma exists_of_mem_canonical {fields : List (String × Json)} {f : String × Json}
    (h : f ∈ sortFields (canonicalFields fields)) : ∃ g ∈ fields, (g.1, g.2.canonical) = f := by
  have hmem := mem_of_mem_sortFields h
  rw [canonicalFields_eq_map] at hmem
  exact List.mem_map.mp hmem

/-- The canonical form is its own canonical form. -/
lemma canonical_canonical (j : Json) : j.canonical.canonical = j.canonical := by
  induction j using Json.induction with
  | array items ih =>
    simp only [canonical, canonicalItems_eq_map, List.map_map]
    exact congrArg _ (List.map_congr_left ih)
  | object fields ih =>
    have hfixed : canonicalFields (sortFields (canonicalFields fields)) =
        sortFields (canonicalFields fields) := by
      rw [canonicalFields_eq_map (sortFields _)]
      refine (List.map_congr_left fun f hf => ?_).trans (List.map_id _)
      obtain ⟨g, hg, rfl⟩ := exists_of_mem_canonical hf
      rw [ih g hg, id]
    rw [canonical, canonical, hfixed, sortFields_of_ascendingNames (ascendingNames_sortFields _)]
  | _ => rfl

/-- The canonical form is not nested more deeply. -/
lemma depth_canonical_le (j : Json) : j.canonical.depth ≤ j.depth := by
  induction j using Json.induction with
  | array items ih =>
    rw [canonical, canonicalItems_eq_map, depth.eq_def (.array items), depth_array_le_iff]
    simp only [List.forall_mem_map]
    exact fun j hj => (ih j hj).trans (itemDepth_le_iff.mp le_rfl j hj)
  | object fields ih =>
    rw [canonical, depth.eq_def (.object fields), depth_object_le_iff]
    intro f hf
    obtain ⟨g, hg, rfl⟩ := exists_of_mem_canonical hf
    exact (ih g hg).trans (fieldDepth_le_iff.mp le_rfl g hg)
  | _ => exact le_rfl

/-- The canonical form has no other numbers. -/
lemma AllNumbers.canonical {p : Json → Prop} {j : Json} (h : AllNumbers p j) :
    AllNumbers p j.canonical := by
  induction h with
  | array items h ih =>
    rw [Json.canonical, canonicalItems_eq_map, allNumbers_array_iff, List.forall_mem_map]
    exact ih
  | object fields h ih =>
    rw [Json.canonical, allNumbers_object_iff]
    intro f hf
    obtain ⟨g, hg, rfl⟩ := exists_of_mem_canonical hf
    exact ih g hg
  | integer n h => exact .integer n h
  | decimal negative digits exponent h => exact .decimal negative digits exponent h
  | null => exact .null
  | bool b => exact .bool b
  | string s => exact .string s
  | unusable h => exact .unusable h

/-! ## Usable values -/

lemma usableItems_iff {items : List Json} :
    usableItems items = true ↔ ∀ j ∈ items, j.isUsable = true := by
  induction items with
  | nil => simp [usableItems]
  | cons j js ih => simp [usableItems, ih]

lemma usableFields_iff {fields : List (String × Json)} :
    usableFields fields = true ↔ ∀ f ∈ fields, f.2.isUsable = true := by
  induction fields with
  | nil => simp [usableFields]
  | cons f fs ih => simp [usableFields, ih]

/-- The canonical form of a usable value is usable. -/
lemma isUsable_canonical {j : Json} (h : j.isUsable = true) : j.canonical.isUsable = true := by
  induction j using Json.induction with
  | array items ih =>
    rw [isUsable, usableItems_iff] at h
    rw [canonical, isUsable, usableItems_iff, canonicalItems_eq_map, List.forall_mem_map]
    exact fun j hj => ih j hj (h j hj)
  | object fields ih =>
    rw [isUsable, usableFields_iff] at h
    rw [canonical, isUsable, usableFields_iff]
    intro f hf
    obtain ⟨g, hg, rfl⟩ := exists_of_mem_canonical hf
    exact ih g hg (h g hg)
  | _ => exact h

end DeviceFleet.Json
