/-
# Reading back records

A record that is written as an object with its parts as fields is read back part by part, whatever
the parts are.  And a part that is read from any value stands directly in it.
-/
import DeviceFleet.Json.Record
import DeviceFleet.Proofs.Json.Canonical

namespace DeviceFleet.Json

lemma mapM_eq_some {α β γ : Type} {f : α → β} {g : β → Option γ} {h : α → γ} {l : List α}
    (hl : ∀ a ∈ l, g (f a) = some (h a)) : (l.map f).mapM g = some (l.map h) := by
  induction l with
  | nil => rfl
  | cons a l ih =>
    obtain ⟨ha, hl⟩ := List.forall_mem_cons.mp hl
    rw [List.map_cons, List.mapM_cons, ha, ih hl]
    rfl

lemma forall_of_mapM_eq_some {α β : Type} {g : α → Option β} {l : List α} {l' : List β}
    (h : l.mapM g = some l') : ∀ b ∈ l', ∃ a ∈ l, g a = some b := by
  induction l generalizing l' with
  | nil =>
    cases h
    simp
  | cons a l ih =>
    rw [List.mapM_cons] at h
    obtain ⟨b, hb, h⟩ := Option.bind_eq_some_iff.mp h
    obtain ⟨bs, hbs, h⟩ := Option.bind_eq_some_iff.mp h
    cases h
    refine List.forall_mem_cons.mpr ⟨⟨a, List.mem_cons_self, hb⟩, fun c hc => ?_⟩
    obtain ⟨a', ha', hc⟩ := ih hbs c hc
    exact ⟨a', List.mem_cons_of_mem _ ha', hc⟩

/-! ## Writing and reading -/

/-- A field that is present is found under its name. -/
lemma valuesOf_present {fields : List (String × Option Json)}
    (hnodup : (fields.map (·.1)).Nodup) {f : String × Option Json} (hf : f ∈ fields) :
    valuesOf f.1 (fields.filterMap fun f => f.2.map fun v => (f.1, v)) = f.2.toList := by
  induction fields with
  | nil => simp at hf
  | cons g gs ih =>
    obtain ⟨hg, hgs⟩ := List.nodup_cons.mp hnodup
    have hcons : ∀ name, valuesOf name ((g :: gs).filterMap fun f => f.2.map fun v => (f.1, v)) =
        (if g.1 = name then g.2.toList else []) ++
          valuesOf name (gs.filterMap fun f => f.2.map fun v => (f.1, v)) := by
      intro name
      obtain ⟨n, v⟩ := g
      cases v <;> by_cases h : n = name <;> simp [valuesOf, h]
    rw [hcons]
    rcases List.mem_cons.mp hf with rfl | hf
    · have hnone : valuesOf f.1 (gs.filterMap fun f => f.2.map fun v => (f.1, v)) = [] := by
        simp only [valuesOf, List.map_eq_nil_iff, List.filter_eq_nil_iff, List.mem_filterMap,
          Option.map_eq_some_iff]
        rintro _ ⟨e, he, v, -, rfl⟩ heq
        exact hg (List.mem_map.mpr ⟨e, he, by simpa using heq⟩)
      rw [hnone, if_pos rfl, List.append_nil]
    · have hne : g.1 ≠ f.1 := fun heq => hg (List.mem_map.mpr ⟨f, hf, heq.symm⟩)
      rw [if_neg hne, List.nil_append, ih hgs hf]

/-- A record that is written as an object is read back part by part. -/
lemma record?_ofFields {names : List String} (hnodup : names.Nodup)
    (fields : List (String × Option Json)) (hnames : fields.map (·.1) = names) :
    record? names (ofFields fields) = some (fields.map (·.2)) := by
  subst hnames
  refine mapM_eq_some fun f hf => ?_
  rw [part?, valuesOf_present hnodup hf]
  cases f.2 <;> rfl

/-! ## Parts of any value -/

/-- The value stands directly in the container. -/
inductive IsPart (p : Json) : Json → Prop where
  | item {items : List Json} (h : p ∈ items) : IsPart p (.array items)
  | field {fields : List (String × Json)} {f : String × Json} (h : f ∈ fields) (hf : f.2 = p) :
      IsPart p (.object fields)

lemma IsPart.depth_lt {p j : Json} (h : IsPart p j) : p.depth < j.depth := by
  cases h with
  | item h => exact depth_lt_of_mem_array h
  | field h hf => exact hf ▸ depth_lt_of_mem_object h

lemma IsPart.ranged {p j : Json} (h : IsPart p j) (hj : j.Ranged) : p.Ranged := by
  cases h with
  | item h => exact allNumbers_array_iff.mp hj p h
  | field h hf => exact hf ▸ allNumbers_object_iff.mp hj _ h

/-- A part of a record stands directly in the value that it is read from. -/
lemma isPart_of_record? {names : List String} {j p : Json} {parts : List (Option Json)}
    (h : record? names j = some parts) (hp : some p ∈ parts) : IsPart p j := by
  cases j with
  | object fields =>
    obtain ⟨name, -, hname⟩ := forall_of_mapM_eq_some h _ hp
    have hvalues : p ∈ valuesOf name fields := by
      unfold part? at hname
      split at hname <;> cases hname
      next hvalues => exact hvalues ▸ List.mem_singleton_self p
    obtain ⟨f, hf, rfl⟩ := List.mem_map.mp hvalues
    exact .field (List.mem_filter.mp hf).1 rfl
  | array items =>
    simp only [record?] at h
    split_ifs at h
    cases h
    rcases List.mem_append.mp hp with hp | hp
    · obtain ⟨q, hq, heq⟩ := List.mem_map.mp hp
      exact .item (Option.some.inj heq ▸ hq)
    · exact absurd (List.eq_of_mem_replicate hp) (by simp)
  | _ => cases h

/-- An item of a list stands directly in the value that it is read from. -/
lemma isPart_of_list? {α : Type} {read : Json → Option α} {j : Json} {l : List α}
    (h : list? read j = some l) {a : α} (ha : a ∈ l) : ∃ p, read p = some a ∧ IsPart p j := by
  cases j with
  | array items =>
    obtain ⟨p, hp, hread⟩ := forall_of_mapM_eq_some h a ha
    exact ⟨p, hread, .item hp⟩
  | _ => cases h

/-- An item of a list that is a part of a record stands two containers deep in the value that the
record is read from. -/
lemma exists_of_required_list? {names : List String} {j : Json} {parts : List (Option Json)}
    (h : record? names j = some parts) {part : Option Json} (hpart : part ∈ parts) {α : Type}
    {read : Json → Option α} {l : List α} (hl : required (list? read) part = some l) {a : α}
    (ha : a ∈ l) :
    ∃ p, read p = some a ∧ p.depth + 2 ≤ j.depth ∧ (j.Ranged → p.Ranged) := by
  obtain ⟨q, rfl, hq⟩ := Option.bind_eq_some_iff.mp hl
  have hqj := isPart_of_record? h hpart
  obtain ⟨p, hread, hpq⟩ := isPart_of_list? hq ha
  have hlt := hpq.depth_lt
  have hlt' := hqj.depth_lt
  exact ⟨p, hread, by omega, fun hj => hpq.ranged (hqj.ranged hj)⟩

end DeviceFleet.Json
