/-
# Batches of metadata

A batch merges values into the metadata of stored things, element by element.  What comes of it is
described entry by entry: the last element for the thing that has the entry counts, and an entry
that no element has stays.  So a batch that comes after a beginning of itself has the last word on
whatever the beginning has set, and a batch that was broken off can simply be brought again.
-/
import DeviceFleet.Proofs.Store.Things

namespace DeviceFleet.Store

variable {s s' s'' : Store} {things batch done : List Thing} {id k : String}

/-! ## The last word of a batch -/

/-- The value that a batch has for an entry of a thing: that of the last element for the thing that
has the entry. -/
def lastValue? (things : List Thing) (id k : String) : Option Json :=
  things.reverse.findSome? fun t => if t.id = id then t.metadata[k]? else none

lemma lastValue?_append :
    lastValue? (done ++ things) id k = (lastValue? things id k).or (lastValue? done id k) := by
  rw [lastValue?, List.reverse_append, List.findSome?_append]
  rfl

/-- A batch has the last word on its own beginning. -/
lemma lastValue?_append_of_prefix (h : done <+: things) :
    lastValue? (done ++ things) id k = lastValue? things id k := by
  obtain ⟨rest, rfl⟩ := h
  rw [lastValue?_append, lastValue?_append, Option.or_assoc, Option.or_self]

/-! ## What a batch makes of a store -/

/-- The store `s'` is the store `s` with the metadata of a batch merged into that of its things. -/
structure MetadataMerged (things : List Thing) (s s' : Store) : Prop where
  /-- Nothing but things changes. -/
  rest : s' = { s with things := s'.things }
  /-- A stored thing stays as it is but for its metadata, in which an entry has the value of the
  batch, else the value it had. -/
  thing : ∀ {id : String} {stored : Thing}, s.things[id]? = some stored → ∃ metadata : Metadata,
    s'.things[id]? = some { stored with metadata := metadata } ∧
      ∀ k : String, metadata[k]? = (lastValue? things id k).or stored.metadata[k]?
  /-- No thing is added. -/
  missing : ∀ {id : String}, s.things[id]? = none → s'.things[id]? = none

namespace MetadataMerged

lemma refl (s : Store) : MetadataMerged [] s s :=
  ⟨rfl, fun {_ stored} hstored => ⟨stored.metadata, hstored, fun _ => rfl⟩, fun hnone => hnone⟩

/-- One element is merged into the thing that it is for. -/
lemma single {t stored : Thing} (hstored : s.things[t.id]? = some stored) :
    MetadataMerged [t] s { s with
      things := s.things.insert t.id
        { stored with metadata := stored.metadata.merge t.metadata } } := by
  refine ⟨rfl, ?_, ?_⟩
  · intro id current hcurrent
    simp only [Std.ExtTreeMap.getElem?_insert, Std.compare_eq_iff_eq]
    by_cases hid : t.id = id
    · subst hid
      obtain rfl := Option.some.inj (hstored.symm.trans hcurrent)
      refine ⟨_, if_pos rfl, fun k => ?_⟩
      simp [lastValue?]
    · exact ⟨current.metadata, by rw [if_neg hid, hcurrent], fun k => by simp [lastValue?, hid]⟩
  · intro id hnone
    have hid : t.id ≠ id := by
      rintro rfl
      simp [hstored] at hnone
    simpa [Std.ExtTreeMap.getElem?_insert, hid] using hnone

/-- One batch after the other. -/
lemma append (h : MetadataMerged done s s') (h' : MetadataMerged things s' s'') :
    MetadataMerged (done ++ things) s s'' := by
  refine ⟨?_, ?_, fun hnone => h'.missing (h.missing hnone)⟩
  · rw [h'.rest, h.rest]
  · intro id stored hstored
    obtain ⟨metadata, hmid, hvalue⟩ := h.thing hstored
    obtain ⟨metadata', hlast, hvalue'⟩ := h'.thing hmid
    refine ⟨metadata', hlast, fun k => ?_⟩
    rw [hvalue', hvalue, lastValue?_append, Option.or_assoc]

/-- Which values a batch has is all that matters. -/
lemma congr (h : MetadataMerged things s s')
    (hsame : ∀ id k, lastValue? things id k = lastValue? batch id k) :
    MetadataMerged batch s s' := by
  refine ⟨h.rest, fun {id stored} hstored => ?_, h.missing⟩
  obtain ⟨metadata, hnew, hvalue⟩ := h.thing hstored
  exact ⟨metadata, hnew, fun k => by rw [hvalue, hsame]⟩

/-- There is one store only that a batch makes of a store. -/
lemma unique (h : MetadataMerged things s s') (h' : MetadataMerged things s s'') : s' = s'' := by
  have hthings : s'.things = s''.things := by
    apply Std.ExtTreeMap.ext_getElem?
    intro id
    rcases hstored : s.things[id]? with _ | stored
    · rw [h.missing hstored, h'.missing hstored]
    · obtain ⟨metadata, hnew, hvalue⟩ := h.thing hstored
      obtain ⟨metadata', hnew', hvalue'⟩ := h'.thing hstored
      have hmetadata : metadata = metadata' := by
        apply Std.ExtTreeMap.ext_getElem?
        intro k
        rw [hvalue, hvalue']
      rw [hnew, hnew', hmetadata]
  rw [h.rest, h'.rest, hthings]

/-- **A batch absorbs its own beginning**, and so itself. -/
lemma absorb (h : MetadataMerged done s s') (hbegins : done <+: things)
    (h' : MetadataMerged things s' s'') : MetadataMerged things s s'' :=
  (h.append h').congr fun _ _ => lastValue?_append_of_prefix hbegins

lemma mem_things_iff (h : MetadataMerged things s s') : id ∈ s'.things ↔ id ∈ s.things := by
  rw [Std.ExtTreeMap.mem_iff_isSome_getElem?, Std.ExtTreeMap.mem_iff_isSome_getElem?]
  rcases hstored : s.things[id]? with _ | stored
  · rw [h.missing hstored]
  · obtain ⟨metadata, hnew, -⟩ := h.thing hstored
    rw [hnew]
    rfl

end MetadataMerged

end DeviceFleet.Store
