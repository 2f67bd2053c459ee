/-
# Histories of the store

The store takes one request after the other, of any kind and with any arguments, and answers or
refuses.  This file shows that a refused request leaves no trace, that no request breaks a sound
store, and so that the store is sound after any history that starts without records: the index of
the keys and the things then say the same.
-/
import DeviceFleet.Proofs.Store.Groups
import DeviceFleet.Proofs.Store.Memberships
import DeviceFleet.Proofs.Store.Profiles
import DeviceFleet.Store.Command

namespace DeviceFleet.Store

variable {s s' : Store} {c : Command}

/-! ## One request -/

lemma Outcome.map_eq_error {α β : Type} {f : α → β} {o : Outcome α} {e : StoreError}
    (h : o.map f = (.error e, s')) : o = (.error e, s') := by
  obtain ⟨⟨e'⟩ | ⟨a⟩, t⟩ := o
  · simpa [Outcome.map, Except.map] using h
  · simp [Outcome.map, Except.map] at h

/-- A request that is refused leaves the store as it was, whichever it is. -/
lemma run_error {e : StoreError} (h : c.run s = (.error e, s')) : s' = s := by
  cases c with
  | saveThings things => exact saveThings_error (Outcome.map_eq_error h)
  | updateThing thing => exact updateThing_error (Outcome.map_eq_error h)
  | updateKey id key => exact updateKey_error (Outcome.map_eq_error h)
  | saveProfiles profiles => exact saveProfiles_error (Outcome.map_eq_error h)
  | updateProfile profile => exact updateProfile_error (Outcome.map_eq_error h)
  | removeProfiles ids walk => exact removeProfiles_error (Outcome.map_eq_error h)
  | saveGroup group => exact saveGroup_error (Outcome.map_eq_error h)
  | updateGroup group => exact updateGroup_error (Outcome.map_eq_error h)
  | saveMemberships memberships => exact saveMemberships_error (Outcome.map_eq_error h)
  | updateMemberships memberships => exact updateMemberships_error (Outcome.map_eq_error h)
  -- taking out is never refused
  | removeThings _ | removeGroups _ | removeMemberships _ _ => simp [Command.run] at h
  -- the others only read
  | _ => exact (congrArg Prod.snd h).symm

/-- No request breaks a sound store, be it granted or refused. -/
lemma Sound.run (h : s.Sound) (c : Command) : (c.run s).2.Sound := by
  cases c with
  | saveThings things => exact h.saveThings things
  | updateThing thing => exact h.updateThing thing
  | updateKey id key => exact h.updateKey id key
  | removeThings ids => exact h.removeThings ids
  | saveProfiles profiles => exact h.saveProfiles profiles
  | updateProfile profile => exact h.updateProfile profile
  | removeProfiles ids walk => exact h.removeProfiles walk ids
  | saveGroup group => exact h.saveGroup group
  | updateGroup group => exact h.updateGroup group
  | removeGroups ids => exact h.removeGroups ids
  | saveMemberships memberships => exact h.saveMemberships memberships
  | updateMemberships memberships => exact h.updateMemberships memberships
  | removeMemberships groupId memberIds => exact h.removeMemberships groupId memberIds
  -- the others only read
  | _ => exact h

/-! ## Until one is refused -/

/-- Carries out requests one after the other, until one is refused. -/
def runAll : List Command → Store → Outcome Unit
  | [], s => (.ok (), s)
  | c :: cs, s =>
    match c.run s with
    | (.ok _, s) => runAll cs s
    | (.error e, s) => (.error e, s)

section RunAll

variable {cs ds : List Command}

lemma runAll_singleton (c : Command) (s : Store) : runAll [c] s = (c.run s).map fun _ => () := by
  rw [runAll]
  rcases c.run s with ⟨⟨e⟩ | ⟨answer⟩, s'⟩ <;> rfl

lemma runAll_cons_ok {answer : Answer} (h : c.run s = (.ok answer, s')) :
    runAll (c :: cs) s = runAll cs s' := by
  rw [runAll, h]

lemma runAll_cons_error {e : StoreError} (h : c.run s = (.error e, s')) :
    runAll (c :: cs) s = (.error e, s') := by
  rw [runAll, h]

lemma runAll_append_ok (h : runAll cs s = (.ok (), s')) : runAll (cs ++ ds) s = runAll ds s' := by
  induction cs generalizing s with
  | nil =>
    obtain rfl := congrArg Prod.snd h
    rfl
  | cons c cs ih =>
    rcases hc : c.run s with ⟨⟨e⟩ | ⟨answer⟩, t⟩
    · simp [runAll_cons_error hc] at h
    · rw [runAll_cons_ok hc] at h
      rw [List.cons_append, runAll_cons_ok hc]
      exact ih h

lemma runAll_append_error {e : StoreError} (h : runAll cs s = (.error e, s')) :
    runAll (cs ++ ds) s = (.error e, s') := by
  induction cs generalizing s with
  | nil => simp [runAll] at h
  | cons c cs ih =>
    rcases hc : c.run s with ⟨⟨e'⟩ | ⟨answer⟩, t⟩
    · rw [runAll_cons_error hc] at h
      rw [List.cons_append, runAll_cons_error hc]
      exact h
    · rw [runAll_cons_ok hc] at h
      rw [List.cons_append, runAll_cons_ok hc]
      exact ih h

/-- The requests for the elements of a list are all granted when each is, after those before it.
Every element satisfies `P`, and `R` holds between an element and each later one. -/
lemma runAll_map_eq_ok {α : Type} {request : α → Command} {motive : List α → Store → Prop}
    {P : α → Prop} {R : α → α → Prop} {done xs : List α}
    (hstep : ∀ {done x s}, motive done s → P x → (∀ y ∈ done, R y x) →
      ∃ answer s', (request x).run s = (.ok answer, s') ∧ motive (done ++ [x]) s')
    (h : motive done s) (hP : ∀ x ∈ xs, P x) (hR : xs.Pairwise R)
    (hdone : ∀ x ∈ xs, ∀ y ∈ done, R y x) :
    ∃ s', runAll (xs.map request) s = (.ok (), s') ∧ motive (done ++ xs) s' := by
  induction xs generalizing done s with
  | nil => exact ⟨s, rfl, by simpa using h⟩
  | cons x xs ih =>
    obtain ⟨hPx, hP⟩ := List.forall_mem_cons.1 hP
    obtain ⟨hRx, hR⟩ := List.pairwise_cons.1 hR
    obtain ⟨hdonex, hdone⟩ := List.forall_mem_cons.1 hdone
    obtain ⟨answer, t, hx, ht⟩ := hstep h hPx hdonex
    have hrest := ih ht hP hR fun y hy =>
      List.forall_mem_append.2 ⟨hdone y hy, List.forall_mem_singleton.2 (hRx y hy)⟩
    simpa only [List.map_cons, runAll, hx, List.append_assoc, List.singleton_append] using hrest

/-! ## What is granted before -/

/-- The requests `done` are the longest part of `cs`, from its beginning on, that is granted. -/
structure GrantsUpTo (s : Store) (cs done : List Command) : Prop where
  /-- It is a part of the requests, from their beginning on. -/
  part : done <+: cs
  /-- Its requests are granted, one after the other. -/
  granted : runAll done s = (.ok (), s.after done)
  /-- No longer part is granted. -/
  longest : ∀ more, more <+: cs → (runAll more s).1 = .ok () → more <+: done

lemma after_cons (c : Command) (cs : List Command) (s : Store) :
    s.after (c :: cs) = (c.run s).2.after cs := rfl

/-- When the first request is refused, none is granted. -/
lemma grantsUpTo_nil {e : StoreError} (h : c.run s = (.error e, s')) :
    s.GrantsUpTo (c :: cs) [] := by
  refine ⟨List.nil_prefix, rfl, fun more hmore hgranted => ?_⟩
  rcases more with _ | ⟨c', more⟩
  · exact List.nil_prefix
  · obtain ⟨rfl, -⟩ := List.cons_prefix_cons.1 hmore
    rw [runAll_cons_error h] at hgranted
    simp at hgranted

/-- A first request that is granted comes before the longest part of the others. -/
lemma GrantsUpTo.cons {answer : Answer} {done : List Command} (h : s'.GrantsUpTo cs done)
    (hc : c.run s = (.ok answer, s')) : s.GrantsUpTo (c :: cs) (c :: done) := by
  refine ⟨List.cons_prefix_cons.2 ⟨rfl, h.part⟩, ?_, fun more hmore hgranted => ?_⟩
  · rw [runAll_cons_ok hc, h.granted, after_cons, hc]
  · rcases more with _ | ⟨c', more⟩
    · exact List.nil_prefix
    · obtain ⟨rfl, hpart⟩ := List.cons_prefix_cons.1 hmore
      rw [runAll_cons_ok hc] at hgranted
      exact List.cons_prefix_cons.2 ⟨rfl, h.longest more hpart hgranted⟩

/-- Carrying out requests until one is refused leaves the store after the longest part that is
granted; the refusal is that of the next request, if there is one. -/
lemma exists_grantsUpTo (cs : List Command) (s : Store) :
    ∃ done, s.GrantsUpTo cs done ∧ (runAll cs s).2 = s.after done ∧
      ((runAll cs s).1 = .ok () ↔ done = cs) ∧
        ∀ c, done ++ [c] <+: cs →
          ∃ e, (c.run (s.after done)).1 = .error e ∧ (runAll cs s).1 = .error e := by
  induction cs generalizing s with
  | nil => exact ⟨[], ⟨List.nil_prefix, rfl, fun _ h _ => h⟩, rfl, by simp [runAll], by simp⟩
  | cons c cs ih =>
    rcases hc : c.run s with ⟨⟨e⟩ | ⟨answer⟩, t⟩
    · obtain rfl := run_error hc
      rw [runAll_cons_error hc]
      refine ⟨[], grantsUpTo_nil hc, rfl, by simp, fun c' hc' => ?_⟩
      obtain ⟨rfl, -⟩ := List.cons_prefix_cons.1 hc'
      exact ⟨e, congrArg Prod.fst hc, rfl⟩
    · obtain ⟨done, hdone, hstore, hall, hnext⟩ := ih t
      have hafter : s.after (c :: done) = t.after done := by rw [after_cons, hc]
      rw [runAll_cons_ok hc]
      refine ⟨c :: done, hdone.cons hc, hafter ▸ hstore, by simpa using hall, fun c' hc' => ?_⟩
      rw [hafter]
      exact hnext c' (List.cons_prefix_cons.1 hc').2

end RunAll

/-! ## A history -/

lemma Sound.after (h : s.Sound) (history : List Command) : (s.after history).Sound := by
  induction history generalizing s with
  | nil => exact h
  | cons c history ih => exact ih (h.run c)

/-- After any history that starts without records, the key index is exact, every record is kept
under its own identifier and no key is blank.  So no two things have one key, and a key finds
exactly the thing that has it. -/
theorem key_index_exact (history : List Command) :
    let s := (∅ : Store).after history
    s.Sound ∧
      (∀ {id id' : String} {t t' : Thing}, s.things[id]? = some t → s.things[id']? = some t' →
        t.key = t'.key → id = id') ∧
      ∀ key id : String, (Command.findThingId key).run s = (.ok (.identifier id), s) ↔
        ∃ t : Thing, s.things[id]? = some t ∧ t.key = key := by
  intro s
  have hsound : s.Sound := sound_empty.after history
  refine ⟨hsound, fun ht ht' hkey => hsound.key_inj ht ht' hkey, fun key id => ?_⟩
  rw [← hsound.findThingId_eq_ok_iff]
  rcases hfind : s.findThingId key with e | id'
  · simp [Command.run, hfind, Except.map]
  · simp [Command.run, hfind, Except.map]

end DeviceFleet.Store
