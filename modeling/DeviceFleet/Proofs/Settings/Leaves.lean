/-
# The leaves of the settings

Settings have six leaves, each at its place in a section.  Entries of sources are put in a tree one
after the other, so what the tree has at a leaf in the end is what the last of them that says
something there says.  This is shown for one entry (`Leaf.HoldsAt.put`) and carried along all of
them (`Leaf.HoldsAt.foldl`).  It needs that the entries keep to the shape of the settings: what
stands where a section belongs is a table, and what stands at a leaf is none.
-/
import DeviceFleet.Proofs.Settings.Library

namespace DeviceFleet.Settings

/-- A value that settings consist of. -/
inductive Leaf where
  | cacheEnabled
  | cacheCapacity
  | rpcTimeout
  | logLevel
  | logJson
  | metricsEnabled
deriving DecidableEq, Repr

namespace Leaf

/-- All leaves. -/
def all : List Leaf :=
  [.cacheEnabled, .cacheCapacity, .rpcTimeout, .logLevel, .logJson, .metricsEnabled]

/-- The section of a leaf and its name there. -/
def place : Leaf → String × String
  | .cacheEnabled => ("cache", "enabled")
  | .cacheCapacity => ("cache", "max_capacity")
  | .rpcTimeout => ("access", "rpc_timeout_ms")
  | .logLevel => ("logging", "level")
  | .logJson => ("logging", "json")
  | .metricsEnabled => ("metrics", "enabled")

/-- The name of the variable of the environment that sets a leaf, in small letters. -/
def envName (l : Leaf) : String := "fleetgate_" ++ l.place.1 ++ "__" ++ l.place.2

/-- What a leaf is. -/
abbrev Value : Leaf → Type
  | .cacheEnabled | .logJson | .metricsEnabled => Bool
  | .cacheCapacity | .rpcTimeout => Nat
  | .logLevel => String

/-- The value that settings have at a leaf. -/
def get (c : Settings) : (l : Leaf) → l.Value
  | .cacheEnabled => c.cacheEnabled
  | .cacheCapacity => c.cacheCapacity
  | .rpcTimeout => c.rpcTimeout
  | .logLevel => c.logLevel
  | .logJson => c.logJson
  | .metricsEnabled => c.metricsEnabled

section Library

variable (lib : Library)

/-- What a tree has at a leaf. -/
def at? (l : Leaf) (tree : lib.Value) : Option lib.Value :=
  (lib.field? tree l.place.1).bind (lib.field? · l.place.2)

/-- What an entry of a source says at a leaf. -/
def saidBy? (l : Leaf) (e : String × lib.Value) : Option lib.Value :=
  match lib.path e.1 with
  | (root, []) => if root = l.place.1 then lib.field? e.2 l.place.2 else none
  | (root, [.entry name]) => if (root, name) = l.place then some e.2 else none
  | _ => none

/-- Does an entry of a source leave the section of a leaf a table, and the leaf none? -/
def isKeptBy (l : Leaf) (e : String × lib.Value) : Bool :=
  match lib.path e.1 with
  | (root, []) =>
    root ≠ l.place.1 ||
      (lib.isTable e.2 && (lib.field? e.2 l.place.2).all fun v => !lib.isTable v)
  | (root, [.entry name]) => (root, name) ≠ l.place || !lib.isTable e.2
  | (root, .entry name :: _ :: _) => (root, name) ≠ l.place
  | (root, .item _ :: _) => root ≠ l.place.1

/-- A tree whose section of a leaf is a table, if it is there, has some value at the leaf. -/
structure HoldsAt (l : Leaf) (tree : lib.Value) (v : Option lib.Value) : Prop where
  isTable : ∀ sec ∈ lib.field? tree l.place.1, lib.isTable sec = true
  at?_eq : l.at? lib tree = v

end Library

end Leaf

/-- An entry of a source keeps to the shape of the settings: what stands where a section belongs is
a table, and what stands at a leaf is none. -/
def Keeps (lib : Library) (e : String × lib.Value) : Prop :=
  ∀ l ∈ Leaf.all, l.isKeptBy lib e = true

instance (lib : Library) (e : String × lib.Value) : Decidable (Keeps lib e) :=
  inferInstanceAs (Decidable (∀ l ∈ _, _))

/-! ## Entries put in a tree -/

variable {lib : Library}

namespace Leaf

/-- A tree that has a table where the section of a leaf belongs. -/
lemma HoldsAt.of_field? {l : Leaf} {tree sec : lib.Value} {v : Option lib.Value}
    (hsec : lib.field? tree l.place.1 = some sec) (htable : lib.isTable sec = true)
    (hfield : lib.field? sec l.place.2 = v) : l.HoldsAt lib tree v where
  isTable sec' h := Option.some.inj (hsec.symm.trans h) ▸ htable
  at?_eq := by rw [at?, hsec, Option.bind_some, hfield]

lemma saidBy?_of_ne {l : Leaf} {e : String × lib.Value} (h : l.place.1 ≠ (lib.path e.1).1) :
    l.saidBy? lib e = none := by
  rcases hpath : lib.path e.1 with ⟨root, steps⟩
  have hroot : root ≠ l.place.1 := by simpa [hpath] using h.symm
  rw [saidBy?, hpath]
  split <;> simp_all [Prod.ext_iff]

/-- An entry put in a tree: at a leaf it says what holds, and where it says nothing the value of the
tree stays. -/
lemma HoldsAt.put (lawful : lib.Lawful) {l : Leaf} {tree : lib.Value} {v : Option lib.Value}
    (h : l.HoldsAt lib tree v) {e : String × lib.Value} (kept : l.isKeptBy lib e = true) :
    l.HoldsAt lib (lib.put e.1 e.2 tree) ((l.saidBy? lib e).or v) := by
  obtain ⟨htable, rfl⟩ := h
  by_cases hroot : l.place.1 = (lib.path e.1).1
  · rcases hpath : lib.path e.1 with ⟨root, steps⟩
    obtain rfl : l.place.1 = root := by rw [hroot, hpath]
    match steps with
    | [] =>
      -- the entry has the section, which is laid over that of the tree
      simp only [isKeptBy, hpath, ne_eq, not_true_eq_false, decide_false, Bool.false_or,
        Bool.and_eq_true, Option.all_eq_true, Bool.not_eq_true'] at kept
      obtain ⟨sec, hsec, hsecTable, hfield⟩ := lawful.put_table hpath kept.1 htable
      refine .of_field? hsec hsecTable ?_
      rw [hfield _ kept.2, saidBy?, hpath]
      simp [at?]
    | .entry name :: steps =>
      obtain ⟨sec, hsec, hsecTable, hother, hvalue⟩ := lawful.put_entry hpath htable
      refine .of_field? hsec hsecTable ?_
      by_cases hname : l.place.2 = name
      · -- the entry has the leaf, so no step goes further
        subst hname
        cases steps with
        | nil =>
          have hscalar : lib.isTable e.2 = false := by simpa [isKeptBy, hpath] using kept
          rw [hvalue rfl hscalar]
          simp [saidBy?, hpath]
        | cons step steps => simp [isKeptBy, hpath] at kept
      · rw [hother _ hname, at?]
        have hsaid : l.saidBy? lib e = none := by
          rw [saidBy?, hpath]
          cases steps <;> simp [Prod.ext_iff, Ne.symm hname]
        rw [hsaid, Option.none_or]
    | .item i :: steps => simp [isKeptBy, hpath] at kept
  · rw [saidBy?_of_ne hroot, Option.none_or]
    constructor
    · rwa [lawful.field?_put_of_ne hroot]
    · rw [at?, lawful.field?_put_of_ne hroot, at?]

/-- Entries put in a tree: at a leaf the last entry that says something holds. -/
lemma HoldsAt.foldl (lawful : lib.Lawful) {l : Leaf} {entries : List (String × lib.Value)}
    (kept : ∀ e ∈ entries, l.isKeptBy lib e = true) {tree : lib.Value} {v : Option lib.Value}
    (h : l.HoldsAt lib tree v) :
    l.HoldsAt lib (entries.foldl (fun tree e => lib.put e.1 e.2 tree) tree)
      ((entries.reverse.findSome? (l.saidBy? lib)).or v) := by
  induction entries generalizing tree v with
  | nil => simpa using h
  | cons e entries ih =>
    have hrest := ih (fun e' he' => kept e' (List.mem_cons_of_mem _ he'))
      (h.put lawful (kept e List.mem_cons_self))
    rw [List.reverse_cons, List.findSome?_append, Option.or_assoc]
    simpa using hrest

lemma isName_place (l : Leaf) : IsName l.place.1 ∧ IsName l.place.2 := by
  cases l <;> decide +kernel

end Leaf

end DeviceFleet.Settings
