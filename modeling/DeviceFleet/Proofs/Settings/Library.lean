/-
# What a library has to keep to

Settings are loaded with a library of which only a few things are known: that a value replaces what
its key leads to, that a table is laid over another one entry by entry, how the keys of variables
come from their names, and that what is written as a truth value, a number or a text is taken as
such (`Library.Lawful`).  Nothing is said of how files are read, nor of what else is taken as what.
The library at hand keeps to all of this (`Library.reference_lawful`).
-/
import DeviceFleet.Settings.Load
import Mathlib.Data.List.TakeWhile
import Mathlib.Data.Option.Basic
import Mathlib.Tactic.Common

namespace DeviceFleet

namespace Json

end Json

namespace Settings

/-- A name that is one step of a key: small letters, digits and underscores. -/
def IsName (s : String) : Prop :=
  s ≠ "" ∧ s.toList.all (fun c => c.isLower || c.isDigit || c = '_') = true

instance (s : String) : Decidable (IsName s) := inferInstanceAs (Decidable (_ ∧ _))

/-- What is known of a library. -/
structure Library.Lawful (lib : Library) : Prop where
  /-- An empty file has no entries. -/
  entries?_empty : lib.entries? "" = some []
  field?_empty (name : String) : lib.field? lib.empty name = none
  /-- What an object says is a table. -/
  isTable_ofJson (j : Json) : lib.isTable (lib.ofJson j) = j.isMap
  field?_ofJson (j : Json) (name : String) :
    lib.field? (lib.ofJson j) name = (j.field? name).map lib.ofJson
  isTable_ofText (s : String) : lib.isTable (lib.ofText s) = false
  flag?_ofJson (b : Bool) : lib.flag? (lib.ofJson (.bool b)) = some b
  number?_ofJson {n : Nat} (h : n < UInt64.size) : lib.number? (lib.ofJson (.ofNat n)) = some n
  text?_ofJson (s : String) : lib.text? (lib.ofJson (.string s)) = some s
  /-- The key of a variable is its name in small letters without what all such names start with,
  and with points for separators. -/
  key?_eq {style : VariableStyle} {name rest : String} (hseparator : style.separator ≠ "")
    (h : Text.lower name = Text.lower (style.stem ++ style.stemEnd) ++ rest) :
    lib.key? style name = some (Text.replace style.separator "." rest)
  /-- A name is a key for what has this name at the top. -/
  path_name {s : String} (h : IsName s) : lib.path s = (s, [])
  /-- Two names with a point between them are a key for an entry of a section. -/
  path_entry {s name : String} (hs : IsName s) (hname : IsName name) :
    lib.path (s ++ "." ++ name) = (s, [.entry name])
  /-- A value does not matter to what stands at the top beside it. -/
  field?_put_of_ne {key name : String} (h : name ≠ (lib.path key).1) (value tree : lib.Value) :
    lib.field? (lib.put key value tree) name = lib.field? tree name
  /-- A table is laid over the one below it: an entry that is no table holds, and what the table
  does not mention stays. -/
  put_table {key s : String} {value tree : lib.Value} (hkey : lib.path key = (s, []))
    (hvalue : lib.isTable value = true)
    (htree : ∀ sec ∈ lib.field? tree s, lib.isTable sec = true) :
    ∃ sec, lib.field? (lib.put key value tree) s = some sec ∧ lib.isTable sec = true ∧
      ∀ name, (∀ v ∈ lib.field? value name, lib.isTable v = false) →
        lib.field? sec name =
          (lib.field? value name).or ((lib.field? tree s).bind (lib.field? · name))
  /-- Below a table, a value only matters to the entry that its key leads through, and is that entry
  if the key ends there. -/
  put_entry {key s name : String} {steps : List Step} {value tree : lib.Value}
    (hkey : lib.path key = (s, .entry name :: steps))
    (htree : ∀ sec ∈ lib.field? tree s, lib.isTable sec = true) :
    ∃ sec, lib.field? (lib.put key value tree) s = some sec ∧ lib.isTable sec = true ∧
      (∀ other, other ≠ name →
        lib.field? sec other = (lib.field? tree s).bind (lib.field? · other)) ∧
      (steps = [] → lib.isTable value = false → lib.field? sec name = some value)

/-! ## Setting an entry -/

lemma field?_setEntry (name : String) (value j : Json) (n : String) :
    (setEntry name value j).field? n = if n = name then some value else j.field? n := by
  by_cases h : n = name
  · subst h
    cases j <;> simp [setEntry, Json.field?]
  · have hne : (name == n) = false := by simpa using Ne.symm h
    cases j with
    | object fields =>
      simp only [setEntry, Json.field?, List.reverse_append, List.reverse_singleton,
        List.singleton_append, List.find?_cons, hne, h, if_false, ← List.filter_reverse]
      rw [List.find?_filter]
      congr 2
      funext f
      by_cases hf : f.1 = n <;> simp [hf, h]
    | _ => simp [setEntry, Json.field?, hne, h]

/-- A value that a step to an entry leads to sets that entry, to the value itself if there is no
further step. -/
lemma exists_putAt_entry (value : Json) (name : String) (steps : List Step) (below : Json) :
    ∃ inner, putAt value (.entry name :: steps) below = setEntry name inner below ∧
      (steps = [] → inner = overlay value (below.field? name)) := by
  cases steps with
  | nil => exact ⟨_, by rw [putAt], fun _ => rfl⟩
  | cons step steps => exact ⟨_, by rw [putAt], nofun⟩

lemma field?_put_of_ne {key name : String} (h : name ≠ (path key).1) (value tree : Json) :
    (put key value tree).field? name = tree.field? name := by
  obtain ⟨inner, hinner, -⟩ := exists_putAt_entry value (path key).1 (path key).2 tree
  rw [put, hinner, field?_setEntry, if_neg h]

lemma IsName.inName {s : String} (h : IsName s) : ∀ c ∈ s.toList, inName c = true := by
  intro c hc
  have hname : (c.isLower = true ∨ c.isDigit = true) ∨ c = '_' := by
    simpa using List.all_eq_true.mp h.2 c hc
  show ((c.isUpper || c.isLower || c.isDigit) || c = '_' || c = '-' || c = ' ') = true
  rcases hname with (hname | hname) | hname <;> simp [hname]

lemma IsName.ne_nil {s : String} (h : IsName s) : s.toList ≠ [] := by
  simpa using h.1

lemma path_name {s : String} (h : IsName s) : path s = (s, []) := by
  have htake : s.toList.takeWhile inName = s.toList := List.takeWhile_eq_self_iff.mpr h.inName
  have hdrop : s.toList.dropWhile inName = [] := List.dropWhile_eq_nil_iff.mpr h.inName
  simp [path, htake, hdrop, steps?, h.ne_nil]

lemma path_entry {s name : String} (hs : IsName s) (hname : IsName name) :
    path (s ++ "." ++ name) = (s, [.entry name]) := by
  have hlist : (s ++ "." ++ name).toList = s.toList ++ '.' :: name.toList := by simp
  have hpoint : inName '.' = false := by decide
  have htake : (s.toList ++ '.' :: name.toList).takeWhile inName = s.toList := by
    rw [List.takeWhile_append_of_pos hs.inName, List.takeWhile_cons_of_neg (by simp [hpoint]),
      List.append_nil]
  have hdrop : (s.toList ++ '.' :: name.toList).dropWhile inName = '.' :: name.toList := by
    rw [List.dropWhile_append_of_pos hs.inName, List.dropWhile_cons_of_neg (by simp [hpoint])]
  have htake' : name.toList.takeWhile inName = name.toList :=
    List.takeWhile_eq_self_iff.mpr hname.inName
  have hdrop' : name.toList.dropWhile inName = [] := List.dropWhile_eq_nil_iff.mpr hname.inName
  obtain ⟨fuel, hfuel⟩ : ∃ fuel, (s ++ "." ++ name).length = fuel + 1 :=
    ⟨s.toList.length + name.toList.length, by
      rw [← String.length_toList, hlist, List.length_append, List.length_cons, Nat.add_assoc]⟩
  simp [path, hlist, htake, hdrop, hfuel, steps?, htake', hdrop', hs.ne_nil, hname.ne_nil]

end Settings

end DeviceFleet
