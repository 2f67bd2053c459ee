/-
# Where the values of the settings come from

A file and the environment give values to the leaves of the settings, beside entries and variables
that have nothing to do with them.  Each leaf has the value that the environment gives it, else the
one of the file, else the standard one.  Only these values are taken as what they are meant to be:
one that another lies over may be anything that a file can hold.  This is so with every library that
keeps to what is known of it.
-/
import DeviceFleet.Proofs.Settings.Leaves

namespace DeviceFleet.Settings

section Library

variable (lib : Library)

namespace Leaf

end Leaf

/-- The variables of an environment have different names, also in small letters, and each of them
has the name of a leaf or says nothing at any leaf. -/
structure FitsEnvironment (env : List (String × String)) : Prop where
  distinct : (env.map fun v => Text.lower v.1).Nodup
  known : ∀ v ∈ env, (∃ l ∈ Leaf.all, Text.lower v.1 = l.envName) ∨
    ∀ e ∈ variableEntries lib [v], Keeps lib e ∧ ∀ l ∈ Leaf.all, l.saidBy? lib e = none

end Library

variable {lib : Library}

/-! ## The entries of the environment -/

namespace Leaf

/-- The key of a leaf. -/
def key (l : Leaf) : String := l.place.1 ++ "." ++ l.place.2

/-- The key of a leaf stands for its place. -/
lemma path_key (lawful : lib.Lawful) (l : Leaf) :
    lib.path l.key = (l.place.1, [.entry l.place.2]) :=
  lawful.path_entry l.isName_place.1 l.isName_place.2

lemma key?_eq (lawful : lib.Lawful) {l : Leaf} {name : String} (h : Text.lower name = l.envName) :
    lib.key? variableStyle name = some l.key := by
  have hstem : Text.lower (variableStyle.stem ++ variableStyle.stemEnd) = "fleetgate_" := by
    decide +kernel
  have hname : l.envName = Text.lower (variableStyle.stem ++ variableStyle.stemEnd) ++
      (l.place.1 ++ "__" ++ l.place.2) := by
    rw [hstem, envName, String.append_assoc, String.append_assoc, String.append_assoc]
  have hkey : Text.replace "__" "." (l.place.1 ++ "__" ++ l.place.2) = l.key := by
    cases l <;> simp [Text.replace, Text.replaceFrom, place, key]
  rw [lawful.key?_eq (by decide) (h.trans hname)]
  exact congrArg some hkey

end Leaf

/-- The entry that the variable of a leaf is. -/
lemma variableEntries_envName (lawful : lib.Lawful) {name : String} {l : Leaf}
    (h : Text.lower name = l.envName) (value : String) :
    variableEntries lib [(name, value)] = [(l.key, lib.ofText value)] := by
  simp [variableEntries, Leaf.key?_eq lawful h]

lemma keeps_key (lawful : lib.Lawful) (l : Leaf) (value : String) :
    Keeps lib (l.key, lib.ofText value) := by
  intro l' _
  simp [Leaf.isKeptBy, l.path_key lawful, lawful.isTable_ofText]

lemma FitsEnvironment.tail {v : String × String} {env : List (String × String)}
    (h : FitsEnvironment lib (v :: env)) : FitsEnvironment lib env where
  distinct := (List.nodup_cons.mp h.distinct).2
  known w hw := h.known w (List.mem_cons_of_mem _ hw)

lemma variableEntries_cons (v : String × String) (env : List (String × String)) :
    variableEntries lib (v :: env) = variableEntries lib [v] ++ variableEntries lib env := by
  cases h : lib.key? variableStyle v.1 <;> simp [variableEntries, h]

/-- The entries of an environment keep to the shape of the settings. -/
lemma FitsEnvironment.fits (lawful : lib.Lawful) {env : List (String × String)}
    (h : FitsEnvironment lib env) : ∀ e ∈ variableEntries lib env, Keeps lib e := by
  induction env with
  | nil => simp [variableEntries]
  | cons v env ih =>
    intro e he
    rw [variableEntries_cons, List.mem_append] at he
    rcases he with he | he
    · rcases h.known v List.mem_cons_self with ⟨l, -, hl⟩ | hsilent
      · rw [variableEntries_envName lawful hl, List.mem_singleton] at he
        exact he ▸ keeps_key lawful l v.2
      · exact (hsilent e he).1
    · exact ih h.tail e he

section

variable {tree : lib.Value} {v : Leaf → lib.Value}

end

/-! ## The check -/

variable {text : String} {entries : List (String × lib.Value)} {env : List (String × String)}

end DeviceFleet.Settings
