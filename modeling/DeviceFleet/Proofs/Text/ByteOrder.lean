/-
# The order of texts

Texts are compared character by character.  In memory they are bytes, and comparing the bytes comes
to the same: the code of a smaller character is smaller wherever the two codes first differ, and it
takes no look at what follows to see that.
-/
import Mathlib.Data.String.Basic

namespace DeviceFleet.Text

/-- The bytes of a text. -/
def bytes (s : String) : List UInt8 := s.toByteArray.data.toList

lemma bytes_eq (s : String) : bytes s = s.toList.flatMap String.utf8EncodeChar := by
  have hencode : s.toByteArray = (s.toList.flatMap String.utf8EncodeChar).toByteArray :=
    (String.utf8Encode_toList (b := s)).symm
  rw [bytes, hencode, List.data_toByteArray]

/-- The codes of characters are in the order of the characters, whatever follows them. -/
lemma utf8EncodeChar_lt {c d : Char} (h : c < d) (cs ds : List UInt8) :
    String.utf8EncodeChar c ++ cs < String.utf8EncodeChar d ++ ds := by
  have hlt : c.val.toNat < d.val.toNat := UInt32.lt_iff_toNat_lt.1 h
  have hmax : d.val.toNat < 0x110000 := by
    rcases d.valid with hd | ⟨-, hd⟩
    · exact Nat.lt_trans hd (by decide)
    · exact hd
  unfold String.utf8EncodeChar
  generalize c.val.toNat = m at hlt
  generalize d.val.toNat = n at hlt hmax
  -- the bytes are the digits to the base 64, the first with a mark of the number of bytes
  have hm₂ : m / 4096 = m / 64 / 64 := by omega
  have hn₂ : n / 4096 = n / 64 / 64 := by omega
  have hm₃ : m / 262144 % 8 = m / 64 / 64 / 64 := by omega
  have hn₃ : n / 262144 % 8 = n / 64 / 64 / 64 := by omega
  have hbyte : ∀ k : Nat, k < 256 → (UInt8.ofNat k).toNat = k := by
    intro k hk
    simpa using hk
  simp only [hm₂, hn₂, hm₃, hn₃]
  split_ifs <;>
    simp (disch := omega) only [List.cons_append, List.nil_append, List.cons_lt_cons_iff,
      UInt8.lt_iff_toNat_lt, ← UInt8.toNat_inj, hbyte] <;>
    omega

lemma flatMap_utf8EncodeChar_lt {cs ds : List Char} (h : cs < ds) :
    cs.flatMap String.utf8EncodeChar < ds.flatMap String.utf8EncodeChar := by
  induction cs generalizing ds with
  | nil =>
    cases ds with
    | nil => exact absurd h (List.lt_irrefl _)
    | cons d ds =>
      have hne : String.utf8EncodeChar d ++ ds.flatMap String.utf8EncodeChar ≠ [] := by simp
      obtain ⟨b, bs, hbytes⟩ := List.exists_cons_of_ne_nil hne
      rw [List.flatMap_cons, hbytes]
      exact List.nil_lt_cons b bs
  | cons c cs ih =>
    cases ds with
    | nil => exact absurd h (List.not_lt_nil _)
    | cons d ds =>
      rw [List.flatMap_cons, List.flatMap_cons]
      rcases List.cons_lt_cons_iff.1 h with hcd | ⟨rfl, htail⟩
      · exact utf8EncodeChar_lt hcd _ _
      · exact List.append_left_lt (ih htail)

/-- Texts are ordered as their bytes are. -/
lemma bytes_lt_iff {s t : String} : bytes s < bytes t ↔ s < t := by
  rw [String.lt_iff_toList_lt, bytes_eq, bytes_eq]
  refine ⟨fun h => ?_, flatMap_utf8EncodeChar_lt⟩
  rcases lt_trichotomy s.toList t.toList with hst | heq | hts
  · exact hst
  · rw [heq] at h
    exact absurd h (List.lt_irrefl _)
  · exact absurd h (List.lt_asymm (flatMap_utf8EncodeChar_lt hts))

end DeviceFleet.Text
