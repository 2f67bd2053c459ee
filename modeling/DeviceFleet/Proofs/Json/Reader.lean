/-
# What is read from a text

The reader puts the tokens of a value together to the value again, unless too many containers are
open on the way.  And whatever is read from any text is nested at most as deeply as that, as what is
nested more deeply stands for no value, and its whole numbers fit into 64 bits: this holds of what
is complete in each container that is open, with the number of containers around it counted in
(`Frames`), and every token keeps it.
-/
import DeviceFleet.Json.Format
import DeviceFleet.Proofs.Json.Tokens

namespace DeviceFleet.Json

open Token

/-! ## The tokens of a value -/

lemma exists_tokens_eq_cons (j : Json) :
    ∃ t ts, tokens j = t :: ts ∧ t ≠ .closeBracket := by
  cases j with
  | array items => cases items <;> exact ⟨_, _, rfl, nofun⟩
  | object fields => cases fields <;> exact ⟨_, _, rfl, nofun⟩
  | _ => exact ⟨_, _, rfl, nofun⟩

namespace Reader

/-- A value that begins right after an opening bracket is the first item. -/
lemma foldlM_feed_firstItem (j : Json) (outer : List Frame) :
    (tokens j).foldlM feed (.firstItem outer) =
      (tokens j).foldlM feed (.value (.array [] :: outer)) := by
  obtain ⟨t, ts, hts, ht⟩ := exists_tokens_eq_cons j
  rw [hts, List.foldlM_cons, List.foldlM_cons]
  cases t <;> first | rfl | exact absurd rfl ht

/-- A container that is closed where not too many are open is handed over. -/
lemma close_eq {j : Json} {outer : List Frame} (h : outer.length < maxDepth) :
    close j outer = deliver j outer := by
  rw [close, if_pos h]

lemma withField_some (fields : List (String × Json)) (name : String) (j : Json) :
    withField (some fields) (some name) j = some ((name, j) :: fields) := rfl

mutual

/-- The tokens of a value hand it to the innermost container. -/
lemma foldlM_feed_tokens : ∀ (j : Json) (outer : List Frame), j.depth + outer.length ≤ maxDepth →
    (tokens j).foldlM feed (.value outer) = some (deliver j outer)
  | .null, _, _ => rfl
  | .bool _, _, _ => rfl
  | .integer _, _, _ => rfl
  | .decimal .., _, _ => rfl
  | .string _, _, _ => rfl
  | .unusable, _, _ => rfl
  | .array [], outer, h => by
    have hclose : close (.array []) outer = _ :=
      close_eq (by simp only [depth, itemDepth] at h; omega)
    simp [tokens, feed, begin, hclose]
  | .array (j :: js), outer, h => by
    simp only [depth, itemDepth] at h
    have hfirst := foldlM_feed_tokens j (.array [] :: outer)
      (by simp only [List.length_cons]; omega)
    have hrest := foldlM_feed_itemTokens js [j] outer (by omega)
    have hclose : close (.array (j :: js)) outer = _ := close_eq (by omega)
    rw [deliver] at hfirst
    simp only [tokens, List.cons_append, List.foldlM_cons, List.foldlM_append, feed, begin,
      Option.bind_eq_bind, Option.bind_some, foldlM_feed_firstItem, hfirst, hrest]
    simp [hclose]
  | .object [], outer, h => by
    have hclose : close (.object []) outer = _ :=
      close_eq (by simp only [depth, fieldDepth] at h; omega)
    simp [tokens, feed, begin, closeObject, hclose]
  | .object ((k, v) :: fs), outer, h => by
    simp only [depth, fieldDepth] at h
    have hfirst := foldlM_feed_tokens v (.object (some []) (some k) :: outer)
      (by simp only [List.length_cons]; omega)
    have hrest := foldlM_feed_fieldTokens fs [(k, v)] outer (by omega)
    have hclose : close (.object ((k, v) :: fs)) outer = _ := close_eq (by omega)
    rw [deliver] at hfirst
    simp only [tokens, List.cons_append, List.foldlM_cons, List.foldlM_append, feed, begin,
      Option.bind_eq_bind, Option.bind_some, hfirst, withField_some, hrest]
    simp [closeObject, hclose]

lemma foldlM_feed_itemTokens : ∀ (js items : List Json) (outer : List Frame),
    itemDepth js + outer.length + 1 ≤ maxDepth →
    (itemTokens js).foldlM feed (.afterItem items outer) =
      some (.afterItem (js.reverse ++ items) outer)
  | [], _, _, _ => rfl
  | j :: js, items, outer, h => by
    simp only [itemDepth] at h
    have hfirst := foldlM_feed_tokens j (.array items :: outer)
      (by simp only [List.length_cons]; omega)
    have hrest := foldlM_feed_itemTokens js (j :: items) outer (by omega)
    simp only [itemTokens, List.cons_append, List.foldlM_cons, List.foldlM_append, feed,
      Option.bind_eq_bind, Option.bind_some, hfirst, deliver, hrest]
    simp

lemma foldlM_feed_fieldTokens : ∀ (fs fields : List (String × Json)) (outer : List Frame),
    fieldDepth fs + outer.length + 1 ≤ maxDepth →
    (fieldTokens fs).foldlM feed (.afterField (some fields) outer) =
      some (.afterField (some (fs.reverse ++ fields)) outer)
  | [], _, _, _ => rfl
  | (k, v) :: fs, fields, outer, h => by
    simp only [fieldDepth] at h
    have hfirst := foldlM_feed_tokens v (.object (some fields) (some k) :: outer)
      (by simp only [List.length_cons]; omega)
    have hrest := foldlM_feed_fieldTokens fs ((k, v) :: fields) outer (by omega)
    simp only [fieldTokens, List.cons_append, List.foldlM_cons, List.foldlM_append, feed,
      Option.bind_eq_bind, Option.bind_some, hfirst, deliver, withField_some, hrest]
    simp

end

end Reader

/-- The text of a value that is not nested too deeply is read as the value. -/
theorem parse?_render {j : Json} (hr : j.Ranged) (hw : j.Whole) (h : j.depth ≤ Reader.maxDepth) :
    parse? j.render = some j := by
  rw [parse?, render, String.toList_ofList, scan_chars hr hw, Option.bind_some, ofTokens?,
    Reader.foldlM_feed_tokens j [] (by simpa using h)]
  rfl

/-! ## The tokens of any text -/

/-- What every step keeps, a run that comes to its end keeps. -/
lemma foldlM_keeps {σ α : Type} {step : σ → α → Option σ} {p : σ → Prop} {as : List α}
    (hstep : ∀ s a s', a ∈ as → p s → step s a = some s' → p s') {s s' : σ} (hs : p s)
    (h : as.foldlM step s = some s') : p s' := by
  induction as generalizing s with
  | nil =>
    cases h
    exact hs
  | cons a as ih =>
    rw [List.foldlM_cons] at h
    obtain ⟨s₁, hfirst, h⟩ := Option.bind_eq_some_iff.mp h
    exact ih (fun s b s' hb => hstep s b s' (List.mem_cons_of_mem _ hb))
      (hstep s a s₁ List.mem_cons_self hs hfirst) h

/-- The value of a token is no container, and fits into 64 bits if it is a whole number. -/
def Token.Sound : Token → Prop
  | .scalar j => j.depth = 0 ∧ j.Ranged
  | _ => True

lemma sound_decimalOf (negative : Bool) (coefficient : Nat) (exponent : Int) :
    (Token.scalar (decimalOf negative coefficient exponent)).Sound := by
  unfold decimalOf
  split_ifs
  exacts [⟨rfl, .decimal _ _ _ trivial⟩, ⟨rfl, .decimal _ _ _ trivial⟩, ⟨rfl, .unusable trivial⟩]

lemma sound_of_number? {cs : List Char} {j : Json} (h : number? cs = some j) :
    (Token.scalar j).Sound := by
  obtain ⟨negative, whole, fraction, exponent, hj⟩ : ∃ negative whole fraction exponent,
      numberOf negative whole fraction exponent = j := by
    unfold number? at h
    split at h
    dsimp only at h
    split_ifs at h
    obtain ⟨⟨fraction, rest⟩, -, h⟩ := Option.bind_eq_some_iff.mp h
    obtain ⟨exponent, -, h⟩ := Option.bind_eq_some_iff.mp h
    exact ⟨_, _, fraction, exponent, Option.some.inj h⟩
  unfold numberOf at hj
  extract_lets n value at hj
  split_ifs at hj with hrange
  · exact hj ▸ ⟨rfl, .integer _ hrange.2.2.1⟩
  · exact hj ▸ sound_decimalOf _ _ _

lemma sound_of_literal? {cs : List Char} {t : Token} (h : literal? cs = some t) : t.Sound := by
  unfold literal? at h
  split_ifs at h <;> cases h
  exacts [⟨rfl, .null⟩, ⟨rfl, .bool _⟩, ⟨rfl, .bool _⟩]

namespace Token.Lexer

lemma sound_of_start {ts : List Token} {c : Char} {l : Lexer} (hts : ∀ t ∈ ts, t.Sound)
    (h : start ts c = some l) : ∀ t ∈ l.tokens, t.Sound := by
  unfold start at h
  split at h <;> (try split_ifs at h) <;> cases h <;> simpa [Token.Sound] using hts

lemma sound_of_inString {ts : List Token} {seen : Option (List Char)} {c : Char} {l : Lexer}
    (hts : ∀ t ∈ ts, t.Sound) (h : inString ts seen c = some l) : ∀ t ∈ l.tokens, t.Sound := by
  unfold inString at h
  split_ifs at h <;> cases h
  exacts [List.forall_mem_cons.mpr ⟨trivial, hts⟩, hts, hts]

lemma sound_of_inEscape {ts : List Token} {seen : Option (List Char)} {c : Char} {l : Lexer}
    (hts : ∀ t ∈ ts, t.Sound) (h : inEscape ts seen c = some l) : ∀ t ∈ l.tokens, t.Sound := by
  unfold inEscape at h
  split_ifs at h
  · cases h
    exact hts
  · obtain ⟨d, -, rfl⟩ := Option.map_eq_some_iff.mp h
    exact hts

lemma sound_of_feed {l l' : Lexer} {c : Char} (hl : ∀ t ∈ l.tokens, t.Sound)
    (h : l.feed c = some l') : ∀ t ∈ l'.tokens, t.Sound := by
  obtain ⟨ts, mode⟩ := l
  cases mode with
  | between => exact sound_of_start hl h
  | word seen =>
    simp only [feed] at h
    split_ifs at h
    · cases h
      exact hl
    · obtain ⟨t, ht, h⟩ := Option.bind_eq_some_iff.mp h
      exact sound_of_start (List.forall_mem_cons.mpr ⟨sound_of_literal? ht, hl⟩) h
  | number seen =>
    simp only [feed] at h
    split_ifs at h
    · cases h
      exact hl
    · obtain ⟨j, hj, h⟩ := Option.bind_eq_some_iff.mp h
      exact sound_of_start (List.forall_mem_cons.mpr ⟨sound_of_number? hj, hl⟩) h
  | string seen => exact sound_of_inString hl h
  | escape seen => exact sound_of_inEscape hl h
  | unit high count value seen =>
    obtain ⟨d, -, rfl⟩ := Option.map_eq_some_iff.mp h
    dsimp only
    split_ifs <;> exact hl
  | pairSlash high seen =>
    simp only [feed] at h
    split_ifs at h
    · cases h
      exact hl
    · exact sound_of_inString hl h
  | pairLetter high seen =>
    simp only [feed] at h
    split_ifs at h
    · cases h
      exact hl
    · exact sound_of_inEscape hl h

/-- All tokens of a text are sound. -/
lemma sound_of_scan {cs : List Char} {ts : List Token} (h : scan cs = some ts) :
    ∀ t ∈ ts, t.Sound := by
  obtain ⟨⟨new, mode⟩, hfold, hfinish⟩ := Option.bind_eq_some_iff.mp h
  have hnew : ∀ t ∈ new, t.Sound :=
    foldlM_keeps (p := fun l : Lexer => ∀ t ∈ l.tokens, t.Sound)
      (fun _ _ _ _ => sound_of_feed) (by simp) hfold
  unfold finish at hfinish
  split at hfinish
  · cases hfinish
    simpa using hnew
  · obtain ⟨t, ht, rfl⟩ := Option.map_eq_some_iff.mp hfinish
    exact fun u hu => List.forall_mem_cons.mpr ⟨sound_of_literal? ht, hnew⟩ u
      (List.mem_reverse.mp hu)
  · obtain ⟨j, hj, rfl⟩ := Option.map_eq_some_iff.mp hfinish
    exact fun u hu => List.forall_mem_cons.mpr ⟨sound_of_number? hj, hnew⟩ u
      (List.mem_reverse.mp hu)
  · cases hfinish

end Token.Lexer

namespace Reader

/-- The value fits where `n` containers are open. -/
def Fits (n : Nat) (j : Json) : Prop := j.depth ≤ maxDepth - n ∧ j.Ranged

/-- Complete fields fit where `n` containers are open. -/
def FieldsFit (n : Nat) (fields : Option (List (String × Json))) : Prop :=
  ∀ fs ∈ fields, ∀ f ∈ fs, Fits n f.2

/-- What is complete in the open containers fits there. -/
def Frames : List Frame → Prop
  | [] => True
  | .array items :: outer => (∀ j ∈ items, Fits (outer.length + 1) j) ∧ Frames outer
  | .object fields _ :: outer => FieldsFit (outer.length + 1) fields ∧ Frames outer

/-- What has been read so far fits. -/
def Sound : Reader → Prop
  | .value outer => Frames outer
  | .firstItem outer => Frames (.array [] :: outer)
  | .afterItem items outer => Frames (.array items :: outer)
  | .firstField outer => Frames (.object (some []) none :: outer)
  | .fieldName fields outer => Frames (.object fields none :: outer)
  | .colon fields name outer => Frames (.object fields name :: outer)
  | .afterField fields outer => Frames (.object fields none :: outer)
  | .complete j => Fits 0 j

lemma fits_unusable (n : Nat) : Fits n .unusable := ⟨Nat.zero_le _, .unusable trivial⟩

lemma fits_array {n : Nat} {items : List Json} (hn : n < maxDepth)
    (h : ∀ j ∈ items, Fits (n + 1) j) : Fits n (.array items) := by
  refine ⟨?_, .array _ fun j hj => (h j hj).2⟩
  have hitems : itemDepth items ≤ maxDepth - (n + 1) := itemDepth_le_iff.mpr fun j hj => (h j hj).1
  rw [depth]
  omega

lemma fits_object {n : Nat} {fields : List (String × Json)} (hn : n < maxDepth)
    (h : ∀ f ∈ fields, Fits (n + 1) f.2) : Fits n (.object fields) := by
  refine ⟨?_, .object _ fun f hf => (h f hf).2⟩
  have hfields : fieldDepth fields ≤ maxDepth - (n + 1) :=
    fieldDepth_le_iff.mpr fun f hf => (h f hf).1
  rw [depth]
  omega

lemma fieldsFit_nil (n : Nat) : FieldsFit n (some []) := by
  rintro fs hfs f hf
  cases hfs
  simp at hf

lemma FieldsFit.withField {n : Nat} {fields : Option (List (String × Json))} {j : Json}
    (h : FieldsFit n fields) (hj : Fits n j) (name : Option String) :
    FieldsFit n (withField fields name j) := by
  intro fs hfs
  obtain ⟨k, -, hfs⟩ := Option.bind_eq_some_iff.mp hfs
  obtain ⟨fs', hfs', hfs⟩ := Option.bind_eq_some_iff.mp hfs
  cases hfs
  exact List.forall_mem_cons.mpr ⟨hj, h fs' hfs'⟩

lemma sound_deliver : ∀ {j : Json} {outer : List Frame}, Fits outer.length j → Frames outer →
    (deliver j outer).Sound
  | _, [], hj, _ => hj
  | _, .array _ :: _, hj, ⟨hitems, houter⟩ => ⟨List.forall_mem_cons.mpr ⟨hj, hitems⟩, houter⟩
  | _, .object _ name :: _, hj, ⟨hfields, houter⟩ => ⟨hfields.withField hj name, houter⟩

/-- A container has to fit only where it stands for a value. -/
lemma sound_close {j : Json} {outer : List Frame}
    (hj : outer.length < maxDepth → Fits outer.length j) (h : Frames outer) :
    (close j outer).Sound := by
  unfold close
  split_ifs with hlength
  · exact sound_deliver (hj hlength) h
  · exact sound_deliver (fits_unusable _) h

lemma sound_closeObject {fields : Option (List (String × Json))} {outer : List Frame}
    (hfields : FieldsFit (outer.length + 1) fields) (h : Frames outer) :
    (closeObject fields outer).Sound := by
  refine sound_close (fun hlength => ?_) h
  cases fields with
  | none => exact fits_unusable _
  | some fs => exact fits_object hlength fun f hf => hfields fs rfl f (List.mem_reverse.mp hf)

lemma sound_of_begin {outer : List Frame} {t : Token} {r : Reader} (h : Frames outer)
    (ht : t.Sound) (hr : begin outer t = some r) : r.Sound := by
  cases t with
  | scalar j =>
    cases hr
    exact sound_deliver ⟨by rw [ht.1]; omega, ht.2⟩ h
  | text s =>
    cases hr
    cases s with
    | none => exact sound_deliver (fits_unusable _) h
    | some s => exact sound_deliver ⟨Nat.zero_le _, .string s⟩ h
  | openBracket =>
    cases hr
    exact ⟨by simp, h⟩
  | openBrace =>
    cases hr
    exact ⟨fieldsFit_nil _, h⟩
  | _ => cases hr

/-- Every token keeps what has been read within its bounds. -/
lemma Sound.feed {r r' : Reader} {t : Token} (h : r.Sound) (ht : t.Sound)
    (hr : r.feed t = some r') : r'.Sound := by
  unfold Reader.feed at hr
  split at hr
  case h_1 => exact sound_of_begin h ht hr
  case h_2 => cases hr; exact sound_close (fun hlength => fits_array hlength (by simp)) h.2
  case h_3 => exact sound_of_begin h ht hr
  case h_4 => cases hr; exact h
  case h_5 =>
    cases hr
    exact sound_close (fun hlength => fits_array hlength (by simpa using h.1)) h.2
  case h_6 => cases hr; exact sound_closeObject h.1 h.2
  case h_7 => cases hr; exact h
  case h_8 => cases hr; exact h
  case h_9 => cases hr; exact h
  case h_10 => cases hr; exact h
  case h_11 => cases hr; exact sound_closeObject h.1 h.2
  case h_12 => cases hr

end Reader

/-- What is read from a text is not nested too deeply, and its whole numbers fit into 64 bits. -/
theorem fits_of_parse? {text : String} {j : Json} (h : parse? text = some j) :
    j.depth ≤ Reader.maxDepth ∧ j.Ranged := by
  obtain ⟨ts, hscan, h⟩ := Option.bind_eq_some_iff.mp h
  obtain ⟨r, hfold, hfinish⟩ := Option.bind_eq_some_iff.mp h
  have hstart : (Reader.value []).Sound := trivial
  have hr : r.Sound :=
    foldlM_keeps (p := Reader.Sound)
      (fun _ t _ ht h => h.feed (Token.Lexer.sound_of_scan hscan t ht)) hstart hfold
  cases r with
  | complete j' =>
    cases hfinish
    exact hr
  | _ => cases hfinish

/-! ## The library -/

/-- A JSON library that keeps values and has the limits of the format. -/
class LawfulFormat [Format] : Prop where
  /-- The text of a value that has only whole numbers of 64 bits and is not nested too deeply is
  read as the value. -/
  parse?_render : ∀ {j : Json}, j.Ranged → j.Whole → j.depth ≤ Reader.maxDepth →
    Format.parse? (Format.render j) = some j
  /-- What is read from a text is not nested too deeply, and its whole numbers fit into 64 bits. -/
  fits_of_parse? : ∀ {text : String} {j : Json}, Format.parse? text = some j →
    j.depth ≤ Reader.maxDepth ∧ j.Ranged

instance lawful_compact : @LawfulFormat compact := ⟨parse?_render, fits_of_parse?⟩

end DeviceFleet.Json
