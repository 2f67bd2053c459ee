/-
# The tokens of a printed value

The lexer finds in the text of a value the tokens that the value is made of.  After a literal or a
number it does not know yet that the token is complete; the next character, which is punctuation
in a printed text, or the end of the text tells it.  So what is carried along is which tokens the
lexer has, a last one that awaits its end included (`Lexer.Has`).
-/
import DeviceFleet.Json.Printer
import DeviceFleet.Json.Token
import DeviceFleet.Proofs.Json.Canonical
import DeviceFleet.Proofs.Text.Digits
import Mathlib.Data.List.TakeWhile
import Mathlib.Tactic.IntervalCases

namespace DeviceFleet.Json

open Token Text

mutual

/-- The tokens of a value. -/
def tokens : Json → List Token
  | .string s => [.text (some s)]
  | .array [] => [.openBracket, .closeBracket]
  | .array (j :: js) => .openBracket :: tokens j ++ itemTokens js ++ [.closeBracket]
  | .object [] => [.openBrace, .closeBrace]
  | .object ((k, v) :: fs) =>
    .openBrace :: .text (some k) :: .colon :: tokens v ++ fieldTokens fs ++ [.closeBrace]
  | j => [.scalar j]

/-- The tokens of the items after the first one. -/
def itemTokens : List Json → List Token
  | [] => []
  | j :: js => .comma :: tokens j ++ itemTokens js

/-- The tokens of the fields after the first one. -/
def fieldTokens : List (String × Json) → List Token
  | [] => []
  | (k, v) :: fs => .comma :: .text (some k) :: .colon :: tokens v ++ fieldTokens fs

end

namespace Token.Lexer

/-- The lexer has the tokens `ts`, newest first, if the token that it is inside of ends here. -/
inductive Has : Lexer → List Token → Prop where
  | between (ts : List Token) : Has ⟨ts, .between⟩ ts
  | word {ts : List Token} {seen : List Char} {t : Token} (h : literal? seen.reverse = some t) :
      Has ⟨ts, .word seen⟩ (t :: ts)
  | number {ts : List Token} {seen : List Char} {j : Json} (h : number? seen.reverse = some j) :
      Has ⟨ts, .number seen⟩ (.scalar j :: ts)

lemma Has.finish {l : Lexer} {ts : List Token} (h : l.Has ts) : l.finish = some ts.reverse := by
  cases h with
  | between => rfl
  | word h => simp [Lexer.finish, h]
  | number h => simp [Lexer.finish, h]

/-- A character that is a token by itself, and ends a token before it. -/
structure Punctuation (c : Char) (t : Token) : Prop where
  start : ∀ ts, Lexer.start ts c = some ⟨t :: ts, .between⟩
  isAlpha : c.isAlpha = false
  inNumber : inNumber c = false

lemma Has.feed {l : Lexer} {ts : List Token} (h : l.Has ts) {c : Char} {t : Token}
    (hc : Punctuation c t) : l.feed c = some ⟨t :: ts, .between⟩ := by
  cases h with
  | between => exact hc.start ts
  | word h => simp [Lexer.feed, hc.isAlpha, h, hc.start]
  | number h => simp [Lexer.feed, hc.inNumber, h, hc.start]

/-! ## Texts and their tokens -/

/-- The text has the tokens `new` where a token can begin. -/
def Lexes (cs : List Char) (new : List Token) : Prop :=
  ∀ ts, ∃ l, cs.foldlM Lexer.feed ⟨ts, .between⟩ = some l ∧ l.Has (new.reverse ++ ts)

/-- The text has the tokens `new` after a complete token. -/
def Continues (cs : List Char) (new : List Token) : Prop :=
  ∀ l ts, l.Has ts → ∃ l', cs.foldlM Lexer.feed l = some l' ∧ l'.Has (new.reverse ++ ts)

variable {cs cs' : List Char} {new new' : List Token} {c : Char} {t : Token}

lemma Continues.nil : Continues [] [] := fun l _ h => ⟨l, rfl, h⟩

lemma Continues.lexes (h : Continues cs new) : Lexes cs new := fun ts => h _ ts (.between ts)

lemma Continues.append (h : Continues cs new) (h' : Continues cs' new') :
    Continues (cs ++ cs') (new ++ new') := by
  intro l ts hl
  obtain ⟨l₁, hfold, hl₁⟩ := h l ts hl
  obtain ⟨l₂, hfold', hl₂⟩ := h' l₁ _ hl₁
  exact ⟨l₂, by rw [List.foldlM_append, hfold]; exact hfold', by simpa using hl₂⟩

lemma Lexes.append (h : Lexes cs new) (h' : Continues cs' new') :
    Lexes (cs ++ cs') (new ++ new') := by
  intro ts
  obtain ⟨l₁, hfold, hl₁⟩ := h ts
  obtain ⟨l₂, hfold', hl₂⟩ := h' l₁ _ hl₁
  exact ⟨l₂, by rw [List.foldlM_append, hfold]; exact hfold', by simpa using hl₂⟩

/-- Punctuation, and a text after it. -/
lemma Punctuation.continues (hc : Punctuation c t) (h : Lexes cs new) :
    Continues (c :: cs) (t :: new) := by
  intro l ts hl
  obtain ⟨l', hfold, hl'⟩ := h (t :: ts)
  exact ⟨l', by rw [List.foldlM_cons, hl.feed hc]; exact hfold, by simpa using hl'⟩

lemma punctuation_openBrace : Punctuation '\x7b' .openBrace := ⟨fun _ => rfl, rfl, rfl⟩
lemma punctuation_closeBrace : Punctuation '\x7d' .closeBrace := ⟨fun _ => rfl, rfl, rfl⟩
lemma punctuation_openBracket : Punctuation '[' .openBracket := ⟨fun _ => rfl, rfl, rfl⟩
lemma punctuation_closeBracket : Punctuation ']' .closeBracket := ⟨fun _ => rfl, rfl, rfl⟩
lemma punctuation_colon : Punctuation ':' .colon := ⟨fun _ => rfl, rfl, rfl⟩
lemma punctuation_comma : Punctuation ',' .comma := ⟨fun _ => rfl, rfl, rfl⟩

/-! ## Strings -/

/-- The escape of a control character stands for it. -/
lemma foldlM_feed_hexEscape {n : Nat} (hn : n < 0x20) (ts : List Token) (seen : List Char) :
    (hexEscape n).foldlM Lexer.feed ⟨ts, .string (some seen)⟩ =
      some ⟨ts, .string (some (Char.ofNat n :: seen))⟩ := by
  interval_cases n <;> rfl

/-- Inside a string, an escaped character stands for the character. -/
lemma foldlM_feed_escapeChar (c : Char) (ts : List Token) (seen : List Char) :
    (escapeChar c).foldlM Lexer.feed ⟨ts, .string (some seen)⟩ =
      some ⟨ts, .string (some (c :: seen))⟩ := by
  unfold escapeChar
  split_ifs with hquote hslash h h h h h hcontrol
  case pos => subst hquote; rfl
  case pos => subst hslash; rfl
  case pos => subst h; rfl
  case pos => subst h; rfl
  case pos => subst h; rfl
  case pos => subst h; rfl
  case pos => subst h; rfl
  case pos => rw [foldlM_feed_hexEscape hcontrol, Char.ofNat_toNat]
  case neg => simp [Lexer.feed, inString, put, hquote, hslash, hcontrol]

lemma foldlM_feed_escapeChars (cs : List Char) (ts : List Token) (seen : List Char) :
    (escapeChars cs).foldlM Lexer.feed ⟨ts, .string (some seen)⟩ =
      some ⟨ts, .string (some (cs.reverse ++ seen))⟩ := by
  induction cs generalizing seen with
  | nil => rfl
  | cons c cs ih =>
    rw [escapeChars, List.flatMap_cons, List.foldlM_append, foldlM_feed_escapeChar]
    change (escapeChars cs).foldlM _ _ = _
    rw [ih]
    simp

lemma lexes_stringChars (s : String) : Lexes (stringChars s) [.text (some s)] := by
  intro ts
  refine ⟨⟨.text (some s) :: ts, .between⟩, ?_, .between _⟩
  change (escapeChars s.toList ++ ['"']).foldlM Lexer.feed ⟨ts, .string (some [])⟩ = _
  rw [List.foldlM_append, foldlM_feed_escapeChars]
  simp [Lexer.feed, inString]

/-- A field is its name and its value. -/
lemma lexes_field (k : String) (h : Lexes cs new) :
    Lexes (stringChars k ++ ':' :: cs) (.text (some k) :: .colon :: new) :=
  (lexes_stringChars k).append (punctuation_colon.continues h)

/-! ## Numbers -/

lemma foldlM_feed_inNumber (cs : List Char) (h : ∀ c ∈ cs, inNumber c = true) (ts : List Token)
    (seen : List Char) :
    cs.foldlM Lexer.feed ⟨ts, .number seen⟩ = some ⟨ts, .number (cs.reverse ++ seen)⟩ := by
  induction cs generalizing seen with
  | nil => rfl
  | cons c cs ih =>
    have hc : (⟨ts, .number seen⟩ : Lexer).feed c = some ⟨ts, .number (c :: seen)⟩ := by
      simp [Lexer.feed, h c List.mem_cons_self]
    rw [List.foldlM_cons, hc]
    change cs.foldlM _ _ = _
    rw [ih (fun d hd => h d (List.mem_cons_of_mem _ hd))]
    simp

/-- The digits of a number, with or without a sign, are a number text without a fraction and an
exponent. -/
lemma number?_digits (negative : Bool) (n : Nat) :
    number? (if negative then '-' :: digits n else digits n) =
      some (numberOf negative (digits n) [] none) := by
  have htake : (digits n).takeWhile Char.isDigit = digits n :=
    List.takeWhile_eq_self_iff.mpr fun c hc => isDigit_of_mem_digits hc
  have hdrop : (digits n).dropWhile Char.isDigit = [] :=
    List.dropWhile_eq_nil_iff.mpr fun c hc => isDigit_of_mem_digits hc
  have hzeros : ¬ ((digits n).length > 1 ∧ (digits n).head? = some '0') := by
    rintro ⟨hlength, hhead⟩
    rw [digits_eq_of_head? hhead] at hlength
    exact absurd hlength (by decide)
  -- what becomes of the parts is left open: comparing values would unfold the bounds of 64 bits
  have hrest : ∀ f : List Char → Option Int → Json, (do
      let r ← fraction? []
      let exponent ← exponent? r.2
      return f r.1 exponent) = some (f [] none) := fun _ => rfl
  cases negative with
  | true =>
    simp only [if_true, number?, htake, hdrop, digits_ne_nil, false_or, if_neg hzeros]
    exact hrest _
  | false =>
    unfold number?
    split
    next negative cs hsign =>
      obtain ⟨rfl, rfl⟩ : false = negative ∧ digits n = cs := by
        simp only [Bool.false_eq_true, if_false] at hsign
        split at hsign
        -- digits do not begin with a minus
        next ds hds => exact absurd (isDigit_of_mem_digits (hds ▸ List.mem_cons_self)) (by decide)
        next => exact Prod.mk.inj hsign
      simp only [htake, hdrop, digits_ne_nil, false_or, if_neg hzeros]
      exact hrest _

/-- The text of a whole number of 64 bits stands for it. -/
lemma number?_integerChars {n : Int} (h : InRange n) :
    number? (integerChars n) = some (.integer n) := by
  cases n with
  | ofNat m =>
    have := number?_digits false m
    simp only [integerChars, Bool.false_eq_true, if_false] at this ⊢
    rw [this, numberOf, digitsValue_digits, if_pos]
    · rfl
    · exact ⟨rfl, rfl, h, by simp⟩
  | negSucc m =>
    have := number?_digits true (m + 1)
    simp only [integerChars, if_true] at this ⊢
    rw [this, numberOf, digitsValue_digits, if_pos]
    · rfl
    · exact ⟨rfl, rfl, h, by simp⟩

lemma inNumber_of_isDigit {c : Char} (h : c.isDigit = true) : inNumber c = true := by
  simp [inNumber, h]

/-- A text of digits and signs is lexed as one number. -/
lemma lexes_number {c : Char} {cs : List Char} {j : Json} (hc : c = '-' ∨ c.isDigit = true)
    (hcs : ∀ d ∈ cs, d.isDigit = true) (h : number? (c :: cs) = some j) :
    Lexes (c :: cs) [.scalar j] := by
  intro ts
  have hstart : Lexer.feed ⟨ts, .between⟩ c = some ⟨ts, .number [c]⟩ := by
    change Lexer.start ts c = _
    unfold Lexer.start
    rcases hc with rfl | hc
    · rfl
    · split <;> first | exact absurd hc (by decide) | simp [hc]
  refine ⟨⟨ts, .number (cs.reverse ++ [c])⟩, ?_, .number (by simpa using h)⟩
  rw [List.foldlM_cons, hstart]
  exact foldlM_feed_inNumber cs (fun d hd => inNumber_of_isDigit (hcs d hd)) ts [c]


lemma lexes_integerChars {n : Int} (h : InRange n) :
    Lexes (integerChars n) [.scalar (.integer n)] := by
  have hnumber := number?_integerChars h
  cases n with
  | ofNat m =>
    obtain ⟨d, ds, hds⟩ := List.exists_cons_of_ne_nil (digits_ne_nil m)
    rw [integerChars, hds] at hnumber ⊢
    have hdigit : ∀ e ∈ d :: ds, e.isDigit = true := fun e he => isDigit_of_mem_digits (hds ▸ he)
    exact lexes_number (.inr (hdigit d List.mem_cons_self))
      (fun e he => hdigit e (List.mem_cons_of_mem _ he)) hnumber
  | negSucc m => exact lexes_number (.inl rfl) (fun d hd => isDigit_of_mem_digits hd) hnumber

lemma lexes_null : Lexes ['n', 'u', 'l', 'l'] [.scalar .null] :=
  fun _ => ⟨_, rfl, .word rfl⟩

lemma lexes_bool (b : Bool) : Lexes (chars (.bool b)) [.scalar (.bool b)] := by
  cases b <;> exact fun _ => ⟨_, rfl, .word rfl⟩

end Token.Lexer

/-! ## Values -/

open Token.Lexer

-- every value is lexed between tokens; what comes after the first item or field begins with a
-- comma, which ends the value before it
mutual

/-- The text of a value has its tokens. -/
lemma lexes_chars : ∀ {j : Json}, j.Ranged → j.Whole → Lexes (chars j) (tokens j)
  | .null, _, _ => lexes_null
  | .bool b, _, _ => lexes_bool b
  | .integer _, hr, _ => lexes_integerChars (allNumbers_integer_iff.mp hr)
  | .decimal .., _, hw => (allNumbers_decimal_iff.mp hw).elim
  | .unusable, _, hw => (allNumbers_unusable_iff.mp hw).elim
  | .string s, _, _ => lexes_stringChars s
  | .array [], _, _ => by
    rw [chars, tokens]
    exact (punctuation_openBracket.continues
      (punctuation_closeBracket.continues Continues.nil.lexes).lexes).lexes
  | .array (j :: js), hr, hw => by
    have hr := List.forall_mem_cons.mp (allNumbers_array_iff.mp hr)
    have hw := List.forall_mem_cons.mp (allNumbers_array_iff.mp hw)
    rw [chars, tokens]
    exact (punctuation_openBracket.continues (((lexes_chars hr.1 hw.1).append
      (continues_itemChars hr.2 hw.2)).append
        (punctuation_closeBracket.continues Continues.nil.lexes))).lexes
  | .object [], _, _ => by
    rw [chars, tokens]
    exact (punctuation_openBrace.continues
      (punctuation_closeBrace.continues Continues.nil.lexes).lexes).lexes
  | .object ((k, v) :: fs), hr, hw => by
    have hr := List.forall_mem_cons.mp (allNumbers_object_iff.mp hr)
    have hw := List.forall_mem_cons.mp (allNumbers_object_iff.mp hw)
    rw [chars, tokens]
    exact (punctuation_openBrace.continues (((lexes_field k (lexes_chars hr.1 hw.1)).append
      (continues_fieldChars hr.2 hw.2)).append
        (punctuation_closeBrace.continues Continues.nil.lexes))).lexes

lemma continues_itemChars : ∀ {js : List Json}, (∀ j ∈ js, j.Ranged) → (∀ j ∈ js, j.Whole) →
    Continues (itemChars js) (itemTokens js)
  | [], _, _ => Continues.nil
  | j :: js, hr, hw => by
    have hr := List.forall_mem_cons.mp hr
    have hw := List.forall_mem_cons.mp hw
    exact (punctuation_comma.continues (lexes_chars hr.1 hw.1)).append
      (continues_itemChars hr.2 hw.2)

lemma continues_fieldChars : ∀ {fs : List (String × Json)}, (∀ f ∈ fs, f.2.Ranged) →
    (∀ f ∈ fs, f.2.Whole) → Continues (fieldChars fs) (fieldTokens fs)
  | [], _, _ => Continues.nil
  | (k, v) :: fs, hr, hw => by
    have hr := List.forall_mem_cons.mp hr
    have hw := List.forall_mem_cons.mp hw
    exact (punctuation_comma.continues (lexes_field k (lexes_chars hr.1 hw.1))).append
      (continues_fieldChars hr.2 hw.2)

end

/-- The tokens that are found in the text of a value are its tokens. -/
lemma scan_chars {j : Json} (hr : j.Ranged) (hw : j.Whole) : scan (chars j) = some (tokens j) := by
  obtain ⟨l, hfold, hl⟩ := lexes_chars hr hw []
  rw [scan, hfold, Option.bind_some, hl.finish]
  simp

end DeviceFleet.Json
