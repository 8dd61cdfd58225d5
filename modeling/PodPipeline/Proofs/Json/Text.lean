import Mathlib.Data.List.Basic
import PodPipeline.Json.Basic

/-! The text of a JSON value shows the value, and where in a longer text it ends. This holds of
values whose numbers are integers: a number that is kept by its literal may look like another. -/
namespace PodPipeline.Json

variable {r s : List Char}

/-! Strings. -/

/-- Reads one character inside a string, and leaves the rest. -/
def unescape : List Char → Option (Char × List Char)
  | '\\' :: 'b' :: r => some ('\x08', r)
  | '\\' :: 'f' :: r => some ('\x0c', r)
  | '\\' :: 'n' :: r => some ('\n', r)
  | '\\' :: 'r' :: r => some ('\r', r)
  | '\\' :: 't' :: r => some ('\t', r)
  | '\\' :: 'u' :: _ :: _ :: a :: b :: r => do
    let high ← Numeral.hexValue? a
    let low ← Numeral.hexValue? b
    return (Char.ofNat (16 * high + low), r)
  | '\\' :: c :: r => some (c, r)
  | '"' :: _ => none
  | c :: r => some (c, r)
  | [] => none

theorem unescape_escapeChar (c : Char) (r : List Char) :
    unescape (escapeChar c ++ r) = some (c, r) := by
  unfold escapeChar
  split_ifs with h₁ h₂ h₃ h₄ h₅ h₆ h₇ hc
  case pos => subst h₁; rfl
  case pos => subst h₂; rfl
  case pos => subst h₃; rfl
  case pos => subst h₄; rfl
  case pos => subst h₅; rfl
  case pos => subst h₆; rfl
  case pos => subst h₇; rfl
  case pos =>
    have hhigh := Numeral.hexValue?_lowerHex (c.toNat / 16) (by omega)
    have hlow := Numeral.hexValue?_lowerHex (c.toNat % 16) (by omega)
    have hvalue : 16 * (c.toNat / 16) + c.toNat % 16 = c.toNat := Nat.div_add_mod _ _
    simp only [List.cons_append, List.nil_append, unescape, hhigh, hlow, Option.bind_eq_bind,
      Option.bind_some, Option.pure_def, hvalue, Char.ofNat_toNat]
  case neg =>
    rw [List.singleton_append, unescape.eq_def]
    split <;> simp_all

theorem escapeChar_append_inj {c d : Char} (h : escapeChar c ++ r = escapeChar d ++ s) :
    c = d ∧ r = s := by
  have hread : some (c, r) = some (d, s) := by
    rw [← unescape_escapeChar, h, unescape_escapeChar]
  exact Prod.mk.inj (Option.some.inj hread)

/-- No character inside a string looks like the quote that ends it. -/
theorem escapeChar_append_ne_quote {c : Char} : escapeChar c ++ r ≠ '"' :: s := by
  intro h
  have hread := unescape_escapeChar c r
  rw [h] at hread
  cases hread

theorem escaped_append_inj {l m : List Char}
    (h : l.flatMap escapeChar ++ '"' :: r = m.flatMap escapeChar ++ '"' :: s) :
    l = m ∧ r = s := by
  induction l generalizing m with
  | nil =>
    cases m with
    | nil => exact ⟨rfl, (List.cons.inj h).2⟩
    | cons d m =>
      rw [List.flatMap_cons, List.append_assoc] at h
      exact absurd h.symm escapeChar_append_ne_quote
  | cons c l ih =>
    rw [List.flatMap_cons, List.append_assoc] at h
    cases m with
    | nil => exact absurd h escapeChar_append_ne_quote
    | cons d m =>
      rw [List.flatMap_cons, List.append_assoc] at h
      obtain ⟨rfl, hrest⟩ := escapeChar_append_inj h
      obtain ⟨rfl, rfl⟩ := ih hrest
      exact ⟨rfl, rfl⟩

theorem stringText_append_inj {a b : String} (h : stringText a ++ r = stringText b ++ s) :
    a = b ∧ r = s := by
  simp only [stringText, List.cons_append, List.append_assoc, List.nil_append,
    List.cons.injEq, true_and] at h
  obtain ⟨hl, hr⟩ := escaped_append_inj h
  exact ⟨String.toList_inj.mp hl, hr⟩

/-! Integers. -/

/-- What follows a number does not go on with a digit. -/
def Ends (r : List Char) : Prop := ∀ c ∈ r.head?, c.isDigit = false

theorem Ends.takeWhile (h : Ends r) : r.takeWhile Char.isDigit = [] := by
  cases r with
  | nil => rfl
  | cons c r => exact List.takeWhile_cons_of_neg (by simp [h c rfl])

theorem digits_append_inj {m n : Nat} (hr : Ends r) (hs : Ends s)
    (h : Nat.toDigits 10 m ++ r = Nat.toDigits 10 n ++ s) : m = n ∧ r = s := by
  have htake (k : Nat) {t : List Char} (ht : Ends t) :
      (Nat.toDigits 10 k ++ t).takeWhile Char.isDigit = Nat.toDigits 10 k := by
    have hdigits : ∀ c ∈ Nat.toDigits 10 k, c.isDigit = true := fun c hc =>
      Nat.isDigit_of_mem_toDigits (by decide) (by decide) hc
    rw [List.takeWhile_append_of_pos hdigits, ht.takeWhile, List.append_nil]
  have hdigits : Nat.toDigits 10 m = Nat.toDigits 10 n := by rw [← htake m hr, h, htake n hs]
  refine ⟨?_, List.append_cancel_left (hdigits ▸ h)⟩
  rw [← Nat.ofDigitChars_ten_toDigits (n := m), hdigits, Nat.ofDigitChars_ten_toDigits]

/-- The text of an integer: its digits, after a sign if it is negative. -/
theorem numberText_int (i : Int) : numberText (.int i) =
    if 0 ≤ i then Nat.toDigits 10 i.toNat else '-' :: Nat.toDigits 10 (-i).toNat := by
  change (toString i).toList = _
  rw [Int.toString_eq_repr, Int.repr_eq_if]
  split <;> simp

theorem numberText_append_inj {i j : Int} (hr : Ends r) (hs : Ends s)
    (h : numberText (.int i) ++ r = numberText (.int j) ++ s) : i = j ∧ r = s := by
  have hsign (n : Nat) (t u : List Char) : Nat.toDigits 10 n ++ t ≠ '-' :: u := by
    intro hn
    cases hd : Nat.toDigits 10 n with
    | nil => exact Nat.toDigits_ne_nil hd
    | cons c l =>
      rw [hd, List.cons_append, List.cons.injEq] at hn
      have hc : c.isDigit = true :=
        Nat.isDigit_of_mem_toDigits (by decide) (by decide) (hd ▸ List.mem_cons_self)
      rw [hn.1] at hc
      cases hc
  rw [numberText_int, numberText_int] at h
  by_cases hi : 0 ≤ i
  · by_cases hj : 0 ≤ j
    · rw [if_pos hi, if_pos hj] at h
      obtain ⟨hij, hrest⟩ := digits_append_inj hr hs h
      exact ⟨by omega, hrest⟩
    · rw [if_pos hi, if_neg hj] at h
      exact absurd h (hsign _ _ _)
  · by_cases hj : 0 ≤ j
    · rw [if_neg hi, if_pos hj] at h
      exact absurd h.symm (hsign _ _ _)
    · rw [if_neg hi, if_neg hj] at h
      obtain ⟨hij, hrest⟩ := digits_append_inj hr hs (List.cons.inj h).2
      exact ⟨by omega, hrest⟩

/-! Lists of items and of fields. -/

def joined {α : Type} (f : α → List Char) : List α → List Char
  | [] => []
  | a :: l => f a ++ l.flatMap fun b => ',' :: f b

theorem itemChars_eq_joined (l : List Json) : itemChars l = joined chars l := by
  induction l with
  | nil => rw [itemChars, joined]
  | cons v l ih =>
    cases l with
    | nil => rw [itemChars, joined, List.flatMap_nil, List.append_nil]
    | cons w l => rw [itemChars, ih, joined, joined, List.flatMap_cons, List.cons_append]

def fieldText (e : String × Json) : List Char := stringText e.1 ++ ':' :: chars e.2

theorem fieldChars_eq_joined (l : List (String × Json)) : fieldChars l = joined fieldText l := by
  induction l with
  | nil => rw [fieldChars, joined]
  | cons e l ih =>
    cases l with
    | nil => rw [fieldChars, joined, List.flatMap_nil, List.append_nil, fieldText]
    | cons e' l =>
      rw [fieldChars, ih, joined, joined, List.flatMap_cons, List.cons_append]
      rfl

section Joined

variable {α : Type} {f : α → List Char} {l m : List α} {z : Char}

/-- The texts of two lists can be told apart one by one, wherever they stand. -/
def Separates (f : α → List Char) (l m : List α) : Prop :=
  ∀ a ∈ l, ∀ b ∈ m, ∀ r s, Ends r → Ends s → f a ++ r = f b ++ s → a = b ∧ r = s

private theorem ends_tails (hz : z.isDigit = false) (l : List α) (r : List Char) :
    Ends ((l.flatMap fun b => ',' :: f b) ++ z :: r) := by
  intro c hc
  cases l with
  | nil => cases hc; exact hz
  | cons a l => cases hc; rfl

private theorem tails_append_inj (hz : z.isDigit = false) (hcomma : z ≠ ',')
    (hf : Separates f l m)
    (h : (l.flatMap fun b => ',' :: f b) ++ z :: r = (m.flatMap fun b => ',' :: f b) ++ z :: s) :
    l = m ∧ r = s := by
  induction l generalizing m with
  | nil =>
    cases m with
    | nil => exact ⟨rfl, (List.cons.inj h).2⟩
    | cons b m => exact absurd (List.cons.inj h).1 hcomma
  | cons a l ih =>
    cases m with
    | nil => exact absurd (List.cons.inj h).1.symm hcomma
    | cons b m =>
      simp only [List.flatMap_cons, List.cons_append, List.append_assoc, List.cons.injEq,
        true_and] at h
      obtain ⟨rfl, hrest⟩ := hf a List.mem_cons_self b List.mem_cons_self _ _
        (ends_tails hz l r) (ends_tails hz m s) h
      have hf' : Separates f l m := fun a ha b hb =>
        hf a (List.mem_cons_of_mem _ ha) b (List.mem_cons_of_mem _ hb)
      obtain ⟨rfl, rfl⟩ := ih hf' hrest
      exact ⟨rfl, rfl⟩

/-- A list between brackets shows its items, if none of them begins like the closing bracket. -/
theorem joined_append_inj (hz : z.isDigit = false) (hcomma : z ≠ ',')
    (hstart : ∀ a, a ∈ l ∨ a ∈ m → ∀ r s, f a ++ r ≠ z :: s) (hf : Separates f l m)
    (h : joined f l ++ z :: r = joined f m ++ z :: s) : l = m ∧ r = s := by
  cases l with
  | nil =>
    cases m with
    | nil => exact ⟨rfl, (List.cons.inj h).2⟩
    | cons b m =>
      rw [joined, joined, List.append_assoc] at h
      exact absurd h.symm (hstart b (.inr List.mem_cons_self) _ _)
  | cons a l =>
    cases m with
    | nil =>
      rw [joined, joined, List.append_assoc] at h
      exact absurd h (hstart a (.inl List.mem_cons_self) _ _)
    | cons b m =>
      rw [joined, joined, List.append_assoc, List.append_assoc] at h
      obtain ⟨rfl, hrest⟩ := hf a List.mem_cons_self b List.mem_cons_self _ _
        (ends_tails hz l r) (ends_tails hz m s) h
      have hf' : Separates f l m := fun a ha b hb =>
        hf a (List.mem_cons_of_mem _ ha) b (List.mem_cons_of_mem _ hb)
      obtain ⟨rfl, rfl⟩ := tails_append_inj hz hcomma hf' hrest
      exact ⟨rfl, rfl⟩

end Joined

/-! Values. -/

/-- Every number in the value is an integer. -/
inductive Exact : Json → Prop where
  | null : Exact .null
  | bool (b : Bool) : Exact (.bool b)
  | int (i : Int) : Exact (.number (.int i))
  | string (t : String) : Exact (.string t)
  | array {items : List Json} (h : ∀ v ∈ items, Exact v) : Exact (.array items)
  | object {fields : List (String × Json)} (h : ∀ e ∈ fields, Exact e.2) : Exact (.object fields)

/-- A character that stands for those with which the text of a value may begin. -/
def opening : Json → Char
  | .null => 'n'
  | .bool _ => 't'
  | .number _ => '0'
  | .string _ => '"'
  | .array _ => '['
  | .object _ => '\x7b'

/-- The opening of a value whose text begins with a character. -/
def openingOf (c : Char) : Char :=
  if c.isDigit ∨ c = '-' then '0' else if c = 'f' then 't' else c

theorem Exact.head_chars {v : Json} (h : v.Exact) :
    ∃ c t, chars v = c :: t ∧ openingOf c = v.opening := by
  cases h with
  | null => exact ⟨_, _, rfl, rfl⟩
  | bool b => cases b <;> exact ⟨_, _, rfl, rfl⟩
  | string t => exact ⟨_, _, rfl, rfl⟩
  | array => exact ⟨_, _, by rw [chars], rfl⟩
  | object => exact ⟨_, _, by rw [chars], rfl⟩
  | int i =>
    rw [chars, numberText_int]
    split
    · cases hd : Nat.toDigits 10 i.toNat with
      | nil => exact absurd hd Nat.toDigits_ne_nil
      | cons c l =>
        have hc : c.isDigit = true :=
          Nat.isDigit_of_mem_toDigits (by decide) (by decide) (hd ▸ List.mem_cons_self)
        exact ⟨c, l, rfl, if_pos (.inl hc)⟩
    · exact ⟨_, _, rfl, rfl⟩

theorem Exact.opening_eq {v w : Json} (hv : v.Exact) (hw : w.Exact)
    (h : chars v ++ r = chars w ++ s) : v.opening = w.opening := by
  obtain ⟨c, t, hc, hvo⟩ := hv.head_chars
  obtain ⟨d, u, hd, hwo⟩ := hw.head_chars
  rw [hc, hd, List.cons_append, List.cons_append, List.cons.injEq] at h
  rw [← hvo, ← hwo, h.1]

/-- No value begins like the bracket that closes a list. -/
theorem Exact.chars_append_ne {v : Json} (hv : v.Exact) : chars v ++ r ≠ ']' :: s := by
  intro h
  obtain ⟨c, t, hc, ho⟩ := hv.head_chars
  rw [hc, List.cons_append, List.cons.injEq] at h
  have hclosing : v.opening = ']' := by rw [← ho, h.1]; rfl
  cases v <;> simp [opening] at hclosing

/-- The text of a value shows the value and where it ends. -/
theorem Exact.chars_append_inj {v w : Json} (hv : v.Exact) (hw : w.Exact) (hr : Ends r)
    (hs : Ends s) (h : chars v ++ r = chars w ++ s) : v = w ∧ r = s := by
  have ho := hv.opening_eq hw h
  induction hv generalizing w r s with
  | null =>
    cases hw with
    | null => exact ⟨rfl, List.append_cancel_left h⟩
    | _ => simp [opening] at ho
  | bool b =>
    cases hw with
    | bool c => cases b <;> cases c <;> simp_all [chars]
    | _ => simp [opening] at ho
  | int i =>
    cases hw with
    | int j =>
      rw [chars, chars] at h
      obtain ⟨rfl, rfl⟩ := numberText_append_inj hr hs h
      exact ⟨rfl, rfl⟩
    | _ => simp [opening] at ho
  | string t =>
    cases hw with
    | string u =>
      rw [chars, chars] at h
      obtain ⟨rfl, rfl⟩ := stringText_append_inj h
      exact ⟨rfl, rfl⟩
    | _ => simp [opening] at ho
  | @array items hitems ih =>
    cases hw with
    | @array items' hitems' =>
      simp only [chars, itemChars_eq_joined, List.cons_append, List.append_assoc,
        List.nil_append, List.cons.injEq, true_and] at h
      have hsep : Separates chars items items' := fun a ha b hb t u ht hu hab =>
        ih a ha (hitems' b hb) ht hu hab ((hitems a ha).opening_eq (hitems' b hb) hab)
      have hstart : ∀ a, a ∈ items ∨ a ∈ items' → ∀ t u, chars a ++ t ≠ ']' :: u := by
        rintro a (ha | ha) t u
        · exact (hitems a ha).chars_append_ne
        · exact (hitems' a ha).chars_append_ne
      obtain ⟨rfl, rfl⟩ := joined_append_inj (by decide) (by decide) hstart hsep h
      exact ⟨rfl, rfl⟩
    | _ => simp [opening] at ho
  | @object fields hfields ih =>
    cases hw with
    | @object fields' hfields' =>
      simp only [chars, fieldChars_eq_joined, List.cons_append, List.append_assoc,
        List.nil_append, List.cons.injEq, true_and] at h
      have hsep : Separates fieldText fields fields' := by
        intro a ha b hb t u ht hu hab
        simp only [fieldText, List.append_assoc] at hab
        obtain ⟨hkey, hrest⟩ := stringText_append_inj hab
        have hvalues := (List.cons.inj hrest).2
        obtain ⟨hvalue, htu⟩ := ih a ha (hfields' b hb) ht hu hvalues
          ((hfields a ha).opening_eq (hfields' b hb) hvalues)
        exact ⟨Prod.ext hkey hvalue, htu⟩
      have hstart : ∀ a, a ∈ fields ∨ a ∈ fields' → ∀ t u, fieldText a ++ t ≠ '\x7d' :: u := by
        intro a _ t u hab
        cases (List.cons.inj hab).1
      obtain ⟨rfl, rfl⟩ := joined_append_inj (by decide) (by decide) hstart hsep h
      exact ⟨rfl, rfl⟩
    | _ => simp [opening] at ho

/-- Values with the same text are the same. -/
theorem Exact.text_inj {v w : Json} (hv : v.Exact) (hw : w.Exact) (h : v.text = w.text) :
    v = w := by
  have hchars : chars v ++ [] = chars w ++ [] := by
    rw [List.append_nil, List.append_nil]
    exact String.ofList_injective h
  exact (hv.chars_append_inj hw (by simp [Ends]) (by simp [Ends]) hchars).1

end PodPipeline.Json
