import Mathlib.Data.Nat.Digits.Defs
import Mathlib.Tactic.SplitIfs

/-! Decimal integers at the start of a text, as the C library's `strtol` reads them in base ten: white
space, a sign, digits. -/

namespace LeadingInteger

/-- `isspace` of the C locale. -/
def isSpace (c : Char) : Bool :=
  c = ' ' ∨ c = '\t' ∨ c = '\n' ∨ c = '\x0b' ∨ c = '\x0c' ∨ c = '\r'

/-- The digits at the start and what follows them; a text that starts with no digit has no number. -/
def readNat (text : List Char) : Option (ℕ × List Char) :=
  let digits := text.takeWhile Char.isDigit
  if digits = [] then none
  else some (Nat.ofDigitChars 10 digits 0, text.dropWhile Char.isDigit)

/-- The number at the start of a text, after white space and a sign, and what follows it. -/
def readInt (text : List Char) : Option (ℤ × List Char) :=
  match text.dropWhile isSpace with
  | '-' :: rest => (readNat rest).map fun r => (-(r.1 : ℤ), r.2)
  | '+' :: rest => (readNat rest).map fun r => ((r.1 : ℤ), r.2)
  | rest => (readNat rest).map fun r => ((r.1 : ℤ), r.2)

def value (text : List Char) : ℤ := ((readInt text).map Prod.fst).getD 0

variable {c : Char} {text rest : List Char}

theorem readNat_append {digits : List Char} (hne : digits ≠ []) (hdigits : ∀ c ∈ digits, c.isDigit)
    (hrest : ∀ c ∈ rest.head?, c.isDigit = false) :
    readNat (digits ++ rest) = some (Nat.ofDigitChars 10 digits 0, rest) := by
  have hstop : rest.takeWhile Char.isDigit = [] ∧ rest.dropWhile Char.isDigit = rest := by
    cases rest with
    | nil => exact ⟨rfl, rfl⟩
    | cons c rest => simp [hrest c rfl]
  unfold readNat
  rw [List.takeWhile_append_of_pos hdigits, List.dropWhile_append_of_pos hdigits, hstop.1, hstop.2,
    List.append_nil, if_neg hne]

theorem isDigit_of_mem_toDigits {n : ℕ} (hc : c ∈ Nat.toDigits 10 n) : c.isDigit :=
  Nat.isDigit_of_mem_toDigits (by decide) (by decide) hc

theorem readNat_toDigits (n : ℕ) (hrest : ∀ c ∈ rest.head?, c.isDigit = false) :
    readNat (Nat.toDigits 10 n ++ rest) = some (n, rest) := by
  rw [readNat_append Nat.toDigits_ne_nil (fun c hc => isDigit_of_mem_toDigits hc) hrest,
    Nat.ofDigitChars_ten_toDigits]

theorem readInt_of_isDigit (hc : c.isDigit) :
    readInt (c :: rest) = (readNat (c :: rest)).map fun r => ((r.1 : ℤ), r.2) := by
  have hspace : isSpace c = false := by
    by_contra hspace
    rw [Bool.not_eq_false] at hspace
    rcases (by simpa [isSpace] using hspace : c = ' ' ∨ c = '\t' ∨ c = '\n' ∨ c = '\x0b' ∨
      c = '\x0c' ∨ c = '\r') with rfl | rfl | rfl | rfl | rfl | rfl <;> exact absurd hc (by decide)
  have hminus : c ≠ '-' := by
    rintro rfl
    exact absurd hc (by decide)
  have hplus : c ≠ '+' := by
    rintro rfl
    exact absurd hc (by decide)
  unfold readInt
  rw [List.dropWhile_cons_of_neg (by simp [hspace])]
  split
  · rename_i h
    exact absurd (List.cons.inj h).1 hminus
  · rename_i h
    exact absurd (List.cons.inj h).1 hplus
  · rfl

theorem exists_toDigits (n : ℕ) : ∃ c cs, Nat.toDigits 10 n = c :: cs ∧ c.isDigit := by
  cases h : Nat.toDigits 10 n with
  | nil => exact absurd h Nat.toDigits_ne_nil
  | cons c cs => exact ⟨c, cs, rfl, isDigit_of_mem_toDigits (h ▸ List.mem_cons_self)⟩

theorem readInt_toDigits (n : ℕ) (hrest : ∀ c ∈ rest.head?, c.isDigit = false) :
    readInt (Nat.toDigits 10 n ++ rest) = some ((n : ℤ), rest) := by
  have hread := readNat_toDigits n hrest
  obtain ⟨c, cs, hdigits, hc⟩ := exists_toDigits n
  rw [hdigits, List.cons_append] at hread ⊢
  rw [readInt_of_isDigit hc, hread]
  rfl

theorem toList_toString (n : ℤ) : (toString n).toList =
    if 0 ≤ n then Nat.toDigits 10 n.natAbs else '-' :: Nat.toDigits 10 n.natAbs := by
  cases n with
  | ofNat n =>
    refine Eq.trans ?_ (if_pos (Int.natCast_nonneg n)).symm
    exact Nat.toList_repr
  | negSucc n =>
    rw [if_neg (by omega)]
    have htext : toString (Int.negSucc n) = "-" ++ (n + 1).repr := rfl
    rw [htext, String.toList_append, Nat.toList_repr]
    rfl

end LeadingInteger
