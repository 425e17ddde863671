import Mathlib.Data.List.DropRight
import TemplateBundler.Number.Integer
import TemplateBundler.Text.Blank

/-!
# DecimalText: reading back the text of a number

The decimal text of an integer is its digits, with a minus sign in front of those of a negative one.
It is read back as the same integer, and it has no blanks that could be cut off.
-/

namespace TemplateBundler

namespace Integer

theorem digitOf?_of_isDigit {c : Char} (h : c.isDigit = true) :
    digitOf? 10 c = some (c.toNat - '0'.toNat) := by
  have hrange : '0' ≤ c ∧ c ≤ '9' := by
    simpa [Char.isDigit, Char.le_def] using h
  have hvalue : c.toNat - '0'.toNat < 10 := by
    have hle : c.toNat ≤ '9'.toNat := hrange.2
    have hnine : '9'.toNat = 57 := rfl
    have hzero : '0'.toNat = 48 := rfl
    omega
  simp only [digitOf?, if_pos hrange, if_pos hvalue]

theorem continueFrom?_of_isDigit {chars : List Char} (h : ∀ c ∈ chars, c.isDigit = true)
    (start : Nat) : continueFrom? 10 start chars = some (Nat.ofDigitChars 10 chars start) := by
  induction chars generalizing start with
  | nil => rfl
  | cons c chars ih =>
    obtain ⟨hc, hchars⟩ := List.forall_mem_cons.1 h
    rw [continueFrom?, digitOf?_of_isDigit hc, Nat.ofDigitChars_cons]
    exact ih hchars _

theorem isDigit_of_mem_digits {n : Nat} {c : Char} (h : c ∈ digits n) : c.isDigit = true :=
  Nat.isDigit_of_mem_toDigits (by decide) (by decide) h

theorem natOf?_digits (n : Nat) : natOf? 10 (digits n) = some n := by
  have hne : (digits n).isEmpty = false := by simp [digits, Nat.toDigits_ne_nil]
  have hread : continueFrom? 10 0 (digits n) = some n := by
    rw [continueFrom?_of_isDigit fun c hc => isDigit_of_mem_digits hc, digits,
      Nat.ofDigitChars_toDigits (by decide) (by decide)]
  rw [natOf?, hne, if_neg Bool.false_ne_true, hread]

theorem signedOf?_digits (n : Nat) : signedOf? (digits n) = some (n : Int) := by
  -- a sign in front would have to be a digit
  have hfirst : ∀ c rest, digits n = c :: rest → c.isDigit = true := by
    intro c rest h
    have hmem : c ∈ digits n := by simp [h]
    exact isDigit_of_mem_digits hmem
  unfold signedOf?
  split
  · rename_i rest hminus
    exact absurd (hfirst _ rest hminus) (by decide)
  · unfold unsignedOf?
    split
    · rename_i rest hplus
      exact absurd (hfirst _ rest hplus) (by decide)
    · rw [natOf?_digits]
      rfl

/-- The text of an integer is read back. -/
theorem signedOf?_text (n : Int) : signedOf? (text n) = some n := by
  unfold text
  split
  · rw [signedOf?, natOf?_digits]
    change some (-(n.natAbs : Int)) = some n
    rw [Option.some.injEq]
    omega
  · rw [signedOf?_digits, Option.some.injEq]
    omega

theorem mem_text {n : Int} {c : Char} (h : c ∈ text n) : c = '-' ∨ c.isDigit = true := by
  unfold text at h
  split at h
  · rcases List.mem_cons.1 h with hsign | hdigit
    · exact .inl hsign
    · exact .inr (isDigit_of_mem_digits hdigit)
  · exact .inr (isDigit_of_mem_digits h)

theorem not_isBlank_of_mem_text {n : Int} {c : Char} (h : c ∈ text n) :
    Text.isBlank c = false := by
  rcases mem_text h with rfl | hdigit
  · rfl
  · have hrange : 48 ≤ c.toNat ∧ c.toNat ≤ 57 := Char.isDigit_iff_toNat.1 hdigit
    simp only [Text.isBlank]
    grind

end Integer

theorem Text.trim_of_not_isBlank {chars : List Char} (h : ∀ c ∈ chars, Text.isBlank c = false) :
    Text.trim chars = chars := by
  have hfront : chars.dropWhile Text.isBlank = chars := by
    rw [List.dropWhile_eq_self_iff]
    intro hpos
    simp [h _ (List.getElem_mem hpos)]
  have hback : chars.rdropWhile Text.isBlank = chars := by
    rw [List.rdropWhile_eq_self_iff]
    intro hne
    simp [h _ (List.getLast_mem hne)]
  rw [Text.trim, hfront]
  exact hback

theorem Integer.trim_text (n : Int) : Text.trim (Integer.text n) = Integer.text n :=
  Text.trim_of_not_isBlank fun _ hc => not_isBlank_of_mem_text hc

end TemplateBundler
