import Mathlib.Data.List.Forall2
import TemplateBundler.Json.Lexeme
import TemplateBundler.Json.Printer

/-!
# Quoting: a quoted string is read back as it was

Whatever characters a text has, the reader of quoted strings gives back the text that was written,
and stops right behind the closing quote.
-/

namespace TemplateBundler.Json

/-- The piece names the character: directly, or by the number of a control character. -/
def Spells (piece : Piece) (c : Char) : Prop :=
  piece = .char c ∨ piece = .unit c.toNat ∧ c.toNat < 0x20

/-! ## Characters -/

theorem eq_ofNat_of_toNat_eq {c : Char} {n : Nat} (h : c.toNat = n) : c = Char.ofNat n := by
  rw [← h, Char.ofNat_toNat]

theorem natOf?_hexDigits : ∀ n < 0x20,
    Integer.natOf? 16 ['0', '0', hexDigit (n / 16), hexDigit (n % 16)] = some n := by
  decide

theorem readPieces?_plain {c : Char} (hquote : c ≠ '"') (hslash : c ≠ '\\') (hc : 0x20 ≤ c.toNat)
    (done : List Piece) (rest : List Char) :
    readPieces? done (c :: rest) = readPieces? (.char c :: done) rest := by
  rw [readPieces?]
  · rw [if_pos ⟨hc, hslash⟩]
  · exact hquote
  · intro a b d e f hne
    exact absurd hne hslash
  · intro d e hne
    exact absurd hne hslash

theorem readPieces?_escape (c : Char) (done : List Piece) (rest : List Char) :
    ∃ piece, Spells piece c ∧
      readPieces? done (escape c ++ rest) = readPieces? (piece :: done) rest := by
  unfold escape
  split_ifs with hquote hslash hplain hb ht hn hf hr
  · subst hquote
    exact ⟨.char '"', .inl rfl, rfl⟩
  · subst hslash
    exact ⟨.char '\\', .inl rfl, rfl⟩
  · exact ⟨.char c, .inl rfl, readPieces?_plain hquote hslash hplain done rest⟩
  · rw [eq_ofNat_of_toNat_eq hb]
    exact ⟨.char '\x08', .inl rfl, rfl⟩
  · rw [eq_ofNat_of_toNat_eq ht]
    exact ⟨.char '\t', .inl rfl, rfl⟩
  · rw [eq_ofNat_of_toNat_eq hn]
    exact ⟨.char '\n', .inl rfl, rfl⟩
  · rw [eq_ofNat_of_toNat_eq hf]
    exact ⟨.char '\x0c', .inl rfl, rfl⟩
  · rw [eq_ofNat_of_toNat_eq hr]
    exact ⟨.char '\r', .inl rfl, rfl⟩
  · have hlow : c.toNat < 0x20 := by omega
    refine ⟨.unit c.toNat, .inr ⟨rfl, hlow⟩, ?_⟩
    simp only [List.cons_append, List.nil_append]
    rw [readPieces?, natOf?_hexDigits c.toNat hlow]

/-! ## Texts -/

theorem readPieces?_flatMap_escape (s : List Char) (done : List Piece) (rest : List Char) :
    ∃ pieces, List.Forall₂ Spells pieces s ∧
      readPieces? done (s.flatMap escape ++ '"' :: rest) = some (done.reverse ++ pieces, rest) := by
  induction s generalizing done with
  | nil => exact ⟨[], .nil, by simp [readPieces?]⟩
  | cons c s ih =>
    obtain ⟨piece, hspells, hread⟩ := readPieces?_escape c done (s.flatMap escape ++ '"' :: rest)
    obtain ⟨pieces, hall, hrest⟩ := ih (piece :: done)
    refine ⟨piece :: pieces, .cons hspells hall, ?_⟩
    rw [List.flatMap_cons, List.append_assoc, hread, hrest]
    simp

theorem joinPieces?_unit {value : Nat} (h : value < 0x20) (done : List Char) (rest : List Piece) :
    joinPieces? done (.unit value :: rest) = joinPieces? (Char.ofNat value :: done) rest := by
  have hhigh : isHighSurrogate value = false := by simp [isHighSurrogate]; omega
  have hlow : isLowSurrogate value = false := by simp [isLowSurrogate]; omega
  cases rest with
  | nil => simp [joinPieces?, hhigh, hlow]
  | cons piece rest =>
    cases piece with
    | char c => simp [joinPieces?, hhigh, hlow]
    | unit low => rw [joinPieces?]; simp [hhigh, hlow]

theorem joinPieces?_of_spells {pieces : List Piece} {s : List Char}
    (h : List.Forall₂ Spells pieces s) (done : List Char) :
    joinPieces? done pieces = some (done.reverse ++ s) := by
  induction h generalizing done with
  | nil => simp [joinPieces?]
  | @cons piece c pieces s hspells _ ih =>
    rcases hspells with rfl | ⟨rfl, hlow⟩
    · rw [joinPieces?, ih]
      simp
    · rw [joinPieces?_unit hlow, ih, Char.ofNat_toNat]
      simp

/-- **A quoted string is read back as it was**, with the text behind its closing quote untouched. -/
theorem readQuoted?_escape (s rest : List Char) :
    readQuoted? (s.flatMap escape ++ '"' :: rest) = some (some s, rest) := by
  obtain ⟨pieces, hall, hread⟩ := readPieces?_flatMap_escape s [] rest
  rw [readQuoted?, hread, Option.map_some, List.reverse_nil, List.nil_append]
  simp only [joinPieces?_of_spells hall, List.reverse_nil, List.nil_append]

end TemplateBundler.Json
