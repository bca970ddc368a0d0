import Mathlib.Data.List.Forall2
import SignalLab.Text.Quoted

/-!
# Quotes — texts shown between quotes

A text is shown between quotes with each of its characters written in one of four ways: with a backslash
in front, as a backslash and a letter, as itself, or by the hexadecimal digits of its code point
(`IsEscaped`).  The quotes are single ones unless there are such in the text and no double ones
(`IsQuote`).  A text is shown in one way, with all printable characters (`isQuoted_false_iff`) or with
those of ASCII only (`isQuoted_true_iff`).
-/

namespace SignalLab.Print

open Text

/-! ## Characters between quotes -/

/-- The letter for the number of hexadecimal digits that a code point needs. -/
inductive IsCodeLetter (n : Nat) : Char → Nat → Prop
  | x (small : n < 0x100) : IsCodeLetter n 'x' 2
  | u (large : 0x100 ≤ n) (small : n < 0x10000) : IsCodeLetter n 'u' 4
  | U (large : 0x10000 ≤ n) : IsCodeLetter n 'U' 8

/-- The code point of a character in hexadecimal digits, behind a backslash and its letter. -/
inductive IsCode (c : Char) : Text → Prop
  | mk {letter : Char} {width zeros : Nat} (isLetter : IsCodeLetter c.toNat letter width)
      (full : zeros + (Nat.toDigits 16 c.toNat).length =
        max width (Nat.toDigits 16 c.toNat).length) :
      IsCode c ('\\' :: letter :: (List.replicate zeros '0' ++ Nat.toDigits 16 c.toNat))

/-- Whether a character is shown as itself where it has no meaning for the quotes. -/
def IsShownAsIs (ascii : Bool) (c : Char) : Prop :=
  isPrintable c = true ∧ (ascii = true → c.toNat < 0x80)

/-- How a character is written between quotes, with the characters of ASCII only or with all. -/
inductive IsEscaped (quote : Char) (ascii : Bool) (c : Char) : Text → Prop
  | backslash (special : c = quote ∨ c = '\\') : IsEscaped quote ascii c ['\\', c]
  | control {letter : Char} (plain : c ≠ quote ∧ c ≠ '\\')
      (control : (c, letter) ∈ [('\n', 'n'), ('\r', 'r'), ('\t', 't')]) :
      IsEscaped quote ascii c ['\\', letter]
  | itself (plain : c ≠ quote ∧ c ≠ '\\') (other : c ∉ ['\n', '\r', '\t'])
      (shown : IsShownAsIs ascii c) : IsEscaped quote ascii c [c]
  | code {t : Text} (plain : c ≠ quote ∧ c ≠ '\\') (other : c ∉ ['\n', '\r', '\t'])
      (hidden : ¬ IsShownAsIs ascii c) (code : IsCode c t) : IsEscaped quote ascii c t

/-- The quote that a text is shown between. -/
inductive IsQuote (s : Text) : Char → Prop
  | single (simple : '\'' ∉ s ∨ '"' ∈ s) : IsQuote s '\''
  | double (some : '\'' ∈ s) (none : '"' ∉ s) : IsQuote s '"'

/-- A text between quotes. -/
inductive IsQuoted (ascii : Bool) (s : Text) : Text → Prop
  | mk {quote : Char} {pieces : List Text} (isQuote : IsQuote s quote)
      (escaped : List.Forall₂ (IsEscaped quote ascii) s pieces) :
      IsQuoted ascii s (quote :: pieces.flatten ++ [quote])

/-! ## There is one way -/

/-- A code point is written with one letter and one number of digits. -/
theorem isCode_iff {c : Char} {t : Text} : IsCode c t ↔ t = escapeByCode c := by
  rw [escapeByCode]
  constructor
  · rintro ⟨hletter, hfull⟩
    rename_i letter width zeros
    obtain rfl : zeros = width - (Nat.toDigits 16 c.toNat).length := by omega
    cases hletter with
    | x small =>
        rw [if_pos small]
        rfl
    | u large small =>
        rw [if_neg (by omega), if_pos small]
        rfl
    | U large =>
        rw [if_neg (by omega), if_neg (by omega)]
        rfl
  · rintro rfl
    split
    · rename_i hsmall
      exact .mk (.x hsmall) (by omega)
    · rename_i hlarge
      split
      · rename_i hsmall
        exact .mk (.u (Nat.le_of_not_lt hlarge) hsmall) (by omega)
      · rename_i hlarge
        exact .mk (.U (Nat.le_of_not_lt hlarge)) (by omega)

section Shown

variable {ascii : Bool} {shown : Char → Bool} (hshown : ∀ c, shown c = true ↔ IsShownAsIs ascii c)
include hshown

/-- A character is written in one of the four ways. -/
theorem isEscaped_iff {quote c : Char} {t : Text} :
    IsEscaped quote ascii c t ↔ t = quoteChar quote shown c := by
  rw [quoteChar]
  constructor
  · rintro (hspecial | ⟨hplain, hcontrol⟩ | ⟨hplain, hother, hc⟩ | ⟨hplain, hother, hc, hcode⟩)
    · rw [if_pos hspecial]
    · rw [if_neg (not_or.mpr hplain)]
      simp only [List.mem_cons, Prod.mk.injEq, List.not_mem_nil, or_false] at hcontrol
      rcases hcontrol with ⟨rfl, rfl⟩ | ⟨rfl, rfl⟩ | ⟨rfl, rfl⟩ <;> rfl
    · simp only [List.mem_cons, List.not_mem_nil, or_false, not_or] at hother
      rw [if_neg (not_or.mpr hplain), if_neg hother.1, if_neg hother.2.1, if_neg hother.2.2,
        if_pos ((hshown c).mpr hc)]
    · simp only [List.mem_cons, List.not_mem_nil, or_false, not_or] at hother
      rw [if_neg (not_or.mpr hplain), if_neg hother.1, if_neg hother.2.1, if_neg hother.2.2,
        if_neg (mt (hshown c).mp hc)]
      exact isCode_iff.mp hcode
  · rintro rfl
    split
    · rename_i hspecial
      exact .backslash hspecial
    rename_i hplain
    have hplain := not_or.mp hplain
    split
    · rename_i hc
      exact .control hplain (by simp [hc])
    split
    · rename_i hc
      exact .control hplain (by simp [hc])
    split
    · rename_i hc
      exact .control hplain (by simp [hc])
    -- what is left has no letter of its own behind a backslash
    have hother : c ∉ ['\n', '\r', '\t'] := by simp [*]
    split
    · rename_i hc
      exact .itself hplain hother ((hshown c).mp hc)
    · rename_i hc
      exact .code hplain hother (mt (hshown c).mpr hc) (isCode_iff.mpr rfl)

/-- So are all characters of a text. -/
theorem forall₂_isEscaped_iff {quote : Char} {s : Text} {pieces : List Text} :
    List.Forall₂ (IsEscaped quote ascii) s pieces ↔ pieces = s.map (quoteChar quote shown) := by
  induction s generalizing pieces with
  | nil => rw [List.forall₂_nil_left_iff, List.map_nil]
  | cons c s ih =>
      rw [List.forall₂_cons_left_iff, List.map_cons]
      constructor
      · rintro ⟨piece, rest, hpiece, hrest, rfl⟩
        rw [(isEscaped_iff hshown).mp hpiece, ih.mp hrest]
      · rintro rfl
        exact ⟨_, _, (isEscaped_iff hshown).mpr rfl, ih.mpr rfl, rfl⟩

end Shown

/-- A text has one quote. -/
theorem isQuote_iff {s : Text} {quote : Char} : IsQuote s quote ↔ quote = quoteFor s := by
  have htest : (s.contains '\'' && !s.contains '"') = true ↔ '\'' ∈ s ∧ '"' ∉ s := by simp
  rw [quoteFor]
  constructor
  · rintro (hsimple | ⟨hsome, hnone⟩)
    · rw [if_neg (mt htest.mp (by tauto))]
    · rw [if_pos (htest.mpr ⟨hsome, hnone⟩)]
  · rintro rfl
    split
    · rename_i hdouble
      obtain ⟨hsome, hnone⟩ := htest.mp hdouble
      exact .double hsome hnone
    · rename_i hsingle
      exact .single (by have := mt htest.mpr hsingle; tauto)

/-- A text between quotes, with the characters that are shown as themselves. -/
theorem isQuoted_iff {ascii : Bool} {shown : Char → Bool}
    (hshown : ∀ c, shown c = true ↔ IsShownAsIs ascii c) {s t : Text} :
    IsQuoted ascii s t ↔
      t = quoteFor s :: s.flatMap (quoteChar (quoteFor s) shown) ++ [quoteFor s] := by
  constructor
  · rintro ⟨hquote, hescaped⟩
    obtain rfl := isQuote_iff.mp hquote
    obtain rfl := (forall₂_isEscaped_iff hshown).mp hescaped
    rfl
  · rintro rfl
    exact .mk (isQuote_iff.mpr rfl) ((forall₂_isEscaped_iff hshown).mpr rfl)

/-- With all printable characters a text is shown like this. -/
theorem isQuoted_false_iff {s t : Text} : IsQuoted false s t ↔ t = quoted s :=
  isQuoted_iff fun c => by simp [IsShownAsIs]

/-- And with those of ASCII only like that. -/
theorem isQuoted_true_iff {s t : Text} : IsQuoted true s t ↔ t = quotedAscii s :=
  isQuoted_iff fun c => by simp [IsShownAsIs, and_comm]

end SignalLab.Print
