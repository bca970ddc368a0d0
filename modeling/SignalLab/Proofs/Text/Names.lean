import SignalLab.Text.Pattern

/-!
# Names — the characters of names

A name begins with an ASCII letter or an underscore, which is no digit of any script, and goes on
with word characters, ASCII digits among them.
-/

namespace SignalLab.Text

variable {c : Char}

/-- The code points of the ASCII letters. -/
theorem toNat_of_isAlpha (hc : c.isAlpha = true) :
    (65 ≤ c.toNat ∧ c.toNat ≤ 90) ∨ (97 ≤ c.toNat ∧ c.toNat ≤ 122) := by
  delta Char.isAlpha Char.isUpper Char.isLower at hc
  simp only [Bool.or_eq_true, Bool.and_eq_true, decide_eq_true_eq, UInt32.le_iff_toNat_le] at hc
  exact hc

/-- The code points of the ASCII digits. -/
theorem toNat_of_isDigit (hc : c.isDigit = true) : 48 ≤ c.toNat ∧ c.toNat ≤ 57 :=
  Char.isDigit_iff_toNat.mp hc

/-- A character that begins an ASCII name is in ASCII. -/
theorem toNat_lt_of_isAsciiNameStart (hc : isAsciiNameStart c = true) : c.toNat < 0x80 := by
  rw [isAsciiNameStart, Bool.or_eq_true, beq_iff_eq] at hc
  rcases hc with rfl | hc
  · decide
  · have hletter := toNat_of_isAlpha hc
    omega

/-- It is no digit. -/
theorem isDigit_of_isAsciiNameStart (hc : isAsciiNameStart c = true) : c.isDigit = false := by
  rw [isAsciiNameStart, Bool.or_eq_true, beq_iff_eq] at hc
  rcases hc with rfl | hc
  · decide
  · have hletter := toNat_of_isAlpha hc
    refine Bool.eq_false_iff.mpr fun hdigit => ?_
    have hbounds := toNat_of_isDigit hdigit
    omega

/-- It is no digit of any other script either. -/
theorem digitValue?_of_isAsciiNameStart (hc : isAsciiNameStart c = true) :
    digitValue? c = none := by
  rw [digitValue?, if_pos (toNat_lt_of_isAsciiNameStart hc), isDigit_of_isAsciiNameStart hc]
  rfl

/-- It begins a name in the wider sense too. -/
theorem isNameStart_of_isAsciiNameStart (hc : isAsciiNameStart c = true) :
    isNameStart c = true := by
  rw [isNameStart, if_pos (toNat_lt_of_isAsciiNameStart hc), hc]

/-- It is a character of words. -/
theorem isWordChar_of_isAsciiNameStart (hc : isAsciiNameStart c = true) : isWordChar c = true := by
  have hascii := toNat_lt_of_isAsciiNameStart hc
  rw [isAsciiNameStart, Bool.or_eq_true] at hc
  rw [isWordChar, isAlphanumeric, if_pos hascii, Char.isAlphanum, Bool.or_eq_true, Bool.or_eq_true]
  exact hc.imp id .inl

/-- So are the digits. -/
theorem isWordChar_of_isDigit (hc : c.isDigit = true) : isWordChar c = true := by
  have hascii : c.toNat < 0x80 := by
    have hbounds := toNat_of_isDigit hc
    omega
  rw [isWordChar, isAlphanumeric, if_pos hascii, Char.isAlphanum, hc, Bool.or_true, Bool.or_true]

/-- The first character of a name at the front, and that all of the name are word characters. -/
theorem of_takeIdentifier? {s name rest : Text} (h : takeIdentifier? s = some (name, rest)) :
    (∃ c others, name = c :: others ∧ isAsciiNameStart c = true) ∧
      ∀ d ∈ name, isWordChar d = true := by
  rw [takeIdentifier?.eq_def] at h
  split at h
  · cases h
  · rename_i c s
    split at h
    · rename_i hc
      cases h
      refine ⟨⟨c, _, rfl, hc⟩, ?_⟩
      rintro d (_ | ⟨_, hd⟩)
      · exact isWordChar_of_isAsciiNameStart hc
      · exact List.all_eq_true.mp List.all_takeWhile d hd
    · cases h

/-- A name before a character that is none of a word is read up to it. -/
theorem takeIdentifier?_append {c : Char} {others : Text} (hc : isAsciiNameStart c = true)
    (hothers : ∀ d ∈ others, isWordChar d = true) {d : Char} (hd : isWordChar d = false)
    (rest : Text) :
    takeIdentifier? (c :: others ++ d :: rest) = some (c :: others, d :: rest) := by
  have hstop : ¬ isWordChar d = true := by
    rw [hd]
    decide
  rw [List.cons_append, takeIdentifier?, if_pos hc, List.takeWhile_append_of_pos hothers,
    List.dropWhile_append_of_pos hothers, List.takeWhile_cons_of_neg hstop,
    List.dropWhile_cons_of_neg hstop, List.append_nil]

/-- A name alone is read to its end. -/
theorem takeIdentifier?_self {c : Char} {others : Text} (hc : isAsciiNameStart c = true)
    (hothers : ∀ d ∈ others, isWordChar d = true) :
    takeIdentifier? (c :: others) = some (c :: others, []) := by
  rw [← List.append_nil (c :: others), List.cons_append, takeIdentifier?, if_pos hc,
    List.takeWhile_append_of_pos hothers, List.dropWhile_append_of_pos hothers]
  rfl

/-- A name at the front: a text that is a name all through, up to what is no word character. -/
theorem takeIdentifier?_eq_some_iff {s name rest : Text} :
    takeIdentifier? s = some (name, rest) ↔
      takeIdentifier? name = some (name, []) ∧ s = name ++ rest ∧
        ∀ c, rest.head? = some c → isWordChar c = false := by
  constructor
  · intro h
    have hs : s = name ++ rest ∧ ∀ c, rest.head? = some c → isWordChar c = false := by
      rw [takeIdentifier?.eq_def] at h
      split at h
      · cases h
      · split at h
        · cases h
          refine ⟨?_, fun c hc => ?_⟩
          · rw [List.cons_append, List.takeWhile_append_dropWhile]
          · have hhead := List.head?_dropWhile_not isWordChar ‹Text›
            rw [hc] at hhead
            exact hhead
        · cases h
    obtain ⟨⟨c, others, rfl, hc⟩, hword⟩ := of_takeIdentifier? h
    exact ⟨takeIdentifier?_self hc fun d hd => hword d (List.mem_cons_of_mem _ hd), hs⟩
  · rintro ⟨hname, rfl, hrest⟩
    obtain ⟨⟨c, others, rfl, hc⟩, hword⟩ := of_takeIdentifier? hname
    cases rest with
    | nil => rw [List.append_nil, hname]
    | cons d rest =>
        exact takeIdentifier?_append hc (fun d hd => hword d (List.mem_cons_of_mem _ hd))
          (hrest d rfl) rest

end SignalLab.Text
