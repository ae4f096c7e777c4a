import Mathlib.Data.Int.ModEq
import Mathlib.Data.Nat.Digits.Defs
import Monocycle.Proofs.Assembly.Faults
import Monocycle.Proofs.Text.LetterCase

/-!
# Immediates and the integers they spell

An immediate that is no label spells an integer: letter case ignored, it is one optional sign, the
mark of a base and digits of that base, whose value is their place in the row of all digits.
`Spells` says so of the characters of a text, without the readings that take it apart.

Every integer has spellings in three bases, with any number of leading zeros and in either case, and
a text spells one integer at most. An immediate is read as the word of the integer it spells. Only
its length can keep a decimal spelling from being read.

## Main definitions

* `digitValue`, `Spells`: the digits, and what a text spells.

## Main results

* `spells_iff`: a text spells what its form as a literal tells, its letters in lower case.
* `spells_of_toDigits`: the spellings of an integer.
* `Word.wrap_eq_iff`: the word of an integer.
* `readImmediate_eq_ok_iff_spells`, `readImmediate_eq_error_iff_spells`: which immediates are
  accepted and which are refused, labels apart.
* `readImmediate_reads_spellings`: **immediates are read exactly.**
-/

namespace Monocycle

open Text

/-! ### Digits -/

/-- The **row of digits**, those of a base before those that the base has not. -/
def digitRow : Text :=
  "0123456789abcdef".toList

/-- The value of a digit is its place in the row; other characters have a value above all bases. -/
def digitValue (c : Char) : Nat :=
  digitRow.idxOf c

section

variable {base : Nat} {c : Char} {digits : Text}

/-- A character beyond ASCII has no value below 16. -/
theorem digitValue_of_not_ascii (hc : ¬c.toNat < 128) : digitValue c = 16 := by
  have hall : digitRow.all (fun c => decide (c.toNat < 128)) = true := by decide
  refine List.idxOf_eq_length fun hmem => hc ?_
  exact of_decide_eq_true (List.all_eq_true.mp hall c hmem)

/-- **The digits of a base** are those with a value below it. -/
theorem digit?_eq (hbase : base ≤ 16) (c : Char) :
    digit? base c = if digitValue c < base then some (digitValue c) else none := by
  have hascii : asciiDigit? c = some (digitValue c) ∨
      16 ≤ digitValue c ∧ ∀ d ∈ asciiDigit? c, 16 ≤ d := by
    by_cases hc : c.toNat < 128
    · exact forall_ascii (P := fun c => asciiDigit? c = some (digitValue c) ∨
        16 ≤ digitValue c ∧ ∀ d ∈ asciiDigit? c, 16 ≤ d) (by decide +kernel) hc
    · have hnine : ¬c ≤ '9' := fun hle => hc (Nat.lt_of_le_of_lt hle (by decide))
      have hletter : ¬c ≤ 'z' := fun hle => hc (Nat.lt_of_le_of_lt hle (by decide))
      simp [asciiDigit?, hnine, hletter, digitValue_of_not_ascii hc]
  obtain hdigit | ⟨hvalue, hnone⟩ := hascii
  · rw [digit?, hdigit, Option.filter_some]
    simp only [decide_eq_true_eq]
  · rw [if_neg (by omega), digit?, Option.filter_eq_none_iff]
    intro d hd
    have hd := hnone d hd
    simp only [decide_eq_true_eq]
    omega

theorem isDigitOf_iff (hbase : base ≤ 16) : isDigitOf base c = true ↔ digitValue c < base := by
  rw [isDigitOf, digit?_eq hbase]
  split
  · next h => simp [h]
  · next h => simp [h]

/-- A numeral is a row of characters with values below its base. -/
theorem isNumeral_iff_digitValue (hbase : base ≤ 16) :
    isNumeral base digits = true ↔ digits ≠ [] ∧ ∀ c ∈ digits, digitValue c < base := by
  rw [isNumeral_iff]
  exact and_congr_right fun _ => forall₂_congr fun c _ => isDigitOf_iff hbase

/-- **The number of a row of digits** is that of their values, the least significant first. -/
theorem natOf_eq_ofDigits (hbase : base ≤ 16) (h : ∀ c ∈ digits, digitValue c < base) :
    natOf base digits = Nat.ofDigits base (digits.map digitValue).reverse := by
  have hvalues : digits.filterMap (digit? base) = digits.map digitValue := by
    rw [← List.filterMap_eq_map]
    refine List.filterMap_congr fun c hc => ?_
    rw [digit?_eq hbase, if_pos (h c hc)]
    rfl
  rw [natOf, hvalues, valueOf, Nat.ofDigits_eq_foldr, List.foldr_reverse]
  congr 1
  funext n d
  rw [Nat.cast_id, Nat.mul_comm, Nat.add_comm]

end

/-! ### Spellings -/

/-- A text **spells** an integer in a base with some digits: letter case ignored, it is a sign, the
mark of the base and the digits. -/
def Spells (t : Text) (base : Nat) (digits : Text) (v : Int) : Prop :=
  ∃ s sign mark, (s, sign) ∈ literalSigns ∧ (mark, base) ∈ baseMarks ∧ digits ≠ [] ∧
    (∀ c ∈ digits, digitValue c < base) ∧ t.map Char.toLower = s ++ (mark ++ digits) ∧
    v = sign * Nat.ofDigits base (digits.map digitValue).reverse

section

variable {t mark digits : Text} {sign v : Int} {base : Nat}

theorem le_of_mem_baseMarks (h : (mark, base) ∈ baseMarks) : 1 < base ∧ base ≤ 16 := by
  have hall : ∀ entry ∈ baseMarks, 1 < entry.2 ∧ entry.2 ≤ 16 := by decide
  exact hall _ h

/-- The characters of a literal are in ASCII, and none of them is a `k`. -/
theorem LiteralForm.isAscii (h : LiteralForm t sign base digits) :
    ∀ c ∈ t, c.toNat < 128 ∧ c ≠ 'k' := by
  obtain ⟨s, mark, hs, hmark, hnumeral, rfl⟩ := h
  -- what holds of the signs, the marks and the row of digits holds of the literal
  have hparts : ((literalSigns.map Prod.fst).flatten ++ (baseMarks.map Prod.fst).flatten ++
      digitRow).all (fun c => decide (c.toNat < 128 ∧ c ≠ 'k')) = true := by decide
  have hbase : base ≤ 16 := (le_of_mem_baseMarks hmark).2
  intro c hc
  refine of_decide_eq_true (List.all_eq_true.mp hparts c ?_)
  simp only [List.mem_append, List.mem_flatten] at hc ⊢
  obtain hc | hc | hc := hc
  · exact .inl (.inl ⟨s, List.mem_map_of_mem hs, hc⟩)
  · exact .inl (.inr ⟨mark, List.mem_map_of_mem hmark, hc⟩)
  · have hvalue := ((isNumeral_iff_digitValue hbase).mp hnumeral).2 c hc
    exact .inr (List.idxOf_lt_length_iff.mp (Nat.lt_of_lt_of_le hvalue hbase))

/-- Whether a text is a literal does not depend on how its letters beyond ASCII are put into lower
case. -/
theorem literalForm_lower_iff :
    LiteralForm (lower t) sign base digits ↔ LiteralForm (t.map Char.toLower) sign base digits := by
  constructor
  · intro h
    rwa [(lower_eq_iff_map_toLower_eq h.isAscii).mp rfl]
  · intro h
    rwa [(lower_eq_iff_map_toLower_eq h.isAscii).mpr rfl]

/-- **A text spells** what its form as a literal tells. -/
theorem spells_iff :
    Spells t base digits v ↔
      ∃ sign, LiteralForm (lower t) sign base digits ∧ v = sign * natOf base digits := by
  simp only [literalForm_lower_iff]
  constructor
  · rintro ⟨s, sign, mark, hs, hmark, hne, hdigits, ht, rfl⟩
    have hbase : base ≤ 16 := (le_of_mem_baseMarks hmark).2
    refine ⟨sign, ⟨s, mark, hs, hmark, ?_, ht⟩, ?_⟩
    · exact (isNumeral_iff_digitValue hbase).mpr ⟨hne, hdigits⟩
    · rw [natOf_eq_ofDigits hbase hdigits]
  · rintro ⟨sign, ⟨s, mark, hs, hmark, hnumeral, ht⟩, rfl⟩
    have hbase : base ≤ 16 := (le_of_mem_baseMarks hmark).2
    obtain ⟨hne, hdigits⟩ := (isNumeral_iff_digitValue hbase).mp hnumeral
    refine ⟨s, sign, mark, hs, hmark, hne, hdigits, ht, ?_⟩
    rw [natOf_eq_ofDigits hbase hdigits]

/-- A text spells one integer at most, in one way. -/
theorem Spells.unique {base' : Nat} {digits' : Text} {v' : Int} (h : Spells t base digits v)
    (h' : Spells t base' digits' v') : base = base' ∧ digits = digits' ∧ v = v' := by
  obtain ⟨sign, hform, rfl⟩ := spells_iff.mp h
  obtain ⟨sign', hform', rfl⟩ := spells_iff.mp h'
  obtain ⟨rfl, rfl, rfl⟩ := hform.unique hform'
  exact ⟨rfl, rfl, rfl⟩

/-- Zero is a digit of every base. -/
theorem digit?_zero (hpos : 0 < base) (hbase : base ≤ 16) : digit? base '0' = some 0 :=
  digit?_digitChar hbase hpos

/-- Zeros in front of a row of digits leave its number alone. -/
theorem natOf_replicate_append (hpos : 0 < base) (hbase : base ≤ 16) (zeros : Nat) (t : Text) :
    natOf base (List.replicate zeros '0' ++ t) = natOf base t := by
  have hzero := digit?_zero hpos hbase
  induction zeros with
  | zero => rfl
  | succ zeros ih =>
      rw [List.replicate_succ, List.cons_append, natOf, List.filterMap_cons_some hzero, valueOf,
        List.foldl_cons, Nat.zero_mul]
      exact ih

/-- **The spellings of an integer** in a base: a sign that suits it, the mark of the base, and its
digits behind any number of zeros, in either case. -/
theorem spells_of_toDigits {s : Text} (hs : (s, sign) ∈ literalSigns)
    (hmark : (mark, base) ∈ baseMarks) (hsign : sign * v.natAbs = v) {zeros : Nat}
    (hdigits : digits = List.replicate zeros '0' ++ Nat.toDigits base v.natAbs)
    (ht : t.map Char.toLower = s ++ (mark ++ digits)) : Spells t base digits v := by
  obtain ⟨hone, hbase⟩ := le_of_mem_baseMarks hmark
  have hpos : 0 < base := Nat.zero_lt_of_lt hone
  obtain ⟨hrow, hvalue⟩ := natOf_toDigits hone hbase v.natAbs
  have hnumeral : isNumeral base digits = true := by
    rw [isNumeral_iff, hdigits]
    refine ⟨List.append_ne_nil_of_right_ne_nil _ Nat.toDigits_ne_nil, fun c hc => ?_⟩
    obtain hc | hc := List.mem_append.mp hc
    · rw [List.eq_of_mem_replicate hc, isDigitOf, digit?_zero hpos hbase]
      rfl
    · exact hrow c hc
  refine spells_iff.mpr ⟨sign, literalForm_lower_iff.mpr ⟨s, mark, hs, hmark, hnumeral, ht⟩, ?_⟩
  rw [hdigits, natOf_replicate_append hpos hbase, hvalue, hsign]

end

/-! ### Words -/

/-- **The word of an integer** is the one in range that is congruent to it. -/
theorem Word.wrap_eq_iff {v w : Int} :
    Word.wrap v = w ↔ Word.InRange w ∧ w ≡ v [ZMOD 2 ^ 32] := by
  have hcongr : Word.wrap v ≡ v [ZMOD 2 ^ 32] := by
    rw [Int.ModEq, Word.wrap]
    exact Int.bmod_emod
  constructor
  · rintro rfl
    exact ⟨Word.inRange_wrap v, hcongr⟩
  · rintro ⟨hrange, hw⟩
    have hwrap := Word.inRange_wrap v
    have hsame : w % 2 ^ 32 = Word.wrap v % 2 ^ 32 := hw.trans hcongr.symm
    rw [Word.InRange] at hrange hwrap
    omega

/-! ### Immediates -/

section

variable {labels : LabelTable} {address : Int} {token digits : Text} {base : Nat} {v : Int}

/-- **An immediate that is no label** is read as the word of the integer it spells; a decimal one
over the digit limit is refused. -/
theorem readImmediate_of_spells (hlabel : labels.address? (strip token) = none)
    (h : Spells (strip token) base digits v) :
    readImmediate labels address token =
      if base = 10 ∧ digitLimit < digits.length then .error (.tooManyDigits digits.length)
      else .ok (Word.wrap v) := by
  obtain ⟨sign, hform, rfl⟩ := spells_iff.mp h
  rw [readImmediate_of_literal hlabel (readLiteral?_eq_some_iff.mpr ⟨_, _, _, hform, rfl⟩),
    literalValue]
  by_cases hbase : base = 10
  · subst hbase
    rw [if_pos rfl, decimalValue]
    split
    · next hlimit =>
        rw [if_pos ⟨rfl, hlimit⟩]
        rfl
    · next hlimit =>
        rw [if_neg fun h => hlimit h.2]
        rfl
  · rw [if_neg hbase, if_neg fun h => hbase h.1]
    rfl

/-- Letter case, zeros and the base make no difference. -/
example : readImmediate [] 0 "-0X00fF".toList = .ok (-255) := rfl

/-- An immediate that is no label and spells nothing is refused. -/
theorem readImmediate_of_not_spells (hlabel : labels.address? (strip token) = none)
    (h : ∀ base digits v, ¬Spells (strip token) base digits v) :
    readImmediate labels address token = .error (.fault (.badImmediate (strip token))) := by
  have hnone : readLiteral? (lower (strip token)) = none :=
    readLiteral?_eq_none_iff.mpr fun sign base digits hform =>
      h base digits _ (spells_iff.mpr ⟨sign, hform, rfl⟩)
  exact readImmediate_of_neither hlabel hnone

/-- **An immediate that is no label is accepted** exactly if it spells an integer, as a decimal one
within the digit limit. -/
theorem readImmediate_eq_ok_iff_spells (hlabel : labels.address? (strip token) = none) {w : Int} :
    readImmediate labels address token = .ok w ↔
      ∃ base digits v, Spells (strip token) base digits v ∧
        (base = 10 → digits.length ≤ digitLimit) ∧ Word.wrap v = w := by
  constructor
  · intro hw
    by_cases hspells : ∃ base digits v, Spells (strip token) base digits v
    · obtain ⟨base, digits, v, hv⟩ := hspells
      rw [readImmediate_of_spells hlabel hv] at hw
      split at hw
      · cases hw
      · next hfits =>
          refine ⟨base, digits, v, hv, fun hten => ?_, Except.ok.inj hw⟩
          exact Nat.not_lt.mp fun hover => hfits ⟨hten, hover⟩
    · simp only [not_exists] at hspells
      cases hw.symm.trans (readImmediate_of_not_spells hlabel hspells)
  · rintro ⟨base, digits, v, hv, hfits, rfl⟩
    rw [readImmediate_of_spells hlabel hv, if_neg]
    exact fun ⟨hten, hover⟩ => absurd hover (Nat.not_lt.mpr (hfits hten))

/-- **An immediate that is no label is refused** exactly if it is a decimal one over the digit
limit, or spells nothing. -/
theorem readImmediate_eq_error_iff_spells (hlabel : labels.address? (strip token) = none)
    {e : ReadError} :
    readImmediate labels address token = .error e ↔
      (∃ digits v, Spells (strip token) 10 digits v ∧ digitLimit < digits.length ∧
        e = .tooManyDigits digits.length) ∨
      (∀ base digits v, ¬Spells (strip token) base digits v) ∧
        e = .fault (.badImmediate (strip token)) := by
  constructor
  · intro he
    by_cases hspells : ∃ base digits v, Spells (strip token) base digits v
    · obtain ⟨base, digits, v, hv⟩ := hspells
      rw [readImmediate_of_spells hlabel hv] at he
      split at he
      · next hover =>
          obtain ⟨rfl, hover⟩ := hover
          exact .inl ⟨digits, v, hv, hover, (Except.error.inj he).symm⟩
      · cases he
    · simp only [not_exists] at hspells
      rw [readImmediate_of_not_spells hlabel hspells] at he
      exact .inr ⟨hspells, (Except.error.inj he).symm⟩
  · rintro (⟨digits, v, hv, hover, rfl⟩ | ⟨hspells, rfl⟩)
    · rw [readImmediate_of_spells hlabel hv, if_pos ⟨rfl, hover⟩]
    · exact readImmediate_of_not_spells hlabel hspells

end

/-- **Immediates are read exactly.** An immediate that is a label gives the distance of the label
from the instruction. Any other is accepted exactly if it spells an integer, and gives the one word
in range that is congruent to the integer; only a decimal spelling over the digit limit is refused
for its length, and what spells nothing is refused as it stands. What an immediate spells is
determined, and every spelling of an integer, in the three bases, in either case and with any number
of leading zeros, gives the word of the integer. -/
theorem readImmediate_reads_spellings (labels : LabelTable) (address : Int) (token : Text) :
    let t := strip token
    let result := readImmediate labels address token
    (∀ target, labels.address? t = some target → result = .ok (target - address)) ∧
    (labels.address? t = none →
      (∀ w, result = .ok w ↔ ∃ base digits v, Spells t base digits v ∧
        (base = 10 → digits.length ≤ digitLimit) ∧ Word.InRange w ∧ w ≡ v [ZMOD 2 ^ 32]) ∧
      (∀ e, result = .error e ↔
        (∃ digits v, Spells t 10 digits v ∧ digitLimit < digits.length ∧
          e = .tooManyDigits digits.length) ∨
        (∀ base digits v, ¬Spells t base digits v) ∧ e = .fault (.badImmediate t)) ∧
      ∀ (v sign : Int) (s mark : Text) (base zeros : Nat),
        (s, sign) ∈ literalSigns → sign * v.natAbs = v → (mark, base) ∈ baseMarks →
        t.map Char.toLower =
          s ++ (mark ++ (List.replicate zeros '0' ++ Nat.toDigits base v.natAbs)) →
        (base = 10 → zeros + (Nat.toDigits 10 v.natAbs).length ≤ digitLimit) →
        result = .ok (Word.wrap v)) ∧
    ∀ base digits v base' digits' v', Spells t base digits v → Spells t base' digits' v' →
      base = base' ∧ digits = digits' ∧ v = v' := by
  intro t result
  refine ⟨fun target htarget => ?_, fun hlabel => ⟨fun w => ?_, fun e => ?_, ?_⟩,
    fun _ _ _ _ _ _ h h' => h.unique h'⟩
  · simp only [result, readImmediate]
    rw [htarget]
  · simp only [← Word.wrap_eq_iff]
    exact readImmediate_eq_ok_iff_spells hlabel
  · exact readImmediate_eq_error_iff_spells hlabel
  · intro v sign s mark base zeros hs hsign hmark ht hfits
    refine (readImmediate_eq_ok_iff_spells hlabel).mpr
      ⟨base, _, v, spells_of_toDigits hs hmark hsign rfl ht, fun hten => ?_, rfl⟩
    subst hten
    rw [List.length_append, List.length_replicate]
    exact hfits rfl

end Monocycle
