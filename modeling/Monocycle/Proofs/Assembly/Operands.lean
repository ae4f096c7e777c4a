import Monocycle.Assembly.Operand
import Monocycle.Proofs.Assembly.AbstractProgram
import Monocycle.Proofs.Text.Numeral
import Monocycle.Proofs.Text.Words

/-!
# Operands that were written

Registers by their number, integers in decimal, and memory addresses as an offset and a base in
parentheses: what is written in this way is read back as it was meant.

An integer literal is read only where no label has its name. A label never has, as long as it does
not begin like a literal.

## Main results

* `readRegister_writeRegister`, `readImmediate_ofInt`, `readMemoryAddress_writeAddress`: the three
  readings of what was written.
-/

namespace Monocycle

open Text

/-- A written register consists of plain characters that may stand in the base of an address. -/
theorem isPlain_of_mem_writeRegister {r : Register} {c : Char} (h : c ∈ writeRegister r) :
    IsPlain c ∧ isWordChar c = true ∧ c.toLower = c := by
  have hall : ∀ r : Register, (writeRegister r).all (fun c =>
      decide (IsPlain c ∧ isWordChar c = true ∧ c.toLower = c)) = true := by decide
  exact of_decide_eq_true (List.all_eq_true.mp (hall r) c h)

/-- A text of plain characters has no blanks to be taken off. -/
theorem strip_of_isPlain {t : Text} (h : ∀ c ∈ t, IsPlain c) : strip t = t :=
  trim_eq_self (fun _ hc => (h _ (List.mem_of_mem_head? hc)).isBlank)
    (fun _ hc => (h _ (List.mem_of_getLast? hc)).isBlank)

/-! ### Integers -/

/-- A row of decimal digits is a numeral. -/
theorem isNumeral_of_isDigit {digits : Text} (hne : digits ≠ [])
    (h : ∀ c ∈ digits, c.isDigit = true) : isNumeral 10 digits = true := by
  rw [isNumeral, Bool.and_eq_true, List.all_eq_true]
  refine ⟨?_, fun c hc => isDigitOf_of_isDigit (h c hc)⟩
  simpa using hne

/-- A written numeral is one. -/
theorem isNumeral_ofNat (n : Nat) : isNumeral 10 (ofNat n) = true :=
  isNumeral_of_isDigit (ofNat_ne_nil n) fun _ hc => isDigit_of_mem_ofNat hc

/-- A written numeral within the digit limit has the value of its number. -/
theorem decimalValue_ofNat {n : Nat} (h : (ofNat n).length ≤ digitLimit) :
    decimalValue (ofNat n) = .ok n := by
  rw [decimalValue, if_neg (Nat.not_lt.mpr h), natOf_ofNat]

/-- **A written register** is read back: no register has a name that begins with an `x`. -/
theorem readRegister_writeRegister (r : Register) : readRegister (writeRegister r) = .ok r := by
  have hplain : ∀ c ∈ writeRegister r, IsPlain c := fun c hc => (isPlain_of_mem_writeRegister hc).1
  have hlower : lower (writeRegister r) = writeRegister r := by
    rw [lower_of_ascii fun c hc => (hplain c hc).1]
    exact (List.map_congr_left fun c hc => (isPlain_of_mem_writeRegister hc).2.2).trans
      (List.map_id _)
  have hnamed : registerNamed? (writeRegister r) = none := by
    have hall : ∀ entry ∈ registerNames, entry.1.toList.head? ≠ some 'x' := by decide
    rw [registerNamed?, Option.map_eq_none_iff, List.find?_eq_none]
    intro entry hentry heq
    refine hall entry hentry ?_
    rw [beq_iff_eq.mp heq]
    rfl
  have hlength : (ofNat r.val).length ≤ digitLimit :=
    Nat.le_trans (length_ofNat_le (by omega)) (by decide)
  simp only [readRegister, strip_of_isPlain hplain, hlower, hnamed]
  simp only [writeRegister, isNumeral_ofNat, if_true, decimalValue_ofNat hlength, bind,
    Except.bind, r.isLt, dif_pos, Fin.eta]

/-- A text that begins with a digit has no sign. -/
theorem splitSign_of_isDigit {c : Char} (h : c.isDigit = true) (rest : Text) :
    splitSign (c :: rest) = (1, c :: rest) := by
  rw [splitSign.eq_def]
  split
  · next heq =>
      cases heq
      exact absurd h (by decide)
  · next heq =>
      cases heq
      exact absurd h (by decide)
  · rfl

/-- A row of decimal digits is a decimal literal. -/
theorem literalParts?_of_isDigit {digits : Text} (hne : digits ≠ [])
    (h : ∀ c ∈ digits, c.isDigit = true) : literalParts? digits = some (10, digits) := by
  rw [literalParts?.eq_def]
  split
  · next rest =>
      have hx : ('x' : Char).isDigit = true := h 'x' (by simp)
      exact absurd hx (by decide)
  · next rest =>
      have hb : ('b' : Char).isDigit = true := h 'b' (by simp)
      exact absurd hb (by decide)
  · rw [if_pos (isNumeral_of_isDigit hne h)]

/-- A written numeral is a decimal literal. -/
theorem literalParts?_ofNat (n : Nat) : literalParts? (ofNat n) = some (10, ofNat n) :=
  literalParts?_of_isDigit (ofNat_ne_nil n) fun _ hc => isDigit_of_mem_ofNat hc

/-- **A written integer** is a literal that denotes it. -/
theorem readLiteral?_ofInt {v : Int} (h : (ofNat v.natAbs).length ≤ digitLimit) :
    readLiteral? (ofInt v) = some (.ok v) := by
  have hsplit : splitSign (ofInt v) = (if v < 0 then -1 else 1, ofNat v.natAbs) := by
    rw [ofInt_eq]
    split
    · rfl
    · obtain ⟨c, rest, heq⟩ := List.exists_cons_of_ne_nil (ofNat_ne_nil v.natAbs)
      have hc : c.isDigit = true := isDigit_of_mem_ofNat (n := v.natAbs) (by rw [heq]; simp)
      rw [heq]
      exact splitSign_of_isDigit hc rest
  have hvalue : (if v < 0 then -1 else 1) * (v.natAbs : Int) = v := by
    split
    · omega
    · omega
  simp only [readLiteral?, hsplit, literalParts?_ofNat, Option.map_some, if_true,
    decimalValue_ofNat h, Except.map, bind, Except.bind, pure, Except.pure, hvalue]

/-- A word has at most ten digits. -/
theorem length_ofNat_natAbs_le {v : Int} (h : Word.InRange v) :
    (ofNat v.natAbs).length ≤ 10 := by
  rw [Word.InRange] at h
  exact length_ofNat_le (by omega)

/-- A word is within the digit limit. -/
theorem length_ofNat_of_inRange {v : Int} (h : Word.InRange v) :
    (ofNat v.natAbs).length ≤ digitLimit :=
  Nat.le_trans (length_ofNat_natAbs_le h) (by decide)

/-- **A written word** is read back as an immediate unless a label has its name. -/
theorem readImmediate_ofInt {labels : LabelTable} {v : Int} (h : Word.InRange v)
    (hlabels : labels.address? (ofInt v) = none) (address : Int) :
    readImmediate labels address (ofInt v) = .ok v := by
  have hstrip : strip (ofInt v) = ofInt v :=
    strip_of_isPlain fun c hc => (isPlain_of_mem_ofInt hc).1
  simp only [readImmediate, hstrip, hlabels, lower_ofInt,
    readLiteral?_ofInt (length_ofNat_of_inRange h), Except.map, Word.wrap_of_inRange h]

/-- **A label** is read as its distance from the instruction. -/
theorem readImmediate_of_address? {labels : LabelTable} {name : Text} {target : Int}
    (hplain : ∀ c ∈ name, IsPlain c) (h : labels.address? name = some target) (address : Int) :
    readImmediate labels address name = .ok (target - address) := by
  simp only [readImmediate, strip_of_isPlain hplain, h]

/-! ### Memory addresses -/

/-- **The parts of a memory address** that was put together from digits and a base, with or without
a minus in front. -/
theorem addressParts?_of_parts {digits base : Text} (hdigits : isNumeral 10 digits = true)
    (hbase : base ≠ []) (hword : ∀ c ∈ base, isWordChar c = true) :
    addressParts? (digits ++ '(' :: (base ++ [')'])) = some (1, digits, base) ∧
      addressParts? ('-' :: (digits ++ '(' :: (base ++ [')']))) = some (-1, digits, base) := by
  rw [isNumeral, Bool.and_eq_true, List.all_eq_true] at hdigits
  have hstop : ¬isDigitOf 10 '(' = true := by decide
  have htake : (digits ++ '(' :: (base ++ [')'])).takeWhile (isDigitOf 10) = digits := by
    rw [List.takeWhile_append_of_pos hdigits.2, List.takeWhile_cons_of_neg hstop, List.append_nil]
  have hdrop : (digits ++ '(' :: (base ++ [')'])).dropWhile (isDigitOf 10) =
      '(' :: (base ++ [')']) := by
    rw [List.dropWhile_append_of_pos hdigits.2, List.dropWhile_cons_of_neg hstop]
  have hguard : (!digits.isEmpty && decide ((base ++ [')']).getLast? = some ')') &&
      !base.isEmpty && base.all isWordChar) = true := by
    have hlast : (base ++ [')']).getLast? = some ')' := List.getLast?_concat
    rw [hdigits.1, decide_eq_true hlast, List.isEmpty_eq_false_iff.mpr hbase,
      List.all_eq_true.mpr hword]
    rfl
  have hsign : ∀ rest, digits ++ '(' :: (base ++ [')']) ≠ '-' :: rest := by
    intro rest heq
    cases digits with
    | nil => cases heq
    | cons c more =>
        cases heq
        exact absurd (hdigits.2 '-' List.mem_cons_self) (by decide)
  constructor
  · rw [addressParts?]
    · simp only [htake, hdrop, hguard, List.dropLast_concat, if_true]
    · exact hsign
  · simp only [addressParts?, htake, hdrop, hguard, List.dropLast_concat, if_true]

/-- The parts of a written address. -/
theorem addressParts?_writeAddress (offset : Int) (base : Register) :
    addressParts? (writeAddress offset base) =
      some (if offset < 0 then -1 else 1, ofNat offset.natAbs, writeRegister base) := by
  have hbase : writeRegister base ≠ [] := List.cons_ne_nil _ _
  have hword : ∀ c ∈ writeRegister base, isWordChar c = true :=
    fun c hc => (isPlain_of_mem_writeRegister hc).2.1
  obtain ⟨hplus, hminus⟩ :=
    addressParts?_of_parts (isNumeral_ofNat offset.natAbs) hbase hword
  rw [writeAddress, ofInt_eq]
  split
  · exact hminus
  · exact hplus

/-- **A written address** is read back. -/
theorem readMemoryAddress_writeAddress {offset : Int} (h : Word.InRange offset) (op : Text)
    (base : Register) : readMemoryAddress op (writeAddress offset base) = .ok (offset, base) := by
  have hvalue : (if offset < 0 then -1 else 1) * (offset.natAbs : Int) = offset := by
    split
    · omega
    · omega
  simp only [readMemoryAddress, addressParts?_writeAddress,
    decimalValue_ofNat (length_ofNat_of_inRange h), readRegister_writeRegister, bind, Except.bind,
    pure, Except.pure, hvalue, Word.wrap_of_inRange h]

end Monocycle
