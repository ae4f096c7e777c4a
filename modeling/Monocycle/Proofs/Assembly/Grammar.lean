import Monocycle.Proofs.Assembly.Operands
import Monocycle.Proofs.Assembly.Records
import Monocycle.Proofs.Text.Digits

/-!
# The grammar of operands

What the three kinds of operand token are, said of their characters and without the readings that
take them apart. A register is a name of the calling convention, or a row of digits with at most one
`x` before it. An integer literal is a sign, the mark of a base and a row of its digits. A memory
address is a decimal offset and a base in parentheses.

A token has one of these forms in one way at most, and the readings follow them.

## Main definitions

* `NamesRegister`, `LiteralForm`, `AddressForm`: the forms of tokens.

## Main results

* `readRegister_eq_ok_iff`, `readLiteral?_eq_some_iff`, `readLiteral?_eq_none_iff`,
  `addressParts?_eq_some_iff`: the readings follow the forms.
-/

namespace Monocycle

open Text

/-! ### Numerals -/

/-- A numeral is a row of digits that is not empty. -/
theorem isNumeral_iff {base : Nat} {t : Text} :
    isNumeral base t = true ↔ t ≠ [] ∧ ∀ c ∈ t, isDigitOf base c = true := by
  rw [isNumeral, Bool.and_eq_true, List.all_eq_true, Bool.not_eq_true', List.isEmpty_eq_false_iff]

/-- A text that begins with another character than a digit is no numeral. -/
theorem isNumeral_cons_eq_false {base : Nat} {c : Char} (h : isDigitOf base c = false)
    (rest : Text) : isNumeral base (c :: rest) = false := by
  rw [isNumeral, List.all_cons, h, Bool.false_and, Bool.and_false]

/-- A numeral has its value within the digit limit. -/
theorem decimalValue_eq_ok_iff {digits : Text} {n : Nat} :
    decimalValue digits = .ok n ↔ digits.length ≤ digitLimit ∧ natOf 10 digits = n := by
  rw [decimalValue]
  split
  · next hlimit => simp [Nat.not_le.mpr hlimit]
  · next hlimit => simp [Nat.not_lt.mp hlimit]

/-- A numeral over the digit limit is refused with the number of its digits. -/
theorem decimalValue_eq_error_iff {digits : Text} {e : ReadError} :
    decimalValue digits = .error e ↔
      digitLimit < digits.length ∧ e = .tooManyDigits digits.length := by
  rw [decimalValue]
  split
  · next hlimit => simp [hlimit, eq_comm]
  · next hlimit => simp [hlimit]

/-! ### Registers -/

/-- The **digits of a register number** in a token: all of it, or what is behind an `x`. -/
def RegisterDigits (token digits : Text) : Prop :=
  isNumeral 10 digits = true ∧ (lower (strip token) = digits ∨ lower (strip token) = 'x' :: digits)

/-- A token **names a register**. -/
inductive NamesRegister (token : Text) : Register → Prop
  /-- By a name of the calling convention. -/
  | named {name : String} {r : Register} (hmem : (name, r) ∈ registerNames)
      (hname : lower (strip token) = name.toList) : NamesRegister token r
  /-- By its number. -/
  | numbered {digits : Text} {r : Register} (hdigits : RegisterDigits token digits)
      (hlimit : digits.length ≤ digitLimit) (hvalue : natOf 10 digits = r.val) :
      NamesRegister token r

/-- Every name belongs to one register. -/
theorem registerNamed?_of_mem {name : String} {r : Register} (h : (name, r) ∈ registerNames) :
    registerNamed? name.toList = some r := by
  have hall : ∀ entry ∈ registerNames, registerNamed? entry.1.toList = some entry.2 := by decide
  exact hall (name, r) h

/-- A name that is found is one of the table. -/
theorem exists_mem_of_registerNamed? {name : Text} {r : Register}
    (h : registerNamed? name = some r) : ∃ n, (n, r) ∈ registerNames ∧ name = n.toList := by
  obtain ⟨⟨n, found⟩, hfind, rfl⟩ := Option.map_eq_some_iff.mp h
  have hname := List.find?_some hfind
  exact ⟨n, List.mem_of_find?_eq_some hfind, (beq_iff_eq.mp hname).symm⟩

/-- No register has a name that reads as a number. -/
theorem registerNamed?_of_registerDigits {token digits : Text} (h : RegisterDigits token digits) :
    registerNamed? (lower (strip token)) = none := by
  have hall : ∀ entry ∈ registerNames,
      entry.1.toList.head?.all (fun c => c != 'x' && !isDigitOf 10 c) = true := by decide
  rw [registerNamed?, Option.map_eq_none_iff, List.find?_eq_none]
  intro entry hentry heq
  have hname : entry.1.toList = lower (strip token) := beq_iff_eq.mp heq
  have hfirst := hall entry hentry
  obtain ⟨hnumeral, heq | heq⟩ := h
  · obtain ⟨hne, hdigits⟩ := isNumeral_iff.mp hnumeral
    obtain ⟨c, rest, rfl⟩ := List.exists_cons_of_ne_nil hne
    rw [hname, heq] at hfirst
    simp [hdigits c List.mem_cons_self] at hfirst
  · rw [hname, heq] at hfirst
    simp at hfirst

/-- What is behind an `x` in front of a name, or else the name itself. -/
def behindX (name : Text) : Text :=
  match name with
  | 'x' :: rest => rest
  | _ => name

/-- The digits of a register number are what is behind an `x`, if that is a numeral. -/
theorem registerDigits_iff {token digits : Text} :
    RegisterDigits token digits ↔
      isNumeral 10 digits = true ∧ behindX (lower (strip token)) = digits := by
  rw [RegisterDigits, behindX.eq_def]
  refine and_congr_right fun hnumeral => ?_
  split
  · next rest hx =>
      have hno : 'x' :: rest ≠ digits := by
        rintro rfl
        rw [isNumeral_cons_eq_false (by decide)] at hnumeral
        cases hnumeral
      rw [hx, or_iff_right hno, List.cons_inj_right]
  · next hx => exact or_iff_left fun heq => hx digits heq

/-- The register of a number, if there is one. -/
def registerNumbered (token : Text) (index : Nat) : Except ReadError Register :=
  if h : index < 32 then .ok ⟨index, h⟩ else .error (.fault (.unknownRegister token))

theorem readRegister_eq (token : Text) :
    readRegister token =
      match registerNamed? (lower (strip token)) with
      | some r => .ok r
      | none =>
        if isNumeral 10 (behindX (lower (strip token))) then
          decimalValue (behindX (lower (strip token))) >>= registerNumbered token
        else .error (.fault (.unknownRegister token)) := rfl

/-- **A register is read by its number** if its token is one. -/
theorem readRegister_of_registerDigits {token digits : Text} (h : RegisterDigits token digits) :
    readRegister token = decimalValue digits >>= registerNumbered token := by
  obtain ⟨hnumeral, hdigits⟩ := registerDigits_iff.mp h
  simp only [readRegister_eq, registerNamed?_of_registerDigits h, hdigits, hnumeral, if_true]

/-- A token that is neither a name nor a number names no register. -/
theorem readRegister_of_neither {token : Text} (hname : registerNamed? (lower (strip token)) = none)
    (hdigits : ∀ digits, ¬RegisterDigits token digits) :
    readRegister token = .error (.fault (.unknownRegister token)) := by
  have hnumeral : ¬isNumeral 10 (behindX (lower (strip token))) = true :=
    fun hnumeral => hdigits _ (registerDigits_iff.mpr ⟨hnumeral, rfl⟩)
  simp only [readRegister_eq, hname, if_neg hnumeral]

/-- **Reading a register** finds the one that the token names. -/
theorem readRegister_eq_ok_iff {token : Text} {r : Register} :
    readRegister token = .ok r ↔ NamesRegister token r := by
  constructor
  · intro h
    cases hname : registerNamed? (lower (strip token)) with
    | some found =>
        obtain ⟨name, hmem, hname'⟩ := exists_mem_of_registerNamed? hname
        simp only [readRegister_eq, hname, Except.ok.injEq] at h
        exact .named (h ▸ hmem) hname'
    | none =>
        by_cases hdigits : ∃ digits, RegisterDigits token digits
        · obtain ⟨digits, hdigits⟩ := hdigits
          rw [readRegister_of_registerDigits hdigits, bind_eq_ok_iff] at h
          obtain ⟨index, hvalue, hindex⟩ := h
          obtain ⟨hlimit, rfl⟩ := decimalValue_eq_ok_iff.mp hvalue
          rw [registerNumbered] at hindex
          split at hindex
          · cases hindex
            exact .numbered hdigits hlimit rfl
          · cases hindex
        · rw [readRegister_of_neither hname (not_exists.mp hdigits)] at h
          cases h
  · rintro (⟨hmem, hname⟩ | ⟨hdigits, hlimit, hvalue⟩)
    · simp only [readRegister_eq, hname, registerNamed?_of_mem hmem]
    · rw [readRegister_of_registerDigits hdigits, bind_eq_ok_iff]
      refine ⟨_, decimalValue_eq_ok_iff.mpr ⟨hlimit, rfl⟩, ?_⟩
      rw [hvalue, registerNumbered, dif_pos r.isLt]

/-! ### Integer literals -/

/-- The signs of an integer literal. -/
def literalSigns : List (Text × Int) :=
  [([], 1), (['+'], 1), (['-'], -1)]

/-- The marks of the bases, in lower case. -/
def baseMarks : List (Text × Nat) :=
  [([], 10), (['0', 'x'], 16), (['0', 'b'], 2)]

/-- A text has the **form of a literal**: a sign, the mark of a base, and a row of its digits. -/
def LiteralForm (t : Text) (sign : Int) (base : Nat) (digits : Text) : Prop :=
  ∃ s mark, (s, sign) ∈ literalSigns ∧ (mark, base) ∈ baseMarks ∧ isNumeral base digits = true ∧
    t = s ++ (mark ++ digits)

/-- **The parts of a literal** without its sign are the mark of a base and digits. -/
theorem literalParts?_eq_some_iff {body digits : Text} {base : Nat} :
    literalParts? body = some (base, digits) ↔
      ∃ mark, (mark, base) ∈ baseMarks ∧ isNumeral base digits = true ∧ body = mark ++ digits := by
  constructor
  · intro h
    rw [literalParts?.eq_def] at h
    split at h
    · next rest =>
        split at h
        · next hnumeral =>
            cases h
            exact ⟨['0', 'x'], by decide, hnumeral, rfl⟩
        · cases h
    · next rest =>
        split at h
        · next hnumeral =>
            cases h
            exact ⟨['0', 'b'], by decide, hnumeral, rfl⟩
        · cases h
    · split at h
      · next hnumeral =>
          cases h
          exact ⟨[], by decide, hnumeral, rfl⟩
      · cases h
  · rintro ⟨mark, hmark, hnumeral, rfl⟩
    simp only [baseMarks, List.mem_cons, Prod.mk.injEq, List.not_mem_nil, or_false] at hmark
    rcases hmark with ⟨rfl, rfl⟩ | ⟨rfl, rfl⟩ | ⟨rfl, rfl⟩
    · obtain ⟨hne, hdigits⟩ := isNumeral_iff.mp hnumeral
      exact literalParts?_of_isDigit hne fun c hc => (isDigitOf_ten c) ▸ hdigits c hc
    · simp only [List.cons_append, List.nil_append, literalParts?, hnumeral, if_true]
    · simp only [List.cons_append, List.nil_append, literalParts?, hnumeral, if_true]

/-- A text is its sign and what is behind it. -/
theorem exists_splitSign (t : Text) :
    ∃ s, (s, (splitSign t).1) ∈ literalSigns ∧ t = s ++ (splitSign t).2 := by
  rw [splitSign.eq_def]
  split
  · exact ⟨['-'], by simp [literalSigns], rfl⟩
  · exact ⟨['+'], by simp [literalSigns], rfl⟩
  · exact ⟨[], by simp [literalSigns], rfl⟩

/-- A sign in front of anything that begins with a digit comes off. -/
theorem splitSign_append {s : Text} {sign : Int} (h : (s, sign) ∈ literalSigns) {c : Char}
    (hc : c.isDigit = true) (rest : Text) : splitSign (s ++ c :: rest) = (sign, c :: rest) := by
  simp only [literalSigns, List.mem_cons, Prod.mk.injEq, List.not_mem_nil, or_false] at h
  rcases h with ⟨rfl, rfl⟩ | ⟨rfl, rfl⟩ | ⟨rfl, rfl⟩
  · exact splitSign_of_isDigit hc rest
  · rfl
  · rfl

/-- Marked digits begin with a digit. -/
theorem exists_eq_cons_of_mem_baseMarks {mark digits : Text} {base : Nat}
    (hmark : (mark, base) ∈ baseMarks) (hnumeral : isNumeral base digits = true) :
    ∃ c rest, mark ++ digits = c :: rest ∧ c.isDigit = true := by
  simp only [baseMarks, List.mem_cons, Prod.mk.injEq, List.not_mem_nil, or_false] at hmark
  rcases hmark with ⟨rfl, rfl⟩ | ⟨rfl, rfl⟩ | ⟨rfl, rfl⟩
  · obtain ⟨hne, hdigits⟩ := isNumeral_iff.mp hnumeral
    obtain ⟨c, rest, rfl⟩ := List.exists_cons_of_ne_nil hne
    exact ⟨c, rest, rfl, (isDigitOf_ten c) ▸ hdigits c List.mem_cons_self⟩
  · exact ⟨'0', 'x' :: digits, rfl, rfl⟩
  · exact ⟨'0', 'b' :: digits, rfl, rfl⟩

/-- **A literal has one form**, the one that its sign and its parts tell. -/
theorem literalForm_iff {t digits : Text} {sign : Int} {base : Nat} :
    LiteralForm t sign base digits ↔
      (splitSign t).1 = sign ∧ literalParts? (splitSign t).2 = some (base, digits) := by
  constructor
  · rintro ⟨s, mark, hs, hmark, hnumeral, rfl⟩
    obtain ⟨c, rest, heq, hc⟩ := exists_eq_cons_of_mem_baseMarks hmark hnumeral
    rw [heq, splitSign_append hs hc, ← heq]
    exact ⟨rfl, literalParts?_eq_some_iff.mpr ⟨mark, hmark, hnumeral, rfl⟩⟩
  · rintro ⟨rfl, hparts⟩
    obtain ⟨s, hs, ht⟩ := exists_splitSign t
    obtain ⟨mark, hmark, hnumeral, hbody⟩ := literalParts?_eq_some_iff.mp hparts
    exact ⟨s, mark, hs, hmark, hnumeral, by rw [← hbody, ← ht]⟩

/-- The form of a literal tells its sign, its base and its digits. -/
theorem LiteralForm.unique {t digits digits' : Text} {sign sign' : Int} {base base' : Nat}
    (h : LiteralForm t sign base digits) (h' : LiteralForm t sign' base' digits') :
    sign = sign' ∧ base = base' ∧ digits = digits' := by
  obtain ⟨hsign, hparts⟩ := literalForm_iff.mp h
  obtain ⟨hsign', hparts'⟩ := literalForm_iff.mp h'
  cases hparts.symm.trans hparts'
  exact ⟨hsign.symm.trans hsign', rfl, rfl⟩

/-- The value of a literal of a given form; only a decimal one can be refused. -/
def literalValue (sign : Int) (base : Nat) (digits : Text) : Except ReadError Int :=
  if base = 10 then (decimalValue digits).map (sign * ·) else .ok (sign * natOf base digits)

/-- **A literal is read** as its form tells. -/
theorem readLiteral?_eq_some_iff {t : Text} {value : Except ReadError Int} :
    readLiteral? t = some value ↔
      ∃ sign base digits, LiteralForm t sign base digits ∧
        value = literalValue sign base digits := by
  rw [readLiteral?, Option.map_eq_some_iff]
  constructor
  · rintro ⟨⟨base, digits⟩, hparts, rfl⟩
    exact ⟨_, base, digits, literalForm_iff.mpr ⟨rfl, hparts⟩, rfl⟩
  · rintro ⟨sign, base, digits, hform, rfl⟩
    obtain ⟨rfl, hparts⟩ := literalForm_iff.mp hform
    exact ⟨(base, digits), hparts, rfl⟩

/-- A text that has not the form of a literal is none. -/
theorem readLiteral?_eq_none_iff {t : Text} :
    readLiteral? t = none ↔ ∀ sign base digits, ¬LiteralForm t sign base digits := by
  rw [Option.eq_none_iff_forall_ne_some]
  constructor
  · intro h sign base digits hform
    exact h _ (readLiteral?_eq_some_iff.mpr ⟨sign, base, digits, hform, rfl⟩)
  · intro h value hvalue
    obtain ⟨sign, base, digits, hform, -⟩ := readLiteral?_eq_some_iff.mp hvalue
    exact h sign base digits hform

/-! ### Memory addresses -/

/-- The signs of the offset of a memory address. -/
def offsetSigns : List (Text × Int) :=
  [([], 1), (['-'], -1)]

/-- A token has the **form of a memory address**: a sign, decimal digits, and word characters in
parentheses, with nothing before or behind. -/
def AddressForm (token : Text) (sign : Int) (digits base : Text) : Prop :=
  ∃ s, (s, sign) ∈ offsetSigns ∧ isNumeral 10 digits = true ∧ base ≠ [] ∧
    (∀ c ∈ base, isWordChar c = true) ∧ token = s ++ (digits ++ '(' :: (base ++ [')']))

/-- **A memory address is taken apart** as its form tells. -/
theorem addressParts?_eq_some_iff {token digits base : Text} {sign : Int} :
    addressParts? token = some (sign, digits, base) ↔ AddressForm token sign digits base := by
  constructor
  · intro h
    rw [addressParts?.eq_def] at h
    split at h
    next sign' body hcut =>
      have hsign : ∃ s, (s, sign') ∈ offsetSigns ∧ token = s ++ body := by
        split at hcut
        · cases hcut
          exact ⟨['-'], by decide, rfl⟩
        · cases hcut
          exact ⟨[], by decide, rfl⟩
      obtain ⟨s, hs, rfl⟩ := hsign
      dsimp only at h
      split at h
      · next rest hdrop =>
          split at h
          · next hguard =>
              cases h
              simp only [Bool.and_eq_true, Bool.not_eq_true', List.isEmpty_eq_false_iff,
                decide_eq_true_eq, List.all_eq_true] at hguard
              obtain ⟨⟨⟨hdigits, hend⟩, hbase⟩, hword⟩ := hguard
              refine ⟨s, hs, isNumeral_iff.mpr ⟨hdigits, fun c hc => List.mem_takeWhile_imp hc⟩,
                hbase, hword, ?_⟩
              have hrest : rest.dropLast ++ [')'] = rest := List.dropLast_append_getLast? ')' hend
              rw [hrest, ← hdrop, List.takeWhile_append_dropWhile]
          · cases h
      · cases h
  · rintro ⟨s, hs, hnumeral, hbase, hword, rfl⟩
    obtain ⟨hplus, hminus⟩ := addressParts?_of_parts hnumeral hbase hword
    simp only [offsetSigns, List.mem_cons, Prod.mk.injEq, List.not_mem_nil, or_false] at hs
    rcases hs with ⟨rfl, rfl⟩ | ⟨rfl, rfl⟩
    · exact hplus
    · exact hminus

/-- The form of a memory address tells its sign, its digits and its base. -/
theorem AddressForm.unique {token digits digits' base base' : Text} {sign sign' : Int}
    (h : AddressForm token sign digits base) (h' : AddressForm token sign' digits' base') :
    sign = sign' ∧ digits = digits' ∧ base = base' := by
  cases (addressParts?_eq_some_iff.mpr h).symm.trans (addressParts?_eq_some_iff.mpr h')
  exact ⟨rfl, rfl, rfl⟩

end Monocycle
