import Monocycle.Proofs.Assembly.Literals

/-!
# Registers and memory addresses as they are written

A register is spelled by a name of the calling convention or by its number, and letter case is
ignored in both. The operand behind the register of a load or store is an offset and a base in
parentheses, and the base is a register again. This module says for every token whether it is
accepted, as what, and if not, for which reason.

Three things can be wrong with a memory address, and they are looked for in this order: it has not
the form of one, its offset has too many digits, its base is no register. So a token of another form
is reported as such even if the base in it is no register either.

## Main definitions

* `RegisterNumeral`, `SpellsRegister`: the spellings of a register.
* `Access`, `Access.record`: loads and stores, and their records.

## Main results

* `readRegister_eq_ok_iff_spells`, `readRegister_eq_error_iff_spells`: which registers are accepted
  and which are refused.
* `decode_access_eq_ok_iff`, `decode_access_eq_error_iff`: which loads and stores are accepted and
  which are refused, once their register is read.
* `access_operands_read_exactly`: **register and memory operands are read exactly.**
-/

namespace Monocycle

open Text

/-! ### Registers -/

/-- A text is the **numeral of a register** with some digits: letter case ignored, it is the decimal
digits with at most one `x` in front. -/
def RegisterNumeral (t digits : Text) : Prop :=
  digits ≠ [] ∧ (∀ c ∈ digits, c.isDigit = true) ∧
    (t.map Char.toLower = digits ∨ t.map Char.toLower = 'x' :: digits)

/-- A text **spells** a register. -/
inductive SpellsRegister (t : Text) (r : Register) : Prop
  /-- By its name in the calling convention. -/
  | name (ht : t.map Char.toLower = r.abiName.toList)
  /-- By the second name of the frame pointer. -/
  | framePointer (hr : r = .framePointer) (ht : t.map Char.toLower = "fp".toList)
  /-- By its number. -/
  | number {digits : Text} (ht : RegisterNumeral t digits)
      (hvalue : Nat.ofDigits 10 (digits.map digitValue).reverse = r.val)

section

variable {token digits : Text} {r : Register} {e : ReadError}

/-- The names of registers are in ASCII, and there is no `k` in them. -/
theorem isAscii_of_mem_registerNames {name : String} (h : (name, r) ∈ registerNames) :
    ∀ c ∈ name.toList, c.toNat < 128 ∧ c ≠ 'k' := by
  have hall : ∀ entry ∈ registerNames,
      entry.1.toList.all (fun c => c.toNat < 128 ∧ c ≠ 'k') = true := by
    decide +kernel
  intro c hc
  simpa using List.all_eq_true.mp (hall (name, r) h) c hc

/-- Every register has its name in the calling convention, and the frame pointer has a second. -/
theorem mem_registerNames_iff {name : String} :
    (name, r) ∈ registerNames ↔ name = r.abiName ∨ name = "fp" ∧ r = .framePointer := by
  simp only [registerNames, List.mem_cons, List.mem_map, List.mem_finRange, true_and,
    Prod.mk.injEq]
  constructor
  · rintro (⟨rfl, rfl⟩ | ⟨r', rfl, rfl⟩)
    · exact .inr ⟨rfl, rfl⟩
    · exact .inl rfl
  · rintro (rfl | ⟨rfl, rfl⟩)
    · exact .inr ⟨r, rfl, rfl⟩
    · exact .inl ⟨rfl, rfl⟩

/-- The digits of a base are in ASCII, and there is no `k` among the decimal ones. -/
theorem isAscii_of_isDigit {c : Char} (h : c.isDigit = true) : c.toNat < 128 ∧ c ≠ 'k' := by
  refine ⟨(isPlain_of_isDigit h).1, ?_⟩
  rintro rfl
  exact absurd h (by decide)

/-- **The digits of a register number** are those of the numeral that a token is between its
blanks. -/
theorem registerDigits_iff_registerNumeral :
    RegisterDigits token digits ↔ RegisterNumeral (strip token) digits := by
  simp only [RegisterDigits, RegisterNumeral, isNumeral_iff, isDigitOf_ten, and_assoc]
  refine and_congr_right fun _ => and_congr_right fun hdigits => ?_
  have hascii : ∀ c ∈ digits, c.toNat < 128 ∧ c ≠ 'k' := fun c hc =>
    isAscii_of_isDigit (hdigits c hc)
  have hbehind : ∀ c ∈ 'x' :: digits, c.toNat < 128 ∧ c ≠ 'k' :=
    List.forall_mem_cons.mpr ⟨by decide, hascii⟩
  rw [lower_eq_iff_map_toLower_eq hascii, lower_eq_iff_map_toLower_eq hbehind]

/-- The value of decimal digits. -/
theorem natOf_ten_eq_ofDigits (h : ∀ c ∈ digits, c.isDigit = true) :
    natOf 10 digits = Nat.ofDigits 10 (digits.map digitValue).reverse :=
  natOf_eq_ofDigits (by decide) fun c hc =>
    (isDigitOf_iff (by decide)).mp ((isDigitOf_ten c).trans (h c hc))

/-- **The register that a token names** is the one it spells between its blanks; a numeral has to
keep within the digit limit. -/
theorem namesRegister_iff_spells :
    NamesRegister token r ↔ SpellsRegister (strip token) r ∧
      ∀ digits, RegisterNumeral (strip token) digits → digits.length ≤ digitLimit := by
  constructor
  · intro h
    cases h with
    | named hmem hname =>
        have ht := (lower_eq_iff_map_toLower_eq (isAscii_of_mem_registerNames hmem)).mp hname
        refine ⟨?_, fun digits hdigits => ?_⟩
        · obtain rfl | ⟨rfl, hr⟩ := mem_registerNames_iff.mp hmem
          · exact .name ht
          · exact .framePointer hr ht
        · -- a name does not read as a number
          have hnone := registerNamed?_of_registerDigits
            (registerDigits_iff_registerNumeral.mpr hdigits)
          rw [hname, registerNamed?_of_mem hmem] at hnone
          cases hnone
    | @numbered digits _ hdigits hlimit hvalue =>
        have hnumeral := registerDigits_iff_registerNumeral.mp hdigits
        rw [natOf_ten_eq_ofDigits hnumeral.2.1] at hvalue
        refine ⟨.number hnumeral hvalue, fun digits' hdigits' => ?_⟩
        rwa [(registerDigits_iff_registerNumeral.mpr hdigits').unique hdigits]
  · rintro ⟨hspells, hlimit⟩
    cases hspells with
    | name ht =>
        have hmem : (r.abiName, r) ∈ registerNames := mem_registerNames_iff.mpr (.inl rfl)
        exact .named hmem ((lower_eq_iff_map_toLower_eq (isAscii_of_mem_registerNames hmem)).mpr ht)
    | framePointer hr ht =>
        have hmem : ("fp", r) ∈ registerNames := mem_registerNames_iff.mpr (.inr ⟨rfl, hr⟩)
        exact .named hmem ((lower_eq_iff_map_toLower_eq (isAscii_of_mem_registerNames hmem)).mpr ht)
    | number ht hvalue =>
        refine .numbered (registerDigits_iff_registerNumeral.mpr ht) (hlimit _ ht) ?_
        rw [natOf_ten_eq_ofDigits ht.2.1, hvalue]

/-- **A register is accepted** exactly if it is spelled, within the digit limit. -/
theorem readRegister_eq_ok_iff_spells :
    readRegister token = .ok r ↔ SpellsRegister (strip token) r ∧
      ∀ digits, RegisterNumeral (strip token) digits → digits.length ≤ digitLimit :=
  readRegister_eq_ok_iff.trans namesRegister_iff_spells

/-- **A register is refused** exactly if it is a numeral over the digit limit, or else no
spelling of a register. -/
theorem readRegister_eq_error_iff_spells :
    readRegister token = .error e ↔
      (∃ digits, RegisterNumeral (strip token) digits ∧ digitLimit < digits.length ∧
        e = .tooManyDigits digits.length) ∨
      (∀ digits, RegisterNumeral (strip token) digits → digits.length ≤ digitLimit) ∧
        (∀ r, ¬SpellsRegister (strip token) r) ∧ e = .fault (.unknownRegister token) := by
  have hmisread : readRegister token = .error e ↔ Misread [] [] .register token e :=
    readRegister_eq_error_iff
  rw [hmisread]
  constructor
  · intro h
    cases h with
    | registerNumber hdigits hover =>
        exact .inl ⟨_, registerDigits_iff_registerNumeral.mp hdigits, hover, rfl⟩
    | unknownRegister hname hlimit =>
        have hlimit' : ∀ digits, RegisterNumeral (strip token) digits →
            digits.length ≤ digitLimit :=
          fun digits hdigits => hlimit digits (registerDigits_iff_registerNumeral.mpr hdigits)
        exact .inr ⟨hlimit', fun r hr => hname r (namesRegister_iff_spells.mpr ⟨hr, hlimit'⟩), rfl⟩
  · rintro (⟨digits, hdigits, hover, rfl⟩ | ⟨hlimit, hspells, rfl⟩)
    · exact .registerNumber (registerDigits_iff_registerNumeral.mpr hdigits) hover
    · refine .unknownRegister (fun r hr => hspells r (namesRegister_iff_spells.mp hr).1) ?_
      exact fun digits hdigits => hlimit digits (registerDigits_iff_registerNumeral.mp hdigits)

end

/-- Zeros in front and letter case make no difference. -/
example : readRegister " X007 ".toList = .ok 7 := rfl

/-! ### Loads and stores -/

/-- An **access** to the memory. -/
inductive Access where
  | load
  | store
  deriving DecidableEq, Repr

namespace Access

/-- The shape of the mnemonics for an access. -/
def shape : Access → Shape
  | load => .load
  | store => .store

/-- The **record** of an access between a register and the memory at an offset from a base. -/
def record (line : SourceLine) (address : Int) (r base : Register) (offset : Int) :
    Access → Instruction
  | load => ⟨.immediate, .lw, address, line.text, line.number, r, base, .zero, offset⟩
  | store => ⟨.store, .sw, address, line.text, line.number, .zero, base, r, offset⟩

end Access

/-- A memory address is accepted as the word of its offset and the register of its base. -/
theorem readMemoryAddress_eq_ok_iff {op token : Text} {offset : Int} {base : Register} :
    readMemoryAddress op token = .ok (offset, base) ↔ ∃ sign digits name,
      AddressForm token sign digits name ∧ digits.length ≤ digitLimit ∧
        readRegister name = .ok base ∧ Word.wrap (sign * natOf 10 digits) = offset := by
  constructor
  · intro h
    cases hparts : addressParts? token with
    | none =>
        simp only [readMemoryAddress, hparts] at h
        cases h
    | some parts =>
        obtain ⟨sign, digits, name⟩ := parts
        have hform := addressParts?_eq_some_iff.mp hparts
        rw [readMemoryAddress_of_addressForm hform, bind_eq_ok_iff] at h
        obtain ⟨n, hvalue, hread⟩ := h
        obtain ⟨hlimit, rfl⟩ := decimalValue_eq_ok_iff.mp hvalue
        obtain ⟨base', hbase, hpure⟩ := bind_eq_ok_iff.mp hread
        cases hpure
        exact ⟨sign, digits, name, hform, hlimit, hbase, rfl⟩
  · rintro ⟨sign, digits, name, hform, hlimit, hbase, rfl⟩
    rw [readMemoryAddress_of_addressForm hform, decimalValue_eq_ok_iff.mpr ⟨hlimit, rfl⟩, hbase]
    rfl

section

variable {labels : LabelTable} {address : Int} {line : SourceLine} {kind : Access}
variable {name : String} {word first token : Text} {surplus : List Text} {r : Register}

/-- **Once its register is read**, a load or store is decoded as its memory address is read. -/
theorem decode_access (htokens : tokens line.body = word :: first :: token :: surplus)
    (hmnemonic : (name, kind.shape) ∈ mnemonics) (hname : name.toList = lower word)
    (hfirst : readRegister first = .ok r) :
    decode labels address line =
      match readMemoryAddress (lower word) token with
      | .error e => .error (e.locate ⟨line.number, line.text, some (lower word)⟩)
      | .ok (offset, base) => .ok (kind.record line address r base offset) := by
  have hshape := Shape.ofMnemonic?_eq_some_iff.mpr ⟨name, hmnemonic, hname⟩
  have hregister : registerAt (lower word) (first :: token :: surplus) 1 = .ok r := hfirst
  have hoperand : operandAt (lower word) (first :: token :: surplus) 2 = .ok token := rfl
  simp only [decode, htokens, hshape]
  cases kind <;> cases hread : readMemoryAddress (lower word) token <;>
    simp only [Access.shape, decodeOperands, hregister, hoperand, hread, bind, Except.bind, pure,
      Except.pure, Access.record]

/-- **A load or store is accepted** exactly if its memory address has the form of one, with an
offset within the digit limit and a register for its base. The offset is kept as a word. -/
theorem decode_access_eq_ok_iff (htokens : tokens line.body = word :: first :: token :: surplus)
    (hmnemonic : (name, kind.shape) ∈ mnemonics) (hname : name.toList = lower word)
    (hfirst : readRegister first = .ok r) {i : Instruction} :
    decode labels address line = .ok i ↔ ∃ sign digits base b w,
      AddressForm token sign digits base ∧ digits.length ≤ digitLimit ∧
        readRegister base = .ok b ∧ Word.InRange w ∧
        w ≡ sign * (Nat.ofDigits 10 (digits.map digitValue).reverse : Nat) [ZMOD 2 ^ 32] ∧
        i = kind.record line address r b w := by
  have hvalue : ∀ {sign digits base}, AddressForm token sign digits base →
      natOf 10 digits = Nat.ofDigits 10 (digits.map digitValue).reverse := by
    rintro sign digits base ⟨-, -, hnumeral, -⟩
    refine natOf_ten_eq_ofDigits fun c hc => ?_
    exact (isDigitOf_ten c).symm.trans ((isNumeral_iff.mp hnumeral).2 c hc)
  rw [decode_access htokens hmnemonic hname hfirst]
  constructor
  · intro h
    split at h
    · cases h
    · next offset base hread =>
        obtain ⟨sign, digits, base', hform, hlimit, hbase, hoffset⟩ :=
          readMemoryAddress_eq_ok_iff.mp hread
        rw [hvalue hform, Word.wrap_eq_iff] at hoffset
        exact ⟨sign, digits, base', base, offset, hform, hlimit, hbase, hoffset.1, hoffset.2,
          (Except.ok.inj h).symm⟩
  · rintro ⟨sign, digits, base, b, w, hform, hlimit, hbase, hrange, hw, rfl⟩
    have hoffset : Word.wrap (sign * natOf 10 digits) = w := by
      rw [hvalue hform]
      exact Word.wrap_eq_iff.mpr ⟨hrange, hw⟩
    rw [readMemoryAddress_eq_ok_iff.mpr ⟨sign, digits, base, hform, hlimit, hbase, hoffset⟩]

/-- **A load or store is refused** for the form of its memory address, then for the length of the
offset, then for the base. -/
theorem decode_access_eq_error_iff (htokens : tokens line.body = word :: first :: token :: surplus)
    (hmnemonic : (name, kind.shape) ∈ mnemonics) (hname : name.toList = lower word)
    (hfirst : readRegister first = .ok r) {e : AssemblyError} :
    let site : Site := ⟨line.number, line.text, some (lower word)⟩
    decode labels address line = .error e ↔
      (∀ sign digits base, ¬AddressForm token sign digits base) ∧
        e = .parse ⟨.malformedAddress (lower word), some site⟩ ∨
      ∃ sign digits base, AddressForm token sign digits base ∧
        (digitLimit < digits.length ∧ e = .tooManyDigits digits.length ∨
          digits.length ≤ digitLimit ∧
            ∃ e', readRegister base = .error e' ∧ e = e'.locate site) := by
  intro site
  have herror : decode labels address line = .error e ↔ ∃ e',
      readMemoryAddress (lower word) token = .error e' ∧ e = e'.locate site := by
    rw [decode_access htokens hmnemonic hname hfirst]
    cases hread : readMemoryAddress (lower word) token with
    | error e' => simp [site, eq_comm]
    | ok parts => simp
  have hmisread : ∀ e', readMemoryAddress (lower word) token = .error e' ↔
      Misread [] (lower word) .address token e' := fun _ => readMemoryAddress_eq_error_iff
  simp only [herror, hmisread]
  constructor
  · rintro ⟨e', hread, rfl⟩
    cases hread with
    | malformedAddress hform => exact .inl ⟨hform, rfl⟩
    | offset hform hover => exact .inr ⟨_, _, _, hform, .inl ⟨hover, rfl⟩⟩
    | base hform hlimit hbase =>
        exact .inr ⟨_, _, _, hform, .inr ⟨hlimit, e', readRegister_eq_error_iff.mpr hbase, rfl⟩⟩
  · rintro (⟨hform, rfl⟩ | ⟨sign, digits, base, hform, ⟨hover, rfl⟩ | ⟨hlimit, e', hbase, rfl⟩⟩)
    · exact ⟨_, .malformedAddress hform, rfl⟩
    · exact ⟨_, .offset hform hover, rfl⟩
    · exact ⟨e', .base hform hlimit (readRegister_eq_error_iff.mp hbase), rfl⟩

end

/-- **Register and memory operands are read exactly.** A token is accepted as a register exactly if
it spells the register between its blanks; it is refused for its length if it is a numeral over the
digit limit, and as unknown if it spells no register otherwise. Where a line has the mnemonic of a
load or a store and a register behind it, the token behind that decides. The line is accepted
exactly if the token is a sign, decimal digits within the limit, and a register of word characters
in parentheses; its record has the register, the base, and the one word in range that is congruent
to the offset. It is refused for the form of the token, whatever the base in it; or else for the
length of the offset; or else as the base is refused. -/
theorem access_operands_read_exactly :
    (∀ token,
      (∀ r, readRegister token = .ok r ↔ SpellsRegister (strip token) r ∧
        ∀ digits, RegisterNumeral (strip token) digits → digits.length ≤ digitLimit) ∧
      ∀ e, readRegister token = .error e ↔
        (∃ digits, RegisterNumeral (strip token) digits ∧ digitLimit < digits.length ∧
          e = .tooManyDigits digits.length) ∨
        (∀ digits, RegisterNumeral (strip token) digits → digits.length ≤ digitLimit) ∧
          (∀ r, ¬SpellsRegister (strip token) r) ∧ e = .fault (.unknownRegister token)) ∧
    ∀ (labels : LabelTable) (address : Int) (line : SourceLine) (kind : Access) (name : String)
      (word first token : Text) (surplus : List Text) (r : Register),
      tokens line.body = word :: first :: token :: surplus → (name, kind.shape) ∈ mnemonics →
      name.toList = lower word → readRegister first = .ok r →
      let site : Site := ⟨line.number, line.text, some (lower word)⟩
      (∀ i, decode labels address line = .ok i ↔ ∃ sign digits base b w,
        AddressForm token sign digits base ∧ digits.length ≤ digitLimit ∧
          readRegister base = .ok b ∧ Word.InRange w ∧
          w ≡ sign * (Nat.ofDigits 10 (digits.map digitValue).reverse : Nat) [ZMOD 2 ^ 32] ∧
          i = kind.record line address r b w) ∧
      ∀ e, decode labels address line = .error e ↔
        (∀ sign digits base, ¬AddressForm token sign digits base) ∧
          e = .parse ⟨.malformedAddress (lower word), some site⟩ ∨
        ∃ sign digits base, AddressForm token sign digits base ∧
          (digitLimit < digits.length ∧ e = .tooManyDigits digits.length ∨
            digits.length ≤ digitLimit ∧
              ∃ e', readRegister base = .error e' ∧ e = e'.locate site) :=
  ⟨fun _ => ⟨fun _ => readRegister_eq_ok_iff_spells, fun _ => readRegister_eq_error_iff_spells⟩,
    fun _ _ _ _ _ _ _ _ _ _ htokens hmnemonic hname hfirst =>
      ⟨fun _ => decode_access_eq_ok_iff htokens hmnemonic hname hfirst,
        fun _ => decode_access_eq_error_iff htokens hmnemonic hname hfirst⟩⟩

/-- A store with an offset beyond the words, and a base by its name: the offset wraps to minus four.
With a blank before the base the token is another one, and the line is refused for its form. -/
theorem access_operands_read_exactly_wrapped :
    let line : SourceLine := ⟨1, "sw X031, 4294967292(Sp)".toList⟩
    let other : SourceLine := ⟨1, "sw X031, 4294967292( Sp)".toList⟩
    decode [] 0 line = .ok (Access.store.record line 0 31 2 (-4)) ∧
      decode [] 0 other =
        .error (.parse ⟨.malformedAddress "sw".toList,
          some ⟨1, other.text, some "sw".toList⟩⟩) := by
  intro line other
  obtain ⟨hregister, haccess⟩ := access_operands_read_exactly
  have hstore : ("sw", Access.store.shape) ∈ mnemonics := by decide
  have hfirst : readRegister "X031".toList = .ok 31 := by
    have hnumeral : RegisterNumeral (strip "X031".toList) "031".toList :=
      ⟨by decide, List.all_eq_true.mp (by decide), .inr (by decide)⟩
    refine ((hregister _).1 31).mpr ⟨.number hnumeral (by decide), ?_⟩
    rintro digits ⟨-, -, ht | ht⟩
    · rw [← ht]
      decide
    · cases ht
      decide
  constructor
  · refine ((haccess [] 0 line .store "sw" "sw".toList "X031".toList "4294967292(Sp)".toList [] 31
      (by decide) hstore (by decide) hfirst).1 _).mpr
      ⟨1, "4294967292".toList, "Sp".toList, 2, -4, ?_, by decide, by decide, by decide, by decide,
        rfl⟩
    exact ⟨[], by decide, by decide, by decide, List.all_eq_true.mp (by decide), rfl⟩
  · refine ((haccess [] 0 other .store "sw" "sw".toList "X031".toList "4294967292(".toList
      ["Sp)".toList] 31 (by decide) hstore (by decide) hfirst).2 _).mpr (.inl ⟨?_, rfl⟩)
    rintro sign digits base ⟨s, -, -, -, -, heq⟩
    have hlast := congrArg List.getLast? heq
    simp [List.getLast?_append, List.getLast?_cons] at hlast

end Monocycle
