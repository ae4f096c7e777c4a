import Monocycle.Proofs.Assembly.Failing
import Monocycle.Proofs.Assembly.Grammar
import Monocycle.Proofs.Assembly.WellFormed

/-!
# What is wrong with a line

The error of an instruction line, told by its tokens. A line without a token has no mnemonic, and a
mnemonic the language does not have is reported before its operands are looked at. Otherwise the
operands are gone through from left to right, and the first that is missing or cannot be read as
the kind of operand that is due gives the error. A numeral over the digit limit is an error
too, but one that tells no line.

Nothing of this depends on the address of the line: a label has an address or not, and how far it is
from the line makes no difference to whether it can be read.

## Main definitions

* `OperandKind`, `Shape.operandKinds`: the operands a mnemonic takes, in order.
* `IsOperand`, `Misread`: what can be read as an operand of a kind, and why a token cannot.
* `OperandFault`, `FirstFault`: what is wrong at a position, and the leftmost such fault.
* `LineError`: the error of a line.

## Main results

* `readRegister_eq_error_iff`, `readImmediate_eq_error_iff`, `readMemoryAddress_eq_error_iff`: what
  the readings refuse, and how.
* `decodeOperands_eq_error_iff`: operands are refused for the leftmost fault.
* `decode_eq_error_iff`: **the error of a line**.
* `FailsAt.exists_site`: a source that fails for a fault tells one of its lines.
-/

namespace Monocycle

open Text

/-- A computation that goes on after another fails exactly if either does. -/
theorem bind_eq_error_iff {ε α β : Type} {x : Except ε α} {f : α → Except ε β} {e : ε} :
    (x >>= f) = .error e ↔ x = .error e ∨ ∃ a, x = .ok a ∧ f a = .error e := by
  cases x with
  | error e' => simp [bind, Except.bind]
  | ok a => simp [bind, Except.bind]

/-- What is made of a result fails exactly if there is no result. -/
theorem bind_pure_eq_error_iff {ε α β : Type} {x : Except ε α} {f : α → β} {e : ε} :
    (x >>= fun a => pure (f a)) = .error e ↔ x = .error e := by
  rw [bind_eq_error_iff, or_iff_left]
  rintro ⟨a, -, hpure⟩
  cases hpure

/-! ### Kinds of operand -/

/-- The **kinds of operand**. -/
inductive OperandKind where
  | register
  | immediate
  | address
  deriving DecidableEq, Repr

/-- The kinds of the operands a shape takes, in order. -/
def Shape.operandKinds : Shape → List OperandKind
  | .register _ => [.register, .register, .register]
  | .immediate _ | .branch _ => [.register, .register, .immediate]
  | .load | .store => [.register, .address]

/-- A shape takes as many operands as it has kinds of them. -/
theorem Shape.length_operandKinds (shape : Shape) : shape.operandKinds.length = shape.arity := by
  cases shape <;> rfl

/-- A token **is an operand** of a kind. -/
inductive IsOperand (labels : LabelTable) : OperandKind → Text → Prop
  | register {token : Text} {r : Register} (hname : NamesRegister token r) :
      IsOperand labels .register token
  | label {token : Text} {target : Int} (hlabel : labels.address? (strip token) = some target) :
      IsOperand labels .immediate token
  | literal {token digits : Text} {sign : Int} {base : Nat}
      (hform : LiteralForm (lower (strip token)) sign base digits)
      (hlimit : base = 10 → digits.length ≤ digitLimit) : IsOperand labels .immediate token
  | address {token digits base : Text} {sign : Int} {r : Register}
      (hform : AddressForm token sign digits base) (hlimit : digits.length ≤ digitLimit)
      (hbase : NamesRegister base r) : IsOperand labels .address token

/-- A token is **misread** as an operand of a kind, in a line with the mnemonic `op`. -/
inductive Misread (labels : LabelTable) (op : Text) : OperandKind → Text → ReadError → Prop
  /-- The number of a register is over the limit. -/
  | registerNumber {token digits : Text} (hdigits : RegisterDigits token digits)
      (hlimit : digitLimit < digits.length) :
      Misread labels op .register token (.tooManyDigits digits.length)
  /-- The token names no register. -/
  | unknownRegister {token : Text} (hname : ∀ r, ¬NamesRegister token r)
      (hlimit : ∀ digits, RegisterDigits token digits → digits.length ≤ digitLimit) :
      Misread labels op .register token (.fault (.unknownRegister token))
  /-- A decimal literal is over the limit. -/
  | decimalLiteral {token digits : Text} {sign : Int}
      (hlabel : labels.address? (strip token) = none)
      (hform : LiteralForm (lower (strip token)) sign 10 digits)
      (hlimit : digitLimit < digits.length) :
      Misread labels op .immediate token (.tooManyDigits digits.length)
  /-- The token is neither a label nor a literal. -/
  | badImmediate {token : Text} (hlabel : labels.address? (strip token) = none)
      (hform : ∀ sign base digits, ¬LiteralForm (lower (strip token)) sign base digits) :
      Misread labels op .immediate token (.fault (.badImmediate (strip token)))
  /-- The token has not the form of a memory address, whatever its base. -/
  | malformedAddress {token : Text}
      (hform : ∀ sign digits base, ¬AddressForm token sign digits base) :
      Misread labels op .address token (.fault (.malformedAddress op))
  /-- The offset of a memory address is over the limit, whatever its base. -/
  | offset {token digits base : Text} {sign : Int} (hform : AddressForm token sign digits base)
      (hlimit : digitLimit < digits.length) :
      Misread labels op .address token (.tooManyDigits digits.length)
  /-- The base of a memory address is misread as a register. -/
  | base {token digits base : Text} {sign : Int} {e : ReadError}
      (hform : AddressForm token sign digits base) (hlimit : digits.length ≤ digitLimit)
      (hbase : Misread labels op .register base e) : Misread labels op .address token e

section

variable {labels : LabelTable} {op token : Text} {address : Int} {e : ReadError}

/-! ### Readings that fail -/

/-- A register is not read by its number if that is over the limit or beyond the registers. -/
theorem numbered_eq_error_iff {digits : Text} :
    (decimalValue digits >>= registerNumbered token) = .error e ↔
      digitLimit < digits.length ∧ e = .tooManyDigits digits.length ∨
        digits.length ≤ digitLimit ∧ 32 ≤ natOf 10 digits ∧
          e = .fault (.unknownRegister token) := by
  rw [bind_eq_error_iff, decimalValue_eq_error_iff]
  refine or_congr_right ?_
  constructor
  · rintro ⟨index, hvalue, hindex⟩
    obtain ⟨hlimit, rfl⟩ := decimalValue_eq_ok_iff.mp hvalue
    rw [registerNumbered] at hindex
    split at hindex
    · cases hindex
    · next hlarge => exact ⟨hlimit, Nat.not_lt.mp hlarge, (Except.error.inj hindex).symm⟩
  · rintro ⟨hlimit, hlarge, rfl⟩
    refine ⟨_, decimalValue_eq_ok_iff.mpr ⟨hlimit, rfl⟩, ?_⟩
    rw [registerNumbered, dif_neg (Nat.not_lt.mpr hlarge)]

/-- The digits of a register number in a token are the same in every way to find them. -/
theorem RegisterDigits.unique {digits digits' : Text} (h : RegisterDigits token digits)
    (h' : RegisterDigits token digits') : digits = digits' :=
  (registerDigits_iff.mp h).2.symm.trans (registerDigits_iff.mp h').2

/-- A register that is refused is so for its number, or as unknown. -/
theorem misread_of_readRegister (h : readRegister token = .error e) :
    Misread labels op .register token e := by
  have hname : ∀ r, ¬NamesRegister token r := by
    intro r hr
    rw [readRegister_eq_ok_iff.mpr hr] at h
    cases h
  by_cases hdigits : ∃ digits, RegisterDigits token digits
  · obtain ⟨digits, hdigits⟩ := hdigits
    rw [readRegister_of_registerDigits hdigits, numbered_eq_error_iff] at h
    rcases h with ⟨hlimit, rfl⟩ | ⟨hlimit, -, rfl⟩
    · exact .registerNumber hdigits hlimit
    · exact .unknownRegister hname fun digits' h' => (hdigits.unique h') ▸ hlimit
  · have hnone := not_exists.mp hdigits
    have hunnamed : registerNamed? (lower (strip token)) = none := by
      rw [Option.eq_none_iff_forall_ne_some]
      intro r hr
      obtain ⟨name, hmem, heq⟩ := exists_mem_of_registerNamed? hr
      exact hname r (.named hmem heq)
    rw [readRegister_of_neither hunnamed hnone] at h
    cases h
    exact .unknownRegister hname fun digits h' => absurd h' (hnone digits)

/-- **A register is refused** for its number, or as unknown. -/
theorem readRegister_eq_error_iff :
    readRegister token = .error e ↔ Misread labels op .register token e := by
  refine ⟨misread_of_readRegister, fun h => ?_⟩
  cases h with
  | registerNumber hdigits hlimit =>
      rw [readRegister_of_registerDigits hdigits]
      exact numbered_eq_error_iff.mpr (.inl ⟨hlimit, rfl⟩)
  | unknownRegister hname hlimit =>
      cases hread : readRegister token with
      | ok r => exact absurd (readRegister_eq_ok_iff.mp hread) (hname r)
      | error e =>
          have hmisread : Misread labels op .register token e := misread_of_readRegister hread
          cases hmisread with
          | registerNumber hdigits hover => exact absurd (hlimit _ hdigits) (Nat.not_le.mpr hover)
          | unknownRegister => rfl

/-- A literal is refused only as a decimal numeral. -/
theorem literalValue_eq_error_iff {sign : Int} {base : Nat} {digits : Text} :
    literalValue sign base digits = .error e ↔
      base = 10 ∧ digitLimit < digits.length ∧ e = .tooManyDigits digits.length := by
  rw [literalValue]
  split
  · next hbase =>
      rw [and_iff_right hbase, ← decimalValue_eq_error_iff]
      exact bind_pure_eq_error_iff.trans bind_pure_eq_error_iff
  · next hbase => simp [hbase]

/-- An immediate that is no label but a literal is the value of the literal. -/
theorem readImmediate_of_literal {value : Except ReadError Int}
    (hlabel : labels.address? (strip token) = none)
    (hvalue : readLiteral? (lower (strip token)) = some value) :
    readImmediate labels address token = value.map Word.wrap := by
  simp only [readImmediate, hlabel, hvalue]

/-- An immediate that is neither label nor literal is refused. -/
theorem readImmediate_of_neither (hlabel : labels.address? (strip token) = none)
    (hvalue : readLiteral? (lower (strip token)) = none) :
    readImmediate labels address token = .error (.fault (.badImmediate (strip token))) := by
  simp only [readImmediate, hlabel, hvalue]

/-- **An immediate is refused** as a literal over the limit, or as neither label nor literal. -/
theorem readImmediate_eq_error_iff :
    readImmediate labels address token = .error e ↔ Misread labels op .immediate token e := by
  constructor
  · intro h
    cases hlabel : labels.address? (strip token) with
    | some target =>
        simp only [readImmediate, hlabel] at h
        cases h
    | none =>
        cases hvalue : readLiteral? (lower (strip token)) with
        | some value =>
            rw [readImmediate_of_literal hlabel hvalue] at h
            obtain ⟨sign, base, digits, hform, rfl⟩ := readLiteral?_eq_some_iff.mp hvalue
            obtain ⟨rfl, hlimit, rfl⟩ := literalValue_eq_error_iff.mp (bind_pure_eq_error_iff.mp h)
            exact .decimalLiteral hlabel hform hlimit
        | none =>
            rw [readImmediate_of_neither hlabel hvalue] at h
            cases h
            exact .badImmediate hlabel (readLiteral?_eq_none_iff.mp hvalue)
  · intro h
    cases h with
    | decimalLiteral hlabel hform hlimit =>
        have hvalue := readLiteral?_eq_some_iff.mpr ⟨_, _, _, hform, rfl⟩
        rw [readImmediate_of_literal hlabel hvalue]
        exact bind_pure_eq_error_iff.mpr (literalValue_eq_error_iff.mpr ⟨rfl, hlimit, rfl⟩)
    | badImmediate hlabel hform =>
        exact readImmediate_of_neither hlabel (readLiteral?_eq_none_iff.mpr hform)

/-- A memory address of a given form is read as its offset and its base. -/
theorem readMemoryAddress_of_addressForm {digits base : Text} {sign : Int}
    (h : AddressForm token sign digits base) :
    readMemoryAddress op token = do
      let offset ← decimalValue digits
      let register ← readRegister base
      return (Word.wrap (sign * offset), register) := by
  simp only [readMemoryAddress, addressParts?_eq_some_iff.mpr h]

/-- Offset and base are refused one after the other. -/
theorem readMemoryAddress_eq_error_iff_of_addressForm {digits base : Text} {sign : Int}
    (h : AddressForm token sign digits base) :
    readMemoryAddress op token = .error e ↔
      digitLimit < digits.length ∧ e = .tooManyDigits digits.length ∨
        digits.length ≤ digitLimit ∧ readRegister base = .error e := by
  rw [readMemoryAddress_of_addressForm h, bind_eq_error_iff, decimalValue_eq_error_iff]
  refine or_congr_right ?_
  constructor
  · rintro ⟨offset, hoffset, hread⟩
    exact ⟨(decimalValue_eq_ok_iff.mp hoffset).1, bind_pure_eq_error_iff.mp hread⟩
  · rintro ⟨hlimit, hread⟩
    exact ⟨_, decimalValue_eq_ok_iff.mpr ⟨hlimit, rfl⟩, bind_pure_eq_error_iff.mpr hread⟩

/-- **A memory address is refused** for its form, then for its offset, then for its base. -/
theorem readMemoryAddress_eq_error_iff :
    readMemoryAddress op token = .error e ↔ Misread labels op .address token e := by
  constructor
  · intro h
    cases hparts : addressParts? token with
    | none =>
        simp only [readMemoryAddress, hparts] at h
        cases h
        refine .malformedAddress fun sign digits base hform => ?_
        cases hparts.symm.trans (addressParts?_eq_some_iff.mpr hform)
    | some parts =>
        obtain ⟨sign, digits, base⟩ := parts
        have hform := addressParts?_eq_some_iff.mp hparts
        rw [readMemoryAddress_eq_error_iff_of_addressForm hform] at h
        rcases h with ⟨hlimit, rfl⟩ | ⟨hlimit, hbase⟩
        · exact .offset hform hlimit
        · exact .base hform hlimit (readRegister_eq_error_iff.mp hbase)
  · intro h
    cases h with
    | malformedAddress hform =>
        have hparts : addressParts? token = none := by
          rw [Option.eq_none_iff_forall_ne_some]
          rintro ⟨sign, digits, base⟩ hparts
          exact hform sign digits base (addressParts?_eq_some_iff.mp hparts)
        simp only [readMemoryAddress, hparts]
    | offset hform hlimit =>
        exact (readMemoryAddress_eq_error_iff_of_addressForm hform).mpr (.inl ⟨hlimit, rfl⟩)
    | base hform hlimit hbase =>
        exact (readMemoryAddress_eq_error_iff_of_addressForm hform).mpr
          (.inr ⟨hlimit, readRegister_eq_error_iff.mpr hbase⟩)

end

/-! ### Operands -/

section

variable {labels : LabelTable} {address : Int} {op : Text} {operands : List Text}

/-- An **operand is at fault** at a position, counted from 0: it is missing, or misread as the kind
of operand that is due there. -/
inductive OperandFault (labels : LabelTable) (op : Text) (operands : List Text) (k : Nat)
    (kind : OperandKind) : ReadError → Prop
  | missing (h : operands[k]? = none) :
      OperandFault labels op operands k kind (.fault (.missingOperand (k + 1) op))
  | misread {token : Text} {e : ReadError} (h : operands[k]? = some token)
      (he : Misread labels op kind token e) : OperandFault labels op operands k kind e

/-- The **first fault** among operands, from the position `k` on, where the operands of some kinds
are due: the fault of the first of them that is at fault. -/
def FirstFault (labels : LabelTable) (op : Text) (operands : List Text) (e : ReadError) :
    Nat → List OperandKind → Prop
  | _, [] => False
  | k, kind :: kinds =>
    OperandFault labels op operands k kind e ∨
      (∀ e', ¬OperandFault labels op operands k kind e') ∧
        FirstFault labels op operands e (k + 1) kinds

/-- An operand that is taken and read fails for its fault. -/
theorem operandAt_bind_eq_error_iff {α : Type} {read : Text → Except ReadError α}
    {kind : OperandKind}
    (hread : ∀ token e, read token = .error e ↔ Misread labels op kind token e) {k : Nat}
    {e : ReadError} :
    (operandAt op operands (k + 1) >>= read) = .error e ↔
      OperandFault labels op operands k kind e := by
  cases hoperand : operands[k]? with
  | none =>
      have hmissing : operandAt op operands (k + 1) =
          .error (.fault (.missingOperand (k + 1) op)) := by
        simp [operandAt, hoperand]
      rw [hmissing]
      constructor
      · intro h
        cases h
        exact .missing hoperand
      · intro h
        cases h with
        | missing => rfl
        | misread htoken => cases hoperand.symm.trans htoken
  | some token =>
      have hfound : operandAt op operands (k + 1) = .ok token :=
        operandAt_eq_ok_iff.mpr hoperand
      rw [hfound]
      constructor
      · intro h
        exact .misread hoperand ((hread token e).mp h)
      · intro h
        cases h with
        | missing hnone => cases hoperand.symm.trans hnone
        | misread htoken he =>
            cases hoperand.symm.trans htoken
            exact (hread token e).mpr he

/-- **Faults one after the other**: what goes on after an operand fails for the fault of the
operand, or else for the first fault behind it. -/
theorem firstFault_cons {α β : Type} {x : Except ReadError α} {f : α → Except ReadError β}
    {e : ReadError} {k : Nat} {kind : OperandKind} {kinds : List OperandKind}
    (hx : ∀ e, x = .error e ↔ OperandFault labels op operands k kind e)
    (hf : ∀ a, x = .ok a → (f a = .error e ↔ FirstFault labels op operands e (k + 1) kinds)) :
    (x >>= f) = .error e ↔ FirstFault labels op operands e k (kind :: kinds) := by
  rw [bind_eq_error_iff, hx, FirstFault]
  refine or_congr_right ?_
  constructor
  · rintro ⟨a, ha, hfa⟩
    refine ⟨fun e' he' => ?_, (hf a ha).mp hfa⟩
    cases ha.symm.trans ((hx e').mpr he')
  · rintro ⟨hno, hlater⟩
    cases hxa : x with
    | error e' => exact absurd ((hx e').mp hxa) (hno e')
    | ok a => exact ⟨a, rfl, (hf a hxa).mpr hlater⟩

/-- Nothing follows the fault of the last operand. -/
theorem firstFault_singleton {e : ReadError} {k : Nat} {kind : OperandKind} :
    FirstFault labels op operands e k [kind] ↔ OperandFault labels op operands k kind e := by
  rw [FirstFault, FirstFault, and_false, or_false]

/-- **Operands are refused** for the leftmost fault. -/
theorem decodeOperands_eq_error_iff {shape : Shape} {e : ReadError} :
    decodeOperands labels address op operands shape = .error e ↔
      FirstFault labels op operands e 0 shape.operandKinds := by
  have hregister : ∀ k e, registerAt op operands (k + 1) = .error e ↔
      OperandFault labels op operands k .register e :=
    fun k e => operandAt_bind_eq_error_iff fun _ _ => readRegister_eq_error_iff
  have himmediate : ∀ {f : Int → Decoded}, (do
      let imm ← readImmediate labels address (← operandAt op operands 3)
      return f imm) = .error e ↔ FirstFault labels op operands e 2 [.immediate] := by
    intro f
    rw [firstFault_singleton]
    exact operandAt_bind_eq_error_iff fun _ _ =>
      bind_pure_eq_error_iff.trans readImmediate_eq_error_iff
  have haddress : ∀ {f : Int × Register → Decoded}, (do
      let parts ← readMemoryAddress op (← operandAt op operands 2)
      return f parts) = .error e ↔ FirstFault labels op operands e 1 [.address] := by
    intro f
    rw [firstFault_singleton]
    exact operandAt_bind_eq_error_iff fun _ _ =>
      bind_pure_eq_error_iff.trans readMemoryAddress_eq_error_iff
  cases shape with
  | register code =>
      refine firstFault_cons (hregister 0) fun rd _ => firstFault_cons (hregister 1) fun rs1 _ => ?_
      rw [firstFault_singleton, ← hregister 2]
      exact bind_pure_eq_error_iff
  | immediate code =>
      exact firstFault_cons (hregister 0) fun rd _ => firstFault_cons (hregister 1) fun rs1 _ =>
        himmediate
  | load => exact firstFault_cons (hregister 0) fun rd _ => haddress
  | store => exact firstFault_cons (hregister 0) fun value _ => haddress
  | branch code =>
      exact firstFault_cons (hregister 0) fun rs1 _ => firstFault_cons (hregister 1) fun rs2 _ =>
        himmediate

end

/-! ### Lines -/

/-- Every mnemonic has one shape. -/
theorem Shape.ofMnemonic?_eq_some_iff {op : Text} {shape : Shape} :
    Shape.ofMnemonic? op = some shape ↔ ∃ name, (name, shape) ∈ mnemonics ∧ name.toList = op := by
  refine ⟨Shape.exists_mem_mnemonics, ?_⟩
  rintro ⟨name, hmem, rfl⟩
  have hall : ∀ entry ∈ mnemonics, Shape.ofMnemonic? entry.1.toList = some entry.2 := by decide
  exact hall (name, shape) hmem

/-- **The error of a line**, with its number and its text unless a numeral is over the limit. -/
inductive LineError (labels : LabelTable) (line : SourceLine) : AssemblyError → Prop
  /-- There is no token on the line. -/
  | missingMnemonic (htokens : tokens line.body = []) :
      LineError labels line (.parse ⟨.missingMnemonic, some ⟨line.number, line.text, none⟩⟩)
  /-- The first token is no mnemonic, whatever follows it. -/
  | unsupported {word : Text} {operands : List Text} (htokens : tokens line.body = word :: operands)
      (hmnemonic : ∀ entry ∈ mnemonics, entry.1.toList ≠ lower word) :
      LineError labels line
        (.parse ⟨.unsupported (lower word), some ⟨line.number, line.text, some (lower word)⟩⟩)
  /-- An operand is at fault, and none on its left. -/
  | operand {word : Text} {operands : List Text} {name : String} {shape : Shape} {f : Fault}
      (htokens : tokens line.body = word :: operands) (hmnemonic : (name, shape) ∈ mnemonics)
      (hname : name.toList = lower word)
      (hfault : FirstFault labels (lower word) operands (.fault f) 0 shape.operandKinds) :
      LineError labels line (.parse ⟨f, some ⟨line.number, line.text, some (lower word)⟩⟩)
  /-- An operand has a numeral over the limit, and none on its left is at fault. -/
  | refused {word : Text} {operands : List Text} {name : String} {shape : Shape} {count : Nat}
      (htokens : tokens line.body = word :: operands) (hmnemonic : (name, shape) ∈ mnemonics)
      (hname : name.toList = lower word)
      (hfault : FirstFault labels (lower word) operands (.tooManyDigits count) 0
        shape.operandKinds) :
      LineError labels line (.tooManyDigits count)

section

variable {labels : LabelTable} {address : Int} {line : SourceLine}

/-- The first fault of the operands is that of the line. -/
theorem LineError.of_firstFault {word : Text} {operands : List Text} {name : String}
    {shape : Shape} {e : ReadError} (htokens : tokens line.body = word :: operands)
    (hmnemonic : (name, shape) ∈ mnemonics) (hname : name.toList = lower word)
    (hfault : FirstFault labels (lower word) operands e 0 shape.operandKinds) :
    LineError labels line (e.locate ⟨line.number, line.text, some (lower word)⟩) := by
  cases e with
  | fault f => exact .operand htokens hmnemonic hname hfault
  | tooManyDigits count => exact .refused htokens hmnemonic hname hfault

/-- A line that does not decode is so for its error. -/
theorem lineError_of_decode {e : AssemblyError} (h : decode labels address line = .error e) :
    LineError labels line e := by
  rw [decode] at h
  split at h
  · next htokens =>
      cases h
      exact .missingMnemonic htokens
  · next word operands htokens =>
      dsimp only at h
      split at h
      · next hshape =>
          cases h
          refine .unsupported htokens fun entry hentry hname => ?_
          cases hshape.symm.trans (Shape.ofMnemonic?_eq_some_iff.mpr ⟨entry.1, hentry, hname⟩)
      · next shape hshape =>
          obtain ⟨name, hmnemonic, hname⟩ := Shape.exists_mem_mnemonics hshape
          split at h
          · next e' he' =>
              cases h
              exact .of_firstFault htokens hmnemonic hname (decodeOperands_eq_error_iff.mp he')
          · cases h

/-- **The error of a line** is that which decoding it gives, for whatever address. -/
theorem decode_eq_error_iff {e : AssemblyError} :
    decode labels address line = .error e ↔ LineError labels line e := by
  refine ⟨lineError_of_decode, fun h => ?_⟩
  cases h with
  | missingMnemonic htokens => simp only [decode, htokens, ReadError.locate]
  | @unsupported word operands htokens hmnemonic =>
      have hshape : Shape.ofMnemonic? (lower word) = none := by
        rw [Option.eq_none_iff_forall_ne_some]
        intro shape hshape
        obtain ⟨name, hmem, hname⟩ := Shape.exists_mem_mnemonics hshape
        exact hmnemonic (name, shape) hmem hname
      simp only [decode, htokens, hshape, ReadError.locate]
  | operand htokens hmnemonic hname hfault =>
      have hshape := Shape.ofMnemonic?_eq_some_iff.mpr ⟨_, hmnemonic, hname⟩
      simp only [decode, htokens, hshape, decodeOperands_eq_error_iff.mpr hfault, ReadError.locate]
  | refused htokens hmnemonic hname hfault =>
      have hshape := Shape.ofMnemonic?_eq_some_iff.mpr ⟨_, hmnemonic, hname⟩
      simp only [decode, htokens, hshape, decodeOperands_eq_error_iff.mpr hfault, ReadError.locate]

/-- **An error that is a fault tells its line.** -/
theorem LineError.exists_site {e : ParseError} (h : LineError labels line (.parse e)) :
    ∃ mnemonic?, e.site? = some ⟨line.number, line.text, mnemonic?⟩ := by
  cases h with
  | missingMnemonic => exact ⟨_, rfl⟩
  | unsupported => exact ⟨_, rfl⟩
  | operand => exact ⟨_, rfl⟩

/-- A source that fails for a fault tells the number of a line of the text, and what the line
says. -/
theorem FailsAt.exists_site {source : Text} {e : ParseError} (h : FailsAt source line (.parse e)) :
    ∃ k raw mnemonic?, (lines source)[k]? = some raw ∧
      e.site? = some ⟨k + 1, stripLine raw, mnemonic?⟩ := by
  obtain ⟨before, after, hlines, -, -, hdecode⟩ := h
  have hmem : line ∈ sourceLines source := hlines ▸ List.mem_append_right _ List.mem_cons_self
  obtain ⟨k, raw, hraw, rfl⟩ := exists_of_mem_sourceLines hmem
  obtain ⟨mnemonic?, hsite⟩ := (decode_eq_error_iff.mp hdecode).exists_site
  exact ⟨k, raw, mnemonic?, hraw, hsite⟩

/-- A line decodes exactly if it has no error. -/
theorem exists_decode_iff :
    (∃ i, decode labels address line = .ok i) ↔ ∀ e, ¬LineError labels line e := by
  cases hdecode : decode labels address line with
  | error e =>
      exact iff_of_false (by simp) fun hnone => hnone e (decode_eq_error_iff.mp hdecode)
  | ok i =>
      refine iff_of_true ⟨i, rfl⟩ fun e he => ?_
      cases hdecode.symm.trans (decode_eq_error_iff.mpr he)

end

end Monocycle
