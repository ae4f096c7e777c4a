import Mathlib.Data.List.Forall2
import Monocycle.Proofs.Assembly.Faults
import Monocycle.Proofs.Assembly.FirstError
import Monocycle.Proofs.Assembly.Lines
import Monocycle.Proofs.Text.FoldedCase

/-!
# Letter case in sources without labels

A label is told from another by the case of its letters, and nothing else in a source is. Mnemonics,
registers and immediates are lower-cased before they are looked at; the offset of a memory address
has no letters in it, its base is a register; and no cut on the way to them sees letter case. So a
source without a colon, which has no labels, assembles to the same records when its ASCII letters
are put into lower case, or fails on the same line for the same kind of fault.

This is an equation between two runs, and each function of the assembler has its part in it: applied
to what is put into lower case, it gives what it gave, with the texts that it quotes put into lower
case (`foldCase`). Two sources that differ in the case of ASCII letters are the same source in lower
case, and so they come to the same up to what they quote.

## Main definitions

* `SourceLine.foldCase`, `Instruction.foldCase`, `AssemblyError.foldCase`: lines, records and errors
  with their texts in lower case.
* `FaultClass`, `AssemblyError.Alike`: errors of one class, in one line with one mnemonic.

## Main results

* `readRegister_map_toLower`, `readImmediate_map_toLower`, `readMemoryAddress_map_toLower`: the
  three readings.
* `decode_foldCase`, `decodeLines_foldCase`: the second pass.
* `assemble_map_toLower`: a source in lower case.
* `assemble_ignores_letter_case`: **letter case carries no meaning outside labels.**
-/

namespace Monocycle

open Text

/-! ### Lines, records and errors -/

/-- A line with its ASCII letters in lower case. -/
def SourceLine.foldCase (line : SourceLine) : SourceLine :=
  { line with text := line.text.map Char.toLower }

/-- A record from a line with its ASCII letters in lower case. -/
def Instruction.foldCase (i : Instruction) : Instruction :=
  { i with text := i.text.map Char.toLower }

/-- A program from a source with its ASCII letters in lower case. -/
def Program.foldCase (p : Program) : Program :=
  { p with instructions := p.instructions.map (·.foldCase) }

/-- A fault with the token it quotes in lower case. -/
def Fault.foldCase : Fault → Fault
  | .unknownRegister token => .unknownRegister (token.map Char.toLower)
  | .badImmediate token => .badImmediate (token.map Char.toLower)
  | f => f

/-- A read error with the token it quotes in lower case. -/
def ReadError.foldCase : ReadError → ReadError
  | .fault f => .fault f.foldCase
  | .tooManyDigits count => .tooManyDigits count

/-- An error with the texts it quotes in lower case. -/
def AssemblyError.foldCase : AssemblyError → AssemblyError
  | .parse e =>
    .parse ⟨e.fault.foldCase,
      e.site?.map fun site => { site with text := site.text.map Char.toLower }⟩
  | .tooManyDigits count => .tooManyDigits count

/-- The **class** of a fault, whatever it quotes. -/
inductive FaultClass where
  | format
  | unknownRegister
  | badImmediate
  | unsupported
  deriving DecidableEq, Repr

/-- A line that is not written as one is a matter of format, whatever it lacks. -/
def Fault.faultClass : Fault → FaultClass
  | .missingMnemonic | .missingOperand _ _ | .malformedAddress _ => .format
  | .unknownRegister _ => .unknownRegister
  | .badImmediate _ => .badImmediate
  | .unsupported _ => .unsupported

/-- Two errors are **alike**: faults of one class in a line of one number and one mnemonic, or
numerals over the limit with as many digits. -/
inductive AssemblyError.Alike : AssemblyError → AssemblyError → Prop
  | parse {f f' : Fault} {site site' : Site} (hclass : f.faultClass = f'.faultClass)
      (hline : site.line = site'.line) (hmnemonic : site.mnemonic? = site'.mnemonic?) :
      Alike (.parse ⟨f, some site⟩) (.parse ⟨f', some site'⟩)
  | tooManyDigits (count : Nat) : Alike (.tooManyDigits count) (.tooManyDigits count)

/-- The class of a fault is not a matter of letter case. -/
theorem Fault.faultClass_foldCase (f : Fault) : f.foldCase.faultClass = f.faultClass := by
  cases f <;> rfl

/-- Locating an error and putting its texts into lower case is locating it in lower case. -/
theorem ReadError.foldCase_locate (e : ReadError) (line : Nat) (text : Text)
    (mnemonic? : Option Text) :
    (e.locate ⟨line, text, mnemonic?⟩).foldCase =
      e.foldCase.locate ⟨line, text.map Char.toLower, mnemonic?⟩ := by
  cases e with
  | fault f => rfl
  | tooManyDigits count => rfl

section

variable {ε ε' α β : Type}

/-- An error of a computation with another behind it comes from the one or the other. -/
theorem mapError_bind (x : Except ε α) (f : α → Except ε β) (g : ε → ε') :
    (x >>= f).mapError g = x.mapError g >>= fun a => (f a).mapError g := by
  cases x with
  | error e => rfl
  | ok a => rfl

theorem mapError_pure (a : α) (g : ε → ε') :
    (pure a : Except ε α).mapError g = pure a := rfl

end

/-! ### Reading operands -/

theorem mapError_decimalValue (digits : Text) :
    (decimalValue digits).mapError ReadError.foldCase = decimalValue digits := by
  rw [decimalValue]
  split
  · rfl
  · rfl

/-- **A register is read** in lower case as it is read. -/
theorem readRegister_map_toLower (token : Text) :
    readRegister (token.map Char.toLower) = (readRegister token).mapError ReadError.foldCase := by
  have hnumbered : registerNumbered (token.map Char.toLower) =
      fun index => (registerNumbered token index).mapError ReadError.foldCase := by
    funext index
    rw [registerNumbered, registerNumbered]
    split
    · rfl
    · rfl
  simp only [readRegister_eq, strip_map_toLower, lower_map_toLower, hnumbered]
  split
  · rfl
  · split
    · rw [mapError_bind, mapError_decimalValue]
    · rfl

/-- **An immediate is read** in lower case as it is read, where there are no labels. -/
theorem readImmediate_map_toLower (address : Int) (token : Text) :
    readImmediate [] address (token.map Char.toLower) =
      (readImmediate [] address token).mapError ReadError.foldCase := by
  have hnone : ∀ name, LabelTable.address? [] name = none := fun _ => rfl
  have hliteral : ∀ t value, readLiteral? t = some value →
      value.mapError ReadError.foldCase = value := by
    intro t value hvalue
    obtain ⟨sign, base, digits, -, rfl⟩ := readLiteral?_eq_some_iff.mp hvalue
    cases hread : literalValue sign base digits with
    | ok v => rfl
    | error e =>
        obtain ⟨-, -, rfl⟩ := literalValue_eq_error_iff.mp hread
        rfl
  simp only [readImmediate, hnone, strip_map_toLower, lower_map_toLower]
  cases hread : readLiteral? (lower (strip token)) with
  | none => rfl
  | some value =>
      have hvalue := hliteral _ value hread
      cases value with
      | error e => exact congrArg Except.error (Except.error.inj hvalue).symm
      | ok v => rfl

/-- The form of a memory address in lower case: there are no letters but in the base. -/
theorem addressForm_map_toLower_iff {token digits base : Text} {sign : Int} :
    AddressForm (token.map Char.toLower) sign digits base ↔
      ∃ name, AddressForm token sign digits name ∧ name.map Char.toLower = base := by
  have hword : ∀ c : Char, isWordChar c.toLower = isWordChar c := apply_toLower (by decide)
  -- in front of the base there is no letter, so nothing is changed
  have hfront : ∀ {s t : Text}, (s, sign) ∈ offsetSigns → isNumeral 10 digits = true →
      (t.map Char.toLower = s ++ (digits ++ ['(']) ↔ t = s ++ (digits ++ ['('])) := by
    intro s t hs hnumeral
    refine map_toLower_eq_iff fun c hc => ?_
    rw [List.mem_append, List.mem_append] at hc
    obtain hc | hc | hc := hc
    · have hall : ∀ entry ∈ offsetSigns, entry.1.all (!·.isAlpha) = true := by decide
      simpa using List.all_eq_true.mp (hall (s, sign) hs) c hc
    · have hdigit : c.isDigit = true := (isDigitOf_ten c) ▸ (isNumeral_iff.mp hnumeral).2 c hc
      exact forall_ascii (P := fun c => c.isDigit = true → c.isAlpha = false) (by decide)
        (isPlain_of_isDigit hdigit).1 hdigit
    · obtain rfl := List.mem_singleton.mp hc
      decide
  have hform : ∀ {t s name : Text}, t = s ++ (digits ++ '(' :: (name ++ [')'])) ↔
      t = s ++ (digits ++ ['(']) ++ (name ++ [')']) := by
    simp only [List.append_assoc, List.singleton_append, implies_true]
  simp only [AddressForm, hform]
  constructor
  · rintro ⟨s, hs, hnumeral, hbase, hall, heq⟩
    obtain ⟨front, behind, rfl, hlower, hbehind⟩ := List.map_eq_append_iff.mp heq
    obtain ⟨name, close, rfl, rfl, hclose⟩ := List.map_eq_append_iff.mp hbehind
    obtain rfl := (hfront hs hnumeral).mp hlower
    obtain rfl := (map_toLower_eq_iff (List.forall_mem_singleton.mpr rfl)).mp hclose
    refine ⟨name, ⟨s, hs, hnumeral, by simpa using hbase, fun c hc => ?_, rfl⟩, rfl⟩
    rw [← hword]
    exact hall _ (List.mem_map_of_mem hc)
  · rintro ⟨name, ⟨s, hs, hnumeral, hbase, hall, rfl⟩, rfl⟩
    refine ⟨s, hs, hnumeral, by simpa using hbase, ?_, ?_⟩
    · simpa only [List.forall_mem_map, hword] using hall
    · rw [List.map_append, (hfront hs hnumeral).mpr rfl, List.map_append]
      rfl

/-- The parts of a memory address in lower case. -/
theorem addressParts?_map_toLower (token : Text) :
    addressParts? (token.map Char.toLower) =
      (addressParts? token).map fun parts => (parts.1, parts.2.1, parts.2.2.map Char.toLower) := by
  refine Option.ext fun parts => ?_
  obtain ⟨sign, digits, base⟩ := parts
  rw [addressParts?_eq_some_iff, addressForm_map_toLower_iff, Option.map_eq_some_iff]
  constructor
  · rintro ⟨name, hform, rfl⟩
    exact ⟨_, addressParts?_eq_some_iff.mpr hform, rfl⟩
  · rintro ⟨⟨sign', digits', name⟩, hparts, heq⟩
    cases heq
    exact ⟨name, addressParts?_eq_some_iff.mp hparts, rfl⟩

/-- **A memory address is read** in lower case as it is read. -/
theorem readMemoryAddress_map_toLower (op token : Text) :
    readMemoryAddress op (token.map Char.toLower) =
      (readMemoryAddress op token).mapError ReadError.foldCase := by
  rw [readMemoryAddress, readMemoryAddress, addressParts?_map_toLower]
  cases addressParts? token with
  | none => rfl
  | some parts =>
      obtain ⟨sign, digits, base⟩ := parts
      simp only [Option.map_some, mapError_bind, mapError_pure, mapError_decimalValue,
        readRegister_map_toLower]

/-- The operand at a position is in lower case what it is. -/
theorem operandAt_map_toLower (op : Text) (operands : List Text) (position : Nat) :
    operandAt op (operands.map (List.map Char.toLower)) position =
      ((operandAt op operands position).map (List.map Char.toLower)).mapError
        ReadError.foldCase := by
  rw [operandAt, operandAt, List.getElem?_map]
  cases operands[position - 1]? with
  | none => rfl
  | some token => rfl

/-- **Operands** are decoded in lower case as they are decoded, where there are no labels. -/
theorem decodeOperands_map_toLower (address : Int) (op : Text) (operands : List Text)
    (shape : Shape) :
    decodeOperands [] address op (operands.map (List.map Char.toLower)) shape =
      (decodeOperands [] address op operands shape).mapError ReadError.foldCase := by
  have hread : ∀ {α : Type} {read read' : Text → Except ReadError α} (position : Nat),
      (∀ token, read' (token.map Char.toLower) = (read token).mapError ReadError.foldCase) →
      (operandAt op (operands.map (List.map Char.toLower)) position >>= read') =
        (operandAt op operands position >>= read).mapError ReadError.foldCase := by
    intro α read read' position hread
    rw [operandAt_map_toLower]
    cases operandAt op operands position with
    | error e => rfl
    | ok token => exact hread token
  have hregister : ∀ position, registerAt op (operands.map (List.map Char.toLower)) position =
      (registerAt op operands position).mapError ReadError.foldCase :=
    fun position => hread position readRegister_map_toLower
  have himmediate := hread 3 (readImmediate_map_toLower address)
  have haddress := hread 2 (readMemoryAddress_map_toLower op)
  cases shape <;> simp only [decodeOperands, hregister, mapError_bind, mapError_pure, ← bind_assoc,
    himmediate, haddress]

/-! ### Both passes -/

/-- A line in lower case has the number it has, and no label if it has no colon. -/
theorem splitLabel_foldCase {line : SourceLine} (h : ∀ c ∈ line.text, c ≠ ':') :
    line.label? = none ∧ line.body = line.text ∧
      line.foldCase.body = line.text.map Char.toLower := by
  have hlower : ∀ c ∈ line.foldCase.text, c ≠ ':' := by
    intro c hc hcolon
    obtain ⟨d, hd, hdc⟩ := List.mem_map.mp hc
    exact h d hd ((toLower_eq_iff (by decide)).mp (hdc.trans hcolon))
  rw [SourceLine.label?, SourceLine.body, SourceLine.body, splitLabel_of_forall_ne_colon h,
    splitLabel_of_forall_ne_colon hlower]
  exact ⟨rfl, rfl, rfl⟩

/-- **A line without a colon is decoded** in lower case as it is decoded. -/
theorem decode_foldCase {line : SourceLine} (h : ∀ c ∈ line.text, c ≠ ':') (address : Int) :
    decode [] address line.foldCase =
      ((decode [] address line).map (·.foldCase)).mapError (·.foldCase) := by
  obtain ⟨-, hbody, hlower⟩ := splitLabel_foldCase h
  have htokens : tokens (line.text.map Char.toLower) =
      (tokens line.text).map (List.map Char.toLower) :=
    wordsBetween_map (apply_toLower (by decide)) line.text
  rw [decode, decode, hbody, hlower, htokens]
  cases tokens line.text with
  | nil => rfl
  | cons word operands =>
      rw [List.map_cons]
      dsimp only
      rw [lower_map_toLower]
      cases Shape.ofMnemonic? (lower word) with
      | none => rfl
      | some shape =>
          dsimp only
          rw [decodeOperands_map_toLower]
          cases decodeOperands [] address (lower word) operands shape with
          | error e => exact congrArg Except.error (ReadError.foldCase_locate e _ _ _).symm
          | ok d => rfl

/-- **The second pass** over lines without a colon makes in lower case what it makes. -/
theorem decodeLines_foldCase {ls : List SourceLine} (h : ∀ line ∈ ls, ∀ c ∈ line.text, c ≠ ':')
    (address : Int) :
    decodeLines [] address (ls.map (·.foldCase)) =
      ((decodeLines [] address ls).1.map (·.foldCase),
        (decodeLines [] address ls).2.map (·.foldCase)) := by
  induction ls generalizing address with
  | nil => rfl
  | cons line rest ih =>
      obtain ⟨hline, hrest⟩ := List.forall_mem_cons.mp h
      have hplace : line.foldCase.isInstruction = line.isInstruction := by
        obtain ⟨-, hbody, hlower⟩ := splitLabel_foldCase hline
        rw [SourceLine.isInstruction, SourceLine.isInstruction, hbody, hlower, List.isEmpty_map]
      rw [List.map_cons, decodeLines, decodeLines, hplace]
      split
      · rw [decode_foldCase hline, ih hrest]
        cases decode [] address line with
        | error e => rfl
        | ok i => rfl
      · exact ih hrest address

/-- The source lines of a text in lower case. -/
theorem sourceLines_map_toLower (source : Text) :
    sourceLines (source.map Char.toLower) = (sourceLines source).map (·.foldCase) := by
  have hcomment : (· != '#') ∘ Char.toLower = (· != '#') :=
    funext (apply_toLower (f := (· != '#')) (by decide))
  have hstrip : ∀ raw, stripLine (raw.map Char.toLower) = (stripLine raw).map Char.toLower := by
    intro raw
    rw [stripLine, stripLine, List.takeWhile_map, hcomment, strip_map_toLower]
  have hlines : ∀ (raws : List Text) (number : Nat),
      numberedLines number (raws.map (List.map Char.toLower)) =
        (numberedLines number raws).map (·.foldCase) := by
    intro raws
    induction raws with
    | nil => exact fun _ => rfl
    | cons raw rest ih =>
        intro number
        rw [List.map_cons, numberedLines_cons, numberedLines_cons, hstrip, List.isEmpty_map, ih]
        split
        · rfl
        · rfl
  rw [sourceLines_eq_numberedLines, sourceLines_eq_numberedLines, lines_map_toLower, hlines]

/-- There is no colon in the lines of a source without one. -/
theorem ne_colon_of_mem_sourceLines {source : Text} (h : ':' ∉ source) {line : SourceLine}
    (hline : line ∈ sourceLines source) : ∀ c ∈ line.text, c ≠ ':' := by
  obtain ⟨k, raw, hraw, rfl⟩ := exists_of_mem_sourceLines hline
  intro c hc
  have hmem : c ∈ raw := (List.takeWhile_sublist _).mem ((trim_sublist _ _).mem hc)
  have hne : ∀ d ∈ source, d ≠ ':' := fun d hd hcolon => h (hcolon ▸ hd)
  exact forall_of_mem_lines hne (List.mem_of_getElem? hraw) c hmem

/-- Lines without a colon make no labels. -/
theorem labelTable_eq_nil {ls : List SourceLine} (h : ∀ line ∈ ls, ∀ c ∈ line.text, c ≠ ':') :
    labelTable ls = [] := by
  have hnone : ∀ address, labelDefinitions address ls = [] := by
    induction ls with
    | nil => exact fun _ => rfl
    | cons line rest ih =>
        obtain ⟨hline, hrest⟩ := List.forall_mem_cons.mp h
        intro address
        simp only [labelDefinitions, (splitLabel_foldCase hline).1, ih hrest]
  rw [labelTable, hnone, List.foldl_nil]

/-- **A source without a colon assembles** in lower case as it assembles. -/
theorem assemble_map_toLower {source : Text} (h : ':' ∉ source) :
    assemble (source.map Char.toLower) =
      ((assemble source).map (·.foldCase)).mapError (·.foldCase) := by
  have hlines : ∀ line ∈ sourceLines source, ∀ c ∈ line.text, c ≠ ':' := fun _ =>
    ne_colon_of_mem_sourceLines h
  have hlower : ':' ∉ source.map Char.toLower := by
    intro hmem
    obtain ⟨c, hc, hcolon⟩ := List.mem_map.mp hmem
    exact h ((toLower_eq_iff (by decide)).mp hcolon ▸ hc)
  have hlabels' : labelTable (sourceLines (source.map Char.toLower)) = [] :=
    labelTable_eq_nil fun _ => ne_colon_of_mem_sourceLines hlower
  rw [assemble, assemble, attempt, attempt, hlabels', labelTable_eq_nil hlines,
    sourceLines_map_toLower, decodeLines_foldCase hlines]
  simp only [Attempt.result]
  cases (decodeLines [] 0 (sourceLines source)).2 with
  | none => rfl
  | some e => rfl

/-- Records that are the same in lower case differ in their texts at most. -/
theorem Instruction.eq_of_foldCase_eq {i j : Instruction} (h : i.foldCase = j.foldCase) :
    { i with text := j.text } = j := by
  cases i
  cases j
  simp only [foldCase, Instruction.mk.injEq] at h ⊢
  obtain ⟨hformat, hop, haddress, -, hrest⟩ := h
  exact ⟨hformat, hop, haddress, trivial, hrest⟩

/-- Errors of sources are alike if they are the same in lower case. -/
theorem AssemblyError.alike_of_foldCase_eq {source : Text} {e e' : AssemblyError}
    (he : assemble source = .error e) (h : e.foldCase = e'.foldCase) : e.Alike e' := by
  cases e with
  | tooManyDigits count =>
      cases e' with
      | parse => cases h
      | tooManyDigits count' =>
          cases h
          exact .tooManyDigits count
  | parse e =>
      obtain ⟨f, site?⟩ := e
      obtain ⟨line, hfails⟩ := assemble_eq_error_iff.mp he
      obtain ⟨k, raw, mnemonic?, -, hsite⟩ := hfails.exists_site
      obtain rfl : site? = some ⟨k + 1, stripLine raw, mnemonic?⟩ := hsite
      cases e' with
      | tooManyDigits => cases h
      | parse e' =>
          obtain ⟨f', site'?⟩ := e'
          simp only [foldCase, AssemblyError.parse.injEq, ParseError.mk.injEq] at h
          obtain ⟨hfault, hsites⟩ := h
          obtain ⟨site', rfl, hsite'⟩ := Option.map_eq_some_iff.mp hsites.symm
          refine .parse ?_ (congrArg Site.line hsite').symm (congrArg Site.mnemonic? hsite').symm
          rw [← f.faultClass_foldCase, hfault, f'.faultClass_foldCase]

/-- **Letter case carries no meaning outside labels.** Of two sources without a colon that differ in
the case of ASCII letters alone, both assemble, to records that differ in nothing but the text of
their lines; or neither does, for faults of one class in the line of one number with one mnemonic,
or for a numeral over the digit limit. -/
theorem assemble_ignores_letter_case {s t : Text} (hcolon : ':' ∉ s)
    (hsame : s.map Char.toLower = t.map Char.toLower) :
    (∃ p q, assemble s = .ok p ∧ assemble t = .ok q ∧ p.labels = q.labels ∧
      List.Forall₂ (fun i j : Instruction => { i with text := j.text } = j)
        p.instructions q.instructions) ∨
    ∃ e e', assemble s = .error e ∧ assemble t = .error e' ∧ e.Alike e' := by
  have hcolon' : ':' ∉ t := by
    intro hmem
    have hlower : ':' ∈ s.map Char.toLower := hsame ▸ List.mem_map.mpr ⟨':', hmem, by decide⟩
    obtain ⟨c, hc, heq⟩ := List.mem_map.mp hlower
    exact hcolon ((toLower_eq_iff (by decide)).mp heq ▸ hc)
  have hresult := assemble_map_toLower hcolon'
  rw [← hsame, assemble_map_toLower hcolon] at hresult
  cases hs : assemble s with
  | ok p =>
      cases ht : assemble t with
      | error e' =>
          rw [hs, ht] at hresult
          cases hresult
      | ok q =>
          rw [hs, ht] at hresult
          have hfold : p.foldCase = q.foldCase := Except.ok.inj hresult
          have hlabels : p.foldCase.labels = q.foldCase.labels := congrArg _ hfold
          refine .inl ⟨p, q, rfl, rfl, hlabels, ?_⟩
          have hrecords : List.Forall₂ Eq (p.foldCase).instructions (q.foldCase).instructions :=
            hfold ▸ List.forall₂_refl _
          rw [Program.foldCase, Program.foldCase, List.forall₂_map_left_iff,
            List.forall₂_map_right_iff] at hrecords
          exact hrecords.imp fun _ _ => Instruction.eq_of_foldCase_eq
  | error e =>
      cases ht : assemble t with
      | ok q =>
          rw [hs, ht] at hresult
          cases hresult
      | error e' =>
          rw [hs, ht] at hresult
          have hfold : e.foldCase = e'.foldCase := Except.error.inj hresult
          exact .inr ⟨e, e', rfl, rfl, AssemblyError.alike_of_foldCase_eq hs hfold⟩

/-- Mnemonics, registers, marks and digits of a base in either case. -/
theorem assemble_ignores_letter_case_hexadecimal :
    let s := "ADDI T0, X0, -0XaF\nsw t0, 8(SP) # Keep".toList
    let t := "addi t0, x0, -0xAf\nSw T0, 8(sp) # kEEP".toList
    ∃ p q, assemble s = .ok p ∧ assemble t = .ok q ∧ p.labels = q.labels ∧
      List.Forall₂ (fun i j : Instruction => { i with text := j.text } = j)
        p.instructions q.instructions := by
  intro s t
  have hok : (assemble s).isOk = true := by decide
  obtain hprograms | ⟨e, -, he, -⟩ :=
    assemble_ignores_letter_case (s := s) (t := t) (by decide) (by decide)
  · exact hprograms
  · rw [he] at hok
    cases hok

end Monocycle
