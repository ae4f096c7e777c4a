import Monocycle.Text.Quoted

/-!
# Faults of source text

Why a source line cannot be assembled, and how that is said.

## Main definitions

* `Fault`: what is wrong with a line, with its wording in `Fault.message`.
* `ReadError`: a fault, or a decimal numeral that is longer than numerals may be.
* `ParseError`: a fault together with the line it was found in.
* `AssemblyError`: why a source as a whole has no program.
-/

namespace Monocycle

/-- **Fault** of a source line. -/
inductive Fault where
  /-- There is a line but no word on it. -/
  | missingMnemonic
  /-- The operand at a position, counted from 1, is not there. -/
  | missingOperand (position : Nat) (op : Text)
  /-- A load or store whose address is not written as an offset and a base in parentheses. -/
  | malformedAddress (op : Text)
  /-- A token that names no register. -/
  | unknownRegister (token : Text)
  /-- A token that is neither a label of the program nor an integer literal. -/
  | badImmediate (token : Text)
  /-- An operation the assembler does not know. -/
  | unsupported (op : Text)
  deriving DecidableEq, Repr

/-- The wording of a fault. -/
def Fault.message : Fault → String
  | missingMnemonic => "missing mnemonic"
  | missingOperand position op =>
    let op := String.ofList op
    s!"missing operand {position} for '{op}'"
  | malformedAddress op =>
    let op := String.ofList op
    s!"invalid format for '{op}', expected offset(register)"
  | unknownRegister token =>
    let token := String.ofList token
    s!"unknown register '{token}'"
  | badImmediate token =>
    let token := String.ofList token
    s!"undefined label or bad immediate '{token}'"
  | unsupported op =>
    let op := String.ofList op
    s!"unsupported instruction '{op}'"

/-- Why a token or a line cannot be read. A decimal numeral over the digit limit is refused as
such, wherever it stands. -/
inductive ReadError where
  | fault (f : Fault)
  | tooManyDigits (count : Nat)
  deriving DecidableEq, Repr

/-- Where a fault was found. -/
structure Site where
  /-- The number of the line, counted from 1. -/
  line : Nat
  /-- The line without comment and surrounding blanks. -/
  text : Text
  /-- The operation of the line in lower case, if the line has a word at all. -/
  mnemonic? : Option Text
  deriving DecidableEq, Repr

/-- **Parse error**: a fault, with the line it was found in unless a token was read by itself. -/
structure ParseError where
  fault : Fault
  site? : Option Site
  deriving DecidableEq, Repr

/-- The wording of a parse error: the fault, between the number of the line and its text. -/
def ParseError.message (e : ParseError) : String :=
  match e.site? with
  | none => e.fault.message
  | some site =>
    let detail := e.fault.message
    let line := site.line
    let shown := String.ofList (Text.quoted site.text)
    s!"line {line}: {detail} ({shown})"

/-- Why a source has no program. -/
inductive AssemblyError where
  | parse (e : ParseError)
  | tooManyDigits (count : Nat)
  deriving DecidableEq, Repr

/-- The error of a source that has a read error at a site. -/
def ReadError.locate (site : Site) : ReadError → AssemblyError
  | fault f => .parse ⟨f, some site⟩
  | tooManyDigits count => .tooManyDigits count

end Monocycle
