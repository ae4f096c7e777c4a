import Monocycle.CommandLine.Arguments
import Monocycle.Proofs.Text.Integers

/-!
# Step limits at the command line

A step limit at the command line is a decimal numeral, and a numeral has a limit of its own: one
with more digits than `Text.digitLimit` is no integer, and the arguments are in error. Up to that
limit every integer can be given, and a negative one does not pass for an option.

## Main results

* `classify?_ofInt`: a written integer is a word, whatever its sign.
* `read_maxSteps`: **which step limits the command line takes.**
-/

namespace Monocycle

open Text

/-- A minus with a written number behind it looks like a negative number. -/
theorem looksNegative_ofNat (n : Nat) : looksNegative ('-' :: ofNat n) = true := by
  have hdigit : ∀ c ∈ ofNat n, (decimalDigit? c).isSome = true := by
    intro c hc
    obtain ⟨d, -, hd⟩ := exists_digit?_of_isDigit (isDigit_of_mem_ofNat hc)
    rw [hd]
    rfl
  have hfeed : (ofNat n).getLast? ≠ some '\n' := by
    intro h
    exact absurd (isDigit_of_mem_ofNat (List.mem_of_mem_getLast? h)) (by decide)
  have hall : (ofNat n).dropWhile (fun c => (decimalDigit? c).isSome) = [] :=
    List.dropWhile_eq_nil_iff.mpr hdigit
  simp only [looksNegative, if_neg hfeed, hall]
  simpa using ofNat_ne_nil n

/-- **A written integer is a word**, whatever its sign. -/
theorem Argument.classify?_ofInt (v : Int) :
    classify? (String.ofList (ofInt v)) = some (.word (String.ofList (ofInt v))) := by
  obtain ⟨c, rest, heq, hdigit⟩ := exists_ofNat_eq_cons v.natAbs
  have hminus : c ≠ '-' := by
    rintro rfl
    exact absurd hdigit (by decide)
  have hhelp : c ≠ 'h' := by
    rintro rfl
    exact absurd hdigit (by decide)
  rw [classify?, String.toList_ofList]
  by_cases hneg : v < 0
  · have hlooks := looksNegative_ofNat v.natAbs
    rw [ofInt_eq, if_pos hneg, List.singleton_append]
    rw [heq] at hlooks ⊢
    simp [hminus, hhelp, classifyShort?, hlooks]
  · rw [ofInt_eq, if_neg hneg, List.nil_append, heq]
    simp [hminus]

/-- **Which step limits the command line takes**: the integers that have no more digits than a
numeral may have. With another one the arguments are in error. -/
theorem read_maxSteps {path : String} (hpath : path ≠ "")
    (hword : Argument.classify? path = some (.word path)) (limit : Int) :
    Arguments.read [path, "--max-steps", String.ofList (ofInt limit)] =
      if (ofNat limit.natAbs).length ≤ digitLimit then
        .ok { Arguments.empty with program? := some path, maxSteps? := some limit }
      else .error .misused := by
  have hoption : Argument.classify? "--max-steps" = some (.option .maxSteps none) := by
    decide +kernel
  have hroles : Argument.classifyAll? [path, "--max-steps", String.ofList (ofInt limit)] =
      some [.word path, .option .maxSteps none, .word (String.ofList (ofInt limit))] := by
    simp [Argument.classifyAll?, hword, hoption, Argument.classify?_ofInt]
  have hread := integer?_ofInt limit
  by_cases hlength : (ofNat limit.natAbs).length ≤ digitLimit
  · rw [if_pos hlength] at hread ⊢
    simp [Arguments.read, hroles, Arguments.readFrom, OptionName.takesValue, Arguments.setValue,
      hread, Arguments.namesProgram, hpath, bind, Except.bind]
  · rw [if_neg hlength] at hread ⊢
    simp [Arguments.read, hroles, Arguments.readFrom, OptionName.takesValue, Arguments.setValue,
      hread, bind, Except.bind]

end Monocycle
