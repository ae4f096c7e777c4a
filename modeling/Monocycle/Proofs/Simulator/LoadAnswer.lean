import Monocycle.Proofs.Assembly.DigitLimit
import Monocycle.Proofs.Simulator.Loads

/-!
# What a load answers

A load is meant to answer whatever the source is: with the number of instructions, or with an error
that tells the line it was found in. It does so unless the first line that does not decode holds a
decimal numeral over the digit limit, in any place where a number may stand. Then there is no answer
but an error of another kind, without a line. Nothing changes in that case either.

## Main definitions

* `Answered`: a load answers the source in one of the two ways.

## Main results

* `answered_of_failsAt`: a fault is answered with the line of the source it stands in.
* `answered_load_iff`: **when a load answers its source.**
-/

namespace Monocycle

namespace Simulator

/-- A load **answers its source**: with the number of its instruction lines, or with an error that
tells the number and the text of a line of the source. -/
def Answered (source : Text) (t : Turn LoadResult) : Prop :=
  t.answer = .ok (.loaded ((Text.lines source).countP isInstructionLine)) ∨
  ∃ e k raw mnemonic?, t.answer = .ok (.rejected e) ∧ (Text.lines source)[k]? = some raw ∧
    e.site? = some ⟨k + 1, stripLine raw, mnemonic?⟩

/-- A source that assembles is answered with the number of its instruction lines. -/
theorem answered_of_loaded {s : Simulator} {source : Text} {count : Nat}
    (h : (s.load source).answer = .ok (.loaded count)) : Answered source (s.load source) := by
  obtain ⟨p, hp, -, hanswer⟩ | ⟨e, -, -, hno⟩ := load_cases s source
  · left
    rw [hanswer, length_instructions hp]
  · exact absurd h (hno count)

/-- **A fault is answered** with the line of the source it stands in. -/
theorem answered_of_failsAt (s : Simulator) {source : Text} {line : SourceLine} {e : ParseError}
    (h : FailsAt source line (.parse e)) : Answered source (s.load source) := by
  obtain ⟨k, raw, mnemonic?, hraw, hsite⟩ := h.exists_site
  exact .inr ⟨e, k, raw, mnemonic?, (load_of_failsAt s h).1, hraw, hsite⟩

/-- **When a load answers its source**: exactly if the first line that does not decode, if there is
one, does not fail for a decimal numeral over the digit limit. Where it does, the load ends in an
error that tells nothing but the number of digits, the simulator is as it was, and the line has a
token with that many decimal digits. -/
theorem answered_load_iff (s : Simulator) (source : Text) :
    (Answered source (s.load source) ↔
      ¬∃ line count, FailsAt source line (.tooManyDigits count)) ∧
    ∀ line count, FailsAt source line (.tooManyDigits count) →
      (s.load source).answer = .error (.tooManyDigits count) ∧
      (s.load source).simulator = s ∧
      ∃ token ∈ tokens line.body,
        Text.digitLimit < count ∧ count ≤ token.countP Char.isDigit := by
  refine ⟨⟨?_, fun hnone => ?_⟩, fun line count hfails => ?_⟩
  · rintro hanswered ⟨line, count, hfails⟩
    have herror := (load_of_failsAt s hfails).1
    obtain hloaded | ⟨e, k, raw, mnemonic?, hrejected, -⟩ := hanswered
    · cases hloaded.symm.trans herror
    · cases hrejected.symm.trans herror
  · obtain ⟨count, hloaded⟩ | ⟨line, e, hfails⟩ := loaded_or_failsAt s source
    · exact answered_of_loaded hloaded
    · cases e with
      | parse e => exact answered_of_failsAt s hfails
      | tooManyDigits count => exact absurd ⟨line, count, hfails⟩ hnone
  · obtain ⟨hanswer, hsame⟩ := load_of_failsAt s hfails
    obtain ⟨token, htoken, hover⟩ := hfails.exists_overLimit
    exact ⟨hanswer, hsame, token, htoken, hover.limit_lt, hover.count_le⟩

/-- An addition whose immediate is zero, written with 4301 digits, is not answered. -/
theorem not_answered_zeros :
    ∃ s, create .builtIn (some 16) = .ok s ∧
      let source := "addi x1, x0, ".toList ++ List.replicate 4301 '0'
      (s.load source).answer = .error (.tooManyDigits 4301) ∧
      ¬Answered source (s.load source) := by
  obtain ⟨s, hcreate⟩ : ∃ s, create .builtIn (some 16) = .ok s := ⟨_, rfl⟩
  let digits : Text := List.replicate 4301 '0'
  have hlength : digits.length = 4301 := List.length_replicate
  have hrefused : assemble (immediateSource digits) = .error (.tooManyDigits digits.length) := by
    refine assemble_immediateSource (fun c hc => ?_) ?_
    · rw [List.eq_of_mem_replicate hc]
      rfl
    · rw [hlength]
      decide
  rw [hlength, immediateSource_eq] at hrefused
  obtain ⟨line, hfails⟩ := assemble_eq_error_iff.mp hrefused
  have herror := (load_of_failsAt s hfails).1
  refine ⟨s, hcreate, herror, ?_⟩
  rintro (hloaded | ⟨e, k, raw, mnemonic?, hrejected, -⟩)
  · cases hloaded.symm.trans herror
  · cases hrejected.symm.trans herror

end Simulator

end Monocycle
