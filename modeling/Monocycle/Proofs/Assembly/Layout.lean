import Monocycle.Proofs.Assembly.Records
import Monocycle.Proofs.Assembly.Labels
import Monocycle.Proofs.Text.Words

/-!
# The layout of a source

Where the lines of a source text come to lie in its program. The first pass of the assembler counts
instruction lines to give labels their addresses, and the second makes a record of each of them.
The statements here are about the lines of the text as they stand there, blank lines and comments
included, so that both passes are seen to count the same lines.

## Main definitions

* `lineLabel?`, `lineBody`, `isInstructionLine`: what a line of text defines, what it says behind
  its label, and whether it takes a place in the program.
* `IsAddress`: the addresses of a program, the one behind its last instruction included.
* `LaidOut`: the layout of a program in its source text.

## Main results

* `map_sourceLine_eq`: the records are the instruction lines of the text, in order.
* `isAddress_of_address?`: labels stand for addresses of the program.
* `laidOut_of_assemble`: **every source that assembles is laid out.**
-/

namespace Monocycle

/-! ### Lines of text -/

/-- The label that a line of text defines, if any. -/
def lineLabel? (raw : Text) : Option Text :=
  (splitLabel (stripLine raw)).1

/-- What a line of text says behind its label. -/
def lineBody (raw : Text) : Text :=
  (splitLabel (stripLine raw)).2

/-- An **instruction line** of text: something is left behind its label. -/
def isInstructionLine (raw : Text) : Bool :=
  !(lineBody raw).isEmpty

theorem isInstructionLine_iff {raw : Text} : isInstructionLine raw = true ↔ lineBody raw ≠ [] := by
  rw [isInstructionLine, Bool.not_eq_true', List.isEmpty_eq_false_iff]

/-- A line that is blank but for its comment defines no label and says nothing. -/
theorem splitLabel_of_isEmpty {raw : Text} (h : (stripLine raw).isEmpty = true) :
    lineLabel? raw = none ∧ isInstructionLine raw = false := by
  rw [List.isEmpty_iff] at h
  rw [lineLabel?, isInstructionLine, lineBody, h]
  exact ⟨rfl, rfl⟩

/-- What stands behind a colon in a line that does not end in one is not blank, since nothing is
left of the blanks at the end of a line. -/
theorem strip_ne_nil_of_dropWhile {raw after : Text} {colon : Char}
    (hend : (stripLine raw).getLast? ≠ some ':')
    (hdrop : (stripLine raw).dropWhile (· != ':') = colon :: after) : Text.strip after ≠ [] := by
  have hcolon : colon = ':' := by
    have hhead := List.head?_dropWhile_not (· != ':') (stripLine raw)
    rw [hdrop, List.head?_cons] at hhead
    simpa using hhead
  have hlast : (stripLine raw).getLast? = (colon :: after).getLast? := by
    rw [← List.takeWhile_append_dropWhile (p := (· != ':')) (l := stripLine raw), hdrop,
      List.getLast?_append_of_ne_nil _ (List.cons_ne_nil _ _)]
  rw [Text.strip, Ne, Text.trim_eq_nil_iff]
  intro hblank
  cases after with
  | nil => exact hend (by rw [hlast, hcolon, List.getLast?_singleton])
  | cons c rest =>
      obtain ⟨d, hd⟩ : ∃ d, (c :: rest).getLast? = some d :=
        ⟨_, List.getLast?_eq_some_getLast (List.cons_ne_nil c rest)⟩
      rw [List.getLast?_cons_cons, hd] at hlast
      exact Bool.noConfusion
        ((hblank d (List.mem_of_getLast? hd)).symm.trans (Text.getLast?_trim hlast))

/-- **A line says something behind its label** exactly if what stands before its comment ends in a
character other than a colon. -/
theorem lineBody_ne_nil_iff {raw : Text} :
    lineBody raw ≠ [] ↔ ∃ c, (stripLine raw).getLast? = some c ∧ c ≠ ':' := by
  rw [lineBody, splitLabel]
  split
  · next hcolon => simp [hcolon]
  · next hcolon =>
      have hlast : stripLine raw ≠ [] ↔ ∃ c, (stripLine raw).getLast? = some c ∧ c ≠ ':' := by
        constructor
        · intro hne
          refine ⟨_, List.getLast?_eq_some_getLast hne, fun hc => hcolon ?_⟩
          rw [List.getLast?_eq_some_getLast hne, hc]
        · rintro ⟨c, hc, -⟩ hnil
          simp [hnil] at hc
      rw [← hlast]
      split
      · exact Iff.rfl
      · next colon after hdrop =>
          dsimp only
          split
          · refine iff_of_true (strip_ne_nil_of_dropWhile hcolon hdrop) fun hnil => ?_
            simp [hnil] at hdrop
          · exact Iff.rfl

/-- There is no blank and no comma in a token, and it is not empty. -/
theorem of_mem_tokens {t token : Text} (h : token ∈ tokens t) :
    token ≠ [] ∧ ∀ c ∈ token, Text.isBlank c = false ∧ c ≠ ',' := by
  refine ⟨by simpa using (List.mem_filter.mp h).2, fun c hc => ?_⟩
  have hseparator := Text.not_isSeparator_of_mem_wordsBetween h c hc
  rw [isTokenSeparator, Bool.or_eq_false_iff] at hseparator
  exact ⟨hseparator.1, by simpa using hseparator.2⟩

/-- There are no blanks at the ends of a token. -/
theorem strip_of_mem_tokens {t token : Text} (h : token ∈ tokens t) : Text.strip token = token := by
  have hblank : ∀ c ∈ token, Text.isBlank c = false := fun c hc => ((of_mem_tokens h).2 c hc).1
  exact Text.trim_eq_self (fun c hc => hblank c (List.mem_of_mem_head? hc))
    fun c hc => hblank c (List.mem_of_getLast? hc)

/-- The source lines among some lines of text, numbered from `number` on. -/
def numberedLines (number : Nat) (raws : List Text) : List SourceLine :=
  (raws.zipIdx number).filterMap fun (raw, number) =>
    let text := stripLine raw
    if text.isEmpty then none else some ⟨number, text⟩

/-- The source lines of a text are those among its lines. -/
theorem sourceLines_eq_numberedLines (source : Text) :
    sourceLines source = numberedLines 1 (Text.lines source) := rfl

/-- A line of text is a source line unless it is blank but for its comment. -/
theorem numberedLines_cons (number : Nat) (raw : Text) (rest : List Text) :
    numberedLines number (raw :: rest) =
      if (stripLine raw).isEmpty then numberedLines (number + 1) rest
      else ⟨number, stripLine raw⟩ :: numberedLines (number + 1) rest := by
  rw [numberedLines, List.zipIdx_cons]
  by_cases hempty : (stripLine raw).isEmpty = true
  · rw [List.filterMap_cons_none (by exact if_pos hempty), if_pos hempty, numberedLines]
  · rw [List.filterMap_cons_some (by exact if_neg hempty), if_neg hempty, numberedLines]

/-- **The source line at a position** is what is left of a line of text that has as many such lines
before it. -/
theorem exists_split_of_getElem?_numberedLines {number k : Nat} {raws : List Text}
    {line : SourceLine} (h : (numberedLines number raws)[k]? = some line) :
    ∃ before raw after, raws = before ++ raw :: after ∧ stripLine raw = line.text ∧
      line.number = number + before.length ∧
      before.countP (fun raw => !(stripLine raw).isEmpty) = k := by
  induction raws generalizing number k with
  | nil => cases h
  | cons raw rest ih =>
      rw [numberedLines_cons] at h
      split at h
      · next hempty =>
          obtain ⟨before, raw', after, rfl, htext, hnumber, hcount⟩ := ih h
          refine ⟨raw :: before, raw', after, rfl, htext, ?_, ?_⟩
          · rw [hnumber, List.length_cons]
            omega
          · rw [List.countP_cons_of_neg (by simpa using hempty), hcount]
      · next hsome =>
          cases k with
          | zero =>
              obtain rfl := Option.some.inj h
              exact ⟨[], raw, rest, rfl, rfl, rfl, rfl⟩
          | succ k =>
              rw [List.getElem?_cons_succ] at h
              obtain ⟨before, raw', after, rfl, htext, hnumber, hcount⟩ := ih h
              refine ⟨raw :: before, raw', after, rfl, htext, ?_, ?_⟩
              · rw [hnumber, List.length_cons]
                omega
              · rw [List.countP_cons_of_pos (by simpa using hsome), hcount]

/-- A source line is a line of the text, with its number. -/
theorem exists_of_mem_sourceLines {source : Text} {line : SourceLine}
    (h : line ∈ sourceLines source) :
    ∃ k raw, (Text.lines source)[k]? = some raw ∧ line = ⟨k + 1, stripLine raw⟩ := by
  obtain ⟨k, hk⟩ := List.getElem?_of_mem h
  obtain ⟨before, raw, after, hlines, htext, hnumber, -⟩ :=
    exists_split_of_getElem?_numberedLines hk
  refine ⟨before.length, raw, ?_, ?_⟩
  · rw [hlines, List.getElem?_append_right (Nat.le_refl _), Nat.sub_self, List.getElem?_cons_zero]
  · rw [htext, Nat.add_comm, ← hnumber]

/-- **The instruction lines** among some lines of text, with their numbers. -/
theorem filter_numberedLines (number : Nat) (raws : List Text) :
    (numberedLines number raws).filter (·.isInstruction) =
      ((raws.zipIdx number).filter fun entry => isInstructionLine entry.1).map
        fun entry => ⟨entry.2, stripLine entry.1⟩ := by
  induction raws generalizing number with
  | nil => rfl
  | cons raw rest ih =>
      rw [numberedLines_cons, List.zipIdx_cons, List.filter_cons]
      split
      · next hempty =>
          rw [(splitLabel_of_isEmpty hempty).2, ih]
          rfl
      · have hsame : SourceLine.isInstruction ⟨number, stripLine raw⟩ = isInstructionLine raw := rfl
        rw [List.filter_cons, hsame, ih]
        split
        · rfl
        · rfl

/-- **The last definition** of a name among source lines is that among the lines of text. -/
theorem lastDefinition?_numberedLines (name : Text) (number : Nat) (raws : List Text)
    (address : Int) :
    lastDefinition? SourceLine.label? SourceLine.isInstruction name address
        (numberedLines number raws) =
      lastDefinition? lineLabel? isInstructionLine name address raws := by
  induction raws generalizing number address with
  | nil => rfl
  | cons raw rest ih =>
      rw [numberedLines_cons, lastDefinition?]
      split
      · next hempty =>
          obtain ⟨hlabel, hinstruction⟩ := splitLabel_of_isEmpty hempty
          simp [hlabel, hinstruction, ih]
      · rw [lastDefinition?, ih]
        rfl

/-! ### Lines and records -/

section

variable {source : Text} {p : Program}

/-- **The records** of an assembled program are the instruction lines of the text, in order. -/
theorem map_sourceLine_eq (h : assemble source = .ok p) :
    p.instructions.map Instruction.sourceLine =
      (((Text.lines source).zipIdx 1).filter fun entry => isInstructionLine entry.1).map
        fun entry => ⟨entry.2, stripLine entry.1⟩ := by
  rw [map_sourceLine_instructions h, sourceLines_eq_numberedLines, filter_numberedLines]

/-- Numbering lines does not change how many of them are instructions. -/
theorem length_filter_zipIdx (raws : List Text) (number : Nat) :
    ((raws.zipIdx number).filter fun entry => isInstructionLine entry.1).length =
      raws.countP isInstructionLine := by
  rw [← List.countP_eq_length_filter]
  conv_rhs => rw [← List.zipIdx_map_fst number raws, List.countP_map]
  rfl

/-- A program has as many instructions as its source has instruction lines. -/
theorem length_instructions (h : assemble source = .ok p) :
    p.instructions.length = (Text.lines source).countP isInstructionLine := by
  have hlength := congrArg List.length (map_sourceLine_eq h)
  rwa [List.length_map, List.length_map, length_filter_zipIdx] at hlength

/-- The line numbers of the records grow. -/
theorem pairwise_line (h : assemble source = .ok p) :
    (p.instructions.map (·.line)).Pairwise (· < ·) := by
  have hnumbers := congrArg (List.map SourceLine.number) (map_sourceLine_eq h)
  rw [List.map_map, List.map_map] at hnumbers
  have hsublist : ((((Text.lines source).zipIdx 1).filter fun entry =>
      isInstructionLine entry.1).map Prod.snd).Sublist
        (List.range' 1 (Text.lines source).length) := by
    rw [← List.zipIdx_map_snd]
    exact List.filter_sublist.map Prod.snd
  exact hnumbers ▸ (List.pairwise_lt_range' 1).sublist hsublist

/-- A record tells the number of a line of the text, and what the line says. -/
theorem exists_line_of_mem (h : assemble source = .ok p) {i : Instruction}
    (hi : i ∈ p.instructions) :
    ∃ k raw, i.line = k + 1 ∧ (Text.lines source)[k]? = some raw ∧ i.text = stripLine raw ∧
      isInstructionLine raw = true := by
  have hmem : i.sourceLine ∈ (sourceLines source).filter (·.isInstruction) :=
    map_sourceLine_instructions h ▸ List.mem_map_of_mem hi
  obtain ⟨hline, hinstruction⟩ := List.mem_filter.mp hmem
  obtain ⟨k, raw, hraw, heq⟩ := exists_of_mem_sourceLines hline
  rw [heq] at hinstruction
  exact ⟨k, raw, congrArg SourceLine.number heq, hraw, congrArg SourceLine.text heq, hinstruction⟩

/-- **Every instruction line has its record**: at the position that is the number of instruction
lines before it. -/
theorem exists_record_of_isInstructionLine (h : assemble source = .ok p)
    {before after : List Text} {raw : Text} (hlines : Text.lines source = before ++ raw :: after)
    (hraw : isInstructionLine raw = true) :
    ∃ i, p.instructions[before.countP isInstructionLine]? = some i ∧
      i.line = before.length + 1 ∧ i.text = stripLine raw := by
  have hat := congrArg (·[before.countP isInstructionLine]?) (map_sourceLine_eq h)
  simp only [hlines, List.zipIdx_append, List.zipIdx_cons, List.filter_append, List.map_append,
    List.filter_cons, hraw, if_true, List.map_cons] at hat
  rw [List.getElem?_append_right (Nat.le_of_eq (by rw [List.length_map, length_filter_zipIdx])),
    List.length_map, length_filter_zipIdx, Nat.sub_self, List.getElem?_cons_zero,
    List.getElem?_map, Option.map_eq_some_iff] at hat
  obtain ⟨i, hi, hline⟩ := hat
  refine ⟨i, hi, ?_, congrArg SourceLine.text hline⟩
  have hnumber : i.line = 1 + before.length := congrArg SourceLine.number hline
  omega

/-- Records are four bytes apart, from address 0 on. -/
theorem address_of_getElem? (h : assemble source = .ok p) {j : Nat} {i : Instruction}
    (hi : p.instructions[j]? = some i) : i.address = 4 * j :=
  (sourceLine_of_decode (decode_of_getElem? h hi).2).2

/-- **Every instruction line has its record**, at four times the number of instruction lines before
it. -/
theorem exists_record_of_lineBody (h : assemble source = .ok p) {before after : List Text}
    {raw : Text} (hlines : Text.lines source = before ++ raw :: after) (hbody : lineBody raw ≠ []) :
    ∃ i ∈ p.instructions, i.line = before.length + 1 ∧
      i.address = 4 * (before.countP isInstructionLine : Int) := by
  obtain ⟨i, hi, hline, -⟩ :=
    exists_record_of_isInstructionLine h hlines (isInstructionLine_iff.mpr hbody)
  exact ⟨i, List.mem_of_getElem? hi, hline, address_of_getElem? h hi⟩

/-- **A line has a record** exactly if it says something behind its label. -/
theorem exists_record_iff (h : assemble source = .ok p) {k : Nat} {raw : Text}
    (hk : (Text.lines source)[k]? = some raw) :
    (∃ i ∈ p.instructions, i.line = k + 1) ↔ lineBody raw ≠ [] := by
  constructor
  · rintro ⟨i, hi, hline⟩
    obtain ⟨k', raw', hline', hk', -, hraw'⟩ := exists_line_of_mem h hi
    obtain rfl : k' = k := by omega
    cases hk.symm.trans hk'
    exact isInstructionLine_iff.mp hraw'
  · intro hbody
    obtain ⟨hlt, hget⟩ := List.getElem?_eq_some_iff.mp hk
    have hlines : Text.lines source =
        (Text.lines source).take k ++ raw :: (Text.lines source).drop (k + 1) := by
      rw [← hget, List.getElem_cons_drop, List.take_append_drop]
    obtain ⟨i, hi, hline, -⟩ := exists_record_of_lineBody h hlines hbody
    rw [List.length_take_of_le (Nat.le_of_lt hlt)] at hline
    exact ⟨i, hi, hline⟩

/-! ### Labels -/

/-- **What a label stands for**: four times the number of instruction lines before the line of its
last definition, whether these lines decode or not. -/
theorem address?_labelTable_eq_some_iff {name : Text} {address : Int} :
    (labelTable (sourceLines source)).address? name = some address ↔
      ∃ before raw after, Text.lines source = before ++ raw :: after ∧
        lineLabel? raw = some name ∧ (∀ other ∈ after, lineLabel? other ≠ some name) ∧
        address = 4 * (before.countP isInstructionLine : Int) := by
  rw [address?_labelTable, lookup_reverse_labelDefinitions, sourceLines_eq_numberedLines,
    lastDefinition?_numberedLines, lastDefinition?_eq_some_iff]
  simp only [Int.zero_add]

/-- What a label of an assembled program stands for. -/
theorem address?_eq_some_iff (h : assemble source = .ok p) {name : Text} {address : Int} :
    p.labels.address? name = some address ↔
      ∃ before raw after, Text.lines source = before ++ raw :: after ∧
        lineLabel? raw = some name ∧ (∀ other ∈ after, lineLabel? other ≠ some name) ∧
        address = 4 * (before.countP isInstructionLine : Int) := by
  rw [labels_of_assemble h, address?_labelTable_eq_some_iff]

/-- The entries of the label table are what is found in it. -/
theorem mem_labels_iff (h : assemble source = .ok p) {name : Text} {address : Int} :
    (name, address) ∈ p.labels ↔ p.labels.address? name = some address := by
  refine mem_iff_address?_eq_some ?_
  rw [labels_of_assemble h]
  exact nodup_labelTable _

/-- An **address of a program** of `count` instructions: that of an instruction, or the one behind
the last. -/
def IsAddress (count : Nat) (a : Int) : Prop :=
  0 ≤ a ∧ a ≤ 4 * (count : Int) ∧ a % 4 = 0

/-- **Labels stand for addresses** of the program. -/
theorem isAddress_of_address? (h : assemble source = .ok p) {name : Text} {address : Int}
    (hlabel : p.labels.address? name = some address) :
    IsAddress p.instructions.length address := by
  obtain ⟨before, raw, after, hlines, -, -, rfl⟩ := (address?_eq_some_iff h).mp hlabel
  have hcount : before.countP isInstructionLine ≤ p.instructions.length := by
    rw [length_instructions h, hlines, List.countP_append]
    exact Nat.le_add_right _ _
  exact ⟨by omega, by omega, by omega⟩

end

/-! ### The layout -/

/-- **The layout** of a program in its source text. -/
structure LaidOut (source : Text) (p : Program) : Prop where
  /-- Records are four bytes apart, from address 0 on. -/
  address (j : Nat) (i : Instruction) : p.instructions[j]? = some i → i.address = 4 * j
  /-- The line numbers of the records grow. -/
  line_increases : (p.instructions.map (·.line)).Pairwise (· < ·)
  /-- A line has a record exactly if something is left behind its label. -/
  line_iff (k : Nat) (raw : Text) : (Text.lines source)[k]? = some raw →
    ((∃ i ∈ p.instructions, i.line = k + 1) ↔ lineBody raw ≠ [])
  /-- That is the case exactly if what stands before its comment does not end in a colon. -/
  line_iff_getLast? (k : Nat) (raw : Text) : (Text.lines source)[k]? = some raw →
    ((∃ i ∈ p.instructions, i.line = k + 1) ↔
      ∃ c, (stripLine raw).getLast? = some c ∧ c ≠ ':')
  /-- A record has the text of its line, without comment and surrounding blanks. -/
  text (i : Instruction) : i ∈ p.instructions →
    ∃ k raw, i.line = k + 1 ∧ (Text.lines source)[k]? = some raw ∧ i.text = stripLine raw
  /-- A label has four times the number of instruction lines before its last definition. -/
  label_iff (name : Text) (address : Int) : (name, address) ∈ p.labels ↔
    ∃ before raw after, Text.lines source = before ++ raw :: after ∧
      lineLabel? raw = some name ∧ (∀ other ∈ after, lineLabel? other ≠ some name) ∧
      address = 4 * (before.countP isInstructionLine : Int)
  /-- The instruction on a line has that address itself, so that a label in front of it stands for
  the address of the instruction. -/
  own_address (before : List Text) (raw : Text) (after : List Text) :
    Text.lines source = before ++ raw :: after → lineBody raw ≠ [] →
    ∃ i ∈ p.instructions, i.line = before.length + 1 ∧
      i.address = 4 * (before.countP isInstructionLine : Int)
  /-- Labels stand for addresses of the program. -/
  label_isAddress (name : Text) (address : Int) : (name, address) ∈ p.labels →
    IsAddress p.instructions.length address

/-- **Every source that assembles is laid out.** -/
theorem laidOut_of_assemble {source : Text} {p : Program} (h : assemble source = .ok p) :
    LaidOut source p where
  address _ _ hi := address_of_getElem? h hi
  line_increases := pairwise_line h
  line_iff _ _ hk := exists_record_iff h hk
  line_iff_getLast? _ _ hk := (exists_record_iff h hk).trans lineBody_ne_nil_iff
  text i hi := by
    obtain ⟨k, raw, hline, hk, htext, -⟩ := exists_line_of_mem h hi
    exact ⟨k, raw, hline, hk, htext⟩
  label_iff name address := by
    rw [mem_labels_iff h, address?_eq_some_iff h]
  own_address _ _ _ hlines hbody := exists_record_of_lineBody h hlines hbody
  label_isAddress _ _ hmem := isAddress_of_address? h ((mem_labels_iff h).mp hmem)

/-- A source with a comment, a blank line, a label defined twice and a colon that ends no label. -/
theorem laidOut_of_assemble_twice :
    let source := "# start\nloop: addi x1, x1, 1\n\nloop:\nbeq x1, x0, loop 1:2".toList
    ∃ p, assemble source = .ok p ∧ LaidOut source p ∧ p.instructions.map (·.line) = [2, 5] ∧
      ("loop".toList, 4) ∈ p.labels := by
  intro source
  obtain ⟨p, hp, hlines⟩ :
      ∃ p, assemble source = .ok p ∧ p.instructions.map (·.line) = [2, 5] := ⟨_, rfl, rfl⟩
  have hlaid := laidOut_of_assemble hp
  refine ⟨p, hp, hlaid, hlines, (hlaid.label_iff _ _).mpr ?_⟩
  exact ⟨["# start".toList, "loop: addi x1, x1, 1".toList, []], "loop:".toList,
    ["beq x1, x0, loop 1:2".toList], rfl, rfl, by decide, rfl⟩

end Monocycle
