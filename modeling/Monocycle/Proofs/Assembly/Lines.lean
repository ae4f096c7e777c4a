import Monocycle.Proofs.Assembly.Operands
import Mathlib.Data.List.TakeWhile

/-!
# Cutting written lines

The source text of an abstract program falls apart into the pieces it was put together from.
Everything between blanks, commas and colons is made of plain characters (`Text.IsPlain`), so the
cuts into lines, label and rest, and tokens all fall where the pieces were joined.

## Main results

* `tokens_wordLine`, `sourceLines_wordLine`: plain words on a line are its tokens, and the line is
  a source by itself.
* `tokens_render`: the tokens of a written statement are its mnemonic and its operands.
* `splitLabel_render`: a written item falls apart into its label and its statement.
* `sourceLines_render`: the source lines of a program are its items.
-/

namespace Monocycle

open Text

/-! ### Plain pieces -/

/-- The name of a label consists of plain characters. -/
theorem LabelName.isPlain (l : LabelName) : ∀ c ∈ l.text, IsPlain c := by
  have hcase : ∀ c, c.isAlphanum = true ∨ c ∈ ['_', '.', '$'] → IsPlain c := by
    rintro c (halphanum | hmem)
    · exact ⟨toNat_lt_of_isAlphanum halphanum, .inl halphanum⟩
    · have hall : ['_', '.', '$'].all (fun c => decide (IsPlain c)) = true := by decide
      exact of_decide_eq_true (List.all_eq_true.mp hall c hmem)
  intro c hc
  obtain rfl | hrest := List.mem_cons.mp hc
  · refine hcase l.first (l.first_ok.imp_left fun halpha => ?_)
    rw [Char.isAlphanum, halpha, Bool.true_or]
  · exact hcase c (l.rest_ok c hrest)

/-- The name of a label is one for the assembler. -/
theorem LabelName.isLabelName (l : LabelName) : isLabelName l.text = true := by
  rw [text, Monocycle.isLabelName, Bool.and_eq_true, List.all_eq_true]
  constructor
  · have hfirst := l.first_ok
    simp only [List.mem_cons, List.not_mem_nil, or_false] at hfirst
    simp only [isLabelStart, Bool.or_eq_true, beq_iff_eq]
    tauto
  · intro c hc
    have hplain : IsPlain c := l.isPlain c (List.mem_cons_of_mem _ hc)
    have hrest := l.rest_ok c hc
    simp only [List.mem_cons, List.not_mem_nil, or_false] at hrest
    simp only [isLabelChar, isWordChar_of_ascii hplain.1, Bool.or_eq_true, beq_iff_eq]
    tauto

/-- The name of a label does not begin as a written integer does. -/
theorem LabelName.text_ne_ofInt (l : LabelName) (v : Int) : l.text ≠ ofInt v := by
  intro heq
  obtain ⟨c, rest, hc, hcase⟩ := exists_ofInt_eq_cons v
  rw [hc, text] at heq
  obtain ⟨rfl, -⟩ := List.cons.inj heq
  have hplain : l.first.toNat < 128 := (l.isPlain _ List.mem_cons_self).1
  exact forall_ascii (P := fun c => (c.isAlpha = true ∨ c ∈ ['_', '.', '$']) →
    ¬(c = '-' ∨ c.isDigit = true)) (by decide) hplain l.first_ok hcase

/-- A written register is a plain word. -/
theorem isPlainWord_writeRegister (r : Register) : IsPlainWord (writeRegister r) :=
  ⟨List.cons_ne_nil _ _, fun _ hc => (isPlain_of_mem_writeRegister hc).1⟩

/-- A written integer is a plain word. -/
theorem isPlainWord_ofInt (v : Int) : IsPlainWord (ofInt v) := by
  obtain ⟨c, rest, heq, -⟩ := exists_ofInt_eq_cons v
  refine ⟨?_, fun c hc => (isPlain_of_mem_ofInt hc).1⟩
  rw [heq]
  exact List.cons_ne_nil c rest

/-- A written address is a plain word. -/
theorem isPlainWord_writeAddress (offset : Int) (base : Register) :
    IsPlainWord (writeAddress offset base) := by
  refine ⟨by simp [writeAddress], fun c hc => ?_⟩
  simp only [writeAddress, List.mem_append, List.mem_cons, List.not_mem_nil, or_false] at hc
  rcases hc with hoffset | rfl | hbase | rfl
  · exact (isPlain_of_mem_ofInt hoffset).1
  · decide
  · exact (isPlain_of_mem_writeRegister hbase).1
  · decide

/-- A written operand is a plain word. -/
theorem Operand.isPlainWord (operand : Operand) : IsPlainWord operand.text := by
  cases operand with
  | constant v => exact isPlainWord_ofInt v.value
  | label l => exact ⟨List.cons_ne_nil _ _, l.isPlain⟩

/-- The name of an operation is a plain word. -/
theorem Opcode.isPlainWord_name (op : Opcode) : IsPlainWord op.name.toList := by
  have hall : ∀ op ∈ all, IsPlainWord op.name.toList := by decide
  exact hall op op.mem_all

/-- The names of loads and stores are plain words. -/
theorem isPlainWord_of_mem_names {name : String} (h : name ∈ loadNames ++ storeNames) :
    IsPlainWord name.toList := by
  have hall : ∀ name ∈ loadNames ++ storeNames, IsPlainWord name.toList := by decide
  exact hall name h

/-- **Every token of a statement** is a plain word. -/
theorem Statement.isPlainWord (s : Statement) : ∀ t ∈ s.mnemonic :: s.operands, IsPlainWord t := by
  cases s with
  | register op h rd rs1 rs2 =>
      simp [mnemonic, operands, op.isPlainWord_name, isPlainWord_writeRegister]
  | immediate op h rd rs1 operand =>
      simp [mnemonic, operands, op.isPlainWord_name, isPlainWord_writeRegister,
        operand.isPlainWord]
  | load name h rd offset base =>
      simp [mnemonic, operands, isPlainWord_of_mem_names (List.mem_append_left _ h),
        isPlainWord_writeRegister, isPlainWord_writeAddress]
  | store name h value offset base =>
      simp [mnemonic, operands, isPlainWord_of_mem_names (List.mem_append_right _ h),
        isPlainWord_writeRegister, isPlainWord_writeAddress]
  | branch op h rs1 rs2 target =>
      simp [mnemonic, operands, op.isPlainWord_name, isPlainWord_writeRegister,
        target.isPlainWord]

/-! ### Words on a line -/

/-- A mnemonic and its operands as they are written on a line. -/
def wordLine (mnemonic : Text) (operands : List Text) : Text :=
  mnemonic ++ ' ' :: [',', ' '].intercalate operands

section

variable {mnemonic : Text} {operands : List Text}

theorem wordLine_ne_nil : wordLine mnemonic operands ≠ [] := by
  simp [wordLine]

/-- **The tokens of plain words** on a line are these words. -/
theorem tokens_wordLine (h : ∀ t ∈ mnemonic :: operands, IsPlainWord t) :
    tokens (wordLine mnemonic operands) = mnemonic :: operands := by
  have hcut : ∀ t ∈ mnemonic :: operands, t ≠ [] ∧ ∀ c ∈ t, isTokenSeparator c = false :=
    fun t ht => ⟨(h t ht).1, fun c hc => ((h t ht).2 c hc).isTokenSeparator⟩
  obtain ⟨hne, hmnemonic⟩ := hcut _ List.mem_cons_self
  rw [tokens, wordLine, wordsBetween_append hmnemonic hne (by decide),
    wordsBetween_intercalate (List.all_eq_true.mp (by decide)) (by decide)
      fun t ht => hcut t (List.mem_cons_of_mem _ ht)]

/-- Plain words on a line consist of plain characters, blanks and commas. -/
theorem mem_wordLine (h : ∀ t ∈ mnemonic :: operands, IsPlainWord t) {c : Char}
    (hc : c ∈ wordLine mnemonic operands) : IsPlain c ∨ c = ' ' ∨ c = ',' := by
  rw [wordLine, List.mem_append, List.mem_cons] at hc
  rcases hc with hmnemonic | rfl | hoperands
  · exact .inl ((h _ List.mem_cons_self).2 c hmnemonic)
  · exact .inr (.inl rfl)
  · rcases mem_intercalate hoperands with hseparator | ⟨t, ht, hmem⟩
    · have hcases : c = ',' ∨ c = ' ' := by simpa using hseparator
      exact .inr hcases.symm
    · exact .inl ((h t (List.mem_cons_of_mem _ ht)).2 c hmem)

/-- Plain words on a line begin and end with plain characters. -/
theorem wordLine_ends (h : ∀ t ∈ mnemonic :: operands, IsPlainWord t) (hsome : operands ≠ []) :
    (∀ c ∈ (wordLine mnemonic operands).head?, IsPlain c) ∧
      ∀ c ∈ (wordLine mnemonic operands).getLast?, IsPlain c := by
  constructor
  · obtain ⟨hne, hplain⟩ := h _ List.mem_cons_self
    obtain ⟨first, rest, rfl⟩ := List.exists_cons_of_ne_nil hne
    intro c hc
    rw [wordLine, List.cons_append, List.head?_cons] at hc
    obtain rfl := Option.some.inj hc
    exact hplain first List.mem_cons_self
  · have hoperands : ∀ t ∈ operands, IsPlainWord t := fun t ht => h t (List.mem_cons_of_mem _ ht)
    have hjoined : [',', ' '].intercalate operands ≠ [] :=
      intercalate_ne_nil (fun t ht => (hoperands t ht).1) hsome
    intro c hc
    rw [wordLine, List.getLast?_append_of_ne_nil _ (List.cons_ne_nil _ _),
      ← List.singleton_append, List.getLast?_append_of_ne_nil _ hjoined] at hc
    obtain ⟨t, ht, hmem⟩ := exists_mem_of_getLast?_intercalate
      (fun t ht => (hoperands t ht).1) hc
    exact (hoperands t ht).2 c hmem

/-- There is no colon among plain words. -/
theorem ne_colon_of_mem_wordLine (h : ∀ t ∈ mnemonic :: operands, IsPlainWord t) {c : Char}
    (hc : c ∈ wordLine mnemonic operands) : c ≠ ':' := by
  rcases mem_wordLine h hc with hplain | rfl | rfl
  · exact hplain.ne_colon
  · decide
  · decide

/-- A line without a colon has no label. -/
theorem splitLabel_of_forall_ne_colon {t : Text} (h : ∀ c ∈ t, c ≠ ':') :
    splitLabel t = (none, t) := by
  have hlast : t.getLast? ≠ some ':' := fun heq => h _ (List.mem_of_getLast? heq) rfl
  have hdrop : t.dropWhile (· != ':') = [] := by
    rw [List.dropWhile_eq_nil_iff]
    intro c hc
    rw [bne_iff_ne]
    exact h c hc
  rw [splitLabel, if_neg hlast, hdrop]

/-- What stands before the first colon of a line, and what from it on. -/
theorem cut_at_first_colon {before : Text} (h : ':' ∉ before) (after : Text) :
    (before ++ ':' :: after).takeWhile (· != ':') = before ∧
      (before ++ ':' :: after).dropWhile (· != ':') = ':' :: after := by
  have hpass : ∀ c ∈ before, (c != ':') = true := by
    intro c hc
    rw [bne_iff_ne]
    rintro rfl
    exact h hc
  rw [List.takeWhile_append_of_pos hpass, List.dropWhile_append_of_pos hpass]
  exact ⟨List.append_nil before, rfl⟩

/-- **A line that does not end in a colon** is cut at its first colon if a label name stands there,
and not at all otherwise. -/
theorem splitLabel_of_first_colon {before after : Text} (h : ':' ∉ before)
    (hend : (before ++ ':' :: after).getLast? ≠ some ':') :
    splitLabel (before ++ ':' :: after) =
      if isLabelName (strip before) then (some (strip before), strip after)
      else (none, before ++ ':' :: after) := by
  obtain ⟨htake, hdrop⟩ := cut_at_first_colon h after
  rw [splitLabel, if_neg hend, hdrop]
  simp only [htake]

/-- Plain words on a line have no label in front of them. -/
theorem splitLabel_wordLine (h : ∀ t ∈ mnemonic :: operands, IsPlainWord t) :
    splitLabel (wordLine mnemonic operands) = (none, wordLine mnemonic operands) :=
  splitLabel_of_forall_ne_colon fun _ hc => ne_colon_of_mem_wordLine h hc

end

/-- Nothing is stripped off a line without a comment sign and without blanks at its ends. -/
theorem stripLine_eq_self {t : Text} (hcomment : ∀ c ∈ t, c ≠ '#')
    (hfirst : ∀ c ∈ t.head?, isBlank c = false) (hlast : ∀ c ∈ t.getLast?, isBlank c = false) :
    stripLine t = t := by
  have hall : t.takeWhile (· != '#') = t :=
    List.takeWhile_eq_self_iff.mpr fun c hc => bne_iff_ne.mpr (hcomment c hc)
  rw [stripLine, hall]
  exact trim_eq_self hfirst hlast

/-- A text of plain characters, blanks, commas and colons is a line: it has no line end, and
nothing to be stripped if it begins with a plain character and ends with one or with a colon. -/
theorem isLine_of_mem {t : Text} (hmem : ∀ c ∈ t, IsPlain c ∨ c = ' ' ∨ c = ',' ∨ c = ':')
    (hfirst : ∀ c ∈ t.head?, IsPlain c) (hlast : ∀ c ∈ t.getLast?, IsPlain c ∨ c = ':') :
    (∀ c ∈ t, isLineEnd c = false) ∧ stripLine t = t := by
  constructor
  · intro c hc
    rcases hmem c hc with hplain | rfl | rfl | rfl
    · exact hplain.isLineEnd
    · decide
    · decide
    · decide
  · refine stripLine_eq_self (fun c hc => ?_) (fun c hc => (hfirst c hc).isBlank) fun c hc => ?_
    · rcases hmem c hc with hplain | rfl | rfl | rfl
      · exact hplain.ne_commentSign
      · decide
      · decide
      · decide
    · rcases hlast c hc with hplain | rfl
      · exact hplain.isBlank
      · decide

/-- **A text of plain words** alone is a source of one line. -/
theorem sourceLines_wordLine {mnemonic : Text} {operands : List Text}
    (h : ∀ t ∈ mnemonic :: operands, IsPlainWord t) (hsome : operands ≠ []) :
    sourceLines (wordLine mnemonic operands) = [⟨1, wordLine mnemonic operands⟩] := by
  obtain ⟨hfirst, hlast⟩ := wordLine_ends h hsome
  obtain ⟨hends, hstrip⟩ := isLine_of_mem
    (fun c hc => (mem_wordLine h hc).imp_right (Or.imp_right .inl)) hfirst
    fun c hc => .inl (hlast c hc)
  rw [sourceLines, lines_eq_singleton hends wordLine_ne_nil]
  simp [hstrip, wordLine_ne_nil]

/-! ### Cutting lines -/

/-- **The tokens of a written statement** are its mnemonic and its operands. -/
theorem tokens_render (s : Statement) : tokens s.render = s.mnemonic :: s.operands :=
  tokens_wordLine s.isPlainWord

/-- A written statement consists of plain characters, blanks and commas. -/
theorem mem_render_statement {s : Statement} {c : Char} (h : c ∈ s.render) :
    IsPlain c ∨ c = ' ' ∨ c = ',' :=
  mem_wordLine s.isPlainWord h

/-- A written statement begins and ends with plain characters. -/
theorem render_statement_ends (s : Statement) :
    (∀ c ∈ s.render.head?, IsPlain c) ∧ ∀ c ∈ s.render.getLast?, IsPlain c :=
  wordLine_ends s.isPlainWord (by cases s <;> exact List.cons_ne_nil _ _)

/-- A written statement is not empty. -/
theorem render_statement_ne_nil (s : Statement) : s.render ≠ [] :=
  wordLine_ne_nil

/-- With a label in front of it, a statement ends as it does without. -/
theorem getLast?_render_labelled (l : LabelName) (s : Statement) :
    (Item.labelled l s).render.getLast? = s.render.getLast? := by
  rw [Item.render, List.getLast?_append_of_ne_nil _ (List.cons_ne_nil _ _),
    List.getLast?_cons_cons, ← List.singleton_append,
    List.getLast?_append_of_ne_nil _ (render_statement_ne_nil s)]

/-- A written item consists of plain characters, blanks, commas and colons. -/
theorem mem_render_item {item : Item} {c : Char} (h : c ∈ item.render) :
    IsPlain c ∨ c = ' ' ∨ c = ',' ∨ c = ':' := by
  cases item with
  | label l =>
      rcases List.mem_append.mp h with hname | hcolon
      · exact .inl (l.isPlain c hname)
      · exact .inr (.inr (.inr (by simpa using hcolon)))
  | statement s => exact (mem_render_statement h).imp_right (Or.imp_right .inl)
  | labelled l s =>
      rw [Item.render, List.mem_append, List.mem_cons, List.mem_cons] at h
      rcases h with hname | rfl | rfl | hstatement
      · exact .inl (l.isPlain c hname)
      · exact .inr (.inr (.inr rfl))
      · exact .inr (.inl rfl)
      · exact (mem_render_statement hstatement).imp_right (Or.imp_right .inl)

/-- A written item begins with a plain character and ends with one or with a colon. -/
theorem render_item_ends (item : Item) :
    (∀ c ∈ item.render.head?, IsPlain c) ∧
      ∀ c ∈ item.render.getLast?, IsPlain c ∨ c = ':' := by
  have hname : ∀ (l : LabelName) (rest : Text), ∀ c ∈ (l.text ++ rest).head?, IsPlain c := by
    intro l rest c hc
    rw [LabelName.text, List.cons_append, List.head?_cons] at hc
    obtain rfl := Option.some.inj hc
    exact l.isPlain _ List.mem_cons_self
  cases item with
  | label l =>
      refine ⟨hname l _, fun c hc => ?_⟩
      rw [Item.render, List.getLast?_concat] at hc
      exact .inr (Option.some.inj hc).symm
  | statement s =>
      obtain ⟨hfirst, hlast⟩ := render_statement_ends s
      exact ⟨hfirst, fun c hc => .inl (hlast c hc)⟩
  | labelled l s =>
      obtain ⟨-, hlast⟩ := render_statement_ends s
      refine ⟨hname l _, fun c hc => .inl (hlast c ?_)⟩
      rwa [getLast?_render_labelled] at hc

/-- A written item is a line: it is not empty, and has no line end and nothing to be stripped. -/
theorem isLine_render (item : Item) :
    item.render ≠ [] ∧ (∀ c ∈ item.render, isLineEnd c = false) ∧
      stripLine item.render = item.render := by
  obtain ⟨hfirst, hlast⟩ := render_item_ends item
  refine ⟨?_, isLine_of_mem (fun c hc => mem_render_item hc) hfirst hlast⟩
  cases item <;> simp [Item.render, Statement.render]

/-- What a written item says behind its label. -/
def Item.body (item : Item) : Text :=
  match item.statement? with
  | some s => s.render
  | none => []

/-- **A written item** falls apart into its label and its statement. -/
theorem splitLabel_render (item : Item) : splitLabel item.render = (item.name?, item.body) := by
  cases item with
  | label l =>
      rw [Item.render, splitLabel, if_pos List.getLast?_concat, List.dropLast_concat,
        strip_of_isPlain l.isPlain]
      rfl
  | statement s => exact splitLabel_wordLine s.isPlainWord
  | labelled l s =>
      have hname : ':' ∉ l.text := fun hmem => (l.isPlain ':' hmem).ne_colon rfl
      have hend : (Item.labelled l s).render.getLast? ≠ some ':' := by
        rw [getLast?_render_labelled]
        exact fun heq => ne_colon_of_mem_wordLine s.isPlainWord (List.mem_of_getLast? heq) rfl
      have hstrip : strip (' ' :: s.render) = s.render := by
        obtain ⟨hfirst, hend⟩ := render_statement_ends s
        rw [strip_cons_of_isBlank (by decide)]
        exact trim_eq_self (fun c hc => (hfirst c hc).isBlank) fun c hc => (hend c hc).isBlank
      rw [Item.render] at hend ⊢
      rw [splitLabel_of_first_colon hname hend, strip_of_isPlain l.isPlain, if_pos l.isLabelName,
        hstrip]
      rfl

/-! ### Source lines -/

/-- The source line of an item with its number. -/
def Item.line (item : Item) (number : Nat) : SourceLine :=
  ⟨number, item.render⟩

/-- A written item defines its name. -/
theorem label?_line (item : Item) (number : Nat) : (item.line number).label? = item.name? := by
  rw [SourceLine.label?, Item.line, splitLabel_render]

/-- A written item is an instruction if it has a statement. -/
theorem isInstruction_line (item : Item) (number : Nat) :
    (item.line number).isInstruction = item.statement?.isSome := by
  rw [SourceLine.isInstruction, SourceLine.body, Item.line, splitLabel_render, Item.body]
  cases item.statement? with
  | none => rfl
  | some s =>
      simpa using render_statement_ne_nil s

/-- The source lines of some items, numbered from `number` on. -/
def writtenLines (number : Nat) : List Item → List SourceLine
  | [] => []
  | item :: rest => item.line number :: writtenLines (number + 1) rest

/-- Lines that are kept with their numbers, one by one, are kept all together. -/
theorem filterMap_zipIdx_render {keep : Text × Nat → Option SourceLine}
    (hkeep : ∀ item number, keep (Item.render item, number) = some (item.line number))
    (items : List Item) (number : Nat) :
    ((items.map Item.render).zipIdx number).filterMap keep = writtenLines number items := by
  induction items generalizing number with
  | nil => rfl
  | cons item rest ih =>
      rw [List.map_cons, List.zipIdx_cons, List.filterMap_cons_some (hkeep item number), ih,
        writtenLines]

/-- **The source lines of a program** are its items, with or without a line feed at the end. -/
theorem sourceLines_render (p : AbstractProgram) :
    sourceLines p.render = writtenLines 1 p.items ∧
      sourceLines (p.render ++ ['\n']) = writtenLines 1 p.items := by
  by_cases hsome : p.items = []
  · simp only [AbstractProgram.render, hsome]
    exact ⟨rfl, rfl⟩
  · have hitems : ∀ line ∈ p.items.map Item.render,
        line ≠ [] ∧ ∀ c ∈ line, isLineEnd c = false := by
      intro line hline
      obtain ⟨item, -, rfl⟩ := List.mem_map.mp hline
      exact ⟨(isLine_render item).1, (isLine_render item).2.1⟩
    obtain ⟨hplain, hended⟩ := lines_intercalate hitems (by simpa using hsome)
    rw [sourceLines, sourceLines, AbstractProgram.render, hplain, hended, and_self]
    refine filterMap_zipIdx_render (fun item number => ?_) p.items 1
    obtain ⟨hne, -, hstrip⟩ := isLine_render item
    simp [hstrip, hne, Item.line]

end Monocycle
