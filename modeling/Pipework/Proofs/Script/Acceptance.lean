import Pipework.Proofs.Script.Sources
import Pipework.Proofs.Trimming

/-!
# Which sources compile

A source compiles exactly when it is well-formed UTF-8 and every line of it is blank, a comment or
an instruction of the language (`Acceptable`); else the message names the first line that is none
of these (`compile_exact`).

* `InstructionLine` — a line, its first word and the rest of it: just these are read
  (`InstructionLine.split`).
* `ValidInstruction` — the words that begin an instruction and what can follow them
  (`instruction_ok_iff`).
* `instructionLines_iff_acceptable`, `readLines_eq_error` — all lines, and the first that is not
  acceptable.
-/

namespace Pipework

/-- A message begins with a place, and says what is wrong there behind a colon if it says it. -/
def Fault.NamesPlace (fault : Fault) (place : String) : Prop :=
  fault.short = place ∨ ∃ flaw, fault.short = place ++ ": " ++ flaw

namespace Script

open Blank

/-! ## Lines -/

/-- A line, its first word, and the rest of it that stands behind blanks. The blanks at both ends of
the line and of the rest count for nothing. -/
structure InstructionLine (line : List Char) (word : String) (rest : List Char) : Prop where
  laid : ∃ front gap back, line = front ++ (word.toList ++ (gap ++ (rest ++ back))) ∧
    (∀ c ∈ front ++ gap ++ back, isBlank c = true) ∧ (rest ≠ [] → gap ≠ [])
  begins : word ≠ ""
  solid : ∀ c ∈ word.toList, isBlank c = false
  trimmed : Trimmed rest

/-- A line that says nothing: it is blank, or its first character that is not blank is a number
sign. -/
def Skipped (line : List Char) : Prop :=
  (∀ c ∈ line, isBlank c = true) ∨
    ∃ front comment, line = front ++ '#' :: comment ∧ ∀ c ∈ front, isBlank c = true

variable {place word : String} {line rest : List Char}

/-- **A line is split into the word and the rest that it says.** -/
theorem InstructionLine.split (h : InstructionLine line word rest) :
    splitWord (trimEnd (trimStart line)) = (word, rest) := by
  obtain ⟨⟨front, gap, back, hline, hblank, hgap⟩, hbegins, hsolid, htrimmed⟩ := h
  obtain ⟨⟨hfront, hgaps⟩, hback⟩ : ((∀ c ∈ front, isBlank c = true) ∧
      ∀ c ∈ gap, isBlank c = true) ∧ ∀ c ∈ back, isBlank c = true := by
    simpa only [List.forall_mem_append] using hblank
  by_cases hrest : rest = []
  · subst hrest
    have htrim : trimEnd (trimStart line) = word.toList :=
      trim_eq_iff.mpr ⟨trimmed_of_solid hsolid, front, gap ++ back, hline, hfront,
        List.forall_mem_append.mpr ⟨hgaps, hback⟩⟩
    rw [htrim, splitWord, splitOnce?_solid hsolid, String.ofList_toList]
  · obtain ⟨g, gap, rfl⟩ := List.exists_cons_of_ne_nil (hgap hrest)
    obtain ⟨hg, hgaps⟩ := List.forall_mem_cons.mp hgaps
    have hends : Trimmed (word.toList ++ g :: gap ++ rest) :=
      .append ⟨mt String.toList_eq_nil_iff.mp hbegins, trimmed_of_solid hsolid⟩ ⟨hrest, htrimmed⟩ _
    have htrim : trimEnd (trimStart line) = word.toList ++ g :: (gap ++ rest) := by
      refine trim_eq_iff.mpr ⟨by simpa using hends, front, back, by simp [hline], hfront, hback⟩
    have hbehind : trimEnd (trimStart (gap ++ rest)) = rest :=
      trim_eq_iff.mpr ⟨htrimmed, gap, [], by simp, hgaps, List.forall_mem_nil _⟩
    rw [htrim, splitWord, splitOnce?_append hsolid hg]
    dsimp only
    rw [hbehind, String.ofList_toList]

theorem skipped_iff : Skipped line ↔
    trimEnd (trimStart line) = [] ∨ (trimEnd (trimStart line)).head? = some '#' := by
  have hlaid := trim_eq_iff.mp (Eq.refl (trimEnd (trimStart line)))
  refine or_congr ⟨fun h => ?_, fun h => ?_⟩ ⟨?_, fun h => ?_⟩
  · exact trim_eq_iff.mpr ⟨⟨nofun, nofun⟩, line, [], by simp, h, List.forall_mem_nil _⟩
  · obtain ⟨-, front, back, hline, hfront, hback⟩ := hlaid
    rw [hline, h]
    exact List.forall_mem_append.mpr ⟨hfront, hback⟩
  · rintro ⟨front, comment, rfl, hfront⟩
    have hhash : isBlank '#' = false := by decide
    have hstart : trimStart (front ++ '#' :: comment) = '#' :: comment := by
      rw [trimStart_append hfront, trimStart_eq_self fun c hc => by cases hc; exact hhash]
    have hend := trimEnd_append_rtakeWhile ('#' :: comment)
    rw [hstart]
    cases hcut : trimEnd ('#' :: comment) with
    | nil =>
      rw [hcut] at hend
      have hblank : isBlank '#' = true := List.mem_rtakeWhile_imp (hend ▸ List.mem_cons_self)
      cases hhash.symm.trans hblank
    | cons c cs =>
      rw [hcut] at hend
      exact congrArg some (List.cons.inj hend).1
  · obtain ⟨-, front, back, hline, hfront, -⟩ := hlaid
    obtain ⟨more, hmore⟩ := List.head?_eq_some_iff.mp h
    exact ⟨front, more ++ back, by rw [hline, hmore]; rfl, hfront⟩

/-- **A line that is not skipped says something.** -/
theorem instructionLine_of_not_skipped (h : ¬ Skipped line) :
    ∃ word rest, InstructionLine line word rest := by
  obtain ⟨hsome, -⟩ := not_or.mp (mt skipped_iff.mpr h)
  obtain ⟨htrimmed, front, back, hline, hfront, hback⟩ :=
    trim_eq_iff.mp (Eq.refl (trimEnd (trimStart line)))
  generalize trimEnd (trimStart line) = said at *
  cases hsplit : splitOnce? said with
  | none =>
    refine ⟨String.ofList said, [],
      ⟨front, [], back, by simpa using hline, ?_, fun h => absurd rfl h⟩, by simpa using hsome, by simpa using splitOnce?_eq_none hsplit, nofun, nofun⟩
    rw [List.append_nil]
    exact List.forall_mem_append.mpr ⟨hfront, hback⟩
  | some pair =>
    obtain ⟨word, behind⟩ := pair
    obtain ⟨gap, rfl, hgap, hsolid⟩ := splitOnce?_eq_some hsplit
    obtain ⟨hrest, front', back', hbehind, hfront', hback'⟩ :=
      trim_eq_iff.mp (Eq.refl (trimEnd (trimStart behind)))
    have hword : word ≠ [] := by
      rintro rfl
      cases hgap.symm.trans (htrimmed.head gap rfl)
    refine ⟨String.ofList word, _, ⟨front, gap :: front', back' ++ back, ?_, ?_, fun _ => nofun⟩,
      by simpa using hword, by simpa using hsolid, hrest⟩
    · rw [hline]
      nth_rewrite 1 [hbehind]
      simp
    · simp only [List.forall_mem_append, List.forall_mem_cons]
      exact ⟨⟨hfront, hgap, hfront'⟩, hback', hback⟩

theorem instructionOn_skipped (h : Skipped line) (place : String) :
    instructionOn place line = .ok none := by
  rw [instructionOn]
  refine if_pos ?_
  rcases skipped_iff.mp h with hempty | hhash
  · simp [hempty]
  · simp [hhash]

/-- **A line that is not skipped is read as the instruction that it says.** -/
theorem instructionOn_of_line (hskip : ¬ Skipped line) (h : InstructionLine line word rest)
    (place : String) : instructionOn place line = (instruction place word rest).map some := by
  obtain ⟨hsome, hhash⟩ := not_or.mp (mt skipped_iff.mpr hskip)
  rw [instructionOn, h.split]
  exact if_neg (by simp [hsome, hhash])

/-! ## Instructions -/

/-- Decimal digits, a plus sign before them allowed, of a number below 2^64. -/
def IsCount (text : List Char) : Prop :=
  ∃ digits, (text = digits ∨ text = '+' :: digits) ∧ digits ≠ [] ∧
    (∀ c ∈ digits, c.isDigit = true) ∧ Nat.ofDigitChars 10 digits 0 < UInt64.size

/-- The words that begin an instruction, and what can follow them. -/
inductive ValidInstruction : String → List Char → Prop where
  | map {rest : List Char} (h : String.ofList rest ∈ ["upper", "lower", "trim", "reverse"]) :
      ValidInstruction "map" rest
  | grep {rest : List Char} (h : rest ≠ []) : ValidInstruction "grep" rest
  | head {rest : List Char} (h : IsCount rest) : ValidInstruction "head" rest
  | plain {word : String} (rest : List Char)
      (h : word ∈ ["number", "prefix", "cat", "count", "emit", "fail"]) : ValidInstruction word rest
  | filed {word : String} {rest : List Char} (h : word ∈ ["tee", "read", "write"])
      (hpath : rest ≠ []) : ValidInstruction word rest

theorem le_ofDigitChars (cs : List Char) (value : Nat) : value ≤ Nat.ofDigitChars 10 cs value := by
  induction cs generalizing value with
  | nil => exact Nat.le_refl value
  | cons c cs ih =>
    rw [Nat.ofDigitChars_cons]
    exact Nat.le_trans (by omega) (ih _)

/-- **Digits are read exactly when their number can be counted.** -/
theorem digits_eq_ok {value n : Nat} {cs : List Char} (hvalue : value < UInt64.size) :
    Numeral.digits value cs = .ok n ↔
      (∀ c ∈ cs, c.isDigit = true) ∧ Nat.ofDigitChars 10 cs value < UInt64.size ∧
        Nat.ofDigitChars 10 cs value = n := by
  induction cs generalizing value with
  | nil => simp [Numeral.digits, hvalue]
  | cons c cs ih =>
    have hnext : value * 10 + (c.toNat - 48) = 10 * value + (c.toNat - '0'.toNat) :=
      congrArg (· + _) (Nat.mul_comm value 10)
    rw [Numeral.digits, hnext, List.forall_mem_cons, Nat.ofDigitChars_cons]
    dsimp only
    split
    · rename_i hdigit
      split
      · rename_i hfits
        rw [ih hfits, and_iff_right hdigit]
      · rename_i hlarge
        refine iff_of_false nofun fun ⟨_, hsmall, _⟩ => hlarge ?_
        exact Nat.lt_of_le_of_lt (le_ofDigitChars cs _) hsmall
    · rename_i hdigit
      exact iff_of_false nofun fun ⟨⟨h, _⟩, _⟩ => hdigit h

theorem digits_ok_iff {cs : List Char} : (∃ n, Numeral.digits 0 cs = .ok n) ↔
    (∀ c ∈ cs, c.isDigit = true) ∧ Nat.ofDigitChars 10 cs 0 < UInt64.size := by
  simp only [digits_eq_ok (show 0 < UInt64.size by decide), exists_and_left, exists_eq', and_true]

theorem numeral_ok_iff {cs : List Char} :
    (∃ n, Numeral.parse (String.ofList cs) = .ok n) ↔ IsCount cs := by
  have hplus : '+'.isDigit = false := by decide
  rw [Numeral.parse, String.toList_ofList]
  split
  · refine iff_of_false nofun ?_
    rintro ⟨digits, rfl | h, hsome, -⟩
    · exact hsome rfl
    · cases h
  · refine iff_of_false nofun ?_
    rintro ⟨digits, rfl | h, hsome, hdigits, -⟩
    · cases hplus.symm.trans (hdigits '+' List.mem_cons_self)
    · cases h
      exact hsome rfl
  · rename_i rest hsome
    rw [digits_ok_iff]
    constructor
    · rintro ⟨hdigits, hfits⟩
      exact ⟨rest, Or.inr rfl, hsome, hdigits, hfits⟩
    · rintro ⟨digits, rfl | h, -, hdigits, hfits⟩
      · cases hplus.symm.trans (hdigits '+' List.mem_cons_self)
      · cases h
        exact ⟨hdigits, hfits⟩
  · rename_i cs hsome hother hplain
    rw [digits_ok_iff]
    constructor
    · rintro ⟨hdigits, hfits⟩
      exact ⟨_, Or.inl rfl, hsome, hdigits, hfits⟩
    · rintro ⟨digits, rfl | rfl, -, hdigits, hfits⟩
      · exact ⟨hdigits, hfits⟩
      · exact absurd rfl (hplain digits)

/-- Behind a flag there is something, because the text does not end with a blank. -/
theorem trimStart_flagged {dash flag : Char} {tail : List Char}
    (h : ∀ c, (dash :: flag :: ' ' :: tail).getLast? = some c → isBlank c = false) :
    trimStart tail ≠ [] ∧ ∀ c, (trimStart tail).getLast? = some c → isBlank c = false := by
  have hsome : trimStart tail ≠ [] := by
    intro hnone
    have hblank : ∀ c ∈ ' ' :: tail, isBlank c = true :=
      List.forall_mem_cons.mpr ⟨by decide, List.dropWhile_eq_nil_iff.mp hnone⟩
    have hlast := List.getLast?_eq_some_getLast (List.cons_ne_nil ' ' tail)
    have hsolid := h _ (by simpa using hlast)
    cases hsolid.symm.trans (hblank _ (List.getLast_mem _))
  refine ⟨hsome, fun c hc => h c ?_⟩
  have hsplit : dash :: flag :: ' ' :: tail =
      (dash :: flag :: ' ' :: tail.takeWhile isBlank) ++ trimStart tail := by
    simp only [List.cons_append]
    rw [trimStart, List.takeWhile_append_dropWhile]
  rw [hsplit, List.getLast?_append_of_ne_nil _ hsome, hc]

theorem grepFlags_pattern (fuel : Nat) (g : GrepFlags) (hsome : g.pattern ≠ [])
    (hlast : ∀ c, g.pattern.getLast? = some c → isBlank c = false) :
    (grepFlags fuel g).pattern ≠ [] := by
  fun_induction grepFlags fuel g with
  | case1 => exact hsome
  | case2 fuel g tail htail ih | case3 fuel g tail htail ih =>
    obtain ⟨hsome, hlast⟩ := trimStart_flagged (htail ▸ hlast)
    exact ih hsome hlast
  | case4 => exact hsome

theorem grep_ok_iff (h : ∀ c, rest.getLast? = some c → isBlank c = false) :
    (∃ o, grep rest = .ok o) ↔ rest ≠ [] := by
  unfold grep
  dsimp only
  split
  · rename_i hempty
    refine iff_of_false nofun fun hsome => ?_
    exact grepFlags_pattern rest.length ⟨false, false, rest⟩ hsome h
      (List.isEmpty_iff.mp hempty)
  · rename_i hpattern
    refine iff_of_true ⟨_, rfl⟩ ?_
    rintro rfl
    exact hpattern rfl

theorem named?_isSome {text : String} (h : text ∈ ["upper", "lower", "trim", "reverse"]) :
    ∃ t, Transform.named? text = some t := by
  simp only [List.mem_cons, List.not_mem_nil, or_false] at h
  rcases h with rfl | rfl | rfl | rfl <;> exact ⟨_, rfl⟩

theorem mem_of_named? {text : String} {t : Transform} (h : Transform.named? text = some t) :
    text ∈ ["upper", "lower", "trim", "reverse"] := by
  unfold Transform.named? at h
  split at h <;> first | decide | cases h

/-- There is a path unless there is nothing at all. -/
theorem path_eq_nil_iff (h : ∀ c, rest.head? = some c → isBlank c = false) :
    ((splitOnce? rest).getD (rest, [])).1 = [] ↔ rest = [] := by
  cases hsplit : splitOnce? rest with
  | none => rfl
  | some pair =>
    obtain ⟨path, text⟩ := pair
    obtain ⟨gap, rfl, hgap, -⟩ := splitOnce?_eq_some hsplit
    refine iff_of_false ?_ (by simp)
    rintro rfl
    cases hgap.symm.trans (h gap rfl)

/-- **An instruction is read exactly when it is one of the language.** -/
theorem instruction_ok_iff (htrimmed : Trimmed rest) :
    (∃ i, instruction place word rest = .ok i) ↔ ValidInstruction word rest := by
  constructor
  · rintro ⟨i, h⟩
    unfold instruction at h
    split at h <;> dsimp only at h
    · split at h
      · rename_i ht
        exact .map (mem_of_named? ht)
      · cases h
    · split at h
      · rename_i o ho
        exact .grep ((grep_ok_iff htrimmed.last).mp ⟨o, ho⟩)
      · cases h
    · split at h
      · rename_i n hn
        exact .head (numeral_ok_iff.mp ⟨n, hn⟩)
      · cases h
    · exact .plain rest (by decide)
    · exact .plain rest (by decide)
    · exact .plain rest (by decide)
    · exact .plain rest (by decide)
    · exact .plain rest (by decide)
    · exact .plain rest (by decide)
    · split at h
      · cases h
      · rename_i hsome
        exact .filed (by decide) (mt List.isEmpty_iff.mpr hsome)
    · split at h
      · cases h
      · rename_i hsome
        exact .filed (by decide) (mt List.isEmpty_iff.mpr hsome)
    · split at h
      · cases h
      · rename_i hsome
        exact .filed (by decide) fun hnone =>
          hsome (List.isEmpty_iff.mpr ((path_eq_nil_iff htrimmed.head).mpr hnone))
    · cases h
  · intro h
    cases h with
    | map h =>
      obtain ⟨t, ht⟩ := named?_isSome h
      exact ⟨.op (.map t), by simp only [instruction, ht]⟩
    | grep h =>
      obtain ⟨o, ho⟩ := (grep_ok_iff htrimmed.last).mpr h
      exact ⟨.op o, by simp only [instruction, ho]⟩
    | head h =>
      obtain ⟨n, hn⟩ := numeral_ok_iff.mpr h
      exact ⟨.op (.head n), by simp only [instruction, hn]⟩
    | plain rest h =>
      simp only [List.mem_cons, List.not_mem_nil, or_false] at h
      rcases h with rfl | rfl | rfl | rfl | rfl | rfl <;> exact ⟨_, rfl⟩
    | filed h hpath =>
      have hsome : ¬ rest.isEmpty = true := mt List.isEmpty_iff.mp hpath
      have hwrite : ¬ ((splitOnce? rest).getD (rest, [])).1.isEmpty = true :=
        fun h => hpath ((path_eq_nil_iff htrimmed.head).mp (List.isEmpty_iff.mp h))
      simp only [List.mem_cons, List.not_mem_nil, or_false] at h
      rcases h with rfl | rfl | rfl
      · exact ⟨_, if_neg hsome⟩
      · exact ⟨_, if_neg hsome⟩
      · exact ⟨_, if_neg hwrite⟩

/-- **A fault names the place of the line.** -/
theorem instruction_fault {fault : Fault} (h : instruction place word rest = .error fault) :
    fault.NamesPlace place := by
  unfold instruction at h
  split at h <;> dsimp only at h
  · split at h <;> cases h
    exact Or.inr ⟨_, rfl⟩
  · split at h <;> cases h
    exact Or.inl rfl
  · split at h <;> cases h
    refine Or.inr ⟨"head needs a line count", ?_⟩
    rw [String.append_assoc]
    rfl
  case h_13 =>
    cases h
    exact Or.inr ⟨_, rfl⟩
  case h_10 | h_11 | h_12 =>
    split at h <;> cases h
    exact Or.inr ⟨_, rfl⟩
  all_goals cases h

/-! ## Sources -/

/-- A line that can stand in a source. -/
def Acceptable (line : List Char) : Prop :=
  Skipped line ∨ ∃ word rest, InstructionLine line word rest ∧ ValidInstruction word rest

theorem instructionOn_ok_iff : (∃ said, instructionOn place line = .ok said) ↔ Acceptable line := by
  by_cases hskip : Skipped line
  · exact iff_of_true ⟨none, instructionOn_skipped hskip place⟩ (Or.inl hskip)
  · obtain ⟨word, rest, hsays⟩ := instructionLine_of_not_skipped hskip
    have hread : (∃ i, instruction place word rest = .ok i) ↔ ValidInstruction word rest :=
      instruction_ok_iff hsays.trimmed
    rw [instructionOn_of_line hskip hsays]
    constructor
    · rintro ⟨said, h⟩
      cases hi : instruction place word rest with
      | error fault =>
        rw [hi] at h
        cases h
      | ok i => exact Or.inr ⟨word, rest, hsays, hread.mp ⟨i, hi⟩⟩
    · rintro (hskip' | ⟨word', rest', hsays', hinstructive⟩)
      · exact absurd hskip' hskip
      · cases hsays.split.symm.trans hsays'.split
        obtain ⟨i, hi⟩ := hread.mpr hinstructive
        exact ⟨some i, by rw [hi]; rfl⟩

theorem instructionOn_fault {fault : Fault} (h : instructionOn place line = .error fault) :
    fault.NamesPlace place := by
  unfold instructionOn at h
  dsimp only at h
  split at h
  · cases h
  · cases hi : instruction place _ _ with
    | ok i =>
      rw [hi] at h
      cases h
    | error why =>
      rw [hi] at h
      cases h
      exact instruction_fault hi

/-- The lines are instructions but for those that are skipped when all of them are acceptable. -/
theorem instructionLines_iff_acceptable {lines : List (List Char)} :
    (∃ is, InstructionLines lines is) ↔ ∀ line ∈ lines, Acceptable line := by
  induction lines with
  | nil => exact iff_of_true ⟨[], .nil⟩ (List.forall_mem_nil _)
  | cons line lines ih =>
    have hread : (∃ said, instructionOn "" line = .ok said) ↔ Acceptable line :=
      instructionOn_ok_iff
    rw [List.forall_mem_cons, ← ih, ← hread]
    constructor
    · rintro ⟨is, h⟩
      cases h with
      | blank hline h => exact ⟨⟨_, hline⟩, _, h⟩
      | cons hline h => exact ⟨⟨_, hline⟩, _, h⟩
    · rintro ⟨⟨said, hline⟩, is, h⟩
      cases said with
      | none => exact ⟨is, .blank hline h⟩
      | some i => exact ⟨i :: is, .cons hline h⟩

/-- **Reading stops at the first line that is not acceptable**, and at no other. -/
theorem readLines_eq_error {name : String} {number : Nat} {d : Draft} {lines : List (List Char)}
    {fault : Fault} : readLines name number d lines = .error fault ↔
      ∃ front line rest, lines = front ++ line :: rest ∧ (∀ l ∈ front, Acceptable l) ∧
        instructionOn s!"{name}: line {number + front.length}" line = .error fault := by
  induction lines generalizing number d with
  | nil =>
    refine iff_of_false nofun ?_
    rintro ⟨front, line, rest, h, -⟩
    simp at h
  | cons line lines ih =>
    rw [readLines_cons]
    -- a line that is read is in front of the one that is not
    have hread : ∀ said, instructionOn s!"{name}: line {number}" line = .ok said →
        ∀ d, (readLines name (number + 1) d lines = .error fault ↔
          ∃ front bad rest, line :: lines = front ++ bad :: rest ∧ (∀ l ∈ front, Acceptable l) ∧
            instructionOn s!"{name}: line {number + front.length}" bad = .error fault) := by
      intro said hsaid d
      have hline := instructionOn_ok_iff.mp ⟨said, hsaid⟩
      rw [ih]
      constructor
      · rintro ⟨front, bad, rest, rfl, hfront, hbad⟩
        refine ⟨line :: front, bad, rest, rfl, List.forall_mem_cons.mpr ⟨hline, hfront⟩, ?_⟩
        rw [List.length_cons, ← Nat.add_assoc, Nat.add_right_comm]
        exact hbad
      · rintro ⟨front, bad, rest, hlines, hfront, hbad⟩
        cases front with
        | nil =>
          cases hlines
          cases hsaid.symm.trans hbad
        | cons l front =>
          cases hlines
          refine ⟨front, bad, rest, rfl, (List.forall_mem_cons.mp hfront).2, ?_⟩
          rw [List.length_cons, ← Nat.add_assoc, Nat.add_right_comm] at hbad
          exact hbad
    cases hsaid : instructionOn s!"{name}: line {number}" line with
    | error why =>
      constructor
      · rintro h
        cases h
        exact ⟨[], line, lines, rfl, List.forall_mem_nil _, hsaid⟩
      · rintro ⟨front, bad, rest, hlines, hfront, hbad⟩
        cases front with
        | nil =>
          cases hlines
          cases hsaid.symm.trans hbad
          rfl
        | cons l front =>
          cases hlines
          obtain ⟨said, hok⟩ := instructionOn_ok_iff.mpr (List.forall_mem_cons.mp hfront).1
          cases hsaid.symm.trans hok
    | ok said =>
      cases said with
      | none => exact hread none hsaid d
      | some i => exact hread (some i) hsaid (d.add i)

/-- The one is the other with lines that say nothing taken out and put in. -/
inductive SameInstructions : List (List Char) → List (List Char) → Prop where
  | nil : SameInstructions [] []
  | left {line : List Char} {lines lines' : List (List Char)} (hskip : Skipped line)
      (h : SameInstructions lines lines') : SameInstructions (line :: lines) lines'
  | right {line : List Char} {lines lines' : List (List Char)} (hskip : Skipped line)
      (h : SameInstructions lines lines') : SameInstructions lines (line :: lines')
  | both (line : List Char) {lines lines' : List (List Char)} (h : SameInstructions lines lines') :
      SameInstructions (line :: lines) (line :: lines')

theorem instructionLines_cons_skipped {lines : List (List Char)} (hskip : Skipped line)
    (is : List Instruction) : InstructionLines (line :: lines) is ↔ InstructionLines lines is := by
  have hnone := instructionOn_skipped hskip ""
  refine ⟨fun h => ?_, .blank hnone⟩
  cases h with
  | blank _ h => exact h
  | cons hline _ => cases hnone.symm.trans hline

theorem SameInstructions.instructionLines_iff {lines lines' : List (List Char)}
    (h : SameInstructions lines lines')
    (is : List Instruction) : InstructionLines lines is ↔ InstructionLines lines' is := by
  induction h generalizing is with
  | nil => rfl
  | left hskip _ ih => rw [instructionLines_cons_skipped hskip, ih]
  | right hskip _ ih => rw [instructionLines_cons_skipped hskip, ih]
  | both line _ ih =>
    constructor
    · intro h
      cases h with
      | blank hline h => exact .blank hline ((ih _).mp h)
      | cons hline h => exact .cons hline ((ih _).mp h)
    · intro h
      cases h with
      | blank hline h => exact .blank hline ((ih _).mpr h)
      | cons hline h => exact .cons hline ((ih _).mpr h)

theorem parse_eq_error {name source : String} {fault : Fault} :
    parse name source = .error fault ↔
      ∃ front line rest, Lines.ofText source = front ++ line :: rest ∧ (∀ l ∈ front, Acceptable l) ∧
        instructionOn s!"{name}: line {front.length + 1}" line = .error fault := by
  simp only [Nat.add_comm _ 1]
  rw [← readLines_eq_error (d := .empty), parse]
  cases readLines name 1 .empty (Lines.ofText source) <;> simp

theorem parse_ok_iff {name source : String} :
    (∃ script, parse name source = .ok script) ↔ ∀ line ∈ Lines.ofText source, Acceptable line := by
  rw [← instructionLines_iff_acceptable]
  constructor
  · rintro ⟨script, h⟩
    obtain ⟨is, his, -⟩ := parse_eq_ok.mp h
    exact ⟨is, his⟩
  · rintro ⟨is, his⟩
    exact ⟨_, parse_eq_ok.mpr ⟨is, his, rfl⟩⟩

theorem compile_of_text {source : Bytes} {text : String} (h : Utf8.decode? source = .ok text)
    (name : String) : compile name source = parse name text := by
  rw [compile, h]

/-- **The compiler accepts just the sources that are made of its lines, and names the first other
line.** A source compiles exactly when it is UTF-8 and each of its lines is blank, a comment or an
instruction. Otherwise the message begins with the number of the first line that is none of these,
whatever stands behind it. Lines that say nothing make no difference to the script. -/
theorem compile_exact (name : String) (source : Bytes) :
    ((∃ script, compile name source = .ok script) ↔
      ∃ text, Utf8.decode? source = .ok text ∧ ∀ line ∈ Lines.ofText text, Acceptable line) ∧
      ∀ text, Utf8.decode? source = .ok text →
        (∀ fault, compile name source = .error fault → ∃ front line rest,
          Lines.ofText text = front ++ line :: rest ∧ (∀ l ∈ front, Acceptable l) ∧
          ¬ Acceptable line ∧ fault.NamesPlace s!"{name}: line {front.length + 1}" ∧
          ∀ source' text' rest', Utf8.decode? source' = .ok text' →
            Lines.ofText text' = front ++ line :: rest' → compile name source' = .error fault) ∧
        ∀ source' text', Utf8.decode? source' = .ok text' →
          SameInstructions (Lines.ofText text) (Lines.ofText text') →
            ∀ script, compile name source = .ok script ↔ compile name source' = .ok script := by
  refine ⟨?_, fun text htext =>
    ⟨fun fault hfault => ?_, fun source' text' htext' hsame script => ?_⟩⟩
  · cases htext : Utf8.decode? source with
    | error flaw =>
      refine iff_of_false ?_ nofun
      rintro ⟨script, h⟩
      rw [compile, htext] at h
      cases h
    | ok text =>
      rw [compile_of_text htext, parse_ok_iff]
      exact ⟨fun h => ⟨text, rfl, h⟩, fun ⟨_, heq, h⟩ => by cases heq; exact h⟩
  · rw [compile_of_text htext] at hfault
    obtain ⟨front, line, rest, hlines, hfront, hline⟩ := parse_eq_error.mp hfault
    refine ⟨front, line, rest, hlines, hfront, ?_, instructionOn_fault hline, ?_⟩
    · intro haccepted
      obtain ⟨said, hsaid⟩ := instructionOn_ok_iff.mpr haccepted
      cases hline.symm.trans hsaid
    · intro source' text' rest' htext' hlines'
      rw [compile_of_text htext']
      exact parse_eq_error.mpr ⟨front, line, rest', hlines', hfront, hline⟩
  · rw [compile_of_text htext, compile_of_text htext', parse_eq_ok, parse_eq_ok]
    simp only [hsame.instructionLines_iff]

example : compile "bad" (Utf8.encode "emit ok\n#\nfrobnicate\n") =
    .error (.of "bad: line 3: unknown instruction \x60frobnicate\x60") := rfl

end Script

end Pipework
