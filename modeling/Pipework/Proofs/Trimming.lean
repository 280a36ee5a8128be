import Mathlib.Data.List.DropRight
import Pipework.Text.Blank

/-!
# Trimmed text

Trimming a text takes the blanks at both ends off it and nothing else (`trim_eq_iff`), and a text is
cut at the first blank in it (`splitOnce?_eq_some`, `splitOnce?_append`).
-/

namespace Pipework

namespace Blank

variable {cs front back : List Char}

/-- No blank at either end. -/
structure Trimmed (cs : List Char) : Prop where
  head : ∀ c, cs.head? = some c → isBlank c = false
  last : ∀ c, cs.getLast? = some c → isBlank c = false

theorem trimmed_of_solid (h : ∀ c ∈ cs, isBlank c = false) : Trimmed cs where
  head c hc := h c (List.mem_of_mem_head? hc)
  last c hc := h c (List.mem_of_getLast? hc)

theorem Trimmed.append (hfront : front ≠ [] ∧ Trimmed front) (hback : back ≠ [] ∧ Trimmed back)
    (gap : List Char) : Trimmed (front ++ gap ++ back) where
  head c hc := by
    obtain ⟨hsome, htrimmed⟩ := hfront
    rw [List.append_assoc, List.head?_append_of_ne_nil _ hsome] at hc
    exact htrimmed.head c hc
  last c hc := by
    obtain ⟨hsome, htrimmed⟩ := hback
    rw [List.getLast?_append_of_ne_nil _ hsome] at hc
    exact htrimmed.last c hc

theorem trimStart_append (h : ∀ c ∈ front, isBlank c = true) :
    trimStart (front ++ cs) = trimStart cs :=
  List.dropWhile_append_of_pos h

theorem trimStart_eq_self (h : ∀ c, cs.head? = some c → isBlank c = false) : trimStart cs = cs := by
  cases cs with
  | nil => rfl
  | cons c cs => exact List.dropWhile_cons_of_neg (by simp [h c rfl])

theorem trimEnd_append (h : ∀ c ∈ back, isBlank c = true) : trimEnd (cs ++ back) = trimEnd cs := by
  have hback : ∀ c ∈ back.reverse, isBlank c = true := fun c hc => h c (List.mem_reverse.mp hc)
  rw [trimEnd, List.reverse_append, List.dropWhile_append_of_pos hback, trimEnd]

theorem trimEnd_eq_self (h : ∀ c, cs.getLast? = some c → isBlank c = false) : trimEnd cs = cs := by
  have hhead : trimStart cs.reverse = cs.reverse := trimStart_eq_self (by rwa [List.head?_reverse])
  rw [trimEnd, ← trimStart, hhead, List.reverse_reverse]

theorem trimEnd_append_rtakeWhile (cs : List Char) : trimEnd cs ++ cs.rtakeWhile isBlank = cs :=
  List.rdropWhile_append_rtakeWhile

theorem trimStart_head {c : Char} (h : (trimStart cs).head? = some c) : isBlank c = false := by
  have hnot := List.head?_dropWhile_not isBlank cs
  rw [← trimStart, h] at hnot
  exact hnot

theorem trimEnd_last {c : Char} (h : (trimEnd cs).getLast? = some c) : isBlank c = false := by
  rw [trimEnd, List.getLast?_reverse] at h
  exact trimStart_head h

theorem trimmed_trim (cs : List Char) : Trimmed (trimEnd (trimStart cs)) where
  head c hc := by
    obtain ⟨rest, hrest⟩ := List.head?_eq_some_iff.mp hc
    refine trimStart_head (?_ : (trimStart cs).head? = some c)
    rw [← trimEnd_append_rtakeWhile (trimStart cs), hrest]
    rfl
  last _ := trimEnd_last

/-- **Trimming takes the blanks at both ends off and nothing else.** -/
theorem trim_eq_iff {line : List Char} : trimEnd (trimStart line) = cs ↔
    Trimmed cs ∧ ∃ front back, line = front ++ (cs ++ back) ∧ (∀ c ∈ front, isBlank c = true) ∧
      ∀ c ∈ back, isBlank c = true := by
  constructor
  · rintro rfl
    refine ⟨trimmed_trim line, line.takeWhile isBlank, (trimStart line).rtakeWhile isBlank, ?_,
      fun c hc => List.mem_takeWhile_imp hc, fun c hc => List.mem_rtakeWhile_imp hc⟩
    rw [trimEnd_append_rtakeWhile]
    exact List.takeWhile_append_dropWhile.symm
  · rintro ⟨htrimmed, front, back, rfl, hfront, hback⟩
    rw [trimStart_append hfront]
    cases cs with
    | nil =>
      have hnone : trimStart back = [] := List.dropWhile_eq_nil_iff.mpr hback
      rw [List.nil_append, hnone]
      rfl
    | cons c cs =>
      have hsome : trimStart (c :: cs ++ back) = c :: cs ++ back :=
        trimStart_eq_self fun c' hc' => htrimmed.head c' hc'
      rw [hsome, trimEnd_append hback, trimEnd_eq_self htrimmed.last]

/-! ## The first blank -/

theorem splitOnce?_eq_none (h : splitOnce? cs = none) : ∀ c ∈ cs, isBlank c = false := by
  unfold splitOnce? at h
  split at h
  · rename_i hdrop
    simpa using List.dropWhile_eq_nil_iff.mp hdrop
  · cases h

theorem splitOnce?_eq_some {word rest : List Char} (h : splitOnce? cs = some (word, rest)) :
    ∃ gap, cs = word ++ gap :: rest ∧ isBlank gap = true ∧ ∀ c ∈ word, isBlank c = false := by
  unfold splitOnce? at h
  split at h
  · cases h
  · rename_i gap tail hdrop
    cases h
    refine ⟨gap, ?_, ?_, fun c hc => by simpa using List.mem_takeWhile_imp hc⟩
    · rw [← hdrop, List.takeWhile_append_dropWhile]
    · have hnot := List.head?_dropWhile_not (!isBlank ·) cs
      rw [hdrop] at hnot
      simpa using hnot

theorem splitOnce?_solid {word : List Char} (h : ∀ c ∈ word, isBlank c = false) :
    splitOnce? word = none := by
  have hdrop : word.dropWhile (!isBlank ·) = [] := by
    rw [List.dropWhile_eq_nil_iff]
    simpa using h
  rw [splitOnce?, hdrop]

theorem splitOnce?_append {word rest : List Char} {gap : Char}
    (h : ∀ c ∈ word, isBlank c = false) (hgap : isBlank gap = true) :
    splitOnce? (word ++ gap :: rest) = some (word, rest) := by
  have hword : ∀ c ∈ word, (!isBlank c) = true := by simpa using h
  have hstop : ¬ (!isBlank gap) = true := by simp [hgap]
  rw [splitOnce?, List.dropWhile_append_of_pos hword,
    List.dropWhile_cons_of_neg (p := (!isBlank ·)) hstop, List.takeWhile_append_of_pos hword,
    List.takeWhile_cons_of_neg (p := (!isBlank ·)) hstop, List.append_nil]

end Blank

end Pipework
