import Pipework.Proofs.Reading

/-!
# Lines of an input

Lines are cut off at the front one after another (`split_append`, `split_last`), so taking lines
from a line buffer until there are none gives the lines of the whole input (`lines_front`).
-/

namespace Pipework

namespace Lines

variable {α : Type} [BEq α] [LawfulBEq α] {nl cr : α} {line rest : List α}

/-- Up to its first newline a sequence is one line. -/
theorem split_append (h : nl ∉ line) :
    split nl cr (line ++ nl :: rest) = dropReturn cr line :: split nl cr rest := by
  have hfree : ∀ x ∈ line, (x == nl) = false := by
    intro x hx
    rw [beq_eq_false_iff_ne]
    rintro rfl
    exact h hx
  have hpieces : (line ++ nl :: rest).splitOn nl = line :: rest.splitOn nl :=
    List.splitOnP_append_cons_of_forall_mem hfree nl (beq_self_eq_true nl) rest
  have hsome : rest.splitOn nl ≠ [] := List.splitOnP_ne_nil _ rest
  obtain ⟨piece, pieces, hrest⟩ := List.exists_cons_of_ne_nil hsome
  unfold split
  simp only [hpieces, hrest, List.dropLast_cons_of_ne_nil (List.cons_ne_nil piece pieces),
    List.map_cons, List.cons_append, List.getLastD_cons]

/-- What follows the last newline is a line unless it is empty. -/
theorem split_last (h : nl ∉ line) : split nl cr line = if line.isEmpty then [] else [line] := by
  have hfree : ∀ x ∈ line, (x == nl) = false := by
    intro x hx
    rw [beq_eq_false_iff_ne]
    rintro rfl
    exact h hx
  have hpieces : line.splitOn nl = [line] := List.splitOnP_eq_singleton hfree
  unfold split
  rw [hpieces]
  rfl

/-- Behind a newline the lines begin anew. -/
theorem split_append_newline (front rest : List α) :
    split nl cr (front ++ nl :: rest) = split nl cr (front ++ [nl]) ++ split nl cr rest := by
  generalize hlength : front.length = length
  induction length using Nat.strongRecOn generalizing front with
  | _ length ih =>
    by_cases hmem : nl ∈ front
    · obtain ⟨line, behind, rfl, hfree⟩ := List.eq_append_cons_of_mem hmem
      have hless : behind.length < length := by
        rw [← hlength, List.length_append, List.length_cons]
        omega
      simp only [List.append_assoc, List.cons_append]
      rw [split_append hfree, split_append hfree, ih _ hless behind rfl, List.cons_append]
    · have hnone : split nl cr [] = [] := rfl
      rw [split_append hmem, split_append hmem, hnone]
      rfl

/-- A newline behind the last line ends it. -/
theorem split_newline (nl cr : α) (front : List α) : ∃ lines last,
    split nl cr front = lines ++ (if last.isEmpty then [] else [last]) ∧
      split nl cr (front ++ [nl]) = lines ++ [dropReturn cr last] := by
  have hpieces : (front ++ [nl]).splitOn nl = front.splitOn nl ++ [[]] :=
    List.splitOn_append_cons_self ..
  obtain ⟨pieces, last, hlast⟩ : ∃ pieces last, front.splitOn nl = pieces ++ [last] :=
    ⟨_, _, (List.dropLast_concat_getLast (List.splitOn_ne_nil nl front)).symm⟩
  refine ⟨pieces.map (dropReturn cr), last, ?_, ?_⟩
  · simp [split, hlast]
  · simp [split, hpieces, hlast]

end Lines

namespace LineBuffer

/-- The lines of an input as they are read. -/
def lines (input : Bytes) : List String :=
  (Lines.split newline carriageReturn input).map Utf8.decodeLossy

theorem cut?_eq_some {bs line rest : Bytes} (h : cut? bs = some (line, rest)) :
    bs = line ++ newline :: rest ∧ newline ∉ line := by
  unfold cut? at h
  cases hdrop : bs.dropWhile (· != newline) with
  | nil =>
    rw [hdrop] at h
    cases h
  | cons b tail =>
    rw [hdrop] at h
    cases h
    have hb : b = newline := by
      have := List.head?_dropWhile_not (· != newline) bs
      rw [hdrop] at this
      simpa using this
    refine ⟨?_, fun hmem => ?_⟩
    · rw [hb] at hdrop
      rw [← hdrop, List.takeWhile_append_dropWhile]
    · simpa using List.all_eq_true.mp List.all_takeWhile newline hmem

theorem cut?_eq_none {bs : Bytes} (h : cut? bs = none) : newline ∉ bs := by
  unfold cut? at h
  cases hdrop : bs.dropWhile (· != newline) with
  | nil =>
    intro hmem
    have hall := List.takeWhile_append_dropWhile (p := (· != newline)) (l := bs)
    rw [hdrop, List.append_nil] at hall
    rw [← hall] at hmem
    simpa using List.all_eq_true.mp List.all_takeWhile newline hmem
  | cons b tail =>
    rw [hdrop] at h
    cases h

/-- **Taking the first line off an input takes the first of its lines.** -/
theorem lines_front (input : Bytes) :
    lines input = (front input).1.toList ++ lines (front input).2 := by
  unfold front
  cases hcut : cut? input with
  | some pair =>
    obtain ⟨line, rest⟩ := pair
    obtain ⟨rfl, hfree⟩ := cut?_eq_some hcut
    simp only [lines, Lines.split_append hfree, List.map_cons, Option.toList_some,
      List.singleton_append]
  | none =>
    have hfree := cut?_eq_none hcut
    simp only [lines, Lines.split_last hfree]
    cases input with
    | nil => rfl
    | cons b rest => rfl

/-- A line that is taken leaves less to read, and where there is none nothing is left. -/
theorem front_left (input : Bytes) :
    match front input with
    | (some _, left) => left.length < input.length
    | (none, left) => input = [] ∧ left = [] := by
  unfold front
  cases hcut : cut? input with
  | some pair =>
    obtain ⟨line, rest⟩ := pair
    obtain ⟨rfl, -⟩ := cut?_eq_some hcut
    simp only [List.length_append, List.length_cons]
    omega
  | none =>
    cases input with
    | nil => exact ⟨rfl, rfl⟩
    | cons b rest => exact Nat.succ_pos _

theorem poll_line_shorter {b after : LineBuffer} {text : String} (h : b.poll = .line text after) :
    after.held.length < b.held.length ∧ after.ended = b.ended := by
  have hnone : b.ended = true → ([] : Bytes) = [] := fun _ => rfl
  obtain ⟨hfront, hended⟩ := poll_line h hnone
  have hleft := front_left (b.held ++ [])
  rw [hfront, List.append_nil, List.append_nil] at hleft
  exact ⟨hleft, hended⟩

end LineBuffer

end Pipework
