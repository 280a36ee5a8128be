import Mathlib.Data.Fintype.Basic
import Mathlib.Tactic.FinCases
import Pipework.Script.Expand

/-!
# Filling variables in

A text that is put together from segments is filled in segment by segment, whatever stands next to
what (`expand_segments`): it is cut once, at the segments (`pieces_join`), and values are not
looked at again. So every text can be written with its dollar signs doubled.

* `pieces_plain`, `pieces_variable` — what is cut off the front, with any text behind it.
-/

namespace Pipework

namespace Script

/-- A stretch of a text as it is written down. -/
inductive Segment where
  | literal (text : String) (plain : '$' ∉ text.toList)
  | dollar
  | argument (index : Fin 10)
  | arguments
  | named (name : String) (isName : Name.isName name.toList = true)

namespace Segment

def source : Segment → String
  | .literal text _ => text
  | .dollar => "$$"
  | .argument index => String.ofList ['$', Nat.digitChar index]
  | .arguments => "$@"
  | .named name _ => "$\x7b" ++ name ++ "\x7d"

/-- What stands in its place; an argument or a name that is not there is empty. -/
def value (inv : Invocation) : Segment → String
  | .literal text _ => text
  | .dollar => "$"
  | .argument index => (inv.args[index.val]?).getD ""
  | .arguments => " ".intercalate inv.args.tail
  | .named name _ => (inv.env.get? name).getD ""

end Segment

variable {inv : Invocation} {rest : List Char}

/-! ## Cutting -/

/-- The characters that belong to a variable are passed over. -/
theorem piecesFrom_append (front rest : List Char) :
    piecesFrom front.length (front ++ rest) = pieces rest := by
  induction front with
  | nil => rfl
  | cons c front ih => exact ih

theorem pieces_plain {text : List Char} (h : '$' ∉ text) :
    pieces (text ++ rest) = text.map .char ++ pieces rest := by
  induction text with
  | nil => rfl
  | cons c text ih =>
    obtain ⟨hc, htext⟩ := List.ne_and_not_mem_of_not_mem_cons h
    rw [List.cons_append, List.map_cons, List.cons_append, ← ih htext, pieces, piecesFrom,
      if_neg hc.symm]
    rfl

/-- **A variable is cut off as a whole**, if its text says so with what stands behind it. -/
theorem pieces_variable (text : List Char) {v : Variable}
    (h : variableAt? (text ++ rest) = some (v, text.length)) :
    pieces ('$' :: text ++ rest) = .var v :: pieces rest := by
  rw [List.cons_append, pieces, piecesFrom, if_pos rfl, h]
  exact congrArg (.var v :: ·) (piecesFrom_append text rest)

theorem variableAt?_argument (index : Fin 10) (rest : List Char) :
    variableAt? (Nat.digitChar index :: rest) = some (.argument index, 1) := by
  fin_cases index <;> rfl

/-- The brace ends the name, because it is no part of one. -/
theorem variableAt?_named {name : List Char} (h : Name.isName name = true) (rest : List Char) :
    variableAt? ('{' :: name ++ '}' :: rest) =
      some (.named (String.ofList name), name.length + 2) := by
  have htake : (name ++ '}' :: rest).takeWhile Name.isPart = name := by
    rw [List.takeWhile_append_of_pos (Name.isPart_of_isName h),
      List.takeWhile_cons_of_neg (by decide), List.append_nil]
  simp only [List.cons_append, variableAt?, htake, h, List.drop_left, List.head?_cons, BEq.rfl,
    Bool.and_self, if_true]

/-! ## Segments -/

/-- **A segment is cut off at its end, and its pieces stand for its value.** -/
theorem pieces_segment (inv : Invocation) (s : Segment) (rest : List Char) :
    (pieces (s.source.toList ++ rest)).flatMap (Piece.value inv) =
      (s.value inv).toList ++ (pieces rest).flatMap (Piece.value inv) := by
  cases s with
  | literal text plain =>
    have hsingle : text.toList.flatMap (fun c => Piece.value inv (.char c)) = text.toList :=
      List.flatMap_singleton' text.toList
    rw [Segment.source, Segment.value, pieces_plain plain, List.flatMap_append, List.flatMap_map,
      hsingle]
  | dollar =>
    rw [Segment.source, Segment.value]
    exact congrArg (List.flatMap _) (pieces_variable ['$'] rfl)
  | argument index =>
    rw [Segment.source, Segment.value, String.toList_ofList]
    exact congrArg (List.flatMap _)
      (pieces_variable [Nat.digitChar index] (variableAt?_argument index rest))
  | arguments =>
    rw [Segment.source, Segment.value, ← List.drop_one]
    exact congrArg (List.flatMap _) (pieces_variable ['@'] rfl)
  | named name isName =>
    have hvariable : variableAt? ('{' :: name.toList ++ ['}'] ++ rest) =
        some (.named name, ('{' :: name.toList ++ ['}']).length) := by
      rw [List.append_assoc, List.singleton_append, variableAt?_named isName rest,
        String.ofList_toList]
      simp
    have hsource : ("$\x7b" ++ name ++ "\x7d").toList =
        '$' :: ('{' :: name.toList ++ ['}']) := by simp
    rw [Segment.source, Segment.value, hsource, pieces_variable _ hvariable]
    rfl

/-- A text of segments is cut at their ends. -/
theorem pieces_join (inv : Invocation) (segments : List Segment) :
    (pieces (String.join (segments.map Segment.source)).toList).flatMap (Piece.value inv) =
      (String.join (segments.map (Segment.value inv))).toList := by
  induction segments with
  | nil => rfl
  | cons s segments ih =>
    rw [List.map_cons, List.map_cons, String.join_cons, String.join_cons, String.toList_append,
      String.toList_append, pieces_segment, ih]

/-- A text with every dollar sign in it doubled. -/
def doubled (text : String) : String :=
  String.ofList (text.toList.flatMap fun c => if c = '$' then ['$', '$'] else [c])

/-- A character as it is written to stand for itself. -/
def Segment.ofChar (c : Char) : Segment :=
  if h : c = '$' then .dollar
  else .literal (String.singleton c) (by simpa using Ne.symm h)

theorem Segment.ofChar_source (c : Char) :
    (ofChar c).source = String.ofList (if c = '$' then ['$', '$'] else [c]) := by
  unfold ofChar
  split
  · rfl
  · simp [source]

theorem Segment.ofChar_value (inv : Invocation) (c : Char) :
    (ofChar c).value inv = String.singleton c := by
  unfold ofChar
  split
  · rename_i h
    rw [h]
    rfl
  · rfl

/-- **A text is filled in segment by segment**, once, whatever stands side by side in it and
whatever the values hold. A text that has its dollar signs doubled comes out as it was. -/
theorem expand_segments (inv : Invocation) :
    (∀ segments : List Segment, expand inv (String.join (segments.map Segment.source)) =
      String.join (segments.map (Segment.value inv))) ∧
      ∀ text, expand inv (doubled text) = text := by
  have hsegments : ∀ segments : List Segment,
      expand inv (String.join (segments.map Segment.source)) =
        String.join (segments.map (Segment.value inv)) := fun segments => by
    rw [expand, pieces_join, String.ofList_toList]
  refine ⟨hsegments, fun text => ?_⟩
  have hsource : doubled text =
      String.join ((text.toList.map Segment.ofChar).map Segment.source) := by
    rw [← String.toList_inj]
    simp only [doubled, String.toList_ofList, String.toList_join, List.flatMap_map,
      Segment.ofChar_source]
  have hvalue : String.join ((text.toList.map Segment.ofChar).map (Segment.value inv)) = text := by
    rw [← String.toList_inj]
    simp only [String.toList_join, List.flatMap_map, Segment.ofChar_value, String.toList_singleton,
      List.flatMap_singleton']
  rw [hsource, hsegments, hvalue]

example : expand ⟨["n", "$2"], [], .null⟩ "$12$$1" = "$22$1" := rfl

end Script

end Pipework
