import Pipework.Proofs.LossyDecoding
import Pipework.Rehearsal

/-!
# Lines whatever the pieces

Input comes in pieces, cut anywhere: inside a character, or between a carriage return and its
newline. The lines that a buffer puts together depend on the input alone (`nextLines_eq`).

* `Rehearsal.Delivers` — what the reads hand out up to the end of input (`delivers_pieces`).
* `Rehearsal.PendingInput` — what is still to come of the lines: a line that is taken is the first
  of it and leaves the rest (`nextLine_front`).
-/

namespace Pipework

namespace LineBuffer

variable {b : LineBuffer}

theorem poll_ne_starved (h : b.ended = true) : b.poll ≠ .starved := fun hpoll => by
  cases h.symm.trans (poll_starved hpoll)

theorem feed_nil_ended (b : LineBuffer) : (b.feed []).ended = true := rfl

end LineBuffer

namespace Rehearsal

/-! ## What reads hand out -/

/-- The reads hand out this input in pieces that are not empty, and then report its end. -/
inductive Delivers : Rehearsal → Bytes → Prop where
  | ended {r after : Rehearsal} : r.read LineBuffer.pieceLimit = (.ok [], after) → Delivers r []
  | piece {r after : Rehearsal} {data rest : Bytes} :
      r.read LineBuffer.pieceLimit = (.ok data, after) → data ≠ [] → Delivers after rest →
        Delivers r (data ++ rest)

variable {r : Rehearsal} {pieces behind : List Bytes}

/-- A read that is not told to fail hands out what fits of the first piece. -/
theorem read_pieces (hread : r.failingRead = none) (limit : Nat) :
    ∃ after, r.read limit = (.ok ((r.pieces.headD []).take limit), after) ∧
      after.failingRead = none ∧ ∀ piece rest, r.pieces = piece :: rest →
        after.pieces = if piece.length ≤ limit then rest else piece.drop limit :: rest := by
  unfold read handOut
  simp only [hread, reduceCtorEq, if_false]
  cases hpieces : r.pieces with
  | nil => exact ⟨_, by rw [List.headD_nil, List.take_nil], rfl, nofun⟩
  | cons piece rest =>
    refine ⟨_, rfl, rfl, fun piece' rest' h => ?_⟩
    cases h
    rfl

/-- Pieces that are not empty are all handed out, those too long for one read in several. -/
theorem delivers_pieces (hread : r.failingRead = none) (hpieces : r.pieces = pieces ++ behind)
    (hsome : [] ∉ pieces) (hbehind : behind.headD [] = []) : Delivers r pieces.flatten := by
  generalize hlength : pieces.flatten.length = length
  induction length using Nat.strongRecOn generalizing r pieces with
  | _ length ih =>
    obtain ⟨after, hafter, hread', hrest⟩ := read_pieces hread LineBuffer.pieceLimit
    cases pieces with
    | nil =>
      rw [hpieces, List.nil_append, hbehind] at hafter
      exact .ended hafter
    | cons piece pieces =>
      obtain ⟨hpiece, hsome⟩ := List.ne_and_not_mem_of_not_mem_cons hsome
      have hpositive : 0 < piece.length := List.length_pos_iff.mpr hpiece.symm
      have hrest := hrest piece (pieces ++ behind) hpieces
      rw [hpieces, List.cons_append, List.headD_cons] at hafter
      rw [List.flatten_cons, List.length_append] at hlength
      rw [List.flatten_cons]
      split at hrest
      · rename_i hfits
        rw [List.take_of_length_le hfits] at hafter
        exact .piece hafter hpiece.symm (ih _ (by omega) hread' hrest hsome rfl)
      · rename_i hlong
        have hdrop : piece.drop LineBuffer.pieceLimit ≠ [] := by
          rw [ne_eq, List.drop_eq_nil_iff]
          exact hlong
        have htake : piece.take LineBuffer.pieceLimit ≠ [] := by
          simp [LineBuffer.pieceLimit, hpiece.symm]
        have hdelivers : Delivers after (piece.drop LineBuffer.pieceLimit :: pieces).flatten :=
          ih _ (by simp [LineBuffer.pieceLimit] at *; omega) hread' hrest
            (List.not_mem_cons_of_ne_of_not_mem hdrop.symm hsome) rfl
        rw [← List.take_append_drop LineBuffer.pieceLimit piece, List.append_assoc]
        exact .piece hafter htake hdelivers

/-! ## Lines one by one -/

/-- What is still to come of the lines: what the buffer holds, and what the reads deliver as long as
the buffer goes on reading. -/
inductive PendingInput (r : Rehearsal) (b : LineBuffer) : Bytes → Prop where
  | ended : b.ended = true → PendingInput r b b.held
  | reading {rest : Bytes} : b.ended = false → r.Delivers rest → PendingInput r b (b.held ++ rest)

variable {b : LineBuffer} {input : Bytes}

/-- While nothing has to be read, the line is the first of what is still to come. -/
theorem nextLine_unread (h : PendingInput r b input) (hpoll : b.poll ≠ .starved) : ∃ b' r',
    r.nextLine b = (.ok (LineBuffer.front input).1, b', r') ∧
      PendingInput r' b' (LineBuffer.front input).2 := by
  rw [nextLine]
  split
  · rename_i text left hline
    refine ⟨left, r, ?_⟩
    cases h with
    | ended hended =>
      have hnone : b.ended = true → ([] : Bytes) = [] := fun _ => rfl
      obtain ⟨hfront, hleft⟩ := LineBuffer.poll_line hline hnone
      rw [List.append_nil, List.append_nil] at hfront
      rw [hfront]
      exact ⟨rfl, .ended (hleft.trans hended)⟩
    | reading hopen hdelivers =>
      obtain ⟨hfront, hleft⟩ := LineBuffer.poll_line hline fun hended => by
        cases hopen.symm.trans hended
      rw [hfront]
      exact ⟨rfl, .reading (hleft.trans hopen) hdelivers⟩
  · rename_i hfinished
    obtain ⟨hended, hheld⟩ := LineBuffer.poll_finished hfinished
    cases h with
    | ended =>
      have hahead : PendingInput r b b.held := .ended hended
      rw [hheld] at hahead ⊢
      exact ⟨b, r, rfl, hahead⟩
    | reading hopen => cases hopen.symm.trans hended
  · rename_i hstarved
    exact absurd hstarved hpoll

/-- A piece that had to be read might as well have been there before. -/
theorem nextLine_starved {after : Rehearsal} {data : Bytes} (hpoll : b.poll = .starved)
    (hread : r.read LineBuffer.pieceLimit = (.ok data, after)) :
    r.nextLine b = after.nextLine (b.feed data) := by
  rw [nextLine, hpoll]
  dsimp only
  split
  · rename_i hfailed
    cases hread.symm.trans hfailed
  · rename_i data' after' hread'
    cases hread.symm.trans hread'
    split
    · rename_i hdata
      subst hdata
      rw [nextLine]
      cases hfed : (b.feed []).poll with
      | starved => exact absurd hfed (LineBuffer.poll_ne_starved (LineBuffer.feed_nil_ended b))
      | _ => rfl
    · rfl

/-- **The line that is taken is the first of what is still to come**, and the rest of it is left. -/
theorem nextLine_front (h : PendingInput r b input) : ∃ b' r',
    r.nextLine b = (.ok (LineBuffer.front input).1, b', r') ∧
      PendingInput r' b' (LineBuffer.front input).2 := by
  cases h with
  | ended hended => exact nextLine_unread (.ended hended) (LineBuffer.poll_ne_starved hended)
  | reading hopen hdelivers =>
    induction hdelivers generalizing b with
    | ended hread =>
      by_cases hpoll : b.poll = .starved
      · rw [nextLine_starved hpoll hread]
        rw [← LineBuffer.feed_held]
        have hended := LineBuffer.feed_nil_ended b
        exact nextLine_unread (.ended hended) (LineBuffer.poll_ne_starved hended)
      · exact nextLine_unread (.reading hopen (.ended hread)) hpoll
    | piece hread hdata hrest ih =>
      by_cases hpoll : b.poll = .starved
      · rw [nextLine_starved hpoll hread, ← List.append_assoc, ← LineBuffer.feed_held]
        exact ih (by simp [LineBuffer.feed_ended, hopen, hdata])
      · exact nextLine_unread (.reading hopen (.piece hread hdata hrest)) hpoll

/-- The answers to as many calls for a line, one after another. -/
def nextLines (r : Rehearsal) (b : LineBuffer) : Nat → List (Except Fault (Option String))
  | 0 => []
  | n + 1 =>
    let (answer, b', r') := r.nextLine b
    answer :: nextLines r' b' n

/-- **As many lines as are asked for, and nothing ever after the last.** -/
theorem nextLines_eq (h : PendingInput r b input) (n : Nat) :
    r.nextLines b n = (List.range n).map fun i => .ok (LineBuffer.lines input)[i]? := by
  induction n generalizing r b input with
  | zero => rfl
  | succ n ih =>
    obtain ⟨b', r', hnext, hahead⟩ := nextLine_front h
    have hstep : r.nextLines b (n + 1) =
        .ok (LineBuffer.front input).1 :: r'.nextLines b' n := by
      rw [nextLines, hnext]
    rw [hstep, ih hahead, List.range_succ_eq_map, List.map_cons, List.map_map,
      LineBuffer.lines_front input]
    cases hfront : LineBuffer.front input with
    | mk line left =>
      have hleft := LineBuffer.front_left input
      rw [hfront] at hleft
      cases line with
      | some text => rfl
      | none =>
        obtain ⟨rfl, rfl⟩ := hleft
        rfl

end Rehearsal

/-- **Lines do not depend on the pieces that the input comes in.** Of pieces that are not empty, the
end of input behind them, the calls for a line are answered with the lines of all the bytes: those
that a newline ends, less one carriage return, then what follows the last newline unless it is
empty, each decoded when it is complete; then with none. Bytes that spell a text have its lines. -/
theorem lines_whatever_pieces (pieces behind : List Bytes) (failingWrite : Option Nat)
    (hsome : [] ∉ pieces) (hbehind : behind.headD [] = []) :
    (∀ n, (Rehearsal.ofPieces (pieces ++ behind) none failingWrite).nextLines .empty n =
        (List.range n).map fun i => .ok (((Lines.split LineBuffer.newline LineBuffer.carriageReturn
          pieces.flatten).map Utf8.decodeLossy)[i]?)) ∧
      ∀ text, Utf8.decode? pieces.flatten = .ok text →
        (Lines.split LineBuffer.newline LineBuffer.carriageReturn pieces.flatten).map
          Utf8.decodeLossy = (Lines.ofText text).map String.ofList := by
  have hdelivers := Rehearsal.delivers_pieces (r := .ofPieces (pieces ++ behind) none failingWrite)
    rfl rfl hsome hbehind
  exact ⟨Rehearsal.nextLines_eq (b := .empty) (.reading rfl hdelivers),
    fun text htext => (Utf8.decode?_eq_ok.mp htext).lines_eq⟩

/-- Cuts inside a character and between a carriage return and its newline. -/
def cutPieces : List Bytes := [[0xC3], [0xA9, 13], [10, 98, 13]]

theorem lines_whatever_pieces_cut :
    [] ∉ cutPieces ∧ ([[], [99]] : List Bytes).headD [] = [] ∧
      (Rehearsal.ofPieces (cutPieces ++ [[], [99]]) none none).nextLines .empty 4 =
        [.ok (some "é"), .ok (some "b\r"), .ok none, .ok none] ∧
      Utf8.decode? cutPieces.flatten = .ok "é\r\nb\r" ∧
      (Lines.ofText "é\r\nb\r").map String.ofList = ["é", "b\r"] := by
  have hsome : [] ∉ cutPieces := by decide
  obtain ⟨hlines, -⟩ := lines_whatever_pieces cutPieces [[], [99]] none hsome rfl
  exact ⟨hsome, rfl, (hlines 4).trans rfl, rfl, rfl⟩

end Pipework
