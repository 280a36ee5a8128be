import Mathlib.Logic.Relation
import Pipework.Proofs.Yield
import Pipework.Script.Run

/-!
# Reading plainly

A program reads plainly if it takes its input line by line or all of the rest at once, and never
mixes the two or asks for raw pieces. What such a program comes to depends on its input as a whole
(`Program.Denotes`): a task may be given the input in any pieces and at any time, and the yield that
it is on its way to stays the same (`ReadsPlainly.silent`, `ReadsPlainly.read`,
`ReadsPlainly.write`). It comes to that yield within so many acts (`ReadsPlainly.yields`). Scripts
read plainly.
-/

namespace Pipework

namespace LineBuffer

/-- The first line of an input as it is read, and what is left. -/
def front (input : Bytes) : Option String × Bytes :=
  match cut? input with
  | some (line, rest) =>
    (some (Utf8.decodeLossy (Lines.dropReturn carriageReturn line)), rest)
  | none => if input.isEmpty then (none, []) else (some (Utf8.decodeLossy input), [])

/-- A complete line is there whatever comes behind it. -/
theorem cut?_append {held line rest : Bytes} (h : cut? held = some (line, rest)) (more : Bytes) :
    cut? (held ++ more) = some (line, rest ++ more) := by
  unfold cut? at h ⊢
  cases hdrop : held.dropWhile (· != newline) with
  | nil =>
    rw [hdrop] at h
    cases h
  | cons b tail =>
    rw [hdrop] at h
    cases h
    have hlen : (held.takeWhile (· != newline)).length ≠ held.length := by
      have hsplit := congrArg List.length (List.takeWhile_append_dropWhile (p := (· != newline)) (l := held))
      rw [hdrop, List.length_append, List.length_cons] at hsplit
      omega
    rw [List.dropWhile_append, hdrop, List.takeWhile_append, if_neg hlen]
    rfl

variable {b : LineBuffer}

/-- **A line that is handed out is the first of all that is still to be read.** -/
theorem poll_line {text : String} {after : LineBuffer} (h : b.poll = .line text after)
    {ahead : Bytes} (hended : b.ended = true → ahead = []) :
    front (b.held ++ ahead) = (some text, after.held ++ ahead) ∧ after.ended = b.ended := by
  unfold poll at h
  cases hcut : cut? b.held with
  | some pair =>
    obtain ⟨line, rest⟩ := pair
    rw [hcut] at h
    cases h
    simp only [front, cut?_append hcut ahead, and_self]
  | none =>
    simp only [hcut] at h
    split at h
    · cases h
    · rename_i hdone
      have hended' : b.ended = true := by simpa using hdone
      split at h
      · cases h
      · rename_i hsome
        cases h
        rw [hended hended', List.append_nil]
        simp only [front, hcut, hsome, Bool.false_eq_true, if_false, List.append_nil, and_self]

theorem poll_finished (h : b.poll = .finished) : b.ended = true ∧ b.held = [] := by
  unfold poll at h
  split at h
  · cases h
  · split at h
    · cases h
    · rename_i hdone
      split at h
      · rename_i hempty
        exact ⟨by simpa using hdone, List.isEmpty_iff.mp hempty⟩
      · cases h

theorem poll_starved (h : b.poll = .starved) : b.ended = false := by
  unfold poll at h
  split at h
  · cases h
  · split at h
    · rename_i hopen
      simpa using hopen
    · split at h <;> cases h

theorem feed_held (b : LineBuffer) (piece : Bytes) : (b.feed piece).held = b.held ++ piece := by
  unfold feed
  split
  · rename_i hempty
    rw [List.isEmpty_iff.mp hempty, List.append_nil]
  · rfl

theorem feed_ended (b : LineBuffer) (piece : Bytes) :
    (b.feed piece).ended = (b.ended || piece.isEmpty) := by
  unfold feed
  split
  · rename_i hempty
    simp [hempty]
  · rename_i hsome
    simp [hsome]

end LineBuffer

/-! ## Ways of reading -/

/-- How a demand reads input. -/
inductive Demand.ReadMode where
  | lines
  | rest
  | pieces
  deriving DecidableEq, Repr

def Demand.readMode? {σ : Type} : Demand σ → Option Demand.ReadMode
  | .line _ => some .lines
  | .rest _ => some .rest
  | .piece .. => some .pieces
  | .write .. | .finish .. => none

namespace Program

/-- One state follows another when it was granted what it demands. -/
inductive GrantedStep (P : Type) [Program P] : State P → State P → Prop where
  | line {s : State P} {answer} (hd : demand s = .line answer) (text : Option String) :
      GrantedStep P s (answer (.ok text))
  | rest {s : State P} {answer} (hd : demand s = .rest answer) (data : Bytes) :
      GrantedStep P s (answer (.ok data))
  | piece {s : State P} {limit answer} (hd : demand s = .piece limit answer) (data : Bytes) :
      GrantedStep P s (answer (.ok data))
  | write {s : State P} {data answer} (hd : demand s = .write data answer) :
      GrantedStep P s (answer (.ok ()))

/-- From this state on the program reads in one way only. -/
def ReadsOnly (P : Type) [Program P] (way : Demand.ReadMode) (s : State P) : Prop :=
  ∀ s', Relation.ReflTransGen (GrantedStep P) s s' → ∀ w, (demand s').readMode? = some w → w = way

variable {P : Type} [Program P] {s s' : State P} {way : Demand.ReadMode}

theorem ReadsOnly.grantedStep (h : ReadsOnly P way s) (hs : GrantedStep P s s') :
    ReadsOnly P way s' :=
  fun t ht => h t (ht.head hs)

theorem ReadsOnly.now (h : ReadsOnly P way s) {w : Demand.ReadMode}
    (hw : (demand s).readMode? = some w) : w = way :=
  h s .refl w hw

/-- What is closed under being granted demands, and reads in one way, goes on to do so. -/
theorem ReadsOnly.of_closed {Q : State P → Prop}
    (hway : ∀ s, Q s → ∀ w, (demand s).readMode? = some w → w = way)
    (hclosed : ∀ s s', Q s → GrantedStep P s s' → Q s') (hs : Q s) : ReadsOnly P way s := by
  intro s' hreach
  have hQ : Q s' := by
    induction hreach with
    | refl => exact hs
    | tail _ hlast ih => exact hclosed _ _ ih hlast
  exact hway s' hQ

/-- The yield of a program that reads plainly, on all the input that is left to it. -/
inductive Denotes (P : Type) [Program P] : State P → Bytes → Yield → Prop where
  | line {s : State P} {answer} {input : Bytes} {y : Yield} (hd : demand s = .line answer)
      (hrest : Denotes P (answer (.ok (LineBuffer.front input).1)) (LineBuffer.front input).2 y) :
      Denotes P s input y
  | rest {s : State P} {answer} {input : Bytes} {y : Yield} (hd : demand s = .rest answer)
      (hrest : Denotes P (answer (.ok input)) [] y) : Denotes P s input y
  | write {s : State P} {data answer} {input : Bytes} {y y' : Yield}
      (hd : demand s = .write data answer) (hrest : Denotes P (answer (.ok ())) input y)
      (hy : y' = y.putOut data) : Denotes P s input y'
  | finish {s : State P} {verdict files} {input : Bytes} (hd : demand s = .finish verdict files) :
      Denotes P s input ⟨[], verdict, files⟩

theorem denotes_line {answer} (hd : demand s = .line answer) (input : Bytes) (y : Yield) :
    Denotes P s input y ↔
      Denotes P (answer (.ok (LineBuffer.front input).1)) (LineBuffer.front input).2 y := by
  refine ⟨fun h => ?_, .line hd⟩
  cases h with
  | line hd' hrest =>
    cases hd.symm.trans hd'
    exact hrest
  | rest hd' _ => cases hd.symm.trans hd'
  | write hd' _ _ => cases hd.symm.trans hd'
  | finish hd' => cases hd.symm.trans hd'

theorem denotes_rest {answer} (hd : demand s = .rest answer) (input : Bytes) (y : Yield) :
    Denotes P s input y ↔ Denotes P (answer (.ok input)) [] y := by
  refine ⟨fun h => ?_, .rest hd⟩
  cases h with
  | line hd' _ => cases hd.symm.trans hd'
  | rest hd' hrest =>
    cases hd.symm.trans hd'
    exact hrest
  | write hd' _ _ => cases hd.symm.trans hd'
  | finish hd' => cases hd.symm.trans hd'

theorem denotes_write {data answer} (hd : demand s = .write data answer) (input : Bytes)
    (y : Yield) : Denotes P s input y ↔
      ∃ y', Denotes P (answer (.ok ())) input y' ∧ y = y'.putOut data := by
  refine ⟨fun h => ?_, fun ⟨y', hrest, hy⟩ => .write hd hrest hy⟩
  cases h with
  | line hd' _ => cases hd.symm.trans hd'
  | rest hd' _ => cases hd.symm.trans hd'
  | write hd' hrest hy =>
    cases hd.symm.trans hd'
    exact ⟨_, hrest, hy⟩
  | finish hd' => cases hd.symm.trans hd'

theorem denotes_finish {verdict files} (hd : demand s = .finish verdict files) (input : Bytes)
    (y : Yield) : Denotes P s input y ↔ y = ⟨[], verdict, files⟩ := by
  refine ⟨fun h => ?_, fun hy => hy ▸ .finish hd⟩
  cases h with
  | line hd' _ => cases hd.symm.trans hd'
  | rest hd' _ => cases hd.symm.trans hd'
  | write hd' _ _ => cases hd.symm.trans hd'
  | finish hd' =>
    cases hd.symm.trans hd'
    rfl

/-- What a program denotes depends on what it demands next. -/
theorem Denotes.of_demand {input : Bytes} {y : Yield} (h : demand s = demand s')
    (hs : Denotes P s' input y) : Denotes P s input y := by
  cases hs with
  | line hd hrest => exact .line (h.trans hd) hrest
  | rest hd hrest => exact .rest (h.trans hd) hrest
  | write hd hrest hy => exact .write (h.trans hd) hrest hy
  | finish hd => exact .finish (h.trans hd)

/-- A demand is granted to a program that has all its input before it: what it puts out by that, and
where it comes to. -/
inductive Grants (P : Type) [Program P] : State P → Bytes → List Bytes → State P → Bytes → Prop where
  | line {s : State P} {answer} (input : Bytes) (hd : demand s = .line answer) :
      Grants P s input [] (answer (.ok (LineBuffer.front input).1)) (LineBuffer.front input).2
  | rest {s : State P} {answer} (input : Bytes) (hd : demand s = .rest answer) :
      Grants P s input [] (answer (.ok input)) []
  | write {s : State P} {data answer} (input : Bytes) (hd : demand s = .write data answer) :
      Grants P s input (if data.isEmpty then [] else [data]) (answer (.ok ())) input

/-- **Granting a demand takes a program on towards its yield.** -/
theorem Grants.denotes {input input' : Bytes} {pieces : List Bytes}
    (h : Grants P s input pieces s' input') (y : Yield) :
    Denotes P s input y ↔ ∃ y', Denotes P s' input' y' ∧ y = y'.after pieces := by
  cases h with
  | line _ hd =>
    rw [denotes_line hd]
    exact ⟨fun h => ⟨y, h, rfl⟩, fun ⟨y', h, hy⟩ => hy ▸ h⟩
  | rest _ hd =>
    rw [denotes_rest hd]
    exact ⟨fun h => ⟨y, h, rfl⟩, fun ⟨y', h, hy⟩ => hy ▸ h⟩
  | write _ hd =>
    rw [denotes_write hd]
    simp only [Yield.putOut_eq_after]

theorem Grants.denotes_iff {input input' : Bytes} (h : Grants P s input [] s' input') (y : Yield) :
    Denotes P s input y ↔ Denotes P s' input' y := by
  rw [h.denotes]
  exact ⟨fun ⟨y', h, hy⟩ => hy ▸ h, fun h => ⟨y, h, rfl⟩⟩

theorem Grants.of_line {input input' : Bytes} {pieces : List Bytes}
    (h : Grants P s input pieces s' input') {answer} (hd : demand s = .line answer) :
    s' = answer (.ok (LineBuffer.front input).1) ∧ input' = (LineBuffer.front input).2 := by
  cases h with
  | line _ hd' =>
    cases hd.symm.trans hd'
    exact ⟨rfl, rfl⟩
  | rest _ hd' => cases hd.symm.trans hd'
  | write _ hd' => cases hd.symm.trans hd'

theorem Grants.of_rest {input input' : Bytes} {pieces : List Bytes}
    (h : Grants P s input pieces s' input') {answer} (hd : demand s = .rest answer) :
    s' = answer (.ok input) ∧ input' = [] := by
  cases h with
  | line _ hd' => cases hd.symm.trans hd'
  | rest _ hd' =>
    cases hd.symm.trans hd'
    exact ⟨rfl, rfl⟩
  | write _ hd' => cases hd.symm.trans hd'

end Program

/-! ## Tasks that read plainly -/

namespace Task

variable {P : Type} [Program P] {t next : Task P} {ahead : Bytes} {y : Yield}

open Program

/-- The yield that a task is on its way to when so much of its input is still to come. -/
def Denotes (t : Task P) (ahead : Bytes) (y : Yield) : Prop :=
  Program.Denotes P t.state (t.lines.held ++ t.gathered ++ ahead) y

/-- All that a task has not used yet of its input. -/
def input (t : Task P) (ahead : Bytes) : Bytes := t.lines.held ++ t.gathered ++ ahead

/-- How far a task is from having fetched all its input, the end of it included. -/
def unfetched (t : Task P) (ahead : Bytes) : Nat :=
  ahead.length + if t.lines.ended then 0 else 1

/-- A task reads plainly, and where it knows that its input has ended nothing is to come. -/
structure ReadsPlainly (t : Task P) (ahead : Bytes) : Prop where
  plain : (ReadsOnly P .lines t.state ∧ t.gathered = []) ∨
    (ReadsOnly P .rest t.state ∧ t.lines = .empty)
  ended : t.lines.ended = true → ahead = []

theorem ReadsPlainly.start {p : P} {inv : Invocation}
    (h : ReadsOnly P .lines (Program.start p inv) ∨ ReadsOnly P .rest (Program.start p inv))
    (input : Bytes) : (Task.start p inv).ReadsPlainly input where
  plain := h.imp (⟨·, rfl⟩) (⟨·, rfl⟩)
  ended := nofun

theorem ReadsPlainly.of_line (h : t.ReadsPlainly ahead) {answer}
    (hd : demand t.state = .line answer) : ReadsOnly P .lines t.state ∧ t.gathered = [] := by
  refine h.plain.resolve_right fun hrest => ?_
  have := hrest.1.now (by rw [hd]; rfl)
  cases this

theorem ReadsPlainly.of_rest (h : t.ReadsPlainly ahead) {answer}
    (hd : demand t.state = .rest answer) : ReadsOnly P .rest t.state ∧ t.lines = .empty := by
  refine h.plain.resolve_left fun hlines => ?_
  have := hlines.1.now (by rw [hd]; rfl)
  cases this

theorem ReadsPlainly.not_piece (h : t.ReadsPlainly ahead) {limit answer}
    (hd : demand t.state = .piece limit answer) : False := by
  have hway : (demand t.state).readMode? = some .pieces := by rw [hd]; rfl
  rcases h.plain with ⟨hr, -⟩ | ⟨hr, -⟩ <;> cases hr.now hway

/-- A write is granted as it is demanded. -/
theorem ReadsPlainly.write_grants (h : t.ReadsPlainly ahead) {data answer}
    (hact : t.act = .write data answer) : (answer (.ok ())).ReadsPlainly ahead ∧
      Grants P t.state (t.input ahead) (if data.isEmpty then [] else [data])
        (answer (.ok ())).state ((answer (.ok ())).input ahead) := by
  unfold Task.act at hact
  split at hact
  · split at hact <;> cases hact
  · cases hact
  · cases hact
  · rename_i hd
    cases hact
    refine ⟨⟨?_, h.ended⟩, .write _ hd⟩
    rcases h.plain with ⟨hr, hg⟩ | ⟨hr, hl⟩
    · exact Or.inl ⟨hr.grantedStep (.write hd), hg⟩
    · exact Or.inr ⟨hr.grantedStep (.write hd), hl⟩
  · cases hact

theorem finish_demands {verdict : Verdict} {files : Snapshot}
    (hact : t.act = .finish verdict files) : demand t.state = .finish verdict files := by
  unfold Task.act at hact
  split at hact
  · split at hact <;> cases hact
  · cases hact
  · cases hact
  · cases hact
  · rename_i hd
    cases hact
    exact hd

theorem write_demands {data : Bytes} {answer : Except Fault Unit → Task P}
    (hact : t.act = .write data answer) :
    demand t.state = .write data fun r => (answer r).state := by
  unfold Task.act at hact
  split at hact
  · split at hact <;> cases hact
  · cases hact
  · cases hact
  · rename_i hd
    cases hact
    exact hd
  · cases hact

theorem denotes_finish {verdict : Verdict} {files : Snapshot}
    (hact : t.act = .finish verdict files) (ahead : Bytes) (y : Yield) :
    t.Denotes ahead y ↔ y = ⟨[], verdict, files⟩ :=
  Program.denotes_finish (finish_demands hact) _ y

/-- **A task that goes on by itself is granted a line** of all that it has not used yet. -/
theorem ReadsPlainly.silent_grants (h : t.ReadsPlainly ahead) (hact : t.act = .silent next) :
    next.ReadsPlainly ahead ∧
      Grants P t.state (t.input ahead) [] next.state (next.input ahead) := by
  unfold Task.act at hact
  split at hact
  · rename_i answer hd
    obtain ⟨hreads, hgathered⟩ := h.of_line hd
    have hgrants := Grants.line (t.input ahead) hd
    split at hact
    · rename_i text after hpoll
      cases hact
      obtain ⟨hfront, hended⟩ := LineBuffer.poll_line hpoll h.ended
      refine ⟨⟨Or.inl ⟨hreads.grantedStep (.line hd _), hgathered⟩, ?_⟩, ?_⟩
      · rw [hended]
        exact h.ended
      · simpa only [Task.input, hgathered, List.append_nil, hfront] using hgrants
    · rename_i hpoll
      cases hact
      obtain ⟨hended, hheld⟩ := LineBuffer.poll_finished hpoll
      refine ⟨⟨Or.inl ⟨hreads.grantedStep (.line hd _), hgathered⟩, h.ended⟩, ?_⟩
      have hnone : t.input ahead = [] := by
        rw [Task.input, hgathered, hheld, h.ended hended]
        rfl
      show Grants P t.state (t.input ahead) [] _ (t.input ahead)
      rw [hnone] at hgrants ⊢
      exact hgrants
    · cases hact
  · cases hact
  · cases hact
  · cases hact
  · cases hact

/-- **However much of its input a read is given, a task stands where it stood and has less to
fetch**, or is granted all of its input at the end of it. A read is given nothing only there. -/
theorem ReadsPlainly.read_grants (h : t.ReadsPlainly ahead) {limit answer}
    (hact : t.act = .read limit answer) :
    0 < limit ∧ ∀ data rest, ahead = data ++ rest → (data = [] → rest = []) →
      (answer (.ok data)).ReadsPlainly rest ∧
        ((answer (.ok data)).state = t.state ∧ (answer (.ok data)).input rest = t.input ahead ∧
            (answer (.ok data)).unfetched rest < t.unfetched ahead ∨
          Grants P t.state (t.input ahead) [] (answer (.ok data)).state
            ((answer (.ok data)).input rest)) := by
  unfold Task.act at hact
  split at hact
  · rename_i answer hd
    obtain ⟨hreads, hgathered⟩ := h.of_line hd
    split at hact
    · cases hact
    · cases hact
    · rename_i hpoll
      cases hact
      refine ⟨by decide, fun data rest hahead hend => ?_⟩
      have hopen := LineBuffer.poll_starved hpoll
      refine ⟨⟨Or.inl ⟨hreads, hgathered⟩, fun hended => ?_⟩, Or.inl ⟨rfl, ?_, ?_⟩⟩
      · simp only [gotPiece, LineBuffer.feed_ended, hopen, Bool.false_or] at hended
        exact hend (List.isEmpty_iff.mp hended)
      · simp only [Task.input, gotPiece, LineBuffer.feed_held, hgathered, hahead, List.append_nil,
          List.append_assoc]
      · simp only [unfetched, gotPiece, LineBuffer.feed_ended, hopen, hahead, List.length_append]
        cases data with
        | nil => simp
        | cons b data => simp
  · rename_i answer hd
    obtain ⟨hreads, hlines⟩ := h.of_rest hd
    cases hact
    refine ⟨by decide, fun data rest hahead hend => ?_⟩
    cases data with
    | nil =>
      obtain rfl := hend rfl
      refine ⟨⟨Or.inr ⟨hreads.grantedStep (.rest hd _), hlines⟩, fun _ => rfl⟩, Or.inr ?_⟩
      have hgrants := Grants.rest (t.input ahead) hd
      simpa only [Task.input, gotRest, hlines, LineBuffer.empty, hahead, List.append_nil,
        List.nil_append] using hgrants
    | cons b data =>
      refine ⟨⟨Or.inr ⟨hreads, hlines⟩, fun hended => ?_⟩, Or.inl ⟨rfl, ?_, ?_⟩⟩
      · simp only [gotRest, hlines, LineBuffer.empty] at hended
        cases hended
      · simp only [Task.input, gotRest, hahead, List.append_assoc]
      · refine Nat.add_lt_add_right ?_ _
        rw [hahead, List.length_append, List.length_cons]
        omega
  · rename_i hd
    exact (h.not_piece hd).elim
  · cases hact
  · cases hact

/-! ### On the way to a yield -/

theorem ReadsPlainly.write (h : t.ReadsPlainly ahead) {data answer}
    (hact : t.act = .write data answer) : (answer (.ok ())).ReadsPlainly ahead ∧
      ∀ y, t.Denotes ahead y ↔ ∃ y', (answer (.ok ())).Denotes ahead y' ∧ y = y'.putOut data := by
  obtain ⟨hready, hgrants⟩ := h.write_grants hact
  refine ⟨hready, fun y => (hgrants.denotes y).trans ?_⟩
  simp only [Yield.putOut_eq_after]
  rfl

/-- **Going on by itself changes nothing of what a task comes to.** -/
theorem ReadsPlainly.silent (h : t.ReadsPlainly ahead) (hact : t.act = .silent next) :
    next.ReadsPlainly ahead ∧ ∀ y, t.Denotes ahead y ↔ next.Denotes ahead y := by
  obtain ⟨hready, hgrants⟩ := h.silent_grants hact
  exact ⟨hready, fun y => hgrants.denotes_iff y⟩

/-- **However much of its input a read is given, a task comes to the same**, as long as it is given
nothing only at the end. -/
theorem ReadsPlainly.read (h : t.ReadsPlainly ahead) {limit answer}
    (hact : t.act = .read limit answer) :
    0 < limit ∧ ∀ data rest, ahead = data ++ rest → (data = [] → rest = []) →
      (answer (.ok data)).ReadsPlainly rest ∧
        ∀ y, t.Denotes ahead y ↔ (answer (.ok data)).Denotes rest y := by
  obtain ⟨hlimit, hread⟩ := h.read_grants hact
  refine ⟨hlimit, fun data rest hahead hend => ?_⟩
  obtain ⟨hready, ⟨hstate, hinput, -⟩ | hgrants⟩ := hread data rest hahead hend
  · refine ⟨hready, fun y => ?_⟩
    show Program.Denotes P t.state (t.input ahead) y ↔ _
    rw [← hstate, ← hinput]
    rfl
  · exact ⟨hready, fun y => hgrants.denotes_iff y⟩

/-- A read that is given nothing is at the end of the input. -/
theorem take_eq_nil_end {limit : Nat} (hlimit : 0 < limit) (h : ahead.take limit = []) :
    ahead.drop limit = [] := by
  rcases List.take_eq_nil_iff.mp h with hzero | hempty
  · omega
  · rw [hempty, List.drop_nil]

/-- **A task that was given its whole input comes to what it denotes.** -/
theorem ReadsPlainly.denotes_of_yield {acts : Nat} (h : t.ReadsPlainly ahead)
    (hy : t.yield? acts ahead = some y) : t.Denotes ahead y := by
  induction acts generalizing t ahead y with
  | zero => cases hy
  | succ acts ih =>
    unfold Task.yield? at hy
    cases hact : t.act with
    | silent next =>
      simp only [hact] at hy
      obtain ⟨hnext, hsame⟩ := h.silent hact
      exact (hsame y).mpr (ih hnext hy)
    | read limit answer =>
      simp only [hact] at hy
      obtain ⟨hlimit, hread⟩ := h.read hact
      obtain ⟨hnext, hsame⟩ := hread (ahead.take limit) (ahead.drop limit)
        (List.take_append_drop limit ahead).symm (take_eq_nil_end hlimit)
      exact (hsame y).mpr (ih hnext hy)
    | write data answer =>
      simp only [hact, Option.map_eq_some_iff] at hy
      obtain ⟨y', hy', rfl⟩ := hy
      obtain ⟨hnext, hsame⟩ := h.write hact
      exact (hsame _).mpr ⟨y', ih hnext hy', rfl⟩
    | finish verdict files =>
      simp only [hact, Option.some.injEq] at hy
      exact (denotes_finish hact ahead y).mpr hy.symm

/-! ### Coming to it -/

/-- What a task that is alone with its whole input comes to, given acts enough. -/
def Yields (t : Task P) (input : Bytes) (y : Yield) : Prop :=
  ∃ acts, ∀ more, t.yield? (more + acts) input = some y

theorem Yields.unique {y y' : Yield} (h : t.Yields ahead y) (h' : t.Yields ahead y') : y = y' := by
  obtain ⟨acts, hy⟩ := h
  obtain ⟨acts', hy'⟩ := h'
  have hsame := (hy acts').symm.trans (Nat.add_comm acts acts' ▸ hy' acts)
  exact Option.some.inj hsame

theorem yield?_more {acts : Nat} (h : t.yield? acts ahead = some y) : ∀ more,
    t.yield? (more + acts) ahead = some y := by
  induction acts generalizing t ahead y with
  | zero => cases h
  | succ acts ih =>
    intro more
    rw [← Nat.add_assoc]
    unfold yield? at h ⊢
    cases hact : t.act with
    | silent next =>
      rw [hact] at h
      exact ih h more
    | read limit answer =>
      rw [hact] at h
      exact ih h more
    | write data answer =>
      simp only [hact, Option.map_eq_some_iff] at h ⊢
      obtain ⟨y', hy', rfl⟩ := h
      exact ⟨y', ih hy' more, rfl⟩
    | finish verdict files =>
      rw [hact] at h
      exact h

/-- **A task that reads is granted what it demands** after as many acts as it takes to fetch it. -/
theorem ReadsPlainly.fetches (h : t.ReadsPlainly ahead) {way : Demand.ReadMode}
    (hway : (demand t.state).readMode? = some way) : ∃ (acts : Nat) (next : Task P) (left : Bytes),
      Grants P t.state (t.input ahead) [] next.state (next.input left) ∧ next.ReadsPlainly left ∧
        ∀ more, t.yield? (more + acts) ahead = next.yield? more left := by
  generalize hlength : t.unfetched ahead = length
  induction length using Nat.strongRecOn generalizing t ahead with
  | _ length ih =>
    cases hact : t.act with
    | silent next =>
      obtain ⟨hready, hgrants⟩ := h.silent_grants hact
      exact ⟨1, next, ahead, hgrants, hready, fun more => by simp only [yield?, hact]⟩
    | read limit answer =>
      obtain ⟨hlimit, hread⟩ := h.read_grants hact
      obtain ⟨hready, ⟨hstate, hinput, hless⟩ | hgrants⟩ := hread (ahead.take limit)
        (ahead.drop limit) (List.take_append_drop limit ahead).symm (take_eq_nil_end hlimit)
      · obtain ⟨acts, next, left, hgrants, hready', hmore⟩ :=
          ih _ (hlength ▸ hless) hready (hstate ▸ hway) rfl
        rw [hstate, hinput] at hgrants
        refine ⟨acts + 1, next, left, hgrants, hready', fun more => ?_⟩
        rw [← hmore, ← Nat.add_assoc]
        simp only [yield?, hact]
      · exact ⟨1, _, _, hgrants, hready, fun more => by simp only [yield?, hact]⟩
    | write data answer =>
      rw [write_demands hact] at hway
      cases hway
    | finish verdict files =>
      rw [finish_demands hact] at hway
      cases hway

/-- A task comes to what it comes to once it has fetched what it demands. -/
theorem ReadsPlainly.yields_fetched (h : t.ReadsPlainly ahead) {way : Demand.ReadMode}
    (hway : (demand t.state).readMode? = some way)
    (hrest : ∀ (next : Task P) (left : Bytes),
      Grants P t.state (t.input ahead) [] next.state (next.input left) → next.ReadsPlainly left →
        next.Yields left y) : t.Yields ahead y := by
  obtain ⟨acts, next, left, hgrants, hready, hmore⟩ := h.fetches hway
  obtain ⟨acts', hy⟩ := hrest next left hgrants hready
  refine ⟨acts' + acts, fun more => ?_⟩
  rw [← Nat.add_assoc, hmore, hy]

/-- **What a task denotes it comes to**, given acts enough. -/
theorem ReadsPlainly.yields (h : t.ReadsPlainly ahead) (hy : t.Denotes ahead y) :
    t.Yields ahead y := by
  have hdenotes : Program.Denotes P t.state (t.input ahead) y := hy
  generalize hstate : t.state = s at hdenotes
  generalize hinput : t.input ahead = input at hdenotes
  induction hdenotes generalizing t ahead with
  | line hd hrest ih =>
    subst hstate hinput
    have hway : (demand t.state).readMode? = some .lines := by rw [hd]; rfl
    refine h.yields_fetched hway fun next left hgrants hready => ?_
    obtain ⟨hnext, hleft⟩ := hgrants.of_line hd
    rw [← hnext, ← hleft] at hrest
    exact ih hready hrest hnext hleft
  | rest hd hrest ih =>
    subst hstate hinput
    have hway : (demand t.state).readMode? = some .rest := by rw [hd]; rfl
    refine h.yields_fetched hway fun next left hgrants hready => ?_
    obtain ⟨hnext, hleft⟩ := hgrants.of_rest hd
    rw [← hnext, ← hleft] at hrest
    exact ih hready hrest hnext hleft
  | @write s data answer input y y' hd hrest hput ih =>
    subst hstate hinput hput
    have hact : t.act = .write data fun r => { t with state := answer r } := by
      simp only [Task.act, hd]
    obtain ⟨hready, -⟩ := h.write hact
    obtain ⟨acts, hy⟩ := ih hready hrest rfl rfl
    refine ⟨acts + 1, fun more => ?_⟩
    rw [← Nat.add_assoc, yield?, hact]
    exact congrArg (Option.map _) (hy more)
  | @finish s verdict files input hd =>
    subst hstate
    have hact : t.act = .finish verdict files := by
      simp only [Task.act, hd]
    exact ⟨1, fun more => by simp only [yield?, hact]⟩

end Task

/-! ## Stages that read plainly -/

/-- A program in a stage reads line by line or all at once; a callback is given its input anyway. -/
def Stage.ReadsPlainly {P : Type} [Program P] (s : Stage P) : Prop :=
  match s.executable with
  | .program p _ => ∀ inv, Program.ReadsOnly P .lines (Program.start p inv) ∨
      Program.ReadsOnly P .rest (Program.start p inv)
  | .callback _ => True

namespace Script

/-- A script asks for nothing but lines. -/
theorem readMode_begin (inv : Invocation) :
    ∀ (steps : List Step) (files : Snapshot) (w : Demand.ReadMode),
    (begin inv steps files).readMode? = some w → w = .lines
  | [], files, w, h => by cases h
  | .emit text :: rest, files, w, h => by cases h
  | .read path :: rest, files, w, h => by
    unfold begin at h
    simp only at h
    split at h <;> cases h
  | .write path text :: rest, files, w, h => by
    unfold begin at h
    split at h
    · exact readMode_begin inv rest _ w h
    · cases h
  | .fail message :: rest, files, w, h => by cases h
  | .filter chain count :: rest, files, w, h => by
    unfold begin at h
    split at h
    · cases h
      rfl
    · cases h

/-- **Every script reads its input line by line.** -/
theorem readsOnly_lines (script : Script) (inv : Invocation) :
    Program.ReadsOnly Script .lines (Program.start script inv) := by
  refine Program.ReadsOnly.of_closed (Q := fun _ => True) (fun r _ w hw => ?_)
    (fun _ _ _ _ => trivial)
    trivial
  have hmap : ∀ {σ τ : Type} (f : σ → τ) (d : Demand σ), (d.map f).readMode? = d.readMode? := by
    intro σ τ f d
    cases d <;> rfl
  have hway : (r.state.demand r.inv).readMode? = some w := (hmap _ _).symm.trans hw
  unfold State.demand at hway
  split at hway
  · exact readMode_begin _ _ _ w hway
  · cases hway
    rfl
  · cases hway
  · cases hway

end Script

end Pipework
