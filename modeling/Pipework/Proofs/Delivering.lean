import Pipework.Proofs.Chunking
import Pipework.Proofs.Rehearsing

/-!
# Rehearsals of programs that read lines

A program that reads its input line by line comes, in a rehearsal in which no call fails, to what it
denotes on all the bytes that are delivered, whatever pieces they come in (`perform_denoted`).

* `Task.LineAct` — all that such a program can do next.
* `Rehearsal.LineReadInv` — where it stands on its way: what is still to be delivered, and what it
  comes to on that. Each act keeps what was written and what is still to be written together
  (`LineReadInv.step`).
-/

namespace Pipework

variable {P : Type} [Program P] {t t' : Task P}

/-- The acts of a task that reads line by line. -/
inductive Task.LineAct (t : Task P) : Act P → Prop where
  | took {next : Task P} (hfollows : Program.GrantedStep P t.state next.state)
      (hended : next.lines.ended = t.lines.ended) : LineAct t (.silent next)
  | reads {answer} (hopen : t.lines.ended = false) :
      LineAct t (.read LineBuffer.pieceLimit (t.gotPiece answer))
  | writes {data answer} (hd : Program.demand t.state = .write data answer) :
      LineAct t (.write data fun result => { t with state := answer result })
  | finishes (verdict : Verdict) (files : Snapshot) : LineAct t (.finish verdict files)

theorem Task.lineAct (h : Program.ReadsOnly P .lines t.state) : t.LineAct t.act := by
  unfold Task.act
  split
  · rename_i answer hd
    split
    · rename_i text after hpoll
      exact .took (.line hd (some text)) (LineBuffer.poll_line_shorter hpoll).2
    · exact .took (.line hd none) rfl
    · rename_i hpoll
      exact .reads (LineBuffer.poll_starved hpoll)
  · rename_i answer hd
    have hway := h.now (w := .rest) (by rw [hd]; rfl)
    cases hway
  · rename_i limit answer hd
    have hway := h.now (w := .pieces) (by rw [hd]; rfl)
    cases hway
  · rename_i data answer hd
    exact .writes hd
  · exact .finishes _ _

namespace Rehearsal

variable {r r' after : Rehearsal} {ahead : Bytes} {y : Yield}

/-- All bytes that were written. -/
def output (r : Rehearsal) : Bytes := r.written.reverse.flatten

/-- A task that reads lines has this much of its input still to come, and comes to this on it. -/
structure LineReadInv (r : Rehearsal) (t : Task P) (ahead : Bytes) (y : Yield) : Prop where
  reads : Program.ReadsOnly P .lines t.state
  ready : t.ReadsPlainly ahead
  delivers : t.lines.ended = false → r.Delivers ahead
  denotes : t.Denotes ahead y

theorem LineReadInv.start {p : P} {inv : Invocation} (hdelivers : r.Delivers ahead)
    (hreads : Program.ReadsOnly P .lines (Program.start p inv))
    (hy : (Task.start p inv).Denotes ahead y) : LineReadInv r (Task.start p inv) ahead y where
  reads := hreads
  ready := .start (.inl hreads) ahead
  delivers := fun _ => hdelivers
  denotes := hy

/-! ## Writing -/

/-- What was written has no part in what is read. -/
theorem read_written (r : Rehearsal) (writeCalls : Nat) (written : List Bytes) (limit : Nat) :
    ({ r with writeCalls, written } : Rehearsal).read limit =
      ((r.read limit).1, { (r.read limit).2 with writeCalls, written }) := by
  unfold read
  by_cases hfails : r.failingRead = some (r.reads + 1)
  · simp only [hfails, if_true]
  · simp only [hfails, if_false, handOut]
    split <;> rfl

theorem Delivers.with_written (h : r.Delivers ahead) (writeCalls : Nat) (written : List Bytes) :
    ({ r with writeCalls, written } : Rehearsal).Delivers ahead := by
  induction h with
  | @ended r after hread =>
    have hends := read_written r writeCalls written LineBuffer.pieceLimit
    rw [hread] at hends
    exact .ended hends
  | @piece r after data rest hread hdata _ ih =>
    have hpiece := read_written r writeCalls written LineBuffer.pieceLimit
    rw [hread] at hpiece
    exact .piece hpiece hdata ih

/-- A write that is not told to fail is kept behind the others, and the input is still to come. -/
theorem NoFailureSet.write_output (hr : r.NoFailureSet) (data : Bytes) : (r.write data).1 = .ok () ∧
    (r.write data).2.output = r.output ++ data ∧
      ∀ ahead, r.Delivers ahead → (r.write data).2.Delivers ahead := by
  have hgranted : r.failingWrite ≠ some (r.writeCalls + 1) := by
    rw [hr.write]
    exact nofun
  rw [write_of_granted hgranted data]
  exact ⟨rfl, by simp [output], fun ahead h => h.with_written (r.writeCalls + 1) (data :: r.written)⟩

/-! ## Acts -/

theorem read_output (r : Rehearsal) (limit : Nat) : (r.read limit).2.output = r.output := by
  obtain ⟨pieces, consumed, hafter⟩ := r.read_after limit
  rw [hafter]
  rfl

/-- **Every act of a task keeps together what was written and what it comes to.** -/
theorem LineReadInv.step (hr : r.NoFailureSet) (h : LineReadInv r t ahead y)
    (hstep : r.step? t = some (r', t')) :
    ∃ ahead' y', LineReadInv r' t' ahead' y' ∧ y'.verdict = y.verdict ∧ y'.files = y.files ∧
      r'.output ++ y'.output = r.output ++ y.output := by
  have hact := Task.lineAct h.reads
  generalize hdoes : t.act = act at hact
  simp only [step?, hdoes] at hstep
  cases hact with
  | @took next hfollows hended =>
    cases hstep
    obtain ⟨hready, hsame⟩ := h.ready.silent hdoes
    refine ⟨ahead, y, ⟨h.reads.grantedStep hfollows, hready, ?_, (hsame y).mp h.denotes⟩,
      rfl, rfl, rfl⟩
    rw [hended]
    exact h.delivers
  | @reads answer hopen =>
    cases hstep
    obtain ⟨-, hread⟩ := h.ready.read hdoes
    have houtput := r.read_output LineBuffer.pieceLimit
    have hdelivers := h.delivers hopen
    cases hdelivers with
    | ended hs =>
      obtain ⟨hready, hsame⟩ := hread [] [] rfl fun _ => rfl
      rw [hs] at houtput ⊢
      exact ⟨[], y, ⟨h.reads, hready, Bool.noConfusion, (hsame y).mp h.denotes⟩, rfl, rfl,
        congrArg (· ++ y.output) houtput⟩
    | @piece _ _ data rest hs hdata hrest =>
      obtain ⟨hready, hsame⟩ := hread data rest rfl fun hnone => absurd hnone hdata
      rw [hs] at houtput ⊢
      exact ⟨rest, y, ⟨h.reads, hready, fun _ => hrest, (hsame y).mp h.denotes⟩, rfl, rfl,
        congrArg (· ++ y.output) houtput⟩
  | @writes data answer hd =>
    cases hstep
    obtain ⟨hready, hsame⟩ := h.ready.write hdoes
    obtain ⟨y', hy', rfl⟩ := (hsame y).mp h.denotes
    obtain ⟨hok, houtput, hdelivers⟩ := hr.write_output data
    rw [hok]
    refine ⟨ahead, y', ⟨h.reads.grantedStep (.write hd), hready, fun hopen => ?_, hy'⟩, ?_⟩
    · exact hdelivers ahead (h.delivers hopen)
    · rw [houtput]
      cases data <;> simp [Yield.putOut, Yield.output]
  | finishes verdict files => cases hstep

/-- **A rehearsal in which no call fails ends as the program does on all that is delivered**, and the
bytes written are those of its yield. -/
theorem perform_denoted {fuel : Nat} {verdict : Verdict} {files : Snapshot} (hr : r.NoFailureSet)
    (h : LineReadInv r t ahead y) (hends : r.perform fuel t = some (verdict, files, after)) :
    verdict = y.verdict ∧ files = y.files ∧ after.output = r.output ++ y.output := by
  obtain ⟨last, hcomes, hlast⟩ := reaches_of_perform hends
  obtain ⟨-, ahead', y', hattends, hverdict, hfiles, houtput⟩ := hcomes.invariant
    (Q := fun s task => s.NoFailureSet ∧ ∃ ahead' y', LineReadInv s task ahead' y' ∧
      y'.verdict = y.verdict ∧
      y'.files = y.files ∧ s.output ++ y'.output = r.output ++ y.output)
    ⟨hr, ahead, y, h, rfl, rfl, rfl⟩ <| by
      rintro r₁ t₁ r₂ t₂ ⟨hr₁, ahead₁, y₁, h₁, hverdict₁, hfiles₁, houtput₁⟩ hstep
      obtain ⟨ahead₂, y₂, h₂, hverdict₂, hfiles₂, houtput₂⟩ := h₁.step hr₁ hstep
      exact ⟨(hr₁.step hstep).1, ahead₂, y₂, h₂, hverdict₂.trans hverdict₁, hfiles₂.trans hfiles₁,
        houtput₂.trans houtput₁⟩
  obtain rfl := (Task.denotes_finish hlast ahead' y').mp hattends.denotes
  refine ⟨hverdict, hfiles, ?_⟩
  rw [← houtput]
  exact (List.append_nil _).symm

end Rehearsal

end Pipework
