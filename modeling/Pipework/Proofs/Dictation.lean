import Pipework.Proofs.Chunking

/-!
# Dictation

A dictation asks for one line after another and keeps every answer, whatever its reads come to: it
goes on after a read that failed, and after the end of its input. So what it does and is answered is
what any use of a line buffer comes to (`dictation_exact`). It reads only while no line is complete
and the end of input has not been met, it loses nothing, and a read that fails leaves all as it was.

* `Task.Reached` — where a task comes through reads that turn out so.
* `Dictation.LinesConserved` — all that was read are the lines that were answered, each with its
  newline, and what is held.
* `Dictation.serve` — whatever program asks for a line, it is served as a dictation is.
-/

namespace Pipework

namespace LineBuffer

/-! ## What a buffer has to give -/

/-- All that can come of asking a buffer for a line. -/
inductive PollCases (b : LineBuffer) : Poll → Prop where
  | whole {line rest : Bytes} (hheld : b.held = line ++ newline :: rest) (hfree : newline ∉ line) :
      PollCases b (.line (Utf8.decodeLossy (Lines.dropReturn carriageReturn line))
        { b with held := rest })
  | last (hended : b.ended = true) (hfree : newline ∉ b.held) (hsome : b.held ≠ []) :
      PollCases b (.line (Utf8.decodeLossy b.held) { b with held := [] })
  | finished (hended : b.ended = true) (hheld : b.held = []) : PollCases b .finished
  | starved (hopen : b.ended = false) (hfree : newline ∉ b.held) : PollCases b .starved

theorem poll_cases (b : LineBuffer) : b.PollCases b.poll := by
  obtain ⟨held, ended⟩ := b
  unfold poll
  cases hcut : cut? held with
  | some pair =>
    obtain ⟨line, rest⟩ := pair
    obtain ⟨hheld, hfree⟩ := cut?_eq_some hcut
    exact .whole hheld hfree
  | none =>
    have hfree := cut?_eq_none hcut
    cases ended with
    | false => exact .starved rfl hfree
    | true =>
      by_cases hheld : held = []
      · subst hheld
        exact .finished rfl rfl
      · have hsome : held.isEmpty = false := List.isEmpty_eq_false_iff.mpr hheld
        simp only [hsome]
        exact .last rfl hfree hheld

/-- **A buffer asks for input only while it holds no complete line** and has not met the end. -/
theorem poll_eq_starved {b : LineBuffer} :
    b.poll = .starved ↔ newline ∉ b.held ∧ b.ended = false := by
  have hpolled := b.poll_cases
  generalize b.poll = p at hpolled
  cases hpolled with
  | whole hheld hfree =>
    refine iff_of_false nofun fun h => h.1 ?_
    rw [hheld]
    simp
  | last hended => exact iff_of_false nofun fun h => Bool.false_ne_true (h.2.symm.trans hended)
  | finished hended => exact iff_of_false nofun fun h => Bool.false_ne_true (h.2.symm.trans hended)
  | starved hopen hfree => exact iff_of_true rfl ⟨hfree, hopen⟩

end LineBuffer

/-! ## Through reads -/

variable {P : Type} [Program P]

/-- A task comes here by itself and through its reads if these turn out so, one after another. What
a read is answered is free: any bytes, none at all, or a fault. -/
inductive Task.Reached (t : Task P) : List (Except Fault Bytes) → Task P → Prop where
  | start : Reached t [] t
  | silent {results : List (Except Fault Bytes)} {t' next : Task P} (h : Reached t results t')
      (hact : t'.act = .silent next) : Reached t results next
  | read {results : List (Except Fault Bytes)} {t' : Task P} {limit : Nat} {answer}
      (h : Reached t results t') (hact : t'.act = .read limit answer)
      (result : Except Fault Bytes) :
      Reached t (results ++ [result]) (answer result)

theorem Task.Reached.trans {t t' t'' : Task P} {results more : List (Except Fault Bytes)}
    (h : t.Reached results t') (h' : t'.Reached more t'') : t.Reached (results ++ more) t'' := by
  induction h' with
  | start =>
    rw [List.append_nil]
    exact h
  | silent _ hact ih => exact ih.silent hact
  | read _ hact result ih =>
    rw [← List.append_assoc]
    exact ih.read hact result

/-- The same act of a task in whose place another stands. -/
def Act.map {Q : Type} [Program Q] (f : Task P → Task Q) : Act P → Act Q
  | .silent next => .silent (f next)
  | .read limit answer => .read limit fun result => f (answer result)
  | .write data answer => .write data fun result => f (answer result)
  | .finish verdict files => .finish verdict files

/-- The reads of a rehearsal turn out so, one after another. -/
inductive Rehearsal.Answers : Rehearsal → List (Except Fault Bytes) → Rehearsal → Prop where
  | nothing (r : Rehearsal) : Answers r [] r
  | read {r r' after : Rehearsal} {result : Except Fault Bytes}
      {results : List (Except Fault Bytes)} (hread : r.read LineBuffer.pieceLimit = (result, r'))
      (hrest : Answers r' results after) : Answers r (result :: results) after

/-- A read that fails is the answer to the call that made it. -/
theorem Rehearsal.nextLine_failed {r after : Rehearsal} {b : LineBuffer} {why : Fault}
    (hpoll : b.poll = .starved) (hread : r.read LineBuffer.pieceLimit = (.error why, after)) :
    r.nextLine b = (.error why, b, after) := by
  rw [nextLine, hpoll]
  dsimp only
  split
  · rename_i hfailed
    cases hread.symm.trans hfailed
    rfl
  · rename_i hgiven
    cases hread.symm.trans hgiven

/-- All bytes that reads gave. -/
def received (results : List (Except Fault Bytes)) : Bytes :=
  results.flatMap fun result => result.toOption.getD []

/-- The program that asks for line after line and keeps the answers. -/
structure Dictation where

instance : Program Dictation where
  State := List (Except Fault (Option String))
  start _ _ := []
  demand answers := .line fun answer => answers ++ [answer]

namespace Dictation

/-- What a dictation was answered so far. -/
def answers (t : Task Dictation) : List (Except Fault (Option String)) := t.state

/-- The lines among the answers. -/
def texts (t : Task Dictation) : List String :=
  (answers t).filterMap fun answer => answer.toOption.getD none

/-- A dictation asks for a line, whatever it was answered. -/
theorem act_eq (t : Task Dictation) : t.act =
    match t.lines.poll with
    | .line text after => .silent ⟨answers t ++ [.ok (some text)], after, t.gathered⟩
    | .finished => .silent ⟨answers t ++ [.ok none], t.lines, t.gathered⟩
    | .starved => .read LineBuffer.pieceLimit fun
      | .ok data => { t with lines := t.lines.feed data }
      | .error why => ⟨answers t ++ [.error why], t.lines, t.gathered⟩ := by
  unfold Task.act
  show (match t.lines.poll with
    | .line text after => _
    | .finished => _
    | .starved => _) = _
  cases t.lines.poll with
  | starved =>
    refine congrArg (Act.read LineBuffer.pieceLimit) (funext fun result => ?_)
    cases result <;> rfl
  | _ => rfl

/-! ## Nothing is lost -/

/-- All that was read are whole lines, each with its newline, then what stood behind the last newline
at the end of the input if that was a line too, then what is held. The texts answered are those of
the lines. -/
structure LinesConserved (results : List (Except Fault Bytes)) (t : Task Dictation)
    (whole : List Bytes) (last : Bytes) : Prop where
  bytes : received results =
    (whole.map (· ++ [LineBuffer.newline])).flatten ++ last ++ t.lines.held
  cut : ∀ line ∈ whole, LineBuffer.newline ∉ line
  uncut : LineBuffer.newline ∉ last
  ended : t.lines.ended = true ↔ .ok [] ∈ results
  atEnd : last ≠ [] → .ok [] ∈ results ∧ t.lines.held = []
  texts : texts t =
    whole.map (fun line => Utf8.decodeLossy (Lines.dropReturn LineBuffer.carriageReturn line)) ++
      if last = [] then [] else [Utf8.decodeLossy last]

variable {results : List (Except Fault Bytes)} {t t' next : Task Dictation} {whole : List Bytes}
  {last : Bytes}

theorem texts_answered (t : Task Dictation) (answer : Except Fault (Option String))
    (lines : LineBuffer) (gathered : Bytes) :
    texts ⟨answers t ++ [answer], lines, gathered⟩ =
      texts t ++ (answer.toOption.getD none).toList := by
  show List.filterMap _ (answers t ++ [answer]) = _
  rw [List.filterMap_append]
  cases hanswer : answer.toOption.getD none <;> simp [texts, hanswer]

theorem received_append (results : List (Except Fault Bytes)) (result : Except Fault Bytes) :
    received (results ++ [result]) = received results ++ result.toOption.getD [] := by
  rw [received, List.flatMap_append]
  simp [received]

/-- A dictation that goes on by itself was answered by a line of what is held, or by the end. -/
theorem LinesConserved.silent (h : LinesConserved results t whole last)
    (hact : t.act = .silent next) : ∃ whole' last', LinesConserved results next whole' last' := by
  rw [act_eq] at hact
  have hpolled := t.lines.poll_cases
  generalize t.lines.poll = p at hact hpolled
  cases hpolled with
  | @whole line rest hheld hfree =>
    cases hact
    have hnone : last = [] := by
      by_contra hsome
      rw [(h.atEnd hsome).2] at hheld
      simp at hheld
    subst hnone
    refine ⟨whole ++ [line], [], ?_, ?_, h.uncut, h.ended, nofun, ?_⟩
    · rw [h.bytes, hheld]
      simp
    · intro line' hline'
      rcases List.mem_append.mp hline' with hline' | hline'
      · exact h.cut line' hline'
      · rwa [List.mem_singleton.mp hline']
    · rw [texts_answered, h.texts]
      simp [Except.toOption]
  | last hended hfree hsome =>
    cases hact
    have hnone : last = [] := by
      by_contra hlast
      exact hsome (h.atEnd hlast).2
    subst hnone
    refine ⟨whole, t.lines.held, ?_, h.cut, hfree, h.ended, fun _ => ⟨h.ended.mp hended, rfl⟩, ?_⟩
    · rw [h.bytes]
      simp
    · rw [texts_answered, h.texts]
      simp [hsome, Except.toOption]
  | finished hended hheld =>
    cases hact
    refine ⟨whole, last, h.bytes, h.cut, h.uncut, h.ended, h.atEnd, ?_⟩
    rw [texts_answered, h.texts]
    simp [Except.toOption]
  | starved hopen hfree => cases hact

/-- A read adds what it gave to what is held; one that failed adds nothing. -/
theorem LinesConserved.read (h : LinesConserved results t whole last) {limit : Nat} {answer}
    (hact : t.act = .read limit answer) (result : Except Fault Bytes) :
    LinesConserved (results ++ [result]) (answer result) whole last := by
  rw [act_eq] at hact
  have hpolled := t.lines.poll_cases
  generalize t.lines.poll = p at hact hpolled
  cases hpolled with
  | starved hopen hfree =>
    cases hact
    have hunended : .ok [] ∉ results := fun hmem => by
      cases hopen.symm.trans (h.ended.mpr hmem)
    have hnone : last = [] := by
      by_contra hlast
      exact hunended (h.atEnd hlast).1
    subst hnone
    have hbytes := received_append results result
    rw [h.bytes] at hbytes
    cases result with
    | ok data =>
      refine ⟨?_, h.cut, h.uncut, ?_, nofun, h.texts⟩
      · rw [hbytes, LineBuffer.feed_held]
        simp [Except.toOption]
      · rw [LineBuffer.feed_ended, hopen]
        simp [hunended]
    | error why =>
      refine ⟨?_, h.cut, h.uncut, ?_, nofun, ?_⟩
      · rw [hbytes]
        simp [Except.toOption]
      · simp [hopen, hunended]
      · rw [texts_answered, h.texts]
        simp [Except.toOption]
  | _ => cases hact

/-- **A dictation keeps all that it reads**, through any reads. -/
theorem reached_linesConserved (inv : Invocation)
    (h : (Task.start Dictation.mk inv).Reached results t) :
    ∃ whole last, LinesConserved results t whole last := by
  induction h with
  | start => exact ⟨[], [], rfl, nofun, nofun, by simp [Task.start, LineBuffer.empty], nofun, rfl⟩
  | silent _ hact ih =>
    obtain ⟨whole, last, hkept⟩ := ih
    exact hkept.silent hact
  | read _ hact result ih =>
    obtain ⟨whole, last, hkept⟩ := ih
    exact ⟨whole, last, hkept.read hact result⟩

/-! ## Reads -/

/-- A dictation reads, or is answered at once. -/
theorem reads_or_answered (t : Task Dictation) : (∃ limit answer, t.act = .read limit answer) ∨
    ∃ next line?, t.act = .silent next ∧ answers next = answers t ++ [.ok line?] := by
  rw [act_eq]
  cases t.lines.poll with
  | line text after => exact .inr ⟨_, some text, rfl, rfl⟩
  | finished => exact .inr ⟨_, none, rfl, rfl⟩
  | starved => exact .inl ⟨_, _, rfl⟩

theorem reads_iff (t : Task Dictation) : (∃ limit answer, t.act = .read limit answer) ↔
    LineBuffer.newline ∉ t.lines.held ∧ t.lines.ended = false := by
  rw [← LineBuffer.poll_eq_starved, act_eq]
  cases t.lines.poll with
  | starved => exact iff_of_true ⟨_, _, rfl⟩ rfl
  | _ => exact iff_of_false nofun nofun

/-- A read that fails is answered by its fault, and leaves all else as it was. -/
theorem read_failed {limit : Nat} {answer} (hact : t.act = .read limit answer) (why : Fault) :
    answer (.error why) = ⟨answers t ++ [.error why], t.lines, t.gathered⟩ := by
  rw [act_eq] at hact
  cases hpoll : t.lines.poll with
  | starved =>
    rw [hpoll] at hact
    cases hact
    rfl
  | _ =>
    rw [hpoll] at hact
    cases hact

theorem answers_filter (t : Task Dictation) (answer : Except Fault (Option String))
    (lines : LineBuffer) (gathered : Bytes) :
    (answers ⟨answers t ++ [answer], lines, gathered⟩).filter Except.isOk =
      (answers t).filter Except.isOk ++ if answer.isOk then [answer] else [] := by
  show (answers t ++ [answer]).filter _ = _
  rw [List.filter_append]
  cases answer <;> rfl

/-- **Without the reads that failed a dictation comes to the same**, but for the faults among its
answers. -/
theorem reached_unfailing (inv : Invocation)
    (h : (Task.start Dictation.mk inv).Reached results t) :
    ∃ t', (Task.start Dictation.mk inv).Reached (results.filter Except.isOk) t' ∧
      t'.lines = t.lines ∧ answers t' = (answers t).filter Except.isOk := by
  induction h with
  | start => exact ⟨_, .start, rfl, rfl⟩
  | @silent results t next _ hact ih =>
    obtain ⟨t', hthrough, hlines, hanswers⟩ := ih
    have hact' := act_eq t'
    rw [act_eq] at hact
    rw [hlines] at hact'
    cases hpoll : t.lines.poll with
    | line text after =>
      rw [hpoll] at hact hact'
      cases hact
      refine ⟨_, hthrough.silent hact', rfl, ?_⟩
      rw [answers_filter, ← hanswers]
      rfl
    | finished =>
      rw [hpoll] at hact hact'
      cases hact
      refine ⟨_, hthrough.silent hact', rfl, ?_⟩
      rw [answers_filter, ← hanswers]
      rfl
    | starved =>
      rw [hpoll] at hact
      cases hact
  | @read results t limit answer _ hact result ih =>
    obtain ⟨t', hthrough, hlines, hanswers⟩ := ih
    have hact' := act_eq t'
    rw [act_eq] at hact
    rw [hlines] at hact'
    cases hpoll : t.lines.poll with
    | starved =>
      rw [hpoll] at hact hact'
      cases hact
      rw [List.filter_append]
      cases result with
      | ok data => exact ⟨_, hthrough.read hact' (.ok data), rfl, hanswers⟩
      | error why =>
        refine ⟨t', ?_, hlines, ?_⟩
        · exact (List.append_nil _).symm ▸ hthrough
        · rw [answers_filter, ← hanswers]
          exact (List.append_nil _).symm
    | _ =>
      rw [hpoll] at hact
      cases hact

/-! ## Whoever asks -/

/-- Where a task comes that asks for a line as a dictation does. -/
def serve (u : Task P) (answer : Except Fault (Option String) → Program.State P)
    (t next : Task Dictation) : Task P :=
  ⟨((answers next)[(answers t).length]?.map answer).getD u.state, next.lines, u.gathered⟩

/-- **Whatever program asks for a line is served as a dictation is.** -/
theorem act_served {u : Task P} {answer} (hd : Program.demand u.state = .line answer)
    (hlines : u.lines = t.lines) : u.act = t.act.map (serve u answer t) := by
  have hnext : ∀ a lines gathered, serve u answer t ⟨answers t ++ [a], lines, gathered⟩ =
      ⟨answer a, lines, u.gathered⟩ := by
    intro a lines gathered
    show Task.mk (((answers t ++ [a])[(answers t).length]?.map answer).getD u.state) _ _ = _
    rw [List.getElem?_concat_length]
    rfl
  have hsame : ∀ lines, serve u answer t { t with lines } = { u with lines } := by
    intro lines
    show Task.mk (((answers t)[(answers t).length]?.map answer).getD u.state) _ _ = _
    rw [List.getElem?_length]
    rfl
  rw [act_eq]
  simp only [Task.act, hd, hlines]
  cases t.lines.poll with
  | line text after => simp only [Act.map, hnext]
  | finished => simp only [Act.map, hnext]
  | starved =>
    refine congrArg (Act.read LineBuffer.pieceLimit) (funext fun result => ?_)
    cases result with
    | ok data => simp only [Task.gotPiece, hsame, hlines]
    | error why => simp only [Task.gotPiece, hnext, hlines]

/-- Where no read is needed, the call is what the dictation is answered at once. -/
theorem nextLine_answered (t : Task Dictation) (r : Rehearsal) (hpoll : t.lines.poll ≠ .starved) :
    ∃ t', t.act = .silent t' ∧ r.nextLine t.lines =
      ((r.nextLine t.lines).1, t'.lines, r) ∧
        answers t' = answers t ++ [(r.nextLine t.lines).1] := by
  rw [act_eq, Rehearsal.nextLine]
  cases hcase : t.lines.poll with
  | line text after => exact ⟨_, rfl, rfl, rfl⟩
  | finished => exact ⟨_, rfl, rfl, rfl⟩
  | starved => exact absurd hcase hpoll

/-- **A call for a line in a rehearsal is what a dictation does until it is answered**, through the
reads that the rehearsal gives. -/
theorem nextLine_reached (t : Task Dictation) (r : Rehearsal) : ∃ results t', t.Reached results t' ∧
    r.Answers results (r.nextLine t.lines).2.2 ∧ t'.lines = (r.nextLine t.lines).2.1 ∧
      answers t' = answers t ++ [(r.nextLine t.lines).1] := by
  induction hlength : r.remaining using Nat.strongRecOn generalizing r t with
  | _ length ih =>
    by_cases hpoll : t.lines.poll = .starved
    · have hact := act_eq t
      rw [hpoll] at hact
      rcases hread : r.read LineBuffer.pieceLimit with ⟨result, r'⟩
      cases result with
      | error why =>
        rw [Rehearsal.nextLine_failed hpoll hread]
        exact ⟨[.error why], _, Task.Reached.start.read hact _, .read hread (.nothing r'), rfl, rfl⟩
      | ok data =>
        rw [Rehearsal.nextLine_starved hpoll hread]
        have hfed := Task.Reached.start.read hact (.ok data)
        have hrest : ∃ results t', Task.Reached { t with lines := t.lines.feed data } results t' ∧
            r'.Answers results (r'.nextLine (t.lines.feed data)).2.2 ∧
            t'.lines = (r'.nextLine (t.lines.feed data)).2.1 ∧
            answers t' = answers t ++ [(r'.nextLine (t.lines.feed data)).1] := by
          by_cases hdata : data = []
          · subst hdata
            obtain ⟨t', hact', hnext, hanswers⟩ := nextLine_answered
              { t with lines := t.lines.feed [] } r'
              (LineBuffer.poll_ne_starved (LineBuffer.feed_nil_ended t.lines))
            rw [hnext]
            exact ⟨[], t', Task.Reached.start.silent hact', .nothing r', rfl, hanswers⟩
          · exact ih _ (hlength ▸ Rehearsal.read_remaining hread hdata)
              { t with lines := t.lines.feed data } r' rfl
        obtain ⟨results, t', hthrough, hgives, hlines, hanswers⟩ := hrest
        exact ⟨.ok data :: results, t', hfed.trans hthrough, .read hread hgives, hlines, hanswers⟩
    · obtain ⟨t', hact, hnext, hanswers⟩ := nextLine_answered t r hpoll
      rw [hnext]
      exact ⟨[], t', Task.Reached.start.silent hact, .nothing r, rfl, hanswers⟩

/-- **A line buffer keeps what it reads, and reads only what it must.** Wherever a dictation comes
through any reads: all bytes that these gave are the lines answered, each with its newline, then
what stood behind the last newline at the end of the input, then what the buffer holds; the next
thing is a read exactly while no complete line is held and no read has given nothing, and an answer
otherwise; a read that fails is answered by its fault and leaves the buffer as it was; and without
the reads that failed the dictation comes to the same buffer and the same lines. Any program that
asks for a line is served so, and so is a rehearsal. -/
theorem dictation_exact (inv : Invocation)
    (h : (Task.start Dictation.mk inv).Reached results t) :
    (∃ whole last, LinesConserved results t whole last) ∧
    ((∃ limit answer, t.act = .read limit answer) ↔
      LineBuffer.newline ∉ t.lines.held ∧ .ok [] ∉ results) ∧
    ((∃ limit answer, t.act = .read limit answer) ∨
      ∃ next line?, t.act = .silent next ∧ answers next = answers t ++ [.ok line?]) ∧
    (∀ limit answer, t.act = .read limit answer → ∀ why,
      answer (.error why) = ⟨answers t ++ [.error why], t.lines, t.gathered⟩) ∧
    (∃ t', (Task.start Dictation.mk inv).Reached (results.filter Except.isOk) t' ∧
      t'.lines = t.lines ∧ answers t' = (answers t).filter Except.isOk) ∧
    (∀ (P : Type) [Program P] (u : Task P) answer, Program.demand u.state = .line answer →
      u.lines = t.lines → u.act = t.act.map (serve u answer t)) ∧
    ∀ r : Rehearsal, ∃ more t', t.Reached more t' ∧ r.Answers more (r.nextLine t.lines).2.2 ∧
      t'.lines = (r.nextLine t.lines).2.1 ∧
      answers t' = answers t ++ [(r.nextLine t.lines).1] := by
  obtain ⟨whole, last, hkept⟩ := reached_linesConserved inv h
  refine ⟨⟨whole, last, hkept⟩, ?_, reads_or_answered t, fun _ _ hact => read_failed hact,
    reached_unfailing inv h, fun _ _ _ _ hd hlines => act_served hd hlines, nextLine_reached t⟩
  rw [reads_iff, ← hkept.ended, Bool.not_eq_true]

/-- A read that fails between the pieces of a line, and one that gives nothing behind half a line. -/
def interruptedReads : List (Except Fault Bytes) :=
  [.ok [97], .error (.of "interrupted"), .ok [13, 10, 98], .ok []]

theorem dictation_exact_interrupted :
    ∃ t t', (Task.start Dictation.mk ⟨[], [], .null⟩).Reached interruptedReads t ∧
      answers t =
        [.error (.of "interrupted"), .ok (some "a"), .ok (some "b"), .ok none] ∧
      (∃ whole last, LinesConserved interruptedReads t whole last) ∧
      (¬ ∃ limit answer, t.act = .read limit answer) ∧
      (Task.start Dictation.mk ⟨[], [], .null⟩).Reached [.ok [97], .ok [13, 10, 98], .ok []] t' ∧
      answers t' = [.ok (some "a"), .ok (some "b"), .ok none] := by
  have hthrough := Task.Reached.start (t := Task.start Dictation.mk ⟨[], [], .null⟩)
    |>.read rfl (.ok [97]) |>.read rfl (.error (.of "interrupted")) |>.read rfl (.ok [13, 10, 98])
    |>.silent rfl |>.read rfl (.ok []) |>.silent rfl |>.silent rfl
  obtain ⟨hkept, hreads, -, -, ⟨t', hthrough', -, hanswers⟩, -⟩ := dictation_exact _ hthrough
  refine ⟨_, t', hthrough, rfl, hkept, ?_, hthrough', hanswers⟩
  rw [hreads]
  exact fun h => h.2 (by decide)

end Dictation

end Pipework
