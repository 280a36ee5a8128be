import Pipework.Proofs.Run.Frame

/-!
# What a run asks for

The request state of a run is the part of it that has to do with typed lines: whether one is wanted
or on its way, the source, the lines that were handed out, and what passed between the run and its
first stage because of them. Only taking up a request, handling one of the first stage and handing a
line out touch it; every other function leaves it alone, however it ends. So a choice that ends a
run changes nothing of what it asks for (`requestState_of_over`), and what is so of every active run
stays so when the run is over (`requestState_reached`).
-/

namespace Pipework

namespace Effect

def lineRead? : Effect → Option (Option String)
  | .lineRead line => some line
  | _ => none

end Effect

namespace Session

variable {F : Type}

/-- The lines and ends of input that were handed out, in order. -/
def linesRead (s : Session F) : List (Option String) := s.effects.reverse.filterMap Effect.lineRead?

@[simp] theorem linesRead_record (s : Session F) (effects : List Effect) :
    (s.record effects).linesRead = s.linesRead ++ effects.filterMap Effect.lineRead? := by
  simp [linesRead, record]

theorem lineEnds_eq_count (s : Session F) : s.lineEnds = s.linesRead.count none := by
  have hcount : ∀ effects : List Effect,
      (effects.filterMap Effect.lineRead?).count none = effects.count (.lineRead none) := by
    intro effects
    induction effects with
    | nil => rfl
    | cons e effects ih =>
      cases e with
      | lineRead line =>
        cases line <;> simp [Effect.lineRead?, ih]
      | _ => simp [List.filterMap_cons, Effect.lineRead?, ih]
  rw [linesRead, hcount, List.count_reverse]
  rfl

end Session

theorem Console.print_lines (c : Console) (text : String) :
    (c.print text).filterMap Effect.lineRead? = [] := by
  unfold print
  split <;> rfl

theorem Resolver.lines_resolved {P : Type} {r : Resolver P} {past : List Request}
    {parsed : List Statement} {effects : List Effect} {result : Except Failure (List (Stage P))}
    (h : r.statements past parsed = (effects, result)) : effects.filterMap Effect.lineRead? = [] :=
  statements_filterMap _ (fun _ => rfl) rfl (fun _ _ => rfl) h

namespace Run

variable {P F : Type} [Program P] [Filesystem F] {ctx : Setting P}

namespace Journal

/-- Requests of the first stage that were handled. -/
def requests (j : Journal) : Nat := j.count (.handled 0 .wantsInput)

/-- What was written to the channel of the first stage, in order. -/
def typed (j : Journal) : List Bytes :=
  (j.filterMap fun
    | .written 0 data => some data
    | _ => none).reverse

/-- What the channel of the first stage refused, in order. -/
def refused (j : Journal) : List Bytes :=
  (j.filterMap fun
    | .refused 0 data _ => some data
    | _ => none).reverse

end Journal

structure RequestState where
  wanted : Bool
  reading : Reading
  input : Option LineSource
  lines : List (Option String)
  requests : Nat
  typed : List Bytes
  refused : List Bytes

def requestState (r : Run P F) : RequestState where
  wanted := r.wanted
  reading := r.reading
  input := r.session.input
  lines := r.session.linesRead
  requests := r.journal.requests
  typed := r.journal.typed
  refused := r.journal.refused

/-- A request is taken up. -/
def RequestState.takeUp (a : RequestState) : RequestState :=
  if a.wanted then
    { a with
      wanted := false
      reading := if a.reading = .idle && a.input.isSome then .due else a.reading }
  else a

/-- What becomes of a request state while nothing happens on the pipeline. -/
inductive RequestState.Turn (a : RequestState) : RequestState → Prop where
  | unchanged : Turn a a
  | tookUp : Turn a a.takeUp
  /-- The source was asked and has no line yet. -/
  | waits {source : LineSource} (hdue : a.reading = .due) (hinput : a.input = some source) :
      Turn a { a with reading := .waiting, input := some source.ask }

/-! ## What leaves it alone -/

variable (r : Run P F)

theorem requestState_takeUp : r.takeUp.requestState = r.requestState.takeUp := by
  unfold takeUp RequestState.takeUp
  cases hwanted : r.wanted with
  | true => simp only [requestState, hwanted, if_true]
  | false => simp only [requestState, hwanted, Bool.false_eq_true, if_false]

theorem requestState_record {effects : List Effect}
    (hquiet : effects.filterMap Effect.lineRead? = []) :
    (r.record effects).requestState = r.requestState := by
  simp only [requestState, record, Session.linesRead_record, hquiet, List.append_nil]
  rfl

theorem requestState_taken {index : Nat} {e : StageEvent} (mailbox : Mailbox (Nat × StageEvent))
    (h : (index, e) ≠ (0, .wantsInput)) :
    (r.taken index e mailbox).requestState = r.requestState := by
  have hnote : Note.handled index e ≠ .handled 0 .wantsInput := by
    rintro ⟨⟩
    exact h rfl
  simp [requestState, taken, note, Journal.requests, Journal.typed, Journal.refused, hnote]

/-- A request state does not see how stages are moved about. -/
theorem requestState_frameView : FrameView Effect.lineRead? (requestState (P := P) (F := F)) where
  print _ := rfl
  status _ := rfl
  clearStatus := rfl
  exported _ := rfl
  record r _ hquiet := requestState_record r hquiet
  started r index input := by
    simp [requestState, note, Journal.requests, Journal.typed, Journal.refused]
  written r index data := by
    simp [requestState, note, Journal.requests, Journal.typed, Journal.refused]
  refused r index data why := by
    simp [requestState, note, Journal.requests, Journal.typed, Journal.refused]
  complete r := by
    unfold complete
    split
    · rfl
    · exact requestState_record _ rfl
  moved r := by
    intros
    rfl

@[simp] theorem requestState_merge (changed : Option Snapshot) :
    (r.merge changed).requestState = r.requestState := by
  have hrecord : ∀ (s : Snapshot) (refusal : Option String),
      (r.record [.imported s refusal]).requestState = r.requestState := fun s refusal =>
        requestState_record r rfl
  unfold merge
  split
  · rfl
  · split
    · exact hrecord _ _
    · exact hrecord _ _

@[simp] theorem requestState_failStage (ctx : Setting P) (command : String) (why : Failure)
    (changed : Option Snapshot) :
    (failStage ctx command why changed r).requestState = r.requestState := by
  unfold failStage
  split
  · refine (requestState_frameView.kill _).trans ?_
    have hmerge : (if ctx.mergeOnError then
        (r.record (ctx.console.print (why.notice command))).merge changed
        else r.record (ctx.console.print (why.notice command))).requestState = r.requestState := by
      split
      · rw [requestState_merge, requestState_frameView.prints]
      · exact requestState_frameView.prints r _ _
    exact hmerge
  · rfl

@[simp] theorem requestState_retire (index : Nat) (changed : Option Snapshot) :
    (r.retire index changed).requestState = r.requestState := by
  have hmerge := requestState_merge { r with finished := index :: r.finished } changed
  unfold retire
  simp only
  split <;> exact hmerge

@[simp] theorem requestState_onEnd (ctx : Setting P) (index : Nat) (changed : Option Snapshot) :
    (onEnd ctx index changed r).requestState = r.requestState := by
  unfold onEnd
  simp only
  split
  · exact (requestState_frameView.succeed _).trans (requestState_retire r index changed)
  · rw [requestState_frameView.refill]
    exact (requestState_frameView.spawnWindow _ ctx _ _).trans (requestState_retire r index changed)

@[simp] theorem requestState_prepare (ctx : Setting P) :
    (r.prepare ctx).requestState = r.requestState := by
  have hrefuse : ∀ (why : Failure) (r : Run P F),
    (prepare.refuse ctx why r).requestState = r.requestState := by
    intro why r
    exact (requestState_frameView.complete _).trans (requestState_frameView.prints r _ _)
  have hprepared := prepare_cases ctx r
  generalize r.prepare ctx = r' at hprepared ⊢
  cases hprepared with
  | reported hreport => rfl
  | unreadable hparse => exact hrefuse _ r
  | unresolved hparse hresolve =>
    exact (hrefuse _ _).trans (requestState_record r (Resolver.lines_resolved hresolve))
  | ready hparse hresolve => exact requestState_record r (Resolver.lines_resolved hresolve)

/-! ## Choices that end a run -/

variable {r}

theorem takeUp_wanted (r : Run P F) : r.takeUp.wanted = false := by
  unfold takeUp
  split
  · rfl
  · rename_i hno
    simpa using hno

theorem RequestState.takeUp_of_unwanted {a : RequestState} (h : a.wanted = false) :
    a.takeUp = a := by
  simp [RequestState.takeUp, h]

/-- Between choices no request waits to be taken up. -/
theorem step_wanted (c : Choice) (h : r.wanted = false) : (step ctx r c).wanted = false := by
  cases c with
  | work index =>
    simp only [step]
    split
    · exact (congrArg RequestState.wanted (requestState_frameView.stepWork r index)).trans h
    · exact h
  | requestKill => exact h
  | kill =>
    simp only [step]
    split
    · exact (congrArg RequestState.wanted (requestState_frameView.kill r)).trans h
    · exact h
  | event =>
    simp only [step]
    split
    · unfold stepEvent
      split
      · exact h
      · exact takeUp_wanted _
    · exact h
  | line =>
    simp only [step]
    split
    · unfold stepLine
      split
      · exact h
      · simp only
        split
        · exact takeUp_wanted _
        · exact h
    · exact h

/-- **A choice that ends a run changes nothing of what it asks for.** -/
theorem requestState_of_over (c : Choice) (hwanted : r.wanted = false) (hon : r.active = true)
    (hoff : (step ctx r c).active = false) : (step ctx r c).requestState = r.requestState := by
  have hstays : ∀ r' : Run P F, r'.status = r.status → r'.active = true := by
    intro r' hstatus
    exact (congrArg Status.active hstatus).trans hon
  cases c with
  | work index =>
    simp only [step, if_pos hon]
    exact requestState_frameView.stepWork r index
  | requestKill => rfl
  | kill =>
    simp only [step]
    split
    · exact requestState_frameView.kill r
    · rfl
  | event =>
    simp only [step] at hoff ⊢
    split
    · rename_i hopen
      rw [if_pos hopen] at hoff
      have hhandled := stepEvent_cases ctx hon
      generalize stepEvent ctx r = after at hhandled hoff ⊢
      have htake : ∀ r' : Run P F, r'.requestState = r.requestState →
        r'.takeUp.requestState = r.requestState := by
        intro r' hsame
        rw [requestState_takeUp, hsame]
        exact RequestState.takeUp_of_unwanted hwanted
      cases hhandled with
      | none => rfl
      | dropped hqueue hgone => exact htake _ rfl
      | data hqueue hfound =>
        exact htake _
          ((requestState_frameView.onData _ ctx _ _).trans (requestState_taken r _ (by simp)))
      | ended hqueue hfound =>
        exact htake _ ((requestState_onEnd _ ctx _ _).trans (requestState_taken r _ (by simp)))
      | failed hqueue hfound =>
        exact htake _
          ((requestState_failStage _ ctx _ _ _).trans (requestState_taken r _ (by simp)))
      | @asked index mailbox h hqueue hfound =>
        have hactive : (onRequest index (r.taken index .wantsInput mailbox)).active = true :=
          hstays _ (status_onRequest _ index)
        rw [takeUp_active, hactive] at hoff
        cases hoff
    · rfl
  | line =>
    have hline : r.stepLine.active = true := by
      unfold stepLine
      split
      · exact hon
      · simp only
        split
        · rw [takeUp_active]
          exact (congrArg Status.active (status_onLine _ _)).trans hon
        · exact hon
    simp only [step] at hoff
    split at hoff
    · exact absurd (hline.symm.trans hoff) (by decide)
    · exact absurd (hon.symm.trans hoff) (by decide)

/-! ## From the beginning -/

theorem requestState_activate (ctx : Setting P) (h : r.wanted = false) :
    (activate ctx r).requestState = r.requestState := by
  have hspawned : (spawnFrom ctx 0 { r with active := true }).requestState = r.requestState :=
    requestState_frameView.spawnWindow { r with active := true } ctx _ _
  unfold activate
  split
  · rfl
  · simp only
    split
    · exact requestState_frameView.kill _
    · rw [requestState_takeUp, hspawned]
      exact RequestState.takeUp_of_unwanted h

/-- A run that has just begun has asked for nothing. -/
theorem requestState_begun (ctx : Setting P) (line : String) (s : Session F) (killed : Bool) :
    (reached ctx line s killed []).requestState = (Run.new line s : Run P F).requestState := by
  have hprepared := requestState_prepare (Run.new line s : Run P F) ctx
  exact (requestState_activate
    (r := { (Run.new line s).prepare ctx with killRequested := killed }) ctx
    (congrArg RequestState.wanted hprepared)).trans hprepared

/-- No request ever waits to be taken up. -/
theorem reached_wanted (ctx : Setting P) (line : String) (s : Session F) (killed : Bool)
    (choices : List Choice) : (reached ctx line s killed choices).wanted = false := by
  induction choices using List.reverseRecOn with
  | nil => exact congrArg RequestState.wanted (requestState_begun ctx line s killed)
  | append_singleton choices c ih =>
    rw [reached_concat]
    exact step_wanted c ih

/-- **What is so of the request state of every active run, and of one that has asked for nothing, is
so of the request state of every run that was reached.** -/
theorem requestState_reached (ctx : Setting P) (line : String) (s : Session F) (killed : Bool)
    {Q : RequestState → Prop} (hfresh : Q (Run.new line s : Run P F).requestState)
    (hactive : ∀ choices, (reached ctx line s killed choices).active = true →
      Q (reached ctx line s killed choices).requestState) (choices : List Choice) :
    Q (reached ctx line s killed choices).requestState := by
  induction choices using List.reverseRecOn with
  | nil =>
    rw [requestState_begun]
    exact hfresh
  | append_singleton choices c ih =>
    cases hafter : (reached ctx line s killed (choices ++ [c])).active with
    | true => exact hactive _ hafter
    | false =>
      have hwanted := reached_wanted ctx line s killed choices
      rw [reached_concat] at hafter ⊢
      generalize reached ctx line s killed choices = r at ih hwanted hafter
      cases hon : r.active with
      | true =>
        rw [requestState_of_over c hwanted hon hafter]
        exact ih
      | false =>
        by_cases hrequest : c = .requestKill
        · subst hrequest
          exact ih
        · rw [step_inactive hrequest hon]
          exact ih

end Run

end Pipework
