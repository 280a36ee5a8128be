import Pipework.Proofs.Leaving
import Pipework.Proofs.Run.Completion

/-!
# What a run merges

The ledger of a run is the part of it that has to do with changed snapshots: which stages closed and
with what, what the filesystem was given to take over, and how often it did. Only the event that
closes a stage touches it (`step_ledger`), and every run keeps its books (`reached_ledgerInv`): the
filesystem was given just what the closed stages had changed, in that order, and the report counts
what it took.
-/

namespace Pipework

/-! ## Imports -/

namespace Effect

/-- A snapshot that was to be taken over, and why it was not. -/
def imported? : Effect → Option (Snapshot × Option String)
  | .imported files refusal => some (files, refusal)
  | _ => none

end Effect

namespace Session

variable {F : Type}

/-- The snapshots that the filesystem was to take over, in order, and why it refused one. -/
def imported (s : Session F) : List (Snapshot × Option String) :=
  s.effects.reverse.filterMap Effect.imported?

@[simp] theorem imported_record (s : Session F) (effects : List Effect) :
    (s.record effects).imported = s.imported ++ effects.filterMap Effect.imported? := by
  simp [imported, record]

end Session

namespace Filesystem

variable {F : Type} [Filesystem F]

/-- Why a filesystem does not take a snapshot over. -/
def refusal? (files : F) (s : Snapshot) : Option String :=
  match accept files s with
  | .ok _ => none
  | .error why => some why.full

/-- The filesystem after it was given one snapshot after the other. -/
def afterAll (files : F) (given : List Snapshot) : F :=
  given.foldl (fun files s => after files (some s)) files

/-- What a filesystem makes of the snapshots that it is given one after the other. -/
def offers (files : F) : List Snapshot → List (Snapshot × Option String)
  | [] => []
  | s :: rest => (s, refusal? files s) :: offers (after files (some s)) rest

theorem offers_concat (given : List Snapshot) (s : Snapshot) : ∀ files : F,
    offers files (given ++ [s]) =
      offers files given ++ [(s, refusal? (afterAll files given) s)] := by
  induction given with
  | nil => exact fun _ => rfl
  | cons first rest ih => exact fun files => congrArg (_ :: ·) (ih _)

/-- Where nothing is refused every snapshot is taken over. -/
theorem offers_of_taken {given : List Snapshot}
    (htaken : ∀ s ∈ given, ∀ files : F, refusal? files s = none) : ∀ files : F,
    offers files given = given.map (·, none) := by
  induction given with
  | nil => exact fun _ => rfl
  | cons first rest ih =>
    intro files
    rw [offers, htaken first (List.mem_cons_self ..),
      ih (fun s hs => htaken s (List.mem_cons_of_mem _ hs)), List.map_cons]

end Filesystem

/-! ## Closings -/

namespace StageEvent

def isEnd : StageEvent → Bool
  | .ended _ => true
  | _ => false

/-- What is to be merged when the event is handled. -/
def merged? (mergeOnError : Bool) : StageEvent → Option Snapshot
  | .ended changed => changed
  | .failed _ changed => if mergeOnError then changed else none
  | .data _ | .wantsInput => none

theorem changed?_of_merged? {e : StageEvent} {mergeOnError : Bool} {left : Snapshot}
    (h : e.merged? mergeOnError = some left) : e.changed? = some left := by
  cases e with
  | failed message changed =>
    cases mergeOnError with
    | true => exact h
    | false => cases h
  | _ => exact h

end StageEvent

namespace Run

/-- A stage of which the end or the failure was handled. -/
def Note.closing? : Note → Option (Nat × StageEvent)
  | .handled index e => if e.isClosing then some (index, e) else none
  | _ => none

/-- The stages that have ended or failed, in order, with the events that closed them. -/
def Journal.closings (j : Journal) : List (Nat × StageEvent) :=
  (j.filterMap Note.closing?).reverse

/-- Those of the stages that have closed that did so with a changed snapshot, and what they have
left; one that has failed is among them only where what it left is merged. -/
def changesOf (mergeOnError : Bool) (closings : List (Nat × StageEvent)) : List (Nat × Snapshot) :=
  closings.filterMap fun c => (c.2.merged? mergeOnError).map (c.1, ·)

/-- What those stages have left, for the filesystem to take over. -/
def changedBy (mergeOnError : Bool) (closings : List (Nat × StageEvent)) : List Snapshot :=
  (changesOf mergeOnError closings).map Prod.snd

structure Ledger (P F : Type) where
  stages : List (Stage P)
  finished : List Nat
  merges : Nat
  /-- What the report says of the merges, or would say if it went out. -/
  reported : Nat
  imports : List (Snapshot × Option String)
  closings : List (Nat × StageEvent)
  files : F

namespace Ledger

variable {P F : Type} [Filesystem F] {l : Ledger P F} {mergeOnError : Bool}
  {base : List (Snapshot × Option String)} {files : F}

/-- A snapshot is merged, or refused. -/
def merge (l : Ledger P F) : Option Snapshot → Ledger P F
  | none => l
  | some s =>
    let refusal := Filesystem.refusal? l.files s
    let more := if refusal.isNone then 1 else 0
    { l with
      merges := l.merges + more
      reported := l.reported + more
      imports := l.imports ++ [(s, refusal)]
      files := Filesystem.after l.files (some s) }

/-- A stage ends or fails. -/
def close (l : Ledger P F) (mergeOnError : Bool) (index : Nat) (e : StageEvent) : Ledger P F :=
  { l with
    finished := if e.isEnd then index :: l.finished else l.finished
    closings := l.closings ++ [(index, e)] : Ledger P F }.merge (e.merged? mergeOnError)

@[simp] theorem merge_stages (l : Ledger P F) (changed : Option Snapshot) :
    (l.merge changed).stages = l.stages := by
  cases changed <;> rfl

@[simp] theorem merge_finished (l : Ledger P F) (changed : Option Snapshot) :
    (l.merge changed).finished = l.finished := by
  cases changed <;> rfl

@[simp] theorem merge_closings (l : Ledger P F) (changed : Option Snapshot) :
    (l.merge changed).closings = l.closings := by
  cases changed <;> rfl

theorem close_closings (l : Ledger P F) (mergeOnError : Bool) (index : Nat) (e : StageEvent) :
    (l.close mergeOnError index e).closings = l.closings ++ [(index, e)] :=
  merge_closings _ _

theorem close_changes (l : Ledger P F) (mergeOnError : Bool) (index : Nat) (e : StageEvent) :
    changesOf mergeOnError (l.close mergeOnError index e).closings =
      changesOf mergeOnError l.closings ++ ((e.merged? mergeOnError).map (index, ·)).toList := by
  unfold changesOf
  rw [close_closings, List.filterMap_append]
  cases hmerged : e.merged? mergeOnError <;> simp [hmerged]

theorem close_changed (l : Ledger P F) (mergeOnError : Bool) (index : Nat) (e : StageEvent) :
    changedBy mergeOnError (l.close mergeOnError index e).closings =
      changedBy mergeOnError l.closings ++ (e.merged? mergeOnError).toList := by
  unfold changedBy
  rw [close_changes, List.map_append]
  cases e.merged? mergeOnError <;> rfl

/-- The filesystem was given what the closed stages had changed and nothing else, and what it took
was counted. -/
structure Inv (mergeOnError : Bool) (files : F) (base : List (Snapshot × Option String))
    (l : Ledger P F) : Prop where
  imports : l.imports = base ++ Filesystem.offers files (changedBy mergeOnError l.closings)
  merges : l.merges = (Filesystem.offers files (changedBy mergeOnError l.closings)).countP
    fun offer => offer.2.isNone
  files : l.files = Filesystem.afterAll files (changedBy mergeOnError l.closings)
  reported : l.reported = l.merges
  finished : l.finished.reverse = (l.closings.filter fun c => c.2.isEnd).map Prod.fst

theorem Inv.close (h : l.Inv mergeOnError files base) (index : Nat) (e : StageEvent) :
    (l.close mergeOnError index e).Inv mergeOnError files base where
  imports := by
    rw [close_changed]
    unfold Ledger.close
    cases e.merged? mergeOnError with
    | none => simpa [merge] using h.imports
    | some left => simp [merge, Filesystem.offers_concat, h.imports, h.files]
  merges := by
    rw [close_changed]
    unfold Ledger.close
    cases e.merged? mergeOnError with
    | none => simpa [merge] using h.merges
    | some left =>
      simp [merge, Filesystem.offers_concat, h.merges, h.files, List.countP_singleton]
  files := by
    rw [close_changed]
    unfold Ledger.close
    cases e.merged? mergeOnError with
    | none => simpa [merge] using h.files
    | some left => simp [merge, Filesystem.afterAll, h.files]
  reported := by
    unfold Ledger.close
    cases e.merged? mergeOnError with
    | none => exact h.reported
    | some left => exact congrArg (· + _) h.reported
  finished := by
    rw [close_closings, List.filter_append, List.map_append, ← h.finished]
    unfold Ledger.close
    cases he : e.isEnd <;> simp [he]

end Ledger

variable {P F : Type} [Program P] [Filesystem F] {ctx : Setting P}

def ledger (r : Run P F) : Ledger P F where
  stages := r.stages
  finished := r.finished
  merges := r.merges
  reported := (r.report.map Report.merges).getD r.merges
  imports := r.session.imported
  closings := r.journal.closings
  files := r.session.files

/-! ## What leaves it alone -/

variable (r : Run P F)

@[simp] theorem ledger_takeUp : r.takeUp.ledger = r.ledger := by
  unfold takeUp
  split <;> rfl

theorem ledger_record {effects : List Effect}
    (hquiet : effects.filterMap Effect.imported? = []) : (r.record effects).ledger = r.ledger := by
  have himported : (r.session.record effects).imported = r.session.imported := by
    rw [Session.imported_record, hquiet, List.append_nil]
  simp only [ledger, record, himported]
  rfl

theorem ledger_note {n : Note} (hn : n.closing? = none) : (r.note n).ledger = r.ledger := by
  simp only [ledger, note, Journal.closings, List.filterMap_cons_none hn]

theorem ledger_taken {index : Nat} {e : StageEvent} (mailbox : Mailbox (Nat × StageEvent))
    (hopen : e.isClosing = false) : (r.taken index e mailbox).ledger = r.ledger :=
  ledger_note { r with mailbox := mailbox } (by simp [Note.closing?, hopen])

/-- A ledger does not see how stages are moved about. -/
theorem ledger_frameView : FrameView Effect.imported? (ledger (P := P) (F := F)) where
  print _ := rfl
  status _ := rfl
  clearStatus := rfl
  exported _ := rfl
  record r _ hquiet := ledger_record r hquiet
  started r _ _ := ledger_note r rfl
  written r _ _ := ledger_note r rfl
  refused r _ _ _ := ledger_note r rfl
  complete r := by
    unfold complete
    split
    · rfl
    · rename_i hreport
      refine (ledger_record _ rfl).trans ?_
      simp only [ledger, hreport, Option.map_some, Option.map_none, Option.getD_some,
        Option.getD_none]
  moved r := by
    intros
    rfl

@[simp] theorem ledger_onRequest (index : Nat) : (onRequest index r).ledger = r.ledger := by
  unfold onRequest
  split
  · split <;> rfl
  · rfl

@[simp] theorem ledger_onLine (line : Option String) : (onLine line r).ledger = r.ledger := by
  unfold onLine
  split
  · rfl
  · simp only
    split
    · exact ledger_note _ rfl
    · exact ledger_note r rfl
  · rfl

@[simp] theorem ledger_stepLine : r.stepLine.ledger = r.ledger := by
  unfold stepLine
  split
  · rfl
  · simp only
    split
    · rw [ledger_takeUp, ledger_onLine]
      exact ledger_record _ rfl
    · rfl

/-! ## Stages that close -/

variable {r}

/-- Until a report is out a merge is counted for it. -/
theorem ledger_merge (hreport : r.report = none) (changed : Option Snapshot) :
    (r.merge changed).ledger = r.ledger.merge changed := by
  cases changed with
  | none => rfl
  | some s =>
    unfold merge
    simp only
    split
    · rename_i files htaken
      simp [Ledger.merge, Filesystem.refusal?, Filesystem.after, htaken, ledger, record,
        Session.record, Session.imported, Effect.imported?, hreport]
    · rename_i why hrefused
      simp [Ledger.merge, Filesystem.refusal?, Filesystem.after, hrefused, ledger, record,
        Session.record, Session.imported, Effect.imported?, hreport]

/-- The ledger with a stage closed whose snapshot is still to be merged. -/
theorem ledger_closed {index : Nat} {e : StageEvent} (mailbox : Mailbox (Nat × StageEvent))
    (hclosing : e.isClosing = true) :
    (r.taken index e mailbox).ledger =
      { r.ledger with closings := r.ledger.closings ++ [(index, e)] } := by
  simp [ledger, taken, note, Journal.closings, Note.closing?, hclosing]

theorem ledger_failed (hactive : r.active = true) (hreport : r.report = none) {index : Nat}
    {message : String} {changed : Option Snapshot} (mailbox : Mailbox (Nat × StageEvent))
    (command : String) (why : Failure) :
    (failStage ctx command why changed (r.taken index (.failed message changed) mailbox)).ledger =
      r.ledger.close ctx.mergeOnError index (.failed message changed) := by
  have htold : ∀ told : Run P F, told.report = none →
      told.ledger = { r.ledger with
        closings := r.ledger.closings ++ [(index, .failed message changed)] } →
      (if ctx.mergeOnError then told.merge changed else told).ledger =
        r.ledger.close ctx.mergeOnError index (.failed message changed) := by
    intro told hunreported hledger
    unfold Ledger.close StageEvent.merged?
    split
    · rw [ledger_merge hunreported, hledger]
      rfl
    · exact hledger
  have hprinted :=
    ledger_frameView.prints (r.taken index (.failed message changed) mailbox) ctx.console
    (why.notice command)
  unfold failStage
  rw [if_pos (show (r.taken index (.failed message changed) mailbox).active = true from hactive)]
  exact (ledger_frameView.kill _).trans
    (htold _ hreport (hprinted.trans (ledger_closed mailbox rfl)))

theorem ledger_retire (hreport : r.report = none) (index : Nat) (changed : Option Snapshot) :
    (r.retire index changed).ledger =
      { r.ledger with finished := index :: r.finished : Ledger P F }.merge changed := by
  have hmerged := ledger_merge (r := { r with finished := index :: r.finished }) hreport changed
  unfold retire
  simp only
  split <;> exact hmerged

theorem ledger_ended (hreport : r.report = none) (ctx : Setting P) {index : Nat}
    {changed : Option Snapshot} (mailbox : Mailbox (Nat × StageEvent)) :
    (onEnd ctx index changed (r.taken index (.ended changed) mailbox)).ledger =
      r.ledger.close ctx.mergeOnError index (.ended changed) := by
  have hretired : ((r.taken index (.ended changed) mailbox).retire index changed).ledger =
      r.ledger.close ctx.mergeOnError index (.ended changed) := by
    rw [ledger_retire (r := r.taken index (.ended changed) mailbox) hreport,
      ledger_closed mailbox rfl]
    rfl
  unfold onEnd
  simp only
  split
  · exact (ledger_frameView.succeed _).trans hretired
  · rw [ledger_frameView.refill]
    exact (ledger_frameView.spawnWindow _ ctx _ _).trans hretired

/-- What a choice does to the ledger. -/
inductive Ledger.Change (ctx : Setting P) (r r' : Run P F) : Prop where
  | same (hledger : r'.ledger = r.ledger)
  /-- A resident stage has closed; a run goes on only behind an end. -/
  | closed {index : Nat} {e : StageEvent} {rest : List (Nat × StageEvent)} {h : Host P}
      (hactive : r.active = true) (hqueue : r.pipeline.queue = (index, e) :: rest)
      (hfound : r.pipeline.host? index = some h) (hgoes : r'.active = true → e.isEnd = true)
      (hledger : r'.ledger = r.ledger.close ctx.mergeOnError index e)

theorem stepEvent_ledger (ctx : Setting P) (hactive : r.active = true) (hreport : r.report = none) :
    Ledger.Change ctx r (stepEvent ctx r) := by
  have hhandled := stepEvent_cases ctx hactive
  generalize stepEvent ctx r = after at hhandled ⊢
  cases hhandled with
  | none => exact .same rfl
  | @dropped index e mailbox hqueue hgone =>
    exact .same (ledger_takeUp { r with mailbox := mailbox })
  | data hqueue hfound =>
    refine .same ?_
    rw [ledger_takeUp, ledger_frameView.onData]
    exact ledger_taken r _ rfl
  | @ended index changed mailbox h hqueue hfound =>
    refine .closed hactive hqueue hfound (fun _ => rfl) ?_
    rw [ledger_takeUp]
    exact ledger_ended hreport ctx mailbox
  | @failed index message changed mailbox h hqueue hfound =>
    refine .closed hactive hqueue hfound (fun hon => ?_) ?_
    · rw [takeUp_active, failStage_inactive] at hon
      cases hon
    · rw [ledger_takeUp]
      exact ledger_failed hactive hreport mailbox _ _
  | asked hqueue hfound =>
    refine .same ?_
    rw [ledger_takeUp, ledger_onRequest]
    exact ledger_taken r _ rfl

/-- **A choice leaves the ledger alone, or a stage closes.** -/
theorem step_ledger (ctx : Setting P) (c : Choice) (hreport : r.active = true → r.report = none) :
    Ledger.Change ctx r (step ctx r c) := by
  cases c with
  | work index =>
    simp only [step]
    split
    · exact .same (ledger_frameView.stepWork r index)
    · exact .same rfl
  | requestKill => exact .same rfl
  | kill =>
    simp only [step]
    split
    · exact .same (ledger_frameView.kill r)
    · exact .same rfl
  | event =>
    simp only [step]
    split
    · rename_i hopen
      simp only [Bool.and_eq_true] at hopen
      exact stepEvent_ledger ctx hopen.1.1 (hreport hopen.1.1)
    · exact .same rfl
  | line =>
    simp only [step]
    split
    · exact .same (ledger_stepLine r)
    · exact .same rfl

/-! ## Keeping the books -/

/-- The books of a run are kept, and no stage has closed twice. -/
structure LedgerInv (ctx : Setting P) (base : Session F) (r : Run P F) : Prop where
  balanced : r.ledger.Inv ctx.mergeOnError base.files base.imported
  once : (r.ledger.closings.map Prod.fst).Nodup
  /-- While a run is active none of its stages has failed. -/
  ended : r.active = true → ∀ c ∈ r.ledger.closings, c.2.isEnd = true

theorem LedgerInv.step {base : Session F} (h : LedgerInv ctx base r) (c : Choice)
    (hordered : r.active = true → r.pipeline.OrderInv)
    (hreport : r.active = true → r.report = none) : LedgerInv ctx base (step ctx r c) := by
  have hgoing : (Run.step ctx r c).active = true → r.active = true := active_of_step
  cases step_ledger ctx c hreport with
  | same hledger =>
    constructor
    · rw [hledger]
      exact h.balanced
    · rw [hledger]
      exact h.once
    · rw [hledger]
      exact fun hon => h.ended (hgoing hon)
  | @closed index e rest host hactive hqueue hfound hgoes hledger =>
    constructor
    · rw [hledger]
      exact h.balanced.close index e
    · rw [hledger, Ledger.close_closings, List.map_append, List.nodup_append]
      refine ⟨h.once, List.nodup_singleton _, fun k hk i hi hsame => ?_⟩
      -- every stage that has closed is among the finished ones, and a resident is not
      have hended : r.ledger.closings.filter (fun c => c.2.isEnd) = r.ledger.closings :=
        List.filter_eq_self.mpr (h.ended hactive)
      have hfinished := h.balanced.finished
      rw [hended] at hfinished
      rw [← hfinished, List.mem_reverse, hsame, List.mem_singleton.mp hi] at hk
      exact ((hordered hactive).resident hfound).2 hk
    · intro hon c hc
      rw [hledger, Ledger.close_closings] at hc
      rcases List.mem_append.mp hc with hold | hnew
      · exact h.ended hactive c hold
      · rw [List.mem_singleton.mp hnew]
        exact hgoes hon

/-! ## From the beginning -/

theorem ledger_prepare (ctx : Setting P) (r : Run P F) :
    (r.prepare ctx).ledger = { r.ledger with stages := (r.prepare ctx).stages } := by
  have hrefuse : ∀ (why : Failure) (r : Run P F), (prepare.refuse ctx why r).ledger = r.ledger :=
    fun why r => (ledger_frameView.complete _).trans (ledger_frameView.prints r _ _)
  have hstages : ∀ {r' : Run P F}, r'.ledger = r.ledger →
      r'.ledger = { r.ledger with stages := r'.stages } := by
    intro r' hledger
    have hsame : r'.stages = r.ledger.stages := congrArg Ledger.stages hledger
    rw [hledger, hsame]
  have hrecord : ∀ {parsed : List Statement} {effects : List Effect}
      {result : Except Failure (List (Stage P))},
      ctx.resolver.statements r.session.requests parsed = (effects, result) →
        (r.record effects).ledger = r.ledger :=
    fun hresolve => ledger_record r
      (Resolver.statements_filterMap _ (fun _ => rfl) rfl (fun _ _ => rfl) hresolve)
  have hprepared := prepare_cases ctx r
  generalize r.prepare ctx = r' at hprepared ⊢
  cases hprepared with
  | reported hreport => exact hstages rfl
  | unreadable hparse => exact hstages (hrefuse _ _)
  | unresolved hparse hresolve => exact hstages ((hrefuse _ _).trans (hrecord hresolve))
  | @ready parsed effects stages hparse hresolve =>
    exact congrArg (fun l : Ledger P F => { l with stages := stages }) (hrecord hresolve)

theorem ledger_activate (ctx : Setting P) (r : Run P F) : (activate ctx r).ledger = r.ledger := by
  unfold activate
  split
  · rfl
  · simp only
    split
    · exact ledger_frameView.kill _
    · rw [ledger_takeUp]
      exact ledger_frameView.spawnWindow { r with active := true } ctx _ _

theorem ledger_begun (ctx : Setting P) (line : String) (s : Session F) (killed : Bool) :
    (reached ctx line s killed []).ledger =
      ⟨((Run.new line s : Run P F).prepare ctx).stages, [], 0, 0, s.imported, [], s.files⟩ :=
  (ledger_activate ctx { (Run.new line s).prepare ctx with killRequested := killed }).trans
    (ledger_prepare ctx (Run.new line s))

theorem reached_unreported (ctx : Setting P) (line : String) (s : Session F) (killed : Bool)
    (choices : List Choice) (hactive : (reached ctx line s killed choices).active = true) :
    (reached ctx line s killed choices).report = none := by
  rcases reached_undecided_or_endedWith ctx line s killed choices with hopen | ⟨rep, hover⟩
  · exact hopen.report
  · exact absurd (hover.active.symm.trans hactive) (by decide)

/-- **Every reached run keeps its books.** -/
theorem reached_ledgerInv (ctx : Setting P) (line : String) (s : Session F) (killed : Bool)
    (choices : List Choice) : LedgerInv ctx s (reached ctx line s killed choices) := by
  induction choices using List.reverseRecOn with
  | nil =>
    have hbegun := ledger_begun ctx line s killed
    constructor
    · rw [hbegun]
      exact ⟨(List.append_nil _).symm, rfl, rfl, rfl, rfl⟩
    · rw [hbegun]
      exact .nil
    · rw [hbegun]
      exact fun _ => List.forall_mem_nil _
  | append_singleton choices c ih =>
    rw [reached_concat]
    exact ih.step c reached_orderInv (reached_unreported ctx line s killed choices)

/-- A run has the stages that its line was resolved to. -/
theorem reached_stages (ctx : Setting P) (line : String) (s : Session F) (killed : Bool)
    (choices : List Choice) : (reached ctx line s killed choices).stages =
      ((Run.new line s).prepare ctx).stages := by
  induction choices using List.reverseRecOn with
  | nil => exact congrArg Ledger.stages (ledger_begun ctx line s killed)
  | append_singleton choices c ih =>
    rw [reached_concat, ← ih]
    cases step_ledger ctx c (reached_unreported ctx line s killed choices) with
    | same hledger => exact congrArg Ledger.stages hledger
    | closed hactive hqueue hfound hgoes hledger =>
      exact (congrArg Ledger.stages hledger).trans (Ledger.merge_stages _ _)

/-- **What holds of every event that waits to be handled holds of those that closed a stage.** -/
theorem reached_closings {line : String} {s : Session F} {killed : Bool}
    {Q : Nat × StageEvent → Prop}
    (hqueued : ∀ choices, (reached ctx line s killed choices).active = true →
      ∀ c ∈ (reached ctx line s killed choices).pipeline.queue, Q c) (choices : List Choice) :
    ∀ c ∈ (reached ctx line s killed choices).ledger.closings, Q c := by
  induction choices using List.reverseRecOn with
  | nil =>
    rw [ledger_begun]
    exact List.forall_mem_nil _
  | append_singleton choices c ih =>
    rw [reached_concat]
    cases step_ledger ctx c (reached_unreported ctx line s killed choices) with
    | same hledger =>
      rw [hledger]
      exact ih
    | @closed index e rest host hactive hqueue hfound hgoes hledger =>
      rw [hledger, Ledger.close_closings, List.forall_mem_append]
      refine ⟨ih, List.forall_mem_singleton.mpr (hqueued choices hactive (index, e) ?_)⟩
      rw [hqueue]
      exact List.mem_cons_self ..

end Run

end Pipework
