import Pipework.Proofs.Run.Order

/-!
# What a step can do

Each function of a run is read off once as moves on its pipeline. A step that leaves the run active
is a number of moves, and after it the window is filled again: the newest stage is resident, and no
further stage could be set going (`step_moves`).
-/

namespace Pipework

/-! ## Mailboxes, backlogs and sessions -/

namespace Mailbox

variable {α : Type}

@[simp] theorem toList_post (m : Mailbox α) (events : List α) :
    (m.post events).toList = m.toList ++ events := by
  simp [toList, post]

theorem take?_eq_none {m : Mailbox α} (h : m.take? = none) : m.toList = [] := by
  unfold take? at h
  split at h
  · cases h
  · rename_i hfront
    split at h
    · cases h
    · rename_i hback
      simp [toList, hfront, hback]

theorem take?_eq_some {m rest : Mailbox α} {e : α} (h : m.take? = some (e, rest)) :
    m.toList = e :: rest.toList := by
  unfold take? at h
  split at h
  · rename_i hfront
    cases h
    simp [toList, hfront]
  · rename_i hfront
    split at h
    · rename_i hback
      cases h
      simp [toList, hfront, hback]
    · cases h

theorem take?_of_toList {m : Mailbox α} {e : α} {rest : List α}
    (h : m.toList = e :: rest) : ∃ m', m.take? = some (e, m') ∧ m'.toList = rest := by
  cases htake : m.take? with
  | none =>
    rw [take?_eq_none htake] at h
    cases h
  | some taken =>
    obtain ⟨e', m'⟩ := taken
    have hlist := (take?_eq_some htake).symm.trans h
    injection hlist with he hrest
    exact ⟨m', by rw [he], hrest⟩

theorem isEmpty_eq (m : Mailbox α) : m.isEmpty = m.toList.isEmpty := by
  unfold isEmpty toList
  cases m.front <;> cases m.back <;> simp

end Mailbox

namespace Backlog

@[simp] theorem toList_append (b : Backlog) (data : Bytes) :
    (b.append data).toList = b.toList ++ data := by
  simp [toList, append]

theorem size_eq (b : Backlog) : b.size = b.toList.length := by
  obtain ⟨pieces⟩ := b
  simp only [size, toList]
  induction pieces with
  | nil => rfl
  | cons piece rest ih =>
    rw [List.foldr_cons, ih, List.reverse_cons, List.flatten_append, List.length_append,
      List.flatten_singleton]
    exact Nat.add_comm _ _

theorem take_fst (b : Backlog) :
    b.take.1 = if b.toList.isEmpty then none else some b.toList := by
  have hempty : b.isEmpty = b.toList.isEmpty := by
    rw [isEmpty, size_eq]
    cases b.toList <;> rfl
  simp only [take, hempty]

end Backlog

@[simp] theorem Session.prints_record {F : Type} (s : Session F) (effects : List Effect) :
    (s.record effects).prints = s.prints ++ effects.filterMap Effect.printed? := by
  simp [prints, record]

theorem Console.print_printed (c : Console) (text : String) :
    (c.print text).filterMap Effect.printed? = if c.prints then [text] else [] := by
  unfold print
  split <;> rfl

/-! ## Factories -/

namespace Factory

variable {α : Type} {f f' : Factory} {console : Console} {effects : List Effect}

/-- While an image is made only the status is told, and whether stages can work alongside stays as it
is. -/
theorem provide_spec (view : Effect → Option α) (hstatus : ∀ text, view (.status text) = none)
    (hclear : view .clearStatus = none) {result : Except Failure Image}
    (h : f.provide console = (effects, f', result)) :
    effects.filterMap view = [] ∧ f'.sharedMemory = f.sharedMemory := by
  have htold : (console.status preparing ++ console.clearStatus).filterMap view = [] := by
    unfold Console.status Console.clearStatus
    cases console.statuses <;> simp [hstatus, hclear]
  unfold provide at h
  split at h
  · cases h
    exact ⟨rfl, rfl⟩
  · cases h
    exact ⟨rfl, rfl⟩
  · simp only at h
    split at h <;> cases h <;> exact ⟨htold, rfl⟩

variable {P F : Type} [Program P] [Filesystem F] {index : Nat} {stage : Stage P} {files : Snapshot}

/-- The same while a host is made. -/
theorem spawn_spec (view : Effect → Option α) (hstatus : ∀ text, view (.status text) = none)
    (hclear : view .clearStatus = none) {host : Except Failure (Host P)}
    (hspawn : f.spawn console index stage files = (effects, f', host)) :
    effects.filterMap view = [] ∧ f'.sharedMemory = f.sharedMemory := by
  unfold spawn at hspawn
  split at hspawn
  · cases hspawn
    exact ⟨rfl, rfl⟩
  · split at hspawn <;>
      (rename_i hprovide
       cases hspawn
       exact provide_spec view hstatus hclear hprovide)

theorem spawn_prints {host : Except Failure (Host P)}
    (hspawn : f.spawn console index stage files = (effects, f', host)) :
    effects.filterMap Effect.printed? = [] ∧ f'.sharedMemory = f.sharedMemory :=
  spawn_spec _ (fun _ => rfl) rfl hspawn

theorem spawn_fresh {h : Host P}
    (hspawn : f.spawn console index stage files = (effects, f', .ok h)) :
    Host.Fresh index stage files (Host.kindFor stage.executable f.sharedMemory) h := by
  unfold spawn at hspawn
  split at hspawn
  · rename_i hkind
    cases hspawn
    rw [hkind]
    exact .inline
  · rename_i hkind
    split at hspawn
    · cases hspawn
      rw [hkind]
      exact .concurrent _ _
    · cases hspawn

end Factory

theorem Host.kindFor_eq {P : Type} (stage : Stage P) (sharedMemory : Bool) :
    Host.kindFor stage.executable sharedMemory =
      if sharedMemory && !stage.isCallback then .concurrent else .inline := by
  unfold Host.kindFor Stage.isCallback Executable.isCallback
  cases stage.executable <;> cases sharedMemory <;> rfl

namespace Run

variable {P F : Type} [Program P] [Filesystem F] {ctx : Setting P} {r : Run P F}

/-! ## Changes seen on the pipeline -/

@[simp] theorem pipeline_record (r : Run P F) (effects : List Effect) :
    (r.record effects).pipeline =
      { r.pipeline with prints := r.pipeline.prints ++ effects.filterMap Effect.printed? } := by
  simp only [pipeline, record, Session.prints_record]
  rfl

theorem pipeline_record_of_unprinted (r : Run P F) {effects : List Effect}
    (hquiet : effects.filterMap Effect.printed? = []) :
    (r.record effects).pipeline = r.pipeline := by
  rw [pipeline_record, hquiet, List.append_nil]

@[simp] theorem pipeline_note (r : Run P F) (n : Note) :
    (r.note n).pipeline = { r.pipeline with journal := n :: r.pipeline.journal } := rfl

@[simp] theorem pipeline_setHost (r : Run P F) (h : Host P) :
    (r.setHost h).pipeline = r.pipeline.setHost h := rfl

@[simp] theorem pipeline_post (r : Run P F) (index : Nat) (events : List StageEvent) :
    (r.post index events).pipeline =
      { r.pipeline with queue := r.pipeline.queue ++ events.map (index, ·) } := by
  simp only [pipeline, post, Mailbox.toList_post]

theorem pipeline_merge (r : Run P F) (changed : Option Snapshot) :
    (r.merge changed).pipeline =
    { r.pipeline with files := Filesystem.after r.pipeline.files changed } := by
  cases changed with
  | none => rfl
  | some s =>
    simp only [merge, Filesystem.after]
    cases haccept : Filesystem.accept r.session.files s with
    | ok files => simp [pipeline, record, Session.record, Session.prints, Effect.printed?, haccept]
    | error why => simp [pipeline, record, Session.record, Session.prints, Effect.printed?, haccept]

theorem pipeline_retire (r : Run P F) (index : Nat) (changed : Option Snapshot) :
    (r.retire index changed).pipeline = r.pipeline.retire index changed := by
  have hmerge := pipeline_merge { r with finished := index :: r.finished } changed
  unfold retire Pipeline.retire Pipeline.closeReader
  have hresident := congrArg Pipeline.resident hmerge
  have hreader : ({ r with finished := index :: r.finished }.merge changed).reader? (index + 1) =
      r.pipeline.reader? (index + 1) := by
    simp only [reader?, host?, Pipeline.reader?, Pipeline.host?]
    exact congrArg (fun hosts => Option.filter _ (List.find? _ hosts)) hresident
  simp only [hreader]
  cases r.pipeline.reader? (index + 1) with
  | none =>
    refine (congrArg (fun s : Pipeline P F => { s with
      resident := s.resident.filter (·.index != index) }) hmerge).trans ?_
    rfl
  | some h =>
    refine (congrArg (fun s : Pipeline P F => { s.setHost h.closeInput with
      resident := (s.setHost h.closeInput).resident.filter (·.index != index) }) hmerge).trans ?_
    rfl

@[simp] theorem stageCount_retire (r : Run P F) (index : Nat) (changed : Option Snapshot) :
    (r.retire index changed).stageCount = r.stageCount :=
  congrArg (fun t => t.stages.length) (pipeline_retire r index changed)

@[simp] theorem pipeline_takeUp (r : Run P F) : r.takeUp.pipeline = r.pipeline := by
  unfold takeUp
  split <;> rfl

theorem takeUp_of_unwanted (h : r.wanted = false) : r.takeUp = r := by
  simp [takeUp, h]

theorem pipeline_setInput (htyped : r.session.input.isSome = true) (source : LineSource) :
    (r.setInput source).pipeline = r.pipeline := by
  simp only [pipeline, setInput, Option.isSome_some, htyped]
  rfl

/-- A line that is handed out is not seen on the pipeline. -/
theorem pipeline_handedOut (htyped : r.session.input.isSome = true) (source : LineSource)
    (line : Option String) :
    (({ r with reading := .idle }.setInput source).record [.lineRead line]).pipeline =
      r.pipeline := by
  rw [pipeline_record_of_unprinted _ rfl]
  exact pipeline_setInput (r := { r with reading := .idle }) htyped source

@[simp] theorem takeUp_active (r : Run P F) : r.takeUp.active = r.active := by
  unfold takeUp
  split <;> rfl

@[simp] theorem complete_active (r : Run P F) : r.complete.active = r.active := by
  unfold complete
  split <;> rfl

theorem kill_inactive (r : Run P F) : r.kill.active = false := by
  unfold kill
  split
  · exact complete_active _
  · rename_i h
    exact Bool.eq_false_iff.mpr h

theorem failStage_inactive (ctx : Setting P) (command : String) (why : Failure)
    (changed : Option Snapshot) (r : Run P F) :
    (failStage ctx command why changed r).active = false := by
  unfold failStage
  split
  · exact kill_inactive _
  · rename_i h
    exact Bool.eq_false_iff.mpr h

theorem succeed_inactive (r : Run P F) : r.succeed.active = false := complete_active _

/-! ## Setting stages going -/

theorem pipeline_takeIn (r : Run P F) (h : Host P) (events : List StageEvent) :
    (r.takeIn h events).pipeline =
      { r.pipeline with
        resident := r.pipeline.resident ++
          [if r.pipeline.inputOver h.index then h.closeInput else h]
        queue := r.pipeline.queue ++ events.map (h.index, ·) } := by
  have hover : r.inputOver h.index = r.pipeline.inputOver h.index := by
    unfold inputOver Pipeline.inputOver
    cases h.index with
    | zero => exact (Option.not_isSome _).symm
    | succ before => rfl
  unfold takeIn
  rw [hover]
  cases r.pipeline.inputOver h.index with
  | true => simp [pipeline, post, Pipeline.closeInput_index]
  | false => simp [pipeline, post]

theorem backlog_take (r : Run P F) : r.backlog.take = (r.pipeline.gathered, .empty) :=
  Prod.ext (Backlog.take_fst r.backlog) rfl

/-- A host that starts is taken in. -/
theorem settle_started {fresh h : Host P} {events : List StageEvent}
    (hstart : fresh.start r.pipeline.calls r.pipeline.gathered = (h, events, none))
    (ctx : Setting P) : settle ctx fresh r = takeIn h events
      ({ r with
        backlog := .empty
        spawned := r.spawned + 1
        session := r.session.call (fresh.call? r.pipeline.gathered) }.note
          (.started fresh.index r.pipeline.gathered)) := by
  have hstart : fresh.start r.session.calls r.pipeline.gathered = (h, events, none) := hstart
  unfold settle
  rw [backlog_take]
  simp only [hstart]

theorem settle_spec {fresh : Host P} (hactive : (settle ctx fresh r).active = true) :
    ∃ h events, fresh.start r.pipeline.calls r.pipeline.gathered = (h, events, none) ∧
      settle ctx fresh r = takeIn h events
        ({ r with
          backlog := .empty
          spawned := r.spawned + 1
          session := r.session.call (fresh.call? r.pipeline.gathered) }.note
            (.started fresh.index r.pipeline.gathered)) := by
  cases hstart : fresh.start r.pipeline.calls r.pipeline.gathered with
  | mk h started =>
    obtain ⟨events, why⟩ := started
    cases why with
    | none => exact ⟨h, events, rfl, settle_started hstart ctx⟩
    | some why =>
      have hstart : fresh.start r.session.calls r.pipeline.gathered = (h, events, some why) :=
        hstart
      unfold settle at hactive
      rw [backlog_take] at hactive
      simp only [hstart, failStage_inactive] at hactive
      cases hactive

theorem pipeline_equip {index : Nat} {effects : List Effect} {factory : Factory}
    (hquiet : effects.filterMap Effect.printed? = [])
    (hshared : factory.sharedMemory = r.session.factory.sharedMemory) :
    (r.equip index effects factory).pipeline = { r.pipeline with next := index + 1 } := by
  have hprints : (r.session.record effects).prints = r.session.prints := by simp [hquiet]
  simp only [pipeline, equip, hshared]
  exact congrArg (fun prints => { r.pipeline with next := index + 1, prints := prints }) hprints

/-- **A stage that was set going is the next one on the pipeline.** -/
theorem spawnStage_spec {stage : Stage P} (hstage : r.stages[r.nextSpawn]? = some stage)
    (hactive : (spawnStage ctx r.nextSpawn r).active = true) :
    ∃ fresh h events,
      Host.Fresh r.nextSpawn stage r.session.snapshot
        (if r.pipeline.ahead r.nextSpawn then .concurrent else .inline) fresh ∧
      fresh.start r.pipeline.calls r.pipeline.gathered = (h, events, none) ∧
      (spawnStage ctx r.nextSpawn r).pipeline = r.pipeline.spawn h events := by
  have hahead : Host.kindFor stage.executable r.session.factory.sharedMemory =
      if r.pipeline.ahead r.nextSpawn then .concurrent else .inline := by
    have hstage' : r.pipeline.stages[r.nextSpawn]? = some stage := hstage
    rw [Host.kindFor_eq, Pipeline.ahead, hstage']
    rfl
  unfold spawnStage at hactive ⊢
  simp only [hstage] at hactive ⊢
  generalize hspawn : r.session.factory.spawn ctx.console r.nextSpawn stage _ = made at hactive ⊢
  obtain ⟨effects, factory, result⟩ := made
  cases result with
  | error why =>
    simp only [failStage_inactive] at hactive
    cases hactive
  | ok fresh =>
    obtain ⟨hquiet, hshared⟩ := Factory.spawn_prints hspawn
    have hfresh := Factory.spawn_fresh hspawn
    rw [hahead] at hfresh
    have hequip : (r.equip r.nextSpawn (.exported r.session.snapshot :: effects) factory).pipeline =
        { r.pipeline with next := r.nextSpawn + 1 } := pipeline_equip hquiet hshared
    obtain ⟨h, events, hstart, hsettle⟩ := settle_spec hactive
    rw [hequip] at hstart hsettle
    obtain ⟨hindex, hplace, -⟩ := Pipeline.spawned_spec (s := r.pipeline) hstage hfresh hstart
    have hcall : fresh.call? r.pipeline.gathered =
        h.stage.call? (Filesystem.snapshot r.pipeline.files) r.pipeline.backlog := by
      rw [hfresh.call?, hplace, Pipeline.gathered_getD]
      rfl
    refine ⟨fresh, h, events, hfresh, hstart, ?_⟩
    simp only [hsettle, pipeline_takeIn, pipeline_note, hfresh.index, Pipeline.spawn, hindex]
    rw [← hcall]
    exact congrArg (fun s : Pipeline P F => { s with
      backlog := []
      resident := s.resident ++ [if r.pipeline.inputOver r.nextSpawn then h.closeInput else h]
      queue := s.queue ++ events.map (r.nextSpawn, ·)
      journal := .started r.nextSpawn r.pipeline.gathered :: s.journal
      calls := (fresh.call? r.pipeline.gathered).toList ++ s.calls }) hequip

/-- No stage waits for the one before it without need. -/
def NextMaySpawn (s : Pipeline P F) : Prop :=
  ∀ k, s.next = k + 1 → s.ahead s.next = false → k ∈ s.finished

theorem ahead_eq (r : Run P F) (index : Nat) : r.canSpawnAhead index = r.pipeline.ahead index := rfl

theorem spawnWindow_of_inactive (h : r.active = false) (fuel index : Nat) :
    spawnWindow ctx fuel index r = r := by
  cases fuel with
  | zero => rfl
  | succ fuel => simp [spawnWindow, h]

/-- A stage that was set going before is not set going again. -/
theorem spawnFrom_of_lt {index : Nat} (h : index < r.nextSpawn) : spawnFrom ctx index r = r := by
  unfold spawnFrom
  cases r.stageCount with
  | zero => rfl
  | succ fuel => simp [spawnWindow, Nat.not_le.mpr h]

theorem active_of_spawnWindow {fuel index : Nat} (h : (spawnWindow ctx fuel index r).active = true) :
    r.active = true := by
  cases ha : r.active with
  | true => rfl
  | false =>
    rw [spawnWindow_of_inactive ha] at h
    exact ha.symm.trans h

theorem active_of_refill (h : (refill ctx r).active = true) : r.active = true := by
  cases ha : r.active with
  | true => rfl
  | false =>
    rw [refill, ha] at h
    simp only [Bool.false_and, Bool.false_eq_true, if_false] at h
    exact ha.symm.trans h

/-- **Setting stages going from the next one on fills the window**, given enough turns. -/
theorem spawnWindow_spec : ∀ (fuel : Nat) (r : Run P F), NextMaySpawn r.pipeline →
    (spawnWindow ctx fuel r.nextSpawn r).active = true →
    Moves ctx.console r.pipeline (spawnWindow ctx fuel r.nextSpawn r).pipeline ∧
      (r.pipeline.NewestResident ∨
      (0 < fuel ∧ r.nextSpawn < r.stageCount ∧ r.resident.length < window) →
        (spawnWindow ctx fuel r.nextSpawn r).pipeline.NewestResident) ∧
      (window ≤ r.resident.length + fuel ∨ r.stageCount ≤ r.nextSpawn + fuel →
        (spawnWindow ctx fuel r.nextSpawn r).pipeline.WindowFull)
  | 0, r, _, _ => by
    refine ⟨.refl, fun h => h.resolve_right (fun h => Nat.lt_irrefl 0 h.1), fun h => ?_⟩
    rcases h with h | h
    · exact Or.inr (Or.inl (by simpa [spawnWindow, Pipeline.indices, pipeline] using h))
    · exact Or.inl h
  | fuel + 1, r, hready, hactive => by
    unfold spawnWindow at hactive ⊢
    split at hactive
    · rename_i hopen
      rw [if_pos hopen]
      simp only [Bool.and_eq_true, decide_eq_true_eq] at hopen
      obtain ⟨⟨-, hroom⟩, hlt⟩ := hopen
      have hstage : r.stages[r.nextSpawn]? = some r.stages[r.nextSpawn] :=
        List.getElem?_eq_getElem hlt
      have hspawned : (spawnStage ctx r.nextSpawn r).active = true := by
        simp only at hactive
        split at hactive
        · exact active_of_spawnWindow hactive
        · exact hactive
      obtain ⟨fresh, h, events, hfresh, hstart, hpipeline⟩ := spawnStage_spec hstage hspawned
      have hmove : Move ctx.console r.pipeline (spawnStage ctx r.nextSpawn r).pipeline :=
        hpipeline ▸ .spawned hstage hroom hready hfresh hstart
      generalize spawnStage ctx r.nextSpawn r = r' at hactive hspawned hpipeline hmove ⊢
      have hnext : r'.nextSpawn = r.nextSpawn + 1 := congrArg Pipeline.next hpipeline
      have hstages : r'.stageCount = r.stageCount := congrArg (fun s => s.stages.length) hpipeline
      have hresident : r'.resident.length = r.resident.length + 1 :=
        (congrArg (fun s => s.resident.length) hpipeline).trans (by simp [Pipeline.spawn, pipeline])
      have hindex : h.index = r.nextSpawn :=
        (Pipeline.spawned_spec (s := r.pipeline) hstage hfresh hstart).1
      have hnewest : r'.pipeline.NewestResident := by
        refine ⟨r.nextSpawn, ?_, hnext⟩
        rw [hpipeline, Pipeline.spawn_indices, hindex]
        exact List.mem_append_right _ (List.mem_singleton_self _)
      simp only [← hnext] at hactive ⊢
      rw [ahead_eq] at hactive ⊢
      split at hactive
      · rename_i hahead
        rw [if_pos hahead]
        have hready' : NextMaySpawn r'.pipeline := by
          intro k _ hbehind
          exact absurd (hahead.symm.trans hbehind) (by decide)
        obtain ⟨hmoves, hnewest', hfull⟩ := spawnWindow_spec fuel r' hready' hactive
        refine ⟨.head hmove hmoves, fun _ => hnewest' (Or.inl hnewest), fun hfuel => hfull ?_⟩
        rw [hresident, hstages, hnext]
        omega
      · rename_i hahead
        rw [if_neg hahead]
        refine ⟨.single hmove, fun _ => hnewest, fun _ => Or.inr (Or.inr ?_)⟩
        exact Bool.eq_false_iff.mpr hahead
    · rename_i hclosed
      rw [if_neg hclosed]
      simp only [hactive, Bool.true_and, Nat.le_refl, decide_true, Bool.and_eq_true,
        decide_eq_true_eq, not_and, Nat.not_lt] at hclosed
      refine ⟨.refl, fun h => h.resolve_right fun h => ?_, fun _ => ?_⟩
      · exact absurd (hclosed h.2.2) (Nat.not_le.mpr h.2.1)
      · rcases Nat.lt_or_ge r.resident.length window with hroom | hroom
        · exact Or.inl (hclosed hroom)
        · exact Or.inr (Or.inl (by simpa [Pipeline.indices, pipeline] using hroom))

/-- The newest stage stays resident, and afterwards no further one could be set going. -/
theorem refill_spec (hnewest : r.pipeline.NewestResident) (hopen : r.pipeline.OrderInv)
    (hactive : (refill ctx r).active = true) :
    Moves ctx.console r.pipeline (refill ctx r).pipeline ∧ (refill ctx r).pipeline.WindowInv := by
  unfold refill at hactive ⊢
  simp only at hactive ⊢
  split at hactive
  · rename_i hgo
    rw [if_pos hgo]
    simp only [Bool.and_eq_true] at hgo
    have hready : NextMaySpawn r.pipeline := by
      intro k _ hbehind
      exact absurd (hgo.2.symm.trans hbehind) (by decide)
    obtain ⟨hmoves, hnewest', hfull⟩ := spawnWindow_spec r.stageCount r hready hactive
    exact ⟨hmoves, hnewest' (Or.inl hnewest), hfull (Or.inr (Nat.le_add_left _ _))⟩
  · rename_i hstop
    rw [if_neg hstop]
    refine ⟨.refl, hnewest, Or.inr (Or.inr ?_)⟩
    obtain ⟨k, hk, hnext⟩ := hnewest
    have hlt : k < r.pipeline.next := hopen.below k hk
    have hnext : r.nextSpawn = k + 1 := hnext
    have hhost : (r.host? (r.nextSpawn - 1)).isSome = true := by
      rw [hnext]
      exact Pipeline.host?_isSome.mpr hk
    have hover : r.finished.contains (r.nextSpawn - 1) = false := by
      have hunder : k ∉ r.finished := (hopen.placed k hlt).mp hk
      rw [hnext]
      simpa using hunder
    have hpos : 0 < r.nextSpawn := by omega
    cases hahead : r.pipeline.ahead r.nextSpawn with
    | false => exact hahead
    | true =>
      exact absurd (by rw [ahead_eq, hahead]; simp only [hactive, hpos, hover, hhost]; rfl) hstop

/-! ## Handling events -/

variable {s : Pipeline P F} {index : Nat} {h : Host P} {rest : List (Nat × StageEvent)}

/-- A piece of output is printed, thrown away, written on or put by. -/
theorem onData_spec {data : Bytes} (hpipeline : r.pipeline = s.handle index (.data data) rest)
    (hqueue : s.queue = (index, .data data) :: rest) (hfound : s.host? index = some h) :
    Move ctx.console s (onData ctx index data r).pipeline ∧
      Pipeline.SameIndices s (onData ctx index data r).pipeline := by
  have hstages : r.stageCount = s.stages.length := congrArg (fun t => t.stages.length) hpipeline
  have hfinished : r.finished = s.finished := congrArg Pipeline.finished hpipeline
  have hshared : r.session.factory.sharedMemory = s.sharedMemory :=
    congrArg Pipeline.sharedMemory hpipeline
  have hreader : r.reader? (index + 1) = s.reader? (index + 1) :=
    congrArg (fun t => t.reader? (index + 1)) hpipeline
  unfold onData
  rw [hstages, hreader]
  split
  · rename_i hlast
    refine ⟨?_, ?_⟩
    · have hmove : Move ctx.console s _ := .shown hqueue hfound hlast
      simpa [hpipeline, Console.print_printed, Console.shown, Pipeline.handle] using hmove
    · rw [pipeline_record, hpipeline]
      exact ⟨rfl, rfl, rfl, rfl⟩
  · rename_i hinner
    split
    · rename_i hover
      rw [hpipeline]
      have hover : index + 1 ∈ s.finished := by
        rw [← hfinished]
        simpa using hover
      exact ⟨.discarded hqueue hfound hinner hover, ⟨rfl, rfl, rfl, rfl⟩⟩
    · rename_i hopen
      have hopen : index + 1 ∉ s.finished := by
        rw [← hfinished]
        simpa using hopen
      split
      · rename_i reader hsome
        have hsome : s.reader? (index + 1) = some reader := by
          split at hsome
          · exact hsome
          · cases hsome
        split
        · rename_i reader' hwrite
          rw [pipeline_note, pipeline_setHost, hpipeline]
          exact ⟨.fed hqueue hfound hinner hopen hsome hwrite,
            ⟨rfl, rfl, Pipeline.setHost_indices _ _, rfl⟩⟩
        · rename_i why hwrite
          rw [pipeline_note, hpipeline]
          exact ⟨.refused hqueue hfound hinner hopen hsome hwrite, ⟨rfl, rfl, rfl, rfl⟩⟩
      · rename_i hnone
        have hstored : s.sharedMemory = false ∨ s.reader? (index + 1) = none := by
          split at hnone
          · exact Or.inr hnone
          · rename_i hsm
            exact Or.inl (hshared.symm.trans (Bool.eq_false_iff.mpr hsm))
        have hbacklog : r.backlog.toList = s.backlog := congrArg Pipeline.backlog hpipeline
        have hresult : ({ r with backlog := r.backlog.append data } : Run P F).pipeline =
            { s.handle index (.data data) rest with backlog := s.backlog ++ data } := by
          refine (congrArg (fun t : Pipeline P F => { t with
            backlog := (r.backlog.append data).toList }) hpipeline).trans ?_
          rw [Backlog.toList_append, hbacklog]
        rw [hresult]
        exact ⟨.stored hqueue hfound hinner hopen hstored, ⟨rfl, rfl, rfl, rfl⟩⟩

theorem onEnd_last {index : Nat} (hlast : index + 1 = r.stageCount) (ctx : Setting P)
    (changed : Option Snapshot) : onEnd ctx index changed r = (r.retire index changed).succeed := by
  unfold onEnd
  simp only [stageCount_retire, if_pos hlast]

/-- **A stage that is not the last has ended.** Where it was the newest, the next one takes its
place; where it was not, one more may fit behind the newest. -/
theorem onEnd_spec {changed : Option Snapshot}
    (hpipeline : r.pipeline = s.handle index (.ended changed) rest)
    (hqueue : s.queue = (index, .ended changed) :: rest) (hfound : s.host? index = some h)
    (hordered : s.OrderInv) (hnewest : s.NewestResident)
    (hactive : (onEnd ctx index changed r).active = true) :
    Moves ctx.console s (onEnd ctx index changed r).pipeline ∧
      (onEnd ctx index changed r).pipeline.WindowInv := by
  have hmem : index ∈ s.indices := Pipeline.mem_indices hfound
  unfold onEnd at hactive ⊢
  have hstages : (r.retire index changed).stageCount = s.stages.length :=
    (stageCount_retire r index changed).trans (congrArg (fun t => t.stages.length) hpipeline)
  simp only [hstages] at hactive ⊢
  split at hactive
  · rw [succeed_inactive] at hactive
    cases hactive
  · rename_i hinner
    rw [if_neg hinner]
    have hmove : Move ctx.console s (r.retire index changed).pipeline := by
      rw [pipeline_retire, hpipeline]
      exact .retired hqueue hfound hinner
    have hordered' : (r.retire index changed).pipeline.OrderInv := hordered.move hmove
    have hindices : (r.retire index changed).pipeline.indices = s.indices.filter (· != index) := by
      rw [pipeline_retire, Pipeline.retire_indices, hpipeline]
      rfl
    have hnext : (r.retire index changed).nextSpawn = s.next := by
      have hkeep : (r.retire index changed).nextSpawn = r.nextSpawn :=
        congrArg Pipeline.next (pipeline_retire r index changed)
      exact hkeep.trans (congrArg Pipeline.next hpipeline)
    have hroom : (r.retire index changed).resident.length < window := by
      have hlt := Pipeline.retire_room hordered hmem changed
      rw [Pipeline.retire_indices, ← hindices] at hlt
      simpa [Pipeline.indices, pipeline] using hlt
    have hended : index ∈ (r.retire index changed).pipeline.finished := by
      rw [pipeline_retire]
      exact List.mem_cons_self
    generalize r.retire index changed = r' at hactive hmove hordered' hindices hnext hroom hended hstages ⊢
    have hbelow : index < s.next := hordered.below index hmem
    have hle : s.next ≤ s.stages.length := hordered.next_le
    -- after this the newest stage is resident again
    have hspawn : (spawnFrom ctx (index + 1) r').active = true →
        Moves ctx.console r'.pipeline (spawnFrom ctx (index + 1) r').pipeline ∧
          (spawnFrom ctx (index + 1) r').pipeline.NewestResident := by
      intro hact
      by_cases hnew : index + 1 = s.next
      · rw [hnew, ← hnext] at hact ⊢
        have hready : NextMaySpawn r'.pipeline := by
          intro k hk _
          have : k = index := by
            have hk : r'.nextSpawn = k + 1 := hk
            omega
          exact this ▸ hended
        obtain ⟨hmoves, hnewest', -⟩ := spawnWindow_spec r'.stageCount r' hready hact
        refine ⟨hmoves, hnewest' (Or.inr ⟨?_, ?_, hroom⟩)⟩ <;> omega
      · rw [spawnFrom_of_lt (by omega)]
        refine ⟨.refl, ?_⟩
        obtain ⟨k, hk, hk'⟩ := hnewest
        refine ⟨k, ?_, hnext.trans hk'⟩
        rw [hindices, List.mem_filter]
        exact ⟨hk, by simp; omega⟩
    obtain ⟨hmoves, hnewest'⟩ := hspawn (active_of_refill hactive)
    have hordered'' := Moves.invariant (fun hm ho => Pipeline.OrderInv.move hm ho) hmoves hordered'
    obtain ⟨hmoves', hfilled⟩ := refill_spec hnewest' hordered'' hactive
    exact ⟨.head hmove (hmoves.trans hmoves'), hfilled⟩

end Run

end Pipework
