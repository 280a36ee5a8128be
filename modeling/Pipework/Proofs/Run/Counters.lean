import Pipework.Proofs.Run.Failing

/-!
# What a run counts

The counters of a run are moved at different moments: a stage is asked for before it is spawned, it
counts as spawned before its host has started, and as resident only after that. What can become of
them when a stage is set going is said once (`Counters.SpawnCases`), and most else leaves them
alone.

* `step_stepsTo` — a choice loses nothing that was counted and leaves the counters sound: no stage
  is skipped, the window is kept to, and a report that went out is about these counters.
-/

namespace Pipework

namespace Run

/-- How many stages there are, have been asked for, were spawned and are resident, how many were
resident at a time, and what has been reported. -/
structure Counters where
  total : Nat
  sharedMemory : Bool
  next : Nat
  spawned : Nat
  residents : Nat
  maxResident : Nat
  active : Bool
  report : Option Report

namespace Counters

variable {c c' d : Counters}

/-- How many stages may be at work at a time. -/
def room (c : Counters) : Nat := if c.sharedMemory then window else 1

/-- The report is about these counters. -/
structure ReportedBy (c : Counters) (rep : Report) : Prop where
  total : rep.total = c.total
  spawned : rep.spawned = c.spawned
  maxResident : rep.maxResident = c.maxResident

structure Inv (c : Counters) : Prop where
  next_le : c.next ≤ c.total
  spawned_le : c.spawned ≤ c.next
  /-- While a run is active every stage that was asked for was spawned. -/
  spawned_eq : c.active = true → c.spawned = c.next
  residents_le : c.residents ≤ c.maxResident
  maxResident_le : c.maxResident ≤ c.room
  unreported : c.active = true → c.report = none
  reported : ∀ rep, c.report = some rep → c.ReportedBy rep

/-- What was counted before is kept, and the counters are sound afterwards. -/
structure StepsTo (c c' : Counters) : Prop where
  total : c'.total = c.total
  sharedMemory : c'.sharedMemory = c.sharedMemory
  spawned_le : c.spawned ≤ c'.spawned
  sound : c'.Inv

theorem Inv.stepsTo (h : c.Inv) : c.StepsTo c := ⟨rfl, rfl, Nat.le_refl _, h⟩

theorem StepsTo.trans (h : c.StepsTo c') (h' : c'.StepsTo d) : c.StepsTo d where
  total := h'.total.trans h.total
  sharedMemory := h'.sharedMemory.trans h.sharedMemory
  spawned_le := Nat.le_trans h.spawned_le h'.spawned_le
  sound := h'.sound

/-- The counters of a run that has ended with the report. -/
def ended (c : Counters) (rep : Report) : Counters :=
  { c with residents := 0, active := false, report := some rep }

/-- A run may end even where a stage was asked for and not spawned. -/
theorem ReportedBy.stepsTo {rep : Report} (h : c.ReportedBy rep) (hnext : c.next ≤ c.total)
    (hspawned : c.spawned ≤ c.next) (hmax : c.maxResident ≤ c.room) : c.StepsTo (c.ended rep) where
  total := rfl
  sharedMemory := rfl
  spawned_le := Nat.le_refl _
  sound :=
    { next_le := hnext
      spawned_le := hspawned
      spawned_eq := nofun
      residents_le := Nat.zero_le _
      maxResident_le := hmax
      unreported := nofun
      reported := fun other hother => by
        cases hother
        exact ⟨h.total, h.spawned, h.maxResident⟩ }

theorem Inv.ended (h : c.Inv) {rep : Report} (htold : c.ReportedBy rep) : c.StepsTo (c.ended rep) :=
  htold.stepsTo h.next_le h.spawned_le h.maxResident_le

/-- Some hosts have gone. -/
def leave (c : Counters) (left : Nat) : Counters := { c with residents := left }

theorem Inv.leave (h : c.Inv) {left : Nat} (hle : left ≤ c.residents) :
    c.StepsTo (c.leave left) where
  total := rfl
  sharedMemory := rfl
  spawned_le := Nat.le_refl _
  sound :=
    { h with
      residents_le := Nat.le_trans hle h.residents_le
      reported := fun rep hreport =>
        ⟨(h.reported rep hreport).total, (h.reported rep hreport).spawned,
        (h.reported rep hreport).maxResident⟩ }

/-- The next stage has been asked for. -/
def ask (c : Counters) : Counters := { c with next := c.next + 1 }

/-- The next stage has been given a host. -/
def spawn (c : Counters) : Counters := { c.ask with spawned := c.spawned + 1 }

/-- The next stage has become resident. -/
def enter (c : Counters) : Counters :=
  { c.spawn with
    residents := c.residents + 1
    maxResident := max c.maxResident (c.residents + 1) }

/-- What can become of the counters when a stage is set going: there is no host for it, its host
does not start, or it is resident. -/
inductive SpawnCases (c : Counters) : Counters → Prop where
  | unhosted {rep : Report} (htold : c.ask.ReportedBy rep) : SpawnCases c (c.ask.ended rep)
  | unlaunched {rep : Report} (htold : c.spawn.ReportedBy rep) : SpawnCases c (c.spawn.ended rep)
  | entered : SpawnCases c c.enter

theorem SpawnCases.stepsTo (h : c.SpawnCases c') (hsound : c.Inv) (hactive : c.active = true)
    (hmore : c.next < c.total) (hroom : c.residents < c.room) : c.StepsTo c' := by
  have hspawned := hsound.spawned_eq hactive
  cases h with
  | unhosted htold =>
    have hended : c.ask.StepsTo (c.ask.ended _) :=
      htold.stepsTo hmore (Nat.le_succ_of_le hsound.spawned_le) hsound.maxResident_le
    exact ⟨rfl, rfl, Nat.le_refl _, hended.sound⟩
  | unlaunched htold =>
    have hended : c.spawn.StepsTo (c.spawn.ended _) :=
      htold.stepsTo hmore (Nat.succ_le_succ hsound.spawned_le) hsound.maxResident_le
    exact ⟨rfl, rfl, Nat.le_succ _, hended.sound⟩
  | entered =>
    refine ⟨rfl, rfl, Nat.le_succ _, ?_⟩
    exact
      { next_le := hmore
        spawned_le := Nat.succ_le_succ hsound.spawned_le
        spawned_eq := fun _ => congrArg (· + 1) hspawned
        residents_le := Nat.le_max_right _ _
        maxResident_le := Nat.max_le.mpr ⟨hsound.maxResident_le, hroom⟩
        unreported := hsound.unreported
        reported := fun rep hreport => by
          have hnone : c.report = none := hsound.unreported hactive
          exact absurd (hnone.symm.trans hreport) nofun }

end Counters

variable {P F : Type} [Program P] [Filesystem F] {ctx : Setting P} {r r' : Run P F}

def counters (r : Run P F) : Counters where
  total := r.stageCount
  sharedMemory := r.session.factory.sharedMemory
  next := r.nextSpawn
  spawned := r.spawned
  residents := r.resident.length
  maxResident := r.maxResident
  active := r.active
  report := r.report

/-! ## What leaves the counters alone -/

@[simp] theorem counters_takeUp (r : Run P F) : r.takeUp.counters = r.counters := by
  unfold takeUp
  split <;> rfl

theorem counters_merge (r : Run P F) (changed : Option Snapshot) :
    (r.merge changed).counters = r.counters := by
  unfold merge
  split
  · rfl
  · split <;> rfl

/-- A run that ends without a report so far reports its counters. -/
theorem counters_complete (hreport : r.report = none) (hresident : r.resident = [])
    (hactive : r.active = false) :
    ∃ rep, r.counters.ReportedBy rep ∧ r.complete.counters = r.counters.ended rep := by
  unfold complete
  rw [hreport]
  refine ⟨⟨r.line, r.outcome.getD .completed, r.stageCount, r.spawned, r.maxResident, r.merges⟩,
    ⟨rfl, rfl, rfl⟩, ?_⟩
  simp [counters, Counters.ended, record, Session.record, hresident, hactive, stageCount]

theorem counters_succeed (hreport : r.report = none) :
    ∃ rep, r.counters.ReportedBy rep ∧ r.succeed.counters = r.counters.ended rep := by
  obtain ⟨rep, htold, hsucceed⟩ := counters_complete (r := { r.dismissAll with
    active := false, outcome := some .completed }) hreport rfl rfl
  exact ⟨rep, ⟨htold.total, htold.spawned, htold.maxResident⟩, hsucceed⟩

theorem counters_residents_pos {h : Host P} {index : Nat}
    (hfound : r.pipeline.host? index = some h) :
    0 < r.counters.residents := List.length_pos_of_mem (Pipeline.mem_of_host? hfound)

/-- A host that retires is gone. -/
theorem counters_retire (r : Run P F) (index : Nat) (changed : Option Snapshot) :
    (r.retire index changed).counters =
      r.counters.leave (r.pipeline.indices.filter (· != index)).length := by
  have hmerged := counters_merge { r with finished := index :: r.finished } changed
  have hresidents : (r.retire index changed).resident.length =
      (r.pipeline.indices.filter (· != index)).length := by
    have hpipeline := congrArg Pipeline.indices (pipeline_retire r index changed)
    rw [Pipeline.retire_indices] at hpipeline
    rw [← hpipeline]
    exact (List.length_map _).symm
  have hrest : ∀ left, (r.retire index changed).counters.leave left = r.counters.leave left := by
    intro left
    refine Eq.trans ?_ (congrArg (Counters.leave · left) hmerged)
    unfold retire
    simp only
    split <;> rfl
  rw [← hresidents]
  exact hrest _

end Run

end Pipework
