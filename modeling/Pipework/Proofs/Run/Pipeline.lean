import Mathlib.Logic.Relation
import Pipework.Proofs.Host
import Pipework.Run.Schedule

/-!
# The pipeline of a run

The pipeline is the part of a run that its stages have to do with: who is resident, what is queued,
what waits in the backlog, what was handled and printed. `Move` lists once everything that can
happen on a pipeline while the run stays active, with the guard under which it happens; what holds
of every reachable pipeline is then proved move by move (`Moves.invariant`).

* `host?_setHost`, `host?_append`, `host?_remove` — how the residents are found after each change.
* `Move` — one act of a host, one event handled, one stage set going, or one write to the first.
-/

namespace Pipework

def Effect.printed? : Effect → Option String
  | .print text => some text
  | _ => none

/-- The texts that were printed, in order. -/
def Session.prints {F : Type} (s : Session F) : List String :=
  s.effects.reverse.filterMap Effect.printed?

/-- What a console shows of a piece of output. -/
def Console.shown (c : Console) (data : Bytes) : List String :=
  if c.prints then [Utf8.decodeLossy data] else []

/-- The filesystem after a stage has reported its snapshot. -/
def Filesystem.after {F : Type} [Filesystem F] (files : F) : Option Snapshot → F
  | none => files
  | some s =>
    match accept files s with
    | .ok new => new
    | .error _ => files

namespace Run

structure Pipeline (P F : Type) [Program P] [Filesystem F] where
  stages : List (Stage P)
  sharedMemory : Bool
  /-- Lines can be typed in. -/
  typed : Bool
  files : F
  finished : List Nat
  resident : List (Host P)
  backlog : Bytes
  next : Nat
  queue : List (Nat × StageEvent)
  journal : Journal
  prints : List String
  calls : List Callback.Call

variable {P F : Type} [Program P] [Filesystem F]

def pipeline (r : Run P F) : Pipeline P F where
  stages := r.stages
  sharedMemory := r.session.factory.sharedMemory
  typed := r.session.input.isSome
  files := r.session.files
  finished := r.finished
  resident := r.resident
  backlog := r.backlog.toList
  next := r.nextSpawn
  queue := r.mailbox.toList
  journal := r.journal
  prints := r.session.prints
  calls := r.session.calls

namespace Pipeline

def host? (s : Pipeline P F) (index : Nat) : Option (Host P) := s.resident.find? (·.index == index)

/-- The host of a resident stage that reads from a channel. -/
def reader? (s : Pipeline P F) (index : Nat) : Option (Host P) :=
  (s.host? index).filter (·.channel?.isSome)

/-- The places of the residents. -/
def indices (s : Pipeline P F) : List Nat := s.resident.map Host.index

def setHost (s : Pipeline P F) (h : Host P) : Pipeline P F :=
  { s with resident := s.resident.map fun other => if other.index = h.index then h else other }

/-- A stage that can work alongside the one before it. -/
def ahead (s : Pipeline P F) (index : Nat) : Bool :=
  s.sharedMemory && (s.stages[index]?).any fun stage => !stage.isCallback

/-- No input can come any more to a stage that is just being set going. -/
def inputOver (s : Pipeline P F) (index : Nat) : Bool :=
  match index with
  | 0 => !s.typed
  | before + 1 => s.finished.contains before

/-- The first event leaves the queue to be handled. -/
def handle (s : Pipeline P F) (index : Nat) (e : StageEvent) (rest : List (Nat × StageEvent)) :
    Pipeline P F :=
  { s with queue := rest, journal := .handled index e :: s.journal }

def closeReader (s : Pipeline P F) (index : Nat) : Pipeline P F :=
  match s.reader? index with
  | some h => s.setHost h.closeInput
  | none => s

/-- A stage has ended: its reader's input is over, and its host goes. -/
def retire (s : Pipeline P F) (index : Nat) (changed : Option Snapshot) : Pipeline P F :=
  { s with
    finished := index :: s.finished
    files := Filesystem.after s.files changed
    resident := (s.closeReader (index + 1)).resident.filter (·.index != index) }

/-- What a stage is set going with. -/
def gathered (s : Pipeline P F) : Option Bytes := if s.backlog.isEmpty then none else some s.backlog

/-- The next stage has been set going. -/
def spawn (s : Pipeline P F) (h : Host P) (events : List StageEvent) : Pipeline P F :=
  { s with
    next := s.next + 1
    backlog := []
    resident := s.resident ++ [if s.inputOver h.index then h.closeInput else h]
    queue := s.queue ++ events.map (h.index, ·)
    journal := .started h.index s.gathered :: s.journal
    calls := (h.stage.call? (Filesystem.snapshot s.files) s.backlog).toList ++ s.calls }

/-! ## Finding hosts -/

variable {s : Pipeline P F} {h : Host P} {k : Nat}

theorem host?_index (hk : s.host? k = some h) : h.index = k := by
  simpa [host?] using List.find?_some hk

theorem mem_of_host? (hk : s.host? k = some h) : h ∈ s.resident := List.mem_of_find?_eq_some hk

theorem host?_isSome : (s.host? k).isSome = true ↔ k ∈ s.indices := by
  simp [host?, indices, List.find?_isSome]

theorem mem_indices (hk : s.host? k = some h) : k ∈ s.indices := by
  rw [← host?_isSome, hk]
  rfl

theorem reader?_eq_some : s.reader? k = some h ↔ s.host? k = some h ∧ h.kind = .concurrent := by
  simp only [reader?, Option.filter_eq_some_iff, Host.channel?_isSome]

theorem closeInput_index (h : Host P) : h.closeInput.index = h.index := by
  unfold Host.closeInput Host.setChannel
  split
  · rfl
  · split <;> rfl

theorem host?_setHost (s : Pipeline P F) (h : Host P) (k : Nat) :
    (s.setHost h).host? k = if k = h.index then (s.host? k).map fun _ => h else s.host? k := by
  simp only [host?, setHost, List.find?_map]
  have hkeep : ((fun other : Host P => other.index == k) ∘
      fun other => if other.index = h.index then h else other) = fun other => other.index == k := by
    funext other
    simp only [Function.comp]
    split
    · rename_i heq
      rw [heq]
    · rfl
  rw [hkeep]
  split
  · rename_i hk
    cases hfound : s.resident.find? (·.index == k) with
    | none => rfl
    | some other =>
      have hindex : other.index = h.index := by
        rw [← hk]
        simpa using List.find?_some hfound
      simp [hindex]
  · rename_i hk
    cases hfound : s.resident.find? (·.index == k) with
    | none => rfl
    | some other =>
      have hindex : other.index ≠ h.index := by
        have : other.index = k := by simpa using List.find?_some hfound
        rw [this]
        exact hk
      simp [hindex]

theorem host?_append (s : Pipeline P F) (h : Host P) (k : Nat) :
    ({ s with resident := s.resident ++ [h] } : Pipeline P F).host? k =
      (s.host? k).or (if h.index = k then some h else none) := by
  simp only [host?, List.find?_append]
  congr 1
  by_cases hk : h.index = k <;> simp [hk]

theorem host?_remove (s : Pipeline P F) (index k : Nat) :
    ({ s with resident := s.resident.filter (·.index != index) } : Pipeline P F).host? k =
      if k = index then none else s.host? k := by
  simp only [host?, List.find?_filter]
  split
  · rename_i hk
    rw [List.find?_eq_none]
    intro other _
    simp [hk]
  · rename_i hk
    congr 1
    funext other
    by_cases hother : other.index = k <;> simp [hother, hk]

@[simp] theorem setHost_indices (s : Pipeline P F) (h : Host P) :
    (s.setHost h).indices = s.indices := by
  simp only [indices, setHost, List.map_map]
  apply List.map_congr_left
  intro other _
  simp only [Function.comp]
  split
  · rename_i heq
    exact heq.symm
  · rfl

theorem host?_closeReader (s : Pipeline P F) (index k : Nat) :
    (s.closeReader index).host? k =
      if k = index then
        (s.host? k).map fun h => if h.kind = .concurrent then h.closeInput else h
      else s.host? k := by
  unfold closeReader
  cases hreader : s.reader? index with
  | none =>
    simp only
    split
    · rename_i hk
      subst hk
      cases hfound : s.host? k with
      | none => rfl
      | some h =>
        have hkind : h.kind ≠ .concurrent := fun hc => by
          rw [reader?_eq_some.mpr ⟨hfound, hc⟩] at hreader
          cases hreader
        simp [hkind]
    · rfl
  | some h =>
    obtain ⟨hfound, hkind⟩ := reader?_eq_some.mp hreader
    simp only
    rw [host?_setHost, closeInput_index, host?_index hfound]
    split
    · rename_i hk
      subst hk
      simp [hfound, hkind]
    · rfl

theorem closeReader_indices (s : Pipeline P F) (index : Nat) :
    (s.closeReader index).indices = s.indices := by
  unfold closeReader
  split
  · exact setHost_indices _ _
  · rfl

theorem host?_retire (s : Pipeline P F) (index k : Nat) (changed : Option Snapshot) :
    (s.retire index changed).host? k =
      if k = index then none else (s.closeReader (index + 1)).host? k :=
  host?_remove (s.closeReader (index + 1)) index k

theorem host?_spawn (s : Pipeline P F) (h : Host P) (events : List StageEvent) (k : Nat) :
    (s.spawn h events).host? k = (s.host? k).or
      (if h.index = k then some (if s.inputOver h.index then h.closeInput else h) else none) := by
  refine (host?_append s _ k).trans ?_
  split <;> simp [closeInput_index]

@[simp] theorem gathered_getD (s : Pipeline P F) : s.gathered.getD [] = s.backlog := by
  unfold gathered
  split
  · rename_i hempty
    exact (List.isEmpty_iff.mp hempty).symm
  · rfl

theorem ahead_of_kind
    (hkind : (if s.ahead k then Host.Kind.concurrent else .inline) = .concurrent) :
    s.ahead k = true := by
  cases hahead : s.ahead k with
  | true => rfl
  | false => simp [hahead] at hkind

/-- Only programs work while the stage before them does. -/
theorem program_of_ahead {stage : Stage P} (hstage : s.stages[k]? = some stage)
    (hahead : s.ahead k = true) : stage.isCallback = false := by
  simp only [ahead, hstage, Option.any_some, Bool.and_eq_true, Bool.not_eq_true'] at hahead
  exact hahead.2

end Pipeline

/-- A host that was set going next. -/
theorem Pipeline.spawned_spec {s : Pipeline P F} {stage : Stage P} {fresh h : Host P}
    {events : List StageEvent} (hstage : s.stages[s.next]? = some stage)
    (hfresh : Host.Fresh s.next stage (Filesystem.snapshot s.files)
      (if s.ahead s.next then .concurrent else .inline) fresh)
    (hstart : fresh.start s.calls s.gathered = (h, events, none)) :
    h.index = s.next ∧ h.stage = stage ∧
    h.kind = (if s.ahead s.next then .concurrent else .inline) ∧
      h.cancelled = false ∧ h.ChannelSound ∧ (s.ahead s.next = true → h.isShut = false) ∧
      h.unread <:+ s.backlog := by
  obtain ⟨hindex, hstage', hkind, hlive, hsound, hshut, hunread⟩ :=
    Host.start_spec hfresh (fun hkind => program_of_ahead hstage (ahead_of_kind hkind)) hstart
  rw [gathered_getD] at hunread
  exact ⟨hindex, hstage', hkind, hlive, hsound, fun ha => hshut (by simp [ha]), hunread⟩

/-! ## Moves -/

/-- What can happen on the pipeline of an active run. -/
inductive Move (c : Console) : Pipeline P F → Pipeline P F → Prop where
  /-- A resident host does one act. -/
  | worked {s : Pipeline P F} {h h' : Host P} {events : List StageEvent}
      (hfound : s.host? h.index = some h) (hstep : h.step = some (h', events)) :
      Move c s { s.setHost h' with queue := s.queue ++ events.map (h.index, ·) }
  /-- An event of a stage that is not resident is thrown away. -/
  | dropped {s : Pipeline P F} {index : Nat} {e : StageEvent} {rest : List (Nat × StageEvent)}
      (hqueue : s.queue = (index, e) :: rest) (hgone : s.host? index = none) :
      Move c s { s with queue := rest }
  | asked {s : Pipeline P F} {index : Nat} {h : Host P} {rest : List (Nat × StageEvent)}
      (hqueue : s.queue = (index, .wantsInput) :: rest) (hfound : s.host? index = some h) :
      Move c s (s.handle index .wantsInput rest)
  /-- Output of the last stage is printed. -/
  | shown {s : Pipeline P F} {index : Nat} {h : Host P} {data : Bytes}
      {rest : List (Nat × StageEvent)}
      (hqueue : s.queue = (index, .data data) :: rest) (hfound : s.host? index = some h)
      (hlast : index + 1 = s.stages.length) :
      Move c s { s.handle index (.data data) rest with prints := s.prints ++ c.shown data }
  /-- The stage that would read has ended. -/
  | discarded {s : Pipeline P F} {index : Nat} {h : Host P} {data : Bytes}
      {rest : List (Nat × StageEvent)}
      (hqueue : s.queue = (index, .data data) :: rest) (hfound : s.host? index = some h)
      (hinner : index + 1 ≠ s.stages.length) (hover : index + 1 ∈ s.finished) :
      Move c s (s.handle index (.data data) rest)
  | fed {s : Pipeline P F} {index : Nat} {h reader reader' : Host P} {data : Bytes}
      {rest : List (Nat × StageEvent)}
      (hqueue : s.queue = (index, .data data) :: rest) (hfound : s.host? index = some h)
      (hinner : index + 1 ≠ s.stages.length) (hopen : index + 1 ∉ s.finished)
      (hreader : s.reader? (index + 1) = some reader)
        (hwrite : reader.writeInput data = .ok reader') :
      Move c s { (s.handle index (.data data) rest).setHost reader' with
        journal := .written (index + 1) data :: .handled index (.data data) :: s.journal }
  | refused {s : Pipeline P F} {index : Nat} {h reader : Host P} {data : Bytes}
      {why : Channel.Refusal} {rest : List (Nat × StageEvent)}
      (hqueue : s.queue = (index, .data data) :: rest) (hfound : s.host? index = some h)
      (hinner : index + 1 ≠ s.stages.length) (hopen : index + 1 ∉ s.finished)
      (hreader : s.reader? (index + 1) = some reader)
        (hwrite : reader.writeInput data = .error why) :
      Move c s { s.handle index (.data data) rest with
        journal := .refused (index + 1) data why :: .handled index (.data data) :: s.journal }
  /-- There is no stage to feed yet. -/
  | stored {s : Pipeline P F} {index : Nat} {h : Host P} {data : Bytes}
      {rest : List (Nat × StageEvent)} (hqueue : s.queue = (index, .data data) :: rest)
      (hfound : s.host? index = some h) (hinner : index + 1 ≠ s.stages.length)
      (hopen : index + 1 ∉ s.finished)
      (hreader : s.sharedMemory = false ∨ s.reader? (index + 1) = none) :
      Move c s { s.handle index (.data data) rest with backlog := s.backlog ++ data }
  | retired {s : Pipeline P F} {index : Nat} {h : Host P} {changed : Option Snapshot}
      {rest : List (Nat × StageEvent)}
      (hqueue : s.queue = (index, .ended changed) :: rest) (hfound : s.host? index = some h)
      (hinner : index + 1 ≠ s.stages.length) :
      Move c s ((s.handle index (.ended changed) rest).retire index changed)
  /-- The next stage is set going, ahead of its turn only if it can work alongside. -/
  | spawned {s : Pipeline P F} {stage : Stage P} {fresh h : Host P} {events : List StageEvent}
      (hstage : s.stages[s.next]? = some stage) (hroom : s.resident.length < window)
      (hready : ∀ k, s.next = k + 1 → s.ahead s.next = false → k ∈ s.finished)
      (hfresh : Host.Fresh s.next stage (Filesystem.snapshot s.files)
        (if s.ahead s.next then .concurrent else .inline) fresh)
      (hstart : fresh.start s.calls s.gathered = (h, events, none)) :
      Move c s (s.spawn h events)
  /-- The input of the first stage is over. -/
  | closed {s : Pipeline P F} {h : Host P} (hreader : s.reader? 0 = some h) :
      Move c s (s.setHost h.closeInput)
  | typed {s : Pipeline P F} {h h' : Host P} {data : Bytes} (htyped : s.typed = true)
      (hreader : s.reader? 0 = some h) (hwrite : h.writeInput data = .ok h') :
      Move c s { s.setHost h' with journal := .written 0 data :: s.journal }
  | rejected {s : Pipeline P F} {h : Host P} {data : Bytes} {why : Channel.Refusal}
      (htyped : s.typed = true) (hreader : s.reader? 0 = some h)
      (hwrite : h.writeInput data = .error why) :
      Move c s { s with journal := .refused 0 data why :: s.journal }

/-- Any number of moves. -/
abbrev Moves (c : Console) : Pipeline P F → Pipeline P F → Prop := Relation.ReflTransGen (Move c)

/-- What every move keeps is kept by any number of them. -/
theorem Moves.invariant {c : Console} {Q : Pipeline P F → Prop}
    (hmove : ∀ {s t : Pipeline P F}, Move c s t → Q s → Q t) {s t : Pipeline P F} (h : Moves c s t)
    (hs : Q s) : Q t := by
  induction h with
  | refl => exact hs
  | tail _ hlast ih => exact hmove hlast ih

end Run

end Pipework
