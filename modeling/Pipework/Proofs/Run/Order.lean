import Mathlib.Data.List.Nodup
import Pipework.Proofs.Run.Pipeline

/-!
# Stages in order

The stages of a run are set going one after another, at most two of them are resident at a time, and
each that was set going is either resident or has ended (`OrderInv`). Every move keeps this, since
only `retired` and `spawned` touch the bookkeeping at all (`OrderInv.move`).
-/

namespace Pipework

namespace Run

variable {P F : Type} [Program P] [Filesystem F]

namespace Journal

@[simp] theorem started_cons_started (k : Nat) (input : Option Bytes) (j : Journal) :
    started (.started k input :: j) = started j ++ [k] := by
  simp [started]

@[simp] theorem hasEnded_cons_ended (i k : Nat) (changed : Option Snapshot) (j : Journal) :
    hasEnded i (.handled k (.ended changed) :: j) = (k == i || hasEnded i j) := rfl

end Journal

namespace Pipeline

/-- The bookkeeping of the stages is right. -/
structure OrderInv (s : Pipeline P F) : Prop where
  next_le : s.next ≤ s.stages.length
  ascending : s.indices.Pairwise (· < ·)
  below : ∀ k ∈ s.indices, k < s.next
  room : s.indices.length ≤ window
  over_lt : ∀ k ∈ s.finished, k < s.next
  placed : ∀ k < s.next, k ∈ s.indices ↔ k ∉ s.finished
  started : s.journal.started = List.range s.next
  ended : ∀ k, s.journal.hasEnded k = true ↔ k ∈ s.finished

variable {s t : Pipeline P F}

theorem OrderInv.congr (h : s.OrderInv) (hstages : t.stages = s.stages)
    (hindices : t.indices = s.indices)
    (hnext : t.next = s.next) (hfinished : t.finished = s.finished)
    (hstarted : t.journal.started = s.journal.started)
    (hended : ∀ k, t.journal.hasEnded k = s.journal.hasEnded k) : t.OrderInv := by
  constructor
  · rw [hnext, hstages]
    exact h.next_le
  · rw [hindices]
    exact h.ascending
  · rw [hindices, hnext]
    exact h.below
  · rw [hindices]
    exact h.room
  · rw [hfinished, hnext]
    exact h.over_lt
  · rw [hindices, hfinished, hnext]
    exact h.placed
  · rw [hstarted, hnext]
    exact h.started
  · intro k
    rw [hended, hfinished]
    exact h.ended k

/-- A stage that reports is under way, so it has not ended. -/
theorem OrderInv.resident (h : s.OrderInv) {k : Nat} {host : Host P} (hk : s.host? k = some host) :
    k < s.next ∧ k ∉ s.finished := by
  have hmem := mem_indices hk
  have hlt := h.below k hmem
  exact ⟨hlt, (h.placed k hlt).mp hmem⟩

theorem OrderInv.unended (h : s.OrderInv) {k : Nat} (hk : k ∉ s.finished) :
    s.journal.hasEnded k = false := by
  rw [Bool.eq_false_iff]
  intro hended
  exact hk ((h.ended k).mp hended)

/-- The stage set going last is resident. -/
def NewestResident (s : Pipeline P F) : Prop := ∃ k ∈ s.indices, s.next = k + 1

/-- No further stage can be set going before one has ended. -/
def WindowFull (s : Pipeline P F) : Prop :=
  s.stages.length ≤ s.next ∨ window ≤ s.indices.length ∨ s.ahead s.next = false

structure WindowInv (s : Pipeline P F) : Prop where
  newest : s.NewestResident
  full : s.WindowFull

/-- The same stages are under way on both pipelines. -/
structure SameIndices (s t : Pipeline P F) : Prop where
  stages : t.stages = s.stages
  sharedMemory : t.sharedMemory = s.sharedMemory
  indices : t.indices = s.indices
  next : t.next = s.next

theorem SameIndices.ahead (h : SameIndices s t) (k : Nat) : t.ahead k = s.ahead k := by
  unfold Pipeline.ahead
  rw [h.stages, h.sharedMemory]

theorem WindowInv.congr (h : s.WindowInv) (halike : SameIndices s t) : t.WindowInv := by
  refine ⟨?_, ?_⟩
  · unfold NewestResident
    rw [halike.indices, halike.next]
    exact h.newest
  · unfold WindowFull
    rw [halike.stages, halike.next, halike.indices, halike.ahead]
    exact h.full

/-! ## Ends -/

theorem retire_indices (s : Pipeline P F) (k : Nat) (changed : Option Snapshot) :
    (s.retire k changed).indices = s.indices.filter (· != k) := by
  have hfilter : ∀ hosts : List (Host P), (hosts.filter (·.index != k)).map Host.index =
      (hosts.map Host.index).filter (· != k) := by
    intro hosts
    rw [List.filter_map]
    rfl
  rw [← closeReader_indices s (k + 1)]
  exact hfilter _

/-- Without the one that has ended there is room again. -/
theorem retire_room (h : s.OrderInv) {k : Nat} (hk : k ∈ s.indices) (changed : Option Snapshot) :
    (s.retire k changed).indices.length < window := by
  have hroom := h.room
  have hlt : (s.indices.filter (· != k)).length < s.indices.length := by
    rcases Nat.lt_or_ge (s.indices.filter (· != k)).length s.indices.length with hlt | hge
    · exact hlt
    · have hsub := List.filter_sublist (l := s.indices) (p := (· != k))
      have heq := hsub.eq_of_length_le hge
      have := List.mem_filter.mp (heq ▸ hk)
      simp at this
  rw [retire_indices]
  omega

/-- The `retire` of a handled end keeps the books. -/
theorem OrderInv.retire (h : s.OrderInv) {k : Nat} (hk : k ∈ s.indices) (changed : Option Snapshot)
    (rest : List (Nat × StageEvent)) :
    ((s.handle k (.ended changed) rest).retire k changed).OrderInv := by
  have hindices : ((s.handle k (.ended changed) rest).retire k changed).indices =
      s.indices.filter (· != k) := retire_indices _ k changed
  have hmem : ∀ i, i ∈ s.indices.filter (· != k) ↔ i ∈ s.indices ∧ i ≠ k := by
    intro i
    simp [List.mem_filter]
  constructor
  · exact h.next_le
  · rw [hindices]
    exact h.ascending.filter _
  · intro i hi
    rw [hindices, hmem] at hi
    exact h.below i hi.1
  · rw [hindices]
    exact Nat.le_trans (List.length_filter_le _ _) h.room
  · intro i hi
    rcases List.mem_cons.mp hi with rfl | hi
    · exact h.below _ hk
    · exact h.over_lt i hi
  · intro i hi
    have hfinished : ((s.handle k (.ended changed) rest).retire k changed).finished =
        k :: s.finished := rfl
    rw [hindices, hmem, hfinished, List.mem_cons, not_or, h.placed i hi]
    exact And.comm
  · exact h.started
  · intro i
    simp only [handle, Pipeline.retire, Journal.hasEnded_cons_ended, Bool.or_eq_true, beq_iff_eq,
      List.mem_cons]
    rw [h.ended i]
    constructor
    · rintro (rfl | hi)
      · exact Or.inl rfl
      · exact Or.inr hi
    · rintro (rfl | hi)
      · exact Or.inl rfl
      · exact Or.inr hi

/-! ## Setting going -/

theorem spawn_indices (s : Pipeline P F) (h : Host P) (events : List StageEvent) :
    (s.spawn h events).indices = s.indices ++ [h.index] := by
  simp only [indices, spawn, List.map_append, List.map_cons, List.map_nil]
  split
  · rw [closeInput_index]
  · rfl

/-- The next stage comes behind all others. -/
theorem OrderInv.spawn (h : s.OrderInv) {host : Host P} (hindex : host.index = s.next)
    (hlt : s.next < s.stages.length) (hroom : s.indices.length < window)
    (events : List StageEvent) : (s.spawn host events).OrderInv := by
  have hindices : (s.spawn host events).indices = s.indices ++ [s.next] := by
    rw [spawn_indices, hindex]
  have hnext : (s.spawn host events).next = s.next + 1 := rfl
  have hfinished : (s.spawn host events).finished = s.finished := rfl
  constructor
  · rw [hnext]
    exact hlt
  · rw [hindices, List.pairwise_append]
    refine ⟨h.ascending, List.pairwise_singleton _ _, ?_⟩
    intro i hi k hk
    rw [List.mem_singleton.mp hk]
    exact h.below i hi
  · intro i hi
    rw [hindices, List.mem_append, List.mem_singleton] at hi
    rw [hnext]
    rcases hi with hi | rfl
    · exact Nat.lt_succ_of_lt (h.below i hi)
    · exact Nat.lt_succ_self _
  · rw [hindices, List.length_append, List.length_singleton]
    exact hroom
  · intro i hi
    exact Nat.lt_succ_of_lt (h.over_lt i hi)
  · intro i hi
    rw [hindices, hfinished, List.mem_append, List.mem_singleton]
    rcases Nat.lt_succ_iff_lt_or_eq.mp hi with hi | rfl
    · rw [← h.placed i hi]
      exact ⟨fun hm => hm.resolve_right (Nat.ne_of_lt hi), Or.inl⟩
    · exact ⟨fun _ hover => Nat.lt_irrefl _ (h.over_lt _ hover), fun _ => Or.inr rfl⟩
  · rw [hnext, List.range_succ, ← h.started]
    exact (Journal.started_cons_started _ _ _).trans (by rw [hindex])
  · exact h.ended

end Pipeline

/-- **Every move keeps the stages in order.** -/
theorem Pipeline.OrderInv.move {c : Console} {s t : Pipeline P F} (hmove : Move c s t)
    (h : s.OrderInv) : t.OrderInv := by
  cases hmove with
  | worked hfound hstep => exact h.congr rfl (setHost_indices _ _) rfl rfl rfl fun _ => rfl
  | dropped hqueue hgone => exact h.congr rfl rfl rfl rfl rfl fun _ => rfl
  | asked hqueue hfound => exact h.congr rfl rfl rfl rfl rfl fun _ => rfl
  | shown hqueue hfound hlast => exact h.congr rfl rfl rfl rfl rfl fun _ => rfl
  | discarded hqueue hfound hinner hover => exact h.congr rfl rfl rfl rfl rfl fun _ => rfl
  | fed hqueue hfound hinner hopen hreader hwrite =>
    exact h.congr rfl (setHost_indices _ _) rfl rfl rfl fun _ => rfl
  | refused hqueue hfound hinner hopen hreader hwrite =>
    exact h.congr rfl rfl rfl rfl rfl fun _ => rfl
  | stored hqueue hfound hinner hopen hreader => exact h.congr rfl rfl rfl rfl rfl fun _ => rfl
  | retired hqueue hfound hinner => exact h.retire (mem_indices hfound) _ _
  | spawned hstage hroom hready hfresh hstart =>
    have hindex := (Pipeline.spawned_spec hstage hfresh hstart).1
    refine h.spawn hindex (List.getElem?_eq_some_iff.mp hstage).1 ?_ _
    simpa [Pipeline.indices] using hroom
  | closed hreader => exact h.congr rfl (setHost_indices _ _) rfl rfl rfl fun _ => rfl
  | typed htyped hreader hwrite => exact h.congr rfl (setHost_indices _ _) rfl rfl rfl fun _ => rfl
  | rejected htyped hreader hwrite => exact h.congr rfl rfl rfl rfl rfl fun _ => rfl

end Run

end Pipework
