import Pipework.Proofs.Run.Relay
import Pipework.Proofs.Waiting

/-!
# Events of stages that are there

A stage reports nothing behind the event that closes it, and its host goes only when that event is
handled. So on the pipeline of an active run every queued event is of a resident host
(`Pipeline.QueueInv`), and nothing that a stage reports is thrown away while the run is active.

* `Host.step_closingIsLast`, `Host.start_closingIsLast` — what a host reports at once.
* `Pipeline.QueueInv.move` — every move keeps the queue so.
* `reached_queueInv` — so they are in every reached run that is active.
-/

namespace Pipework

namespace Host

variable {P : Type} [Program P] {h h' other : Host P} {e : StageEvent} {events : List StageEvent}

/-- Nothing is reported behind a closing event, and the host is over by then. -/
structure ClosingIsLast (h : Host P) (events : List StageEvent) : Prop where
  closed : ∀ e ∈ events, e.isClosing = true → h.phase = .over
  last : events.Pairwise fun e _ => e.isClosing = false

theorem ClosingIsLast.nil (h : Host P) : h.ClosingIsLast [] := ⟨nofun, .nil⟩

theorem ClosingIsLast.report (hover : e.isClosing = true → h.phase = .over) :
    h.ClosingIsLast (other.report e) := by
  unfold Host.report
  split
  · exact .nil h
  · refine ⟨fun e' he' => ?_, .cons nofun .nil⟩
    rw [List.mem_singleton.mp he']
    exact hover

theorem ClosingIsLast.closeInput (ht : h.ClosingIsLast events) :
    h.closeInput.ClosingIsLast events := by
  refine ⟨?_, ht.last⟩
  rw [closeInput_phase]
  exact ht.closed

/-- **One act closes a stage or leaves it at work.** -/
theorem step_closingIsLast (hstep : h.step = some (h', events)) : h'.ClosingIsLast events := by
  cases step_cases hstep with
  | silent | wroteNothing | cutOff | readGiven | readHeld | refused => exact .nil _
  | wrote =>
    refine ⟨fun e he hclosing => ?_, List.pairwise_singleton _ _⟩
    rw [List.mem_singleton.mp he] at hclosing
    cases hclosing
  | finished => exact .report fun _ => rfl
  | parked =>
    split
    · exact .nil _
    · refine .report fun hclosing => ?_
      cases hclosing

/-- A host that has just been set going has reported all that its callback did, or nothing. -/
theorem start_closingIsLast {past : List Callback.Call} {input : Option Bytes}
    {why : Option Failure}
    (hstart : h.start past input = (h', events, why)) : h'.ClosingIsLast events := by
  have hinline : ∀ (files : Snapshot) (input : Bytes),
      (h.startInline past files input).1.ClosingIsLast (h.startInline past files input).2 := by
    intro files input
    unfold startInline
    split
    · rename_i c _
      simp only
      generalize c past (h.invocation files) (Utf8.decodeLossy input) = made
      obtain ⟨result, after⟩ := made
      refine ⟨fun _ _ _ => rfl, ?_⟩
      -- the output of a callback comes before its end
      cases result with
      | error why => cases hc : h.cancelled <;> simp [callEvents, report, hc]
      | ok text => cases text <;> cases hc : h.cancelled <;>
        simp [callEvents, report, hc, StageEvent.isClosing]
    · exact .nil _
  unfold start at hstart
  split at hstart
  · cases hstart
    exact .nil _
  · cases hstart
    exact .nil _
  · split at hstart
    · cases hstart
      exact .nil _
    · cases hstart
      exact hinline _ _

end Host

namespace Run

variable {P F : Type} [Program P] [Filesystem F] {ctx : Setting P}

namespace Pipeline

variable {s t : Pipeline P F} {h h' : Host P} {index : Nat} {events : List StageEvent}

/-- Every queued event is of a resident host, and behind the event that closes a stage there is none
of it. -/
structure QueueInv (s : Pipeline P F) : Prop where
  resident : ∀ k e, (k, e) ∈ s.queue →
    ∃ h, s.host? k = some h ∧ (e.isClosing = true → h.phase = .over)
  last : s.queue.Pairwise fun a b => a.2.isClosing = true → b.1 ≠ a.1

/-- A host that has closed its stage does nothing more. -/
theorem QueueInv.unclosed (ha : s.QueueInv) (hfound : s.host? index = some h)
    (hstep : h.step = some (h', events)) : ∀ e, (index, e) ∈ s.queue → e.isClosing = false := by
  intro e he
  refine Bool.eq_false_iff.mpr fun hclosing => ?_
  obtain ⟨host, hhost, hover⟩ := ha.resident index e he
  rw [hfound] at hhost
  cases hhost
  rw [Host.step_of_over (hover hclosing)] at hstep
  cases hstep

/-- Where no event is added it is enough that the hosts with events stay as they are. -/
theorem QueueInv.of_sublist (ha : s.QueueInv) (hqueue : t.queue.Sublist s.queue)
    (hhosts : ∀ k e, (k, e) ∈ t.queue → ∀ h, s.host? k = some h →
      ∃ h', t.host? k = some h' ∧ h'.phase = h.phase) : t.QueueInv where
  resident := by
    intro k e he
    obtain ⟨h, hfound, hover⟩ := ha.resident k e (hqueue.mem he)
    obtain ⟨h', hfound', hphase⟩ := hhosts k e he h hfound
    refine ⟨h', hfound', ?_⟩
    rw [hphase]
    exact hover
  last := ha.last.sublist hqueue

/-- The first event of the queue has been dealt with. -/
theorem QueueInv.popped {first : Nat × StageEvent} (ha : s.QueueInv)
    (hqueue : s.queue = first :: t.queue)
    (hhosts : ∀ k h, s.host? k = some h → ∃ h', t.host? k = some h' ∧ h'.phase = h.phase) :
    t.QueueInv := by
  refine ha.of_sublist ?_ fun k _ _ => hhosts k
  rw [hqueue]
  exact List.sublist_cons_self _ _

/-- A stage that had not closed reports, and all others stay as they are. -/
theorem QueueInv.reported (ha : s.QueueInv) (index : Nat) (events : List StageEvent)
    (hqueue : t.queue = s.queue ++ events.map (index, ·))
    (hfound : t.host? index = some h) (htold : h.ClosingIsLast events)
    (hopen : ∀ e, (index, e) ∈ s.queue → e.isClosing = false)
    (hothers : ∀ k, k ≠ index → ∀ h, s.host? k = some h → t.host? k = some h) : t.QueueInv where
  resident := by
    intro k e he
    rw [hqueue] at he
    rcases List.mem_append.mp he with hold | hnew
    · by_cases hk : k = index
      · subst hk
        exact ⟨h, hfound, fun hclosing => absurd (hclosing.symm.trans (hopen e hold)) (by decide)⟩
      · obtain ⟨other, hother, hover⟩ := ha.resident k e hold
        exact ⟨other, hothers k hk other hother, hover⟩
    · obtain ⟨e', he', heq⟩ := List.mem_map.mp hnew
      cases heq
      exact ⟨h, hfound, htold.closed e he'⟩
  last := by
    rw [hqueue, List.pairwise_append]
    refine ⟨ha.last, ?_, ?_⟩
    · rw [List.pairwise_map]
      exact htold.last.imp fun hopen hclosing => absurd (hclosing.symm.trans hopen) (by decide)
    · rintro ⟨k, e⟩ hold ⟨j, e'⟩ hnew hclosing hsame
      obtain ⟨e'', -, heq⟩ := List.mem_map.mp hnew
      cases heq
      have hsame : index = k := hsame
      subst hsame
      exact absurd (hclosing.symm.trans (hopen e hold)) (by decide)

/-- A host is replaced by one that stands where it stood. -/
theorem setHost_phase {reader reader' : Host P} (hfound : s.host? index = some reader)
    (hindex : reader'.index = index) (hphase : reader'.phase = reader.phase) (k : Nat) (h : Host P)
    (hk : s.host? k = some h) : ∃ h', (s.setHost reader').host? k = some h' ∧
    h'.phase = h.phase := by
  rw [host?_setHost, hindex]
  split
  · rename_i heq
    subst heq
    rw [hfound] at hk
    cases hk
    rw [hfound]
    exact ⟨reader', rfl, hphase⟩
  · exact ⟨h, hk, rfl⟩

theorem setHost_written {reader reader' : Host P} {data : Bytes}
    (hreader : s.reader? index = some reader) (hwrite : reader.writeInput data = .ok reader')
    (k : Nat) (h : Host P) (hk : s.host? k = some h) :
    ∃ h', (s.setHost reader').host? k = some h' ∧ h'.phase = h.phase := by
  have hfound := (reader?_eq_some.mp hreader).1
  refine setHost_phase hfound ?_ (Host.writeInput_phase hwrite) k h hk
  rw [(Host.writeInput_sameIdentity hwrite).1.index, host?_index hfound]

theorem closeReader_phase (s : Pipeline P F) (index k : Nat) (h : Host P)
    (hk : s.host? k = some h) :
    ∃ h', (s.closeReader index).host? k = some h' ∧ h'.phase = h.phase := by
  unfold closeReader
  split
  · rename_i reader hreader
    have hfound := (reader?_eq_some.mp hreader).1
    refine setHost_phase hfound ?_ (Host.closeInput_phase reader) k h hk
    rw [closeInput_index, host?_index hfound]
  · exact ⟨h, hk, rfl⟩

/-- **A host goes with the last of its events.** -/
theorem QueueInv.retired {changed : Option Snapshot} {rest : List (Nat × StageEvent)}
    (ha : s.QueueInv) (hqueue : s.queue = (index, .ended changed) :: rest) :
    ((s.handle index (.ended changed) rest).retire index changed).QueueInv := by
  have hsub : rest.Sublist s.queue := by
    rw [hqueue]
    exact List.sublist_cons_self _ _
  refine ha.of_sublist hsub fun k e he h hk => ?_
  have hlast := ha.last
  rw [hqueue, List.pairwise_cons] at hlast
  have hother : k ≠ index := hlast.1 (k, e) he rfl
  rw [host?_retire, if_neg hother]
  exact closeReader_phase (s.handle index (.ended changed) rest) (index + 1) k h hk

/-- The next stage reports for the first time. -/
theorem QueueInv.spawn (ha : s.QueueInv) (ho : s.OrderInv) (hindex : h.index = s.next)
    (htold : h.ClosingIsLast events) : (s.spawn h events).QueueInv := by
  have hvacant : s.host? s.next = none := by
    cases hfound : s.host? s.next with
    | none => rfl
    | some other => exact absurd (ho.resident hfound).1 (Nat.lt_irrefl _)
  have hhost := host?_spawn s h events
  rw [hindex] at hhost
  refine ha.reported s.next events (h := if s.inputOver s.next then h.closeInput else h)
    ?_ ?_ ?_ ?_ ?_
  · rw [← hindex]
    rfl
  · rw [hhost, hvacant, if_pos rfl]
    rfl
  · split
    · exact htold.closeInput
    · exact htold
  · intro e he
    obtain ⟨other, hother, -⟩ := ha.resident _ e he
    rw [hvacant] at hother
    cases hother
  · intro k hk other hother
    rw [hhost, hother]
    rfl

end Pipeline

/-- **Every move keeps the stages attended.** -/
theorem Pipeline.QueueInv.move {c : Console} {s t : Pipeline P F} (hmove : Move c s t)
    (ho : s.OrderInv) (hr : s.RelayInv) (ha : s.QueueInv) : t.QueueInv := by
  have hstay : ∀ k h, s.host? k = some h → ∃ h', s.host? k = some h' ∧ h'.phase = h.phase :=
    fun _ h hk => ⟨h, hk, rfl⟩
  cases hmove with
  | @worked h h' events hfound hstep =>
    have hindex : h'.index = h.index :=
      (Host.step_spec (hr.hosts _ _ hfound).sound hstep).1.index
    have hhost := fun k => Pipeline.host?_setHost s h' k
    refine ha.reported h.index events (h := h') rfl ?_ (Host.step_closingIsLast hstep)
      (ha.unclosed hfound hstep) fun k hk other hother => ?_
    · refine (hhost h.index).trans ?_
      rw [if_pos hindex.symm, hfound]
      rfl
    · refine (hhost k).trans ?_
      rw [hindex, if_neg hk, hother]
  | dropped hqueue hgone => exact ha.popped hqueue hstay
  | asked hqueue hfound => exact ha.popped hqueue hstay
  | shown hqueue hfound hlast => exact ha.popped hqueue hstay
  | discarded hqueue hfound hinner hover => exact ha.popped hqueue hstay
  | fed hqueue hfound hinner hopen hreader hwrite =>
    exact ha.popped hqueue (Pipeline.setHost_written hreader hwrite)
  | refused hqueue hfound hinner hopen hreader hwrite => exact ha.popped hqueue hstay
  | stored hqueue hfound hinner hopen hreader => exact ha.popped hqueue hstay
  | retired hqueue hfound hinner => exact ha.retired hqueue
  | spawned hstage hroom hready hfresh hstart =>
    exact ha.spawn ho (Pipeline.spawned_spec hstage hfresh hstart).1
      (Host.start_closingIsLast hstart)
  | @closed h hreader =>
    have hfound := (Pipeline.reader?_eq_some.mp hreader).1
    refine ha.of_sublist (List.Sublist.refl _) fun k _ _ => ?_
    refine Pipeline.setHost_phase hfound ?_ (Host.closeInput_phase h) k
    rw [Pipeline.closeInput_index, Pipeline.host?_index hfound]
  | typed htyped hreader hwrite =>
    exact ha.of_sublist (List.Sublist.refl _) fun k _ _ => Pipeline.setHost_written hreader hwrite k
  | rejected htyped hreader hwrite =>
    exact ha.of_sublist (List.Sublist.refl _) fun k _ _ => hstay k

theorem Pipeline.QueueInv.opening (stages : List (Stage P)) (s : Session F) :
    (Pipeline.opening stages s).QueueInv := ⟨nofun, .nil⟩

end Run

end Pipework
