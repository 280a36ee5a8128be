import Pipework.Proofs.Run.Change
import Pipework.Proofs.Run.Relay
import Pipework.Routine.Basic

/-!
# The end of input

In an active run the channel of a resident stage is closed exactly when no input can come any more:
for the first stage when there is nobody to ask or the end of the typed lines was handed out, for
any other when the stage before it has ended (`input_exact`). The channels between stages are looked
after by `Pipeline.RelayInv`; what closes the first one is not seen on the pipeline and is followed
here change by change (`InputClosedInv.change`).
-/

namespace Pipework

namespace Run

variable {P F : Type} [Program P] [Filesystem F] {ctx : Setting P} {base : Session F}
  {r r' : Run P F}

namespace Pipeline

variable {s t : Pipeline P F}

/-- The channel of the first stage is what it was, closed or not, if the stage is still there. -/
def FirstUnchanged (s t : Pipeline P F) : Prop :=
  ∀ h', t.reader? 0 = some h' → ∃ h, s.reader? 0 = some h ∧ h'.isShut = h.isShut

theorem FirstUnchanged.of_resident (h : t.resident = s.resident) : FirstUnchanged s t := by
  intro h' hfound
  have hsame : t.reader? 0 = s.reader? 0 := by
    simp only [reader?, host?, h]
  exact ⟨h', hsame ▸ hfound, rfl⟩

theorem FirstUnchanged.of_host? (h : t.host? 0 = s.host? 0) : FirstUnchanged s t := by
  intro h' hfound
  refine ⟨h', ?_, rfl⟩
  rwa [reader?, h] at hfound

/-- Replacing a host by one whose channel is as it was. -/
theorem FirstUnchanged.setHost {h h' : Host P} (hfound : s.host? h.index = some h)
    (hsame : Host.SameIdentity h h') (hshut : h'.isShut = h.isShut) :
    FirstUnchanged s (s.setHost h') := by
  intro other hother
  obtain ⟨hhost, hkind⟩ := reader?_eq_some.mp hother
  rw [host?_setHost] at hhost
  split at hhost
  · rename_i hindex
    rw [hindex, hsame.index, hfound] at hhost
    cases hhost
    have hzero : h.index = 0 := hsame.index.symm.trans hindex.symm
    rw [hzero] at hfound
    exact ⟨h, reader?_eq_some.mpr ⟨hfound, hsame.kind.symm.trans hkind⟩, hshut⟩
  · exact ⟨other, reader?_eq_some.mpr ⟨hhost, hkind⟩, rfl⟩

theorem FirstUnchanged.retire (k : Nat) (changed : Option Snapshot) :
    FirstUnchanged s (s.retire k changed) := by
  intro other hother
  obtain ⟨hhost, hkind⟩ := reader?_eq_some.mp hother
  rw [host?_retire] at hhost
  split at hhost
  · cases hhost
  · rw [host?_closeReader, if_neg (Nat.succ_ne_zero k).symm] at hhost
    exact ⟨other, reader?_eq_some.mpr ⟨hhost, hkind⟩, rfl⟩

theorem FirstUnchanged.spawn {h : Host P} (hindex : h.index ≠ 0) (events : List StageEvent) :
    FirstUnchanged s (s.spawn h events) := by
  refine .of_host? ?_
  rw [host?_spawn, if_neg hindex, Option.or_none]

end Pipeline

/-! ## The first stage -/

/-- No typed line can come any more: there is nobody to ask, or the end of them was handed out since
the session was `base`. -/
def InputEnded (base : Session F) (r : Run P F) : Prop :=
  r.session.input = none ∨ base.lineEnds < r.session.lineEnds

/-- The channel of the first stage is closed when no typed line can come any more. -/
structure InputClosedInv (base : Session F) (r : Run P F) : Prop where
  first : ∀ h, r.pipeline.reader? 0 = some h → (h.isShut = true ↔ InputEnded base r)
  unbegun : r.nextSpawn = 0 → r.session.lineEnds = base.lineEnds
  later : base.lineEnds ≤ r.session.lineEnds

theorem InputEnded.congr (htyped : r'.pipeline.typed = r.pipeline.typed)
    (hlines : r'.session.lineEnds = r.session.lineEnds) : InputEnded base r' ↔ InputEnded base r := by
  have hinput : r'.session.input = none ↔ r.session.input = none := by
    rw [← Option.not_isSome_iff_eq_none, ← Option.not_isSome_iff_eq_none]
    exact not_congr (Bool.eq_iff_iff.mp htyped)
  rw [InputEnded, InputEnded, hinput, hlines]

theorem InputClosedInv.congr (h : InputClosedInv base r)
    (hfirst : Pipeline.FirstUnchanged r.pipeline r'.pipeline)
    (htyped : r'.pipeline.typed = r.pipeline.typed)
    (hlines : r'.session.lineEnds = r.session.lineEnds)
    (hnext : r'.nextSpawn = 0 → r.nextSpawn = 0) : InputClosedInv base r' where
  first := by
    intro h' hfound
    obtain ⟨old, hold, hshut⟩ := hfirst h' hfound
    rw [hshut, InputEnded.congr htyped hlines]
    exact h.first old hold
  unbegun := fun hzero => hlines.trans (h.unbegun (hnext hzero))
  later := by
    rw [hlines]
    exact h.later

theorem InputClosedInv.same (h : InputClosedInv base r)
    (hfirst : Pipeline.FirstUnchanged r.pipeline r'.pipeline)
    (hstatus : r'.status = r.status) (hnext : r'.pipeline.next = r.pipeline.next) :
    InputClosedInv base r' :=
  h.congr hfirst (congrArg Status.typed hstatus)
    (Session.lineEnds_congr (congrArg Status.marks hstatus)) fun hzero => hnext.symm.trans hzero

/-- The channel of the first stage may be closed when no line can come any more. -/
theorem InputClosedInv.close {h : Host P}
    (hunbegun : r.nextSpawn = 0 → r.session.lineEnds = base.lineEnds)
    (hlater : base.lineEnds ≤ r.session.lineEnds) (hsound : h.ChannelSound)
    (hreader : r.pipeline.reader? 0 = some h) (hended : InputEnded base r) :
    InputClosedInv base (r.setHost h.closeInput) where
  first := by
    intro h' hfound
    refine iff_of_true ?_ hended
    obtain ⟨hhost, -⟩ := Pipeline.reader?_eq_some.mp hreader
    obtain ⟨hhost', -⟩ := Pipeline.reader?_eq_some.mp hfound
    rw [pipeline_setHost, Pipeline.host?_setHost, Pipeline.closeInput_index,
      if_pos (Pipeline.host?_index hhost).symm, hhost] at hhost'
    cases hhost'
    exact (Host.closeInput_spec hsound).2.2.1
  unbegun := hunbegun
  later := hlater

theorem firstUnchanged_onData (ctx : Setting P) (index : Nat) (data : Bytes) (r : Run P F) :
    Pipeline.FirstUnchanged r.pipeline (onData ctx index data r).pipeline := by
  unfold onData
  split
  · rw [pipeline_record]
    exact .of_resident rfl
  · split
    · exact .of_resident rfl
    · split
      · rename_i reader hreader
        have hreader : r.pipeline.reader? (index + 1) = some reader := by
          split at hreader
          · exact hreader
          · cases hreader
        obtain ⟨hhost, -⟩ := Pipeline.reader?_eq_some.mp hreader
        have hhost : r.pipeline.host? reader.index = some reader := by
          rwa [Pipeline.host?_index hhost]
        split
        · rename_i fed hwrite
          obtain ⟨hsame, hshut⟩ := Host.writeInput_sameIdentity hwrite
          exact Pipeline.FirstUnchanged.setHost hhost hsame hshut
        · exact .of_resident rfl
      · exact .of_resident rfl

theorem firstUnchanged_stepWork (hr : r.pipeline.RelayInv) (index : Nat) :
    Pipeline.FirstUnchanged r.pipeline (r.stepWork index).pipeline := by
  unfold stepWork
  split
  · exact .of_resident rfl
  · rename_i h hfound
    split
    · exact .of_resident rfl
    · rename_i h' events hstep
      have hhost : r.pipeline.host? index = some h := hfound
      obtain ⟨hsame, -, hshut, -⟩ := Host.step_spec (hr.hosts _ _ hhost).sound hstep
      rw [← Pipeline.host?_index hhost] at hhost
      rw [pipeline_post]
      exact Pipeline.FirstUnchanged.setHost hhost hsame hshut

theorem InputClosedInv.asked {index : Nat} (h : InputClosedInv base r)
    (hsound : ∀ host, r.pipeline.host? 0 = some host → host.ChannelSound) :
    InputClosedInv base (onRequest index r) := by
  unfold onRequest
  split
  · rename_i host hreader
    have hreader : r.pipeline.reader? 0 = some host := hreader
    split
    · rename_i hinput
      have hhost := (Pipeline.reader?_eq_some.mp hreader).1
      exact .close h.unbegun h.later (hsound host hhost) hreader
        (Or.inl (Option.isNone_iff_eq_none.mp hinput))
    · exact ⟨h.first, h.unbegun, h.later⟩
  · exact h

/-- A first stage that is set going has its channel closed if there is nobody to ask. -/
theorem InputClosedInv.spawned {stage : Stage P} (h : InputClosedInv base r)
    (ho : r.pipeline.OrderInv) (hstage : r.stages[r.nextSpawn]? = some stage)
    (hactive : (spawnStage ctx r.nextSpawn r).active = true) :
    InputClosedInv base (spawnStage ctx r.nextSpawn r) := by
  obtain ⟨fresh, host, events, hfresh, hstart, hpipeline⟩ := spawnStage_spec hstage hactive
  obtain ⟨hindex, -, hkind, -, hsound, hopen, -⟩ :=
    Pipeline.spawned_spec (s := r.pipeline) hstage hfresh hstart
  have hstatus := spawnStage_status hstage hactive
  generalize spawnStage ctx r.nextSpawn r = r' at hpipeline hstatus ⊢
  have htyped : r'.pipeline.typed = r.pipeline.typed := congrArg Status.typed hstatus
  have hlines : r'.session.lineEnds = r.session.lineEnds := by
    have hmarks : r'.session.marks = r.session.marks ++ [.exported r.session.snapshot] :=
      congrArg Status.marks hstatus
    exact Session.lineEnds_append hmarks
  have hnext : r'.nextSpawn ≠ 0 := by
    have hnext : r'.nextSpawn = r.nextSpawn + 1 := congrArg Pipeline.next hpipeline
    omega
  by_cases hzero : r.nextSpawn = 0
  · refine ⟨fun h' hfound => ?_, fun hnone => absurd hnone hnext, hlines ▸ h.later⟩
    have hvacant : r.pipeline.host? 0 = none := by
      cases hfound : r.pipeline.host? 0 with
      | none => rfl
      | some other =>
        have hlt : 0 < r.nextSpawn := ho.below 0 (Pipeline.mem_indices hfound)
        omega
    have hplace : host.index = 0 := hindex.trans hzero
    rw [hpipeline, Pipeline.reader?_eq_some, Pipeline.host?_spawn, hvacant, Option.none_or,
      if_pos hplace, hplace] at hfound
    obtain ⟨hsame, hconcurrent⟩ := hfound
    have hended : InputEnded base r' ↔ r.pipeline.typed = false := by
      rw [InputEnded, hlines, h.unbegun hzero, ← htyped]
      simp [pipeline]
    rw [hended]
    cases ht : r.pipeline.typed with
    | false =>
      simp only [Pipeline.inputOver, ht, Bool.not_false, if_true, Option.some.injEq] at hsame
      rw [← hsame]
      exact iff_of_true (Host.closeInput_spec hsound).2.2.1 rfl
    | true =>
      simp only [Pipeline.inputOver, ht, Bool.not_true, Bool.false_eq_true, if_false,
        Option.some.injEq] at hsame
      subst hsame
      simp [hopen (Pipeline.ahead_of_kind (hkind.symm.trans hconcurrent))]
  · refine h.congr ?_ htyped hlines fun hnone => absurd hnone hnext
    rw [hpipeline]
    exact .spawn (hindex ▸ hzero) events

theorem InputClosedInv.line (h : InputClosedInv base r) (hr : r.pipeline.RelayInv)
    (hbegun : 0 < r.nextSpawn)
    (htyped : r.session.input.isSome = true) (source : LineSource) (line : Option String) :
    InputClosedInv base (onLine line
      (({ r with reading := .idle }.setInput source).record [.lineRead line])) := by
  have hpipeline := pipeline_handedOut htyped source line
  have hlines : (({ r with reading := .idle }.setInput source).record [.lineRead line]).session.lineEnds =
      r.session.lineEnds + if line = none then 1 else 0 := by
    cases line <;> simp [Session.lineEnds, record, Session.record, setInput]
  have hnext : (({ r with reading := .idle }.setInput source).record [.lineRead line]).nextSpawn =
      r.nextSpawn := rfl
  generalize ({ r with reading := .idle }.setInput source).record [.lineRead line] = r₁
    at hpipeline hlines hnext ⊢
  have hlater := h.later
  have hbegun' : r₁.nextSpawn = 0 → r₁.session.lineEnds = base.lineEnds := fun hzero => by omega
  unfold onLine
  split
  · rename_i hnone
    have hnone : r₁.pipeline.reader? 0 = none := hnone
    refine ⟨fun other hother => ?_, hbegun', by omega⟩
    rw [hnone] at hother
    cases hother
  · rename_i host text hreader
    have hheard : InputClosedInv base r₁ := by
      refine h.congr (.of_resident (congrArg Pipeline.resident hpipeline))
        (congrArg Pipeline.typed hpipeline) hlines fun hzero => by omega
    simp only
    split
    · rename_i fed hwrite
      have hhost := (Pipeline.reader?_eq_some (s := r₁.pipeline).mp hreader).1
      obtain ⟨hsame, hshut⟩ := Host.writeInput_sameIdentity hwrite
      rw [← Pipeline.host?_index hhost] at hhost
      exact hheard.same (Pipeline.FirstUnchanged.setHost hhost hsame hshut) rfl rfl
    · exact hheard.same (.of_resident rfl) rfl rfl
  · rename_i host hreader
    have hreader : r₁.pipeline.reader? 0 = some host := hreader
    have hhost := (Pipeline.reader?_eq_some.mp hreader).1
    have hsound : host.ChannelSound := (hr.hosts 0 host (hpipeline ▸ hhost)).sound
    refine .close hbegun' ?_ hsound hreader (Or.inr ?_)
    all_goals
      rw [hlines, if_pos rfl]
      omega

/-- **Every change keeps the first stage informed.** -/
theorem InputClosedInv.change (h : InputClosedInv base r) (hchange : Change ctx r r')
    (ho : r.pipeline.OrderInv) (hr : r.pipeline.RelayInv) : InputClosedInv base r' := by
  cases hchange with
  | aside hpipeline hmarks =>
    refine h.congr (.of_resident (congrArg Pipeline.resident hpipeline))
      (congrArg Pipeline.typed hpipeline)
      (Session.lineEnds_congr hmarks) fun hzero => ?_
    exact (congrArg Pipeline.next hpipeline).symm.trans hzero
  | worked index =>
    exact h.same (firstUnchanged_stepWork hr index) (status_stepWork r index)
      (stepWork_spec ctx r index).2.next
  | dropped hqueue hgone => exact ⟨h.first, h.unbegun, h.later⟩
  | data hqueue hfound =>
    exact h.same (firstUnchanged_onData ctx _ _ (r.taken _ _ _)) (status_onData _ ctx _ _)
      (onData_spec (pipeline_taken r _ _ _) hqueue hfound).2.next
  | @asked index mailbox host hqueue hfound =>
    have htaken : InputClosedInv base (r.taken index .wantsInput mailbox) :=
      ⟨h.first, h.unbegun, h.later⟩
    exact htaken.asked fun host hhost => (hr.hosts 0 host hhost).sound
  | retired hqueue hfound hinner =>
    refine h.same ?_ (status_retire _ _ _) ?_
    · rw [pipeline_retire]
      exact Pipeline.FirstUnchanged.retire _ _
    · rw [pipeline_retire]
      rfl
  | spawned hstage hroom hready hactive => exact h.spawned ho hstage hactive
  | line hbegun htyped => exact h.line hr hbegun htyped _ _

/-! ## From the beginning -/

theorem InputClosedInv.beginning {line : String} {s : Session F} {parsed : List Statement}
    {effects : List Effect} {stages : List (Stage P)}
    (hresolve : ctx.resolver.statements s.requests parsed = (effects, .ok stages)) (killed : Bool) :
    InputClosedInv s (beginning line (s.record effects) stages killed) := by
  have hlines : (s.record effects).lineEnds = s.lineEnds :=
    Session.lineEnds_congr (Resolver.marks_resolved hresolve s)
  have hnone : (Run.beginning line (s.record effects) stages killed).pipeline.reader? 0 = none :=
    rfl
  refine ⟨fun h hfound => ?_, fun _ => hlines, Nat.le_of_eq hlines.symm⟩
  rw [hnone] at hfound
  cases hfound

/-- What is so before any stage is set going and is kept by every change stays so, and the stages
are in order and relay exactly all the while. -/
theorem Changes.preserves_relayInv {Q : Run P F → Prop} {line : String} {s : Session F}
    {stages : List (Stage P)} {killed : Bool}
    (hchange : ∀ {r r' : Run P F},
      Change ctx r r' → r.pipeline.OrderInv → r.pipeline.RelayInv → Q r → Q r')
    (hchanges : Changes ctx (beginning line s stages killed) r)
    (hbegun : Q (beginning line s stages killed)) : r.pipeline.OrderInv ∧ r.pipeline.RelayInv ∧
    Q r := by
  refine Changes.invariant
    (Q := fun r => r.pipeline.OrderInv ∧ r.pipeline.RelayInv ∧ Q r) (fun hstep h => ?_) hchanges
    ⟨.opening stages s, .opening stages s, hbegun⟩
  obtain ⟨ho, hr, hq⟩ := h
  obtain ⟨ho', hr'⟩ := Moves.invariant
    (Q := fun t => t.OrderInv ∧ t.RelayInv) (fun hm h => ⟨h.1.move hm, h.2.move hm h.1⟩) hstep.moves
    ⟨ho, hr⟩
  exact ⟨ho', hr', hchange hstep ho hr hq⟩

/-- A reached run that is active is in order and relays exactly, and what is so before any stage is
set going and is kept by every change is so of it. -/
theorem reached_invariant {Q : Run P F → Prop} {line : String} {s : Session F} {killed : Bool}
    {choices : List Choice}
    (hbegun : ∀ {parsed effects stages}, ctx.parse line = .ok parsed →
      ctx.resolver.statements s.requests parsed = (effects, .ok stages) →
        Q (beginning line (s.record effects) stages killed))
    (hchange : ∀ {r r' : Run P F},
      Change ctx r r' → r.pipeline.OrderInv → r.pipeline.RelayInv → Q r → Q r')
    (hactive : (reached ctx line s killed choices).active = true) :
    (reached ctx line s killed choices).pipeline.OrderInv ∧
      (reached ctx line s killed choices).pipeline.RelayInv ∧
      Q (reached ctx line s killed choices) := by
  obtain ⟨parsed, effects, stages, hparse, hresolve, hchanges⟩ := reached_changes hactive
  exact hchanges.preserves_relayInv hchange (hbegun hparse hresolve)

end Run

end Pipework
