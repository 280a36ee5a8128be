import Pipework.Proofs.Host

/-!
# Hosts that wait

A host waits when its stage is at a read that was reported and its channel is open and holds
nothing. It comes to wait by the one act that asks for input (`step_askCases`), and stops when it is
given bytes (`waits_of_held`) or its input is closed (`waits_of_shut`). Meanwhile the stage waits at
the channel, and at no other time (`ReadWaitInv.parked`): so a host that waits does nothing, and one
that is woken goes on.
-/

namespace Pipework

/-- The stage reports nothing after this. -/
def StageEvent.isClosing : StageEvent → Bool
  | .ended _ | .failed .. => true
  | .data _ | .wantsInput => false

namespace Host

variable {P : Type} [Program P] {h h' : Host P} {events : List StageEvent}

def waits (h : Host P) : Bool :=
  match h.phase with
  | .working _ _ true => h.unread.isEmpty && !h.isShut
  | _ => false

/-- The stage waits at its channel to be woken. -/
def isParked (h : Host P) : Bool :=
  match h.supply with
  | .given _ => false
  | .channel c _ => c.waiting

/-- A stage whose read was reported is at a read of at least one byte from a channel, and a stage waits
at its channel exactly while its host waits. -/
structure ReadWaitInv (h : Host P) : Prop where
  asked : ∀ task initial, h.phase = .working task initial true →
    h.kind = .concurrent ∧ ∃ limit answer, task.act = .read limit answer ∧ 0 < limit
  parked : h.isParked = h.waits

theorem waits_spec (hw : h.waits = true) :
    h.unread = [] ∧ h.isShut = false ∧ h.kind = .concurrent ∧
      ∃ task initial, h.phase = .working task initial true := by
  unfold waits at hw
  split at hw
  · rename_i task initial hphase
    simp only [Bool.and_eq_true, List.isEmpty_iff, Bool.not_eq_true'] at hw
    refine ⟨hw.1, hw.2, ?_, task, initial, hphase⟩
    cases hkind : h.kind with
    | concurrent => rfl
    | inline => exact absurd (isShut_of_inline hkind) (by simp [hw.2])
  · cases hw

theorem waits_of_over (hphase : h.phase = .over) : h.waits = false := by
  simp [waits, hphase]

theorem waits_of_shut (hshut : h.isShut = true) : h.waits = false := by
  unfold waits
  split
  · simp [hshut]
  · rfl

theorem waits_of_held (hheld : h.unread ≠ []) : h.waits = false := by
  unfold waits
  split
  · simp [hheld]
  · rfl

theorem waits_of_unasked (hphase : ∀ task initial, h.phase ≠ .working task initial true) :
    h.waits = false := by
  cases hw : h.waits with
  | false => rfl
  | true =>
    obtain ⟨-, -, -, task, initial, hp⟩ := waits_spec hw
    exact absurd hp (hphase task initial)

theorem ReadWaitInv.of_unparked (hphase : ∀ task initial, h.phase ≠ .working task initial true)
    (hwoken : h.isParked = false) : h.ReadWaitInv where
  asked := fun task initial hp => absurd hp (hphase task initial)
  parked := hwoken.trans (waits_of_unasked hphase).symm

/-- A host that is given something stays at its read, and waits on if its reader is not woken. -/
theorem ReadWaitInv.congr (hread : h.ReadWaitInv) (hphase : h'.phase = h.phase)
    (hkind : h'.kind = h.kind) (hparked : h'.isParked = h'.waits) : h'.ReadWaitInv where
  asked := by
    intro task initial hp
    rw [hkind]
    exact hread.asked task initial (hphase.symm.trans hp)
  parked := hparked

theorem isParked_closeInput (h : Host P) : h.closeInput.isParked = false := by
  obtain ⟨index, stage, supply, phase, cancelled, launched⟩ := h
  cases supply <;> rfl

theorem isParked_writeInput {data : Bytes} (hopen : h.isShut = false)
    (hwrite : h.writeInput data = .ok h') : h'.isParked = (h.isParked && data.isEmpty) := by
  obtain ⟨index, stage, supply, phase, cancelled, launched⟩ := h
  cases supply with
  | given rest => cases hopen
  | channel c image =>
    simp only [Host.writeInput, Channel.write] at hwrite
    split at hwrite
    · cases hwrite
    · split at hwrite
      · cases hwrite
      · cases hwrite
        exact Channel.accept_waiting c data

/-- **The end of input wakes a stage that waits.** -/
theorem ReadWaitInv.closeInput (hread : h.ReadWaitInv) (hs : h.ChannelSound) :
    h.closeInput.ReadWaitInv := by
  obtain ⟨hsame, -, hshut, -, hphase⟩ := closeInput_spec hs
  exact hread.congr hphase hsame.kind ((isParked_closeInput h).trans (waits_of_shut hshut).symm)

/-- **Bytes wake a stage that waits**, and a write of none leaves it waiting. -/
theorem ReadWaitInv.writeInput (hread : h.ReadWaitInv) (hs : h.ChannelSound)
    (hopen : h.isShut = false) {data : Bytes}
    (hwrite : h.writeInput data = .ok h') : h'.ReadWaitInv := by
  obtain ⟨fed, hfed, hsame, -, hopen', hunread, hphase⟩ := writeInput_spec hs hopen data
  cases hfed.symm.trans hwrite
  refine hread.congr hphase hsame.kind ?_
  have hwaits : h'.waits = (h.waits && data.isEmpty) := by
    unfold waits
    rw [hphase]
    split
    · rw [hunread, hopen, hopen', Bool.not_false, Bool.and_true, Bool.and_true]
      cases h.unread <;> rfl
    · rfl
  rw [isParked_writeInput hopen hwrite, hread.parked, hwaits]

theorem step_of_over (hphase : h.phase = .over) : h.step = none := by
  simp [step, hphase]

theorem closing_isClosing (verdict : Verdict) (initial files : Snapshot) :
    (closing verdict initial files).isClosing = true := by
  unfold closing
  split <;> rfl

/-- Only a stage that is at a read has its read reported. -/
theorem ReadWaitInv.unasked {task : Task P} {initial : Snapshot} {asked : Bool}
    (hread : h.ReadWaitInv) (hphase : h.phase = .working task initial asked)
    (hact : ∀ limit answer, task.act ≠ .read limit answer) : asked = false := by
  cases asked with
  | false => rfl
  | true =>
    obtain ⟨-, limit, answer, hother, -⟩ := hread.asked task initial hphase
    exact absurd hother (hact limit answer)

/-- What an act of a host has to do with waiting. -/
structure AskCases (h h' : Host P) (events : List StageEvent) : Prop where
  free : h.waits = false
  atRead : h'.ReadWaitInv
  asked : events.count .wantsInput = if h'.waits then 1 else 0
  closing : ∀ e ∈ events, e.isClosing = true → h'.phase = .over

/-- An act after which no read is reported. -/
theorem AskCases.of_free (hfree : h.waits = false)
    (hphase : ∀ task initial, h'.phase ≠ .working task initial true)
    (hwoken : h'.isParked = false) (hevents : .wantsInput ∉ events)
    (htold : ∀ e ∈ events, e.isClosing = true → h'.phase = .over) : AskCases h h' events where
  free := hfree
  atRead := .of_unparked hphase hwoken
  asked := by
    rw [waits_of_unasked hphase, List.count_eq_zero.mpr hevents]
    rfl
  closing := htold

theorem waits_of_phase {task : Task P} {initial : Snapshot}
    (hphase : h.phase = .working task initial false) : h.waits = false := by
  simp only [waits, hphase]

/-- An act of a stage that was not at a read that was reported. -/
theorem AskCases.of_unasked {task : Task P} {initial : Snapshot} (hread : h.ReadWaitInv)
    (hphase : h.phase = .working task initial false) (hsupply : h'.supply = h.supply)
    (hphase' : ∀ task initial, h'.phase ≠ .working task initial true) (hevents : .wantsInput ∉ events)
    (htold : ∀ e ∈ events, e.isClosing = true → h'.phase = .over) : AskCases h h' events := by
  have hfree := waits_of_phase hphase
  refine .of_free hfree hphase' ?_ hevents htold
  unfold isParked
  rw [hsupply]
  exact hread.parked.trans hfree

/-- The stage of a host that acts does not wait at its channel. -/
theorem ReadWaitInv.waits_of_woken {c : Channel} {image : Image} (hread : h.ReadWaitInv)
    (hsupply : h.supply = .channel c image) (hwoken : c.waiting = false) : h.waits = false := by
  refine hread.parked.symm.trans ?_
  simp only [isParked, hsupply, hwoken]

/-- Only a stage that reads from a channel has its read reported. -/
theorem ReadWaitInv.unasked_of_given {task : Task P} {initial : Snapshot} {asked : Bool}
    {rest : Bytes} (hread : h.ReadWaitInv) (hphase : h.phase = .working task initial asked)
    (hsupply : h.supply = .given rest) : asked = false := by
  cases asked with
  | false => rfl
  | true =>
    have hkind := (hread.asked task initial hphase).1
    simp only [kind, hsupply] at hkind
    cases hkind

/-- The act that asks for input: the stage comes to wait at a channel that holds nothing. -/
theorem AskCases.of_blocked {task : Task P} {initial : Snapshot} {asked : Bool} {limit : Nat}
    {answer : Except Fault Bytes → Task P} {c : Channel} {image : Image} (hs : h.ChannelSound)
    (hreport : h.report .wantsInput = [.wantsInput]) (hread : h.ReadWaitInv)
    (hphase : h.phase = .working task initial asked) (hact : task.act = .read limit answer)
    (hsupply : h.supply = .channel c image) (hwoken : c.waiting = false)
    (hblocked : c.read limit = .blocked) :
    AskCases h { h with supply := .channel c.await image, phase := .working task initial true }
      (if asked then [] else h.report .wantsInput) := by
  simp only [ChannelSound, hsupply] at hs
  obtain ⟨hlimit, hheld, hclosed, -⟩ := Channel.read_eq_blocked hs.1 hblocked
  have hheld' : c.await.toList = [] := hheld
  have hclosed' : c.await.closed = false := hclosed
  have hfree := hread.waits_of_woken hsupply hwoken
  -- it has not asked yet, for then it would be waiting
  have hasked : asked = false := by
    cases asked with
    | false => rfl
    | true =>
      simp only [waits, hphase, unread, isShut, hsupply, hheld, hclosed] at hfree
      cases hfree
  subst hasked
  refine ⟨hfree, ⟨?_, ?_⟩, ?_, ?_⟩
  · rintro _ _ ⟨⟩
    exact ⟨rfl, limit, answer, hact, Nat.pos_of_ne_zero hlimit⟩
  · simp only [isParked, waits, unread, isShut, hheld', hclosed']
    rfl
  · simp [hreport, waits, unread, isShut, hheld', hclosed']
  · intro e he
    rw [if_neg (by simp), hreport, List.mem_singleton] at he
    subst he
    rintro ⟨⟩

/-- **A host that asks for input waits from then on**, and one that waits does nothing. -/
theorem step_askCases (hs : h.ChannelSound) (hlive : h.cancelled = false) (hread : h.ReadWaitInv)
    (hstep : h.step = some (h', events)) : AskCases h h' events := by
  have hreport : ∀ e, h.report e = [e] := fun e => by rw [report, if_neg (by simp [hlive])]
  cases step_cases hstep with
  | silent hphase hact | wroteNothing hphase hact =>
    obtain rfl := hread.unasked hphase (by simp [hact])
    exact .of_unasked hread hphase rfl (by simp) List.not_mem_nil (List.forall_mem_nil _)
  | cutOff _ _ _ hcancelled => cases hlive.symm.trans hcancelled
  | wrote hphase hact =>
    obtain rfl := hread.unasked hphase (by simp [hact])
    exact .of_unasked hread hphase rfl (by simp) (by simp) (by simp [StageEvent.isClosing])
  | @finished _ initial _ verdict files hphase hact =>
    obtain rfl := hread.unasked hphase (by simp [hact])
    have hclosing := closing_isClosing verdict initial files
    refine .of_unasked hread hphase rfl (by simp) ?_ fun _ _ _ => rfl
    rw [hreport, List.mem_singleton]
    intro heq
    rw [← heq] at hclosing
    cases hclosing
  | readGiven hphase _ hsupply =>
    obtain rfl := hread.unasked_of_given hphase hsupply
    exact .of_free (waits_of_phase hphase) (by simp) rfl List.not_mem_nil (List.forall_mem_nil _)
  | readHeld _ _ hsupply hwoken hbytes =>
    exact .of_free (hread.waits_of_woken hsupply hwoken) (by simp)
      (Channel.not_waiting_of_bytes hwoken hbytes) List.not_mem_nil (List.forall_mem_nil _)
  | refused _ _ hsupply hwoken =>
    refine .of_free (hread.waits_of_woken hsupply hwoken) (by simp) ?_ List.not_mem_nil
      (List.forall_mem_nil _)
    simp only [isParked, hsupply, hwoken]
  | parked hphase hact hsupply hwoken hblocked =>
    exact .of_blocked hs (hreport _) hread hphase hact hsupply hwoken hblocked

/-! ## Setting going -/

theorem wantsInput_not_mem_callEvents (result : Except Fault (Option String))
    (initial files : Snapshot) : .wantsInput ∉ callEvents result initial files := by
  have hclosing : ∀ verdict : Verdict, closing verdict initial files ≠ .wantsInput := by
    intro verdict heq
    have := closing_isClosing verdict initial files
    rw [heq] at this
    cases this
  unfold callEvents
  split <;> simp [Ne.symm (hclosing _)]

/-- What a host that was just set going has to do with waiting. -/
structure StartWaitInv (h : Host P) (events : List StageEvent) : Prop where
  atRead : h.ReadWaitInv
  free : h.waits = false
  noRequest : .wantsInput ∉ events
  closing : ∀ e ∈ events, e.isClosing = true → h.phase = .over

theorem StartWaitInv.working {task : Task P} {initial : Snapshot}
    (hphase : h.phase = .working task initial false) (hwoken : h.isParked = false) :
    h.StartWaitInv [] where
  atRead := by
    refine .of_unparked (fun task' initial' hp => ?_) hwoken
    rw [hphase] at hp
    cases hp
  free := by simp [waits, hphase]
  noRequest := nofun
  closing := nofun

theorem isParked_start (hwoken : h.isParked = false) (hopen : h.kind = .concurrent → h.isShut = false)
    (past : List Callback.Call) (input : Option Bytes) :
    (h.start past input).1.isParked = false := by
  have hlaunch : ∀ (h : Host P) (image : Image) (p : P) (files : Snapshot),
      (h.launch image p files).1.isParked = h.isParked := by
    intro h image p files
    unfold launch
    split <;> rfl
  unfold start
  split
  · exact hwoken
  · exact hwoken
  · split
    · rename_i hsupply _
      simp only [startConcurrent]
      split
      · rw [hlaunch]
        exact hwoken
      · split
        · rename_i hwrite
          rw [hlaunch, isParked_writeInput (hopen (by simp [kind, hsupply])) hwrite, hwoken]
          rfl
        · exact hwoken
    · unfold startInline
      cases h.stage.executable with
      | callback c => exact hwoken
      | program p size => rfl

/-- **A host that was just set going has not asked for input.** -/
theorem start_startWaitInv {index : Nat} {stage : Stage P} {files : Snapshot} {kind : Kind}
    {past : List Callback.Call} {input : Option Bytes} (hfresh : Fresh index stage files kind h)
    (hkind : kind = .concurrent → stage.isCallback = false)
    (hstart : h.start past input = (h', events, none)) : h'.StartWaitInv events := by
  cases hexec : stage.executable with
  | callback c =>
    cases hfresh with
    | inline =>
      simp only [start, Host.inline, startInline, hexec] at hstart
      cases hstart
      refine ⟨.of_unparked (by simp) rfl, rfl, ?_, fun _ _ _ => rfl⟩
      intro hmem
      obtain ⟨e, he, hrep⟩ := List.mem_flatMap.mp hmem
      rw [report, if_neg (by simp), List.mem_singleton] at hrep
      exact wantsInput_not_mem_callEvents _ _ _ (hrep ▸ he)
    | concurrent capacity image =>
      cases (hkind rfl).symm.trans (Stage.isCallback_of_callback hexec)
  | program p size =>
    cases hfresh with
    | inline =>
      simp only [start, Host.inline, startInline, hexec] at hstart
      cases hstart
      exact .working rfl rfl
    | concurrent capacity image =>
      obtain ⟨rfl, -, -, -, -, hphase⟩ := start_concurrent hexec hstart
      have hwoken := isParked_start (h := .concurrent index stage files capacity image) rfl
        (fun _ => rfl) past input
      rw [hstart] at hwoken
      exact .working hphase hwoken

theorem StartWaitInv.closeInput (hu : h.StartWaitInv events) (hs : h.ChannelSound) :
    h.closeInput.StartWaitInv events := by
  obtain ⟨-, -, hshut, -, hphase⟩ := closeInput_spec hs
  refine ⟨hu.atRead.closeInput hs, waits_of_shut hshut, hu.noRequest, ?_⟩
  rw [hphase]
  exact hu.closing

end Host

end Pipework
