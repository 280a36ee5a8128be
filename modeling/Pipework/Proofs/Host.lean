import Pipework.Host.Factory
import Pipework.Proofs.Channel

/-!
# Hosts between their acts

Whatever a host does or is given, it keeps its place, its stage and its kind (`SameIdentity`). What
it holds for its stage is `unread`: a write appends to it, closing leaves it, an act takes a piece
off its front (`step_spec`), and a fresh host starts with what was gathered for it (`start_spec`).
One that was terminated reports nothing any more (`TornDown.reported`).
-/

namespace Pipework

theorem Stage.isCallback_of_program {P : Type} {stage : Stage P} {p : P} {size : Nat}
    (hp : stage.executable = .program p size) : stage.isCallback = false := by
  rw [isCallback, hp]
  rfl

theorem Stage.isCallback_of_callback {P : Type} {stage : Stage P} {c : Callback}
    (hc : stage.executable = .callback c) : stage.isCallback = true := by
  rw [isCallback, hc]
  rfl

namespace Host

variable {P : Type} [Program P] {h h' : Host P}

/-- What a host holds that its stage has not read yet. -/
def unread (h : Host P) : Bytes :=
  match h.supply with
  | .given rest => rest
  | .channel c _ => c.toList

/-- No input can be added any more. -/
def isShut (h : Host P) : Bool :=
  match h.supply with
  | .given _ => true
  | .channel c _ => c.closed

/-- The channel, if there is one, is in order and has not been torn down. -/
def ChannelSound (h : Host P) : Prop :=
  match h.supply with
  | .given _ => True
  | .channel c _ => c.Wf ∧ c.terminated = false

/-- What never changes in a host that is under way. -/
structure SameIdentity (h h' : Host P) : Prop where
  index : h'.index = h.index
  stage : h'.stage = h.stage
  kind : h'.kind = h.kind
  cancelled : h'.cancelled = h.cancelled

theorem SameIdentity.refl (h : Host P) : SameIdentity h h := ⟨rfl, rfl, rfl, rfl⟩

theorem SameIdentity.trans {h'' : Host P} (h₁ : SameIdentity h h') (h₂ : SameIdentity h' h'') :
    SameIdentity h h'' :=
  ⟨h₂.index.trans h₁.index, h₂.stage.trans h₁.stage, h₂.kind.trans h₁.kind,
    h₂.cancelled.trans h₁.cancelled⟩

theorem kind_eq_concurrent : h.kind = .concurrent ↔ ∃ c image, h.supply = .channel c image := by
  unfold kind
  split
  · rename_i hs
    simp [hs]
  · rename_i hs
    simp [hs]

theorem channel?_isSome : h.channel?.isSome = true ↔ h.kind = .concurrent := by
  unfold channel? kind
  split <;> simp

theorem channel?_eq_some {c : Channel} :
    h.channel? = some c ↔ ∃ image, h.supply = .channel c image := by
  unfold channel?
  split <;> simp_all

theorem isShut_of_inline (hk : h.kind = .inline) : h.isShut = true := by
  unfold kind at hk
  unfold isShut
  cases hs : h.supply with
  | given _ => rfl
  | channel c image =>
    rw [hs] at hk
    cases hk

theorem supply_of_inline (hk : h.kind = .inline) : ∃ rest, h.supply = .given rest := by
  unfold kind at hk
  split at hk
  · rename_i rest hs
    exact ⟨rest, hs⟩
  · cases hk

/-- An inline host has nothing to close. -/
theorem closeInput_of_inline (hk : h.kind = .inline) : h.closeInput = h := by
  obtain ⟨rest, hs⟩ := supply_of_inline hk
  simp [closeInput, hs]

/-! ## Being given input -/

theorem closeInput_spec (hs : h.ChannelSound) :
    SameIdentity h h.closeInput ∧ h.closeInput.ChannelSound ∧ h.closeInput.isShut = true ∧
      h.closeInput.unread = h.unread ∧ h.closeInput.phase = h.phase := by
  obtain ⟨index, stage, supply, phase, cancelled, launched⟩ := h
  cases supply with
  | given rest => exact ⟨⟨rfl, rfl, rfl, rfl⟩, trivial, rfl, rfl, rfl⟩
  | channel c image => exact ⟨⟨rfl, rfl, rfl, rfl⟩, ⟨hs.1.close, hs.2⟩, rfl, rfl, rfl⟩

/-- **A host that can be fed takes every write, behind what it holds.** -/
theorem writeInput_spec (hs : h.ChannelSound) (hopen : h.isShut = false) (data : Bytes) :
    ∃ h', h.writeInput data = .ok h' ∧ SameIdentity h h' ∧ h'.ChannelSound ∧ h'.isShut = false ∧
      h'.unread = h.unread ++ data ∧ h'.phase = h.phase := by
  obtain ⟨index, stage, supply, phase, cancelled, launched⟩ := h
  cases supply with
  | given rest => cases hopen
  | channel c image =>
    obtain ⟨hwf, hterminated⟩ := hs
    have hclosed : c.closed = false := hopen
    obtain ⟨hwf', hlist, hclosed', hterminated'⟩ := Channel.accept_spec hwf data
    refine ⟨⟨index, stage, .channel (c.accept data) image, phase, cancelled, launched⟩, ?_,
      ⟨rfl, rfl, rfl, rfl⟩, ⟨hwf', hterminated'.trans hterminated⟩, hclosed'.trans hclosed, hlist, rfl⟩
    simp only [writeInput, Channel.write_open hclosed hterminated]
    rfl

/-- A channel whose input is over takes no write. -/
theorem writeInput_shut (hs : h.ChannelSound) (hkind : h.kind = .concurrent)
    (hshut : h.isShut = true) (data : Bytes) : h.writeInput data = .error .closed := by
  obtain ⟨c, image, hsupply⟩ := kind_eq_concurrent.mp hkind
  simp only [ChannelSound, isShut, hsupply] at hs hshut
  simp only [writeInput, hsupply, Channel.write, hs.2, hshut]
  rfl

/-! ## Acting -/

/-- All that one act of the stage of a host comes to. -/
inductive StepCases (h : Host P) : Host P → List StageEvent → Prop where
  | silent {task next : Task P} {initial : Snapshot} {asked : Bool}
      (hphase : h.phase = .working task initial asked) (hact : task.act = .silent next) :
      StepCases h { h with phase := .working next initial asked } []
  | wroteNothing {task : Task P} {initial : Snapshot} {asked : Bool} {data : Bytes}
      {answer : Except Fault Unit → Task P} (hphase : h.phase = .working task initial asked)
      (hact : task.act = .write data answer) (hdata : data = []) :
      StepCases h { h with phase := .working (answer (.ok ())) initial asked } []
  | cutOff {task : Task P} {initial : Snapshot} {asked : Bool} {data : Bytes}
      {answer : Except Fault Unit → Task P} (hphase : h.phase = .working task initial asked)
      (hact : task.act = .write data answer) (hdata : data ≠ []) (hcancelled : h.cancelled = true) :
      StepCases h { h with phase := .working (answer (.error cannotWrite)) initial asked } []
  | wrote {task : Task P} {initial : Snapshot} {asked : Bool} {data : Bytes}
      {answer : Except Fault Unit → Task P} (hphase : h.phase = .working task initial asked)
      (hact : task.act = .write data answer) (hdata : data ≠ []) (hlive : h.cancelled = false) :
      StepCases h { h with phase := .working (answer (.ok ())) initial asked } [.data data]
  | finished {task : Task P} {initial : Snapshot} {asked : Bool} {verdict : Verdict}
      {files : Snapshot} (hphase : h.phase = .working task initial asked)
      (hact : task.act = .finish verdict files) :
      StepCases h { h with phase := .over } (h.report (closing verdict initial files))
  | readGiven {task : Task P} {initial : Snapshot} {asked : Bool} {limit : Nat}
      {answer : Except Fault Bytes → Task P} {rest : Bytes}
      (hphase : h.phase = .working task initial asked) (hact : task.act = .read limit answer)
      (hsupply : h.supply = .given rest) :
      StepCases h
        { h with
          supply := .given (rest.drop limit)
          phase := .working (answer (.ok (rest.take limit))) initial asked } []
  | readHeld {task : Task P} {initial : Snapshot} {asked : Bool} {limit : Nat}
      {answer : Except Fault Bytes → Task P} {c after : Channel} {image : Image} {data : Bytes}
      (hphase : h.phase = .working task initial asked) (hact : task.act = .read limit answer)
      (hsupply : h.supply = .channel c image) (hwoken : c.waiting = false)
      (hread : c.read limit = .bytes data after) :
      StepCases h
        { h with
          supply := .channel after image
          phase := .working (answer (.ok data)) initial false } []
  | refused {task : Task P} {initial : Snapshot} {asked : Bool} {limit : Nat}
      {answer : Except Fault Bytes → Task P} {c : Channel} {image : Image} {why : Channel.Refusal}
      (hphase : h.phase = .working task initial asked) (hact : task.act = .read limit answer)
      (hsupply : h.supply = .channel c image) (hwoken : c.waiting = false)
      (hread : c.read limit = .refused why) :
      StepCases h { h with phase := .working (answer (.error terminated)) initial false } []
  | parked {task : Task P} {initial : Snapshot} {asked : Bool} {limit : Nat}
      {answer : Except Fault Bytes → Task P} {c : Channel} {image : Image}
      (hphase : h.phase = .working task initial asked) (hact : task.act = .read limit answer)
      (hsupply : h.supply = .channel c image) (hwoken : c.waiting = false)
      (hread : c.read limit = .blocked) :
      StepCases h
        { h with
          supply := .channel c.await image
          phase := .working task initial true }
        (if asked then [] else h.report .wantsInput)

theorem step_cases {events : List StageEvent} (hstep : h.step = some (h', events)) :
    h.StepCases h' events := by
  unfold step at hstep
  split at hstep
  · cases hstep
  · cases hstep
  · rename_i task initial asked hphase
    split at hstep
    · rename_i hact
      cases hstep
      exact .silent hphase hact
    · rename_i hact
      split at hstep
      · rename_i hdata
        cases hstep
        exact .wroteNothing hphase hact (List.isEmpty_iff.mp hdata)
      · rename_i hdata
        have hdata := mt List.isEmpty_iff.mpr hdata
        split at hstep
        · rename_i hcancelled
          cases hstep
          exact .cutOff hphase hact hdata hcancelled
        · rename_i hlive
          cases hstep
          exact .wrote hphase hact hdata (Bool.eq_false_iff.mpr hlive)
    · rename_i hact
      cases hstep
      exact .finished hphase hact
    · rename_i hact
      split at hstep
      · rename_i hsupply
        cases hstep
        exact .readGiven hphase hact hsupply
      · rename_i hsupply
        split at hstep
        · cases hstep
        · rename_i hwoken
          have hwoken := Bool.eq_false_iff.mpr hwoken
          split at hstep
          · rename_i hread
            cases hstep
            exact .readHeld hphase hact hsupply hwoken hread
          · rename_i hread
            cases hstep
            exact .refused hphase hact hsupply hwoken hread
          · rename_i hread
            cases hstep
            exact .parked hphase hact hsupply hwoken hread

theorem StepCases.sameIdentity {events : List StageEvent} (h₁ : h.StepCases h' events) :
    SameIdentity h h' := by
  cases h₁ with
  | readGiven _ _ hsupply | readHeld _ _ hsupply | parked _ _ hsupply =>
    exact ⟨rfl, rfl, by simp only [kind, hsupply], rfl⟩
  | _ => exact ⟨rfl, rfl, rfl, rfl⟩

/-- **An act takes a piece of the input off the front, if it touches the input at all.** -/
theorem step_spec {events : List StageEvent} (hs : h.ChannelSound)
    (hstep : h.step = some (h', events)) :
    SameIdentity h h' ∧ h'.ChannelSound ∧ h'.isShut = h.isShut ∧
    ∃ piece, h.unread = piece ++ h'.unread := by
  refine ⟨(step_cases hstep).sameIdentity, ?_⟩
  cases step_cases hstep with
  | silent | wroteNothing | cutOff | wrote | finished | refused => exact ⟨hs, rfl, [], rfl⟩
  | @readGiven _ _ _ limit _ rest _ _ hsupply =>
    simp only [ChannelSound, isShut, unread, hsupply]
    exact ⟨trivial, trivial, rest.take limit, (List.take_append_drop limit rest).symm⟩
  | @readHeld _ _ _ limit _ c after image data _ _ hsupply _ hread =>
    simp only [ChannelSound, hsupply] at hs
    simp only [ChannelSound, isShut, unread, hsupply]
    rcases Nat.eq_zero_or_pos limit with hlimit | hlimit
    · -- nothing was asked for, so the channel is left as it is
      simp only [Channel.read, hs.2, hlimit, Bool.false_eq_true, if_false, if_true] at hread
      cases hread
      exact ⟨hs, rfl, [], rfl⟩
    · obtain ⟨data', after', hbytes, -, hlist, hwf, hclosed, hterminated⟩ | ⟨hend, -, -⟩ |
          ⟨hblocked, -, -⟩ := Channel.read_spec hs.1 hs.2 hlimit
      · cases hread.symm.trans hbytes
        exact ⟨⟨hwf, hterminated⟩, hclosed, data, hlist⟩
      · cases hread.symm.trans hend
        exact ⟨hs, rfl, [], rfl⟩
      · cases hread.symm.trans hblocked
  | parked _ _ hsupply _ hread =>
    simp only [ChannelSound, hsupply] at hs
    simp only [ChannelSound, isShut, unread, hsupply]
    obtain ⟨-, hidle⟩ := Channel.read_eq_blocked hs.1 hread
    exact ⟨⟨hs.1.await hidle, hs.2⟩, rfl, [], rfl⟩

/-- **A stage whose input is over never waits.** -/
theorem step_of_shut (hs : h.ChannelSound) (hshut : h.isShut = true) {task : Task P}
    {initial : Snapshot}
    {asked : Bool} (hphase : h.phase = .working task initial asked) : h.step ≠ none := by
  obtain ⟨index, stage, supply, phase, cancelled, launched⟩ := h
  cases hphase
  unfold step
  simp only
  split
  · exact nofun
  · split
    · exact nofun
    · split <;> exact nofun
  · exact nofun
  · rename_i limit answer _
    cases supply with
    | given rest => exact nofun
    | channel c image =>
      have hwoken : c.waiting = false := hs.1.not_waiting_of_closed hshut
      simp only [hwoken, Bool.false_eq_true, if_false]
      split <;> exact nofun

/-- A write that is taken changes only what the host holds. -/
theorem writeInput_sameIdentity {data : Bytes} (hwrite : h.writeInput data = .ok h') :
    SameIdentity h h' ∧ h'.isShut = h.isShut := by
  obtain ⟨index, stage, supply, phase, cancelled, launched⟩ := h
  cases supply with
  | given rest =>
    cases hwrite
    exact ⟨⟨rfl, rfl, rfl, rfl⟩, rfl⟩
  | channel c image =>
    simp only [writeInput, Channel.write] at hwrite
    split at hwrite
    · cases hwrite
    · split at hwrite
      · cases hwrite
      · cases hwrite
        refine ⟨⟨rfl, rfl, rfl, rfl⟩, ?_⟩
        simp only [isShut, setChannel, Channel.accept]
        split <;> rfl

/-- A write that is taken leaves the stage where it is. -/
theorem writeInput_phase {data : Bytes} (hwrite : h.writeInput data = .ok h') :
    h'.phase = h.phase := by
  obtain ⟨index, stage, supply, phase, cancelled, launched⟩ := h
  cases supply with
  | given rest =>
    cases hwrite
    rfl
  | channel c image =>
    simp only [writeInput, Channel.write] at hwrite
    split at hwrite
    · cases hwrite
    · split at hwrite
      · cases hwrite
      · cases hwrite
        rfl

theorem closeInput_phase (h : Host P) : h.closeInput.phase = h.phase := by
  obtain ⟨index, stage, supply, phase, cancelled, launched⟩ := h
  cases supply <;> rfl

/-! ## Being terminated -/

/-- Nothing that a host reports is passed on, and its channel, if there is one, is torn down. -/
structure TornDown (h : Host P) : Prop where
  cancelled : h.cancelled = true
  terminated : ∀ c, h.channel? = some c → c.terminated = true

theorem terminate_tornDown (h : Host P) : h.terminate.TornDown := by
  obtain ⟨index, stage, supply, phase, cancelled, launched⟩ := h
  cases supply with
  | given rest => exact ⟨rfl, nofun⟩
  | channel c image =>
    refine ⟨rfl, fun c' hc' => ?_⟩
    cases hc'
    rfl

/-- A stage whose host was terminated may go on, but nothing comes of it. -/
theorem TornDown.step {events : List StageEvent} (ht : h.TornDown)
    (hstep : h.step = some (h', events)) : events = [] ∧ h'.TornDown := by
  obtain ⟨hcancelled, hterminated⟩ := ht
  have hrefuses : ∀ {c : Channel} {image : Image}, h.supply = .channel c image →
      ∀ limit, c.read limit = .refused .terminated := by
    intro c image hsupply limit
    have hc : c.terminated = true := hterminated c (channel?_eq_some.mpr ⟨image, hsupply⟩)
    simp only [Channel.read, hc, if_true]
  cases step_cases hstep with
  | silent | wroteNothing | cutOff | refused => exact ⟨rfl, hcancelled, hterminated⟩
  | wrote _ _ _ hlive => cases hcancelled.symm.trans hlive
  | finished => exact ⟨by rw [report, if_pos hcancelled], hcancelled, hterminated⟩
  | readGiven => exact ⟨rfl, hcancelled, fun _ hc => by cases hc⟩
  | readHeld _ _ hsupply _ hread => cases (hrefuses hsupply _).symm.trans hread
  | parked _ _ hsupply _ hread => cases (hrefuses hsupply _).symm.trans hread

/-- What a host reports in its next acts. -/
def reported (h : Host P) : Nat → List StageEvent
  | 0 => []
  | acts + 1 =>
    match h.step with
    | none => []
    | some (after, events) => events ++ reported after acts

/-- **A host that was terminated reports nothing any more**, however long its stage goes on. -/
theorem TornDown.reported (acts : Nat) : ∀ {h : Host P}, h.TornDown → h.reported acts = [] := by
  induction acts with
  | zero => exact fun _ => rfl
  | succ acts ih =>
    intro h ht
    unfold Host.reported
    split
    · rfl
    · rename_i after events hstep
      obtain ⟨rfl, hafter⟩ := ht.step hstep
      exact ih hafter

/-! ## Setting going -/

/-- A host as a factory makes it for a stage. -/
inductive Fresh (index : Nat) (stage : Stage P) (files : Snapshot) : Kind → Host P → Prop where
  | inline : Fresh index stage files .inline (.inline index stage files)
  | concurrent (capacity : Nat) (image : Image) :
      Fresh index stage files .concurrent (.concurrent index stage files capacity image)

theorem Fresh.index {index : Nat} {stage : Stage P} {files : Snapshot} {kind : Kind}
    (hfresh : Fresh index stage files kind h) : h.index = index := by
  cases hfresh <;> rfl

theorem Fresh.call? {index : Nat} {stage : Stage P} {files : Snapshot} {kind : Kind}
    (hfresh : Fresh index stage files kind h) (input : Option Bytes) :
    h.call? input = stage.call? files (input.getD []) := by
  cases hfresh <;> rfl

theorem Fresh.stage {index : Nat} {stage : Stage P} {files : Snapshot} {kind : Kind}
    (hfresh : Fresh index stage files kind h) : h.stage = stage := by
  cases hfresh <;> rfl

theorem launch_spec {image : Image} {p : P} {files : Snapshot}
    (hlaunch : h.launch image p files = (h', none)) :
    SameIdentity h h' ∧ h'.supply = h.supply ∧
      h'.phase = .working (.start p (h.invocation files)) files false := by
  unfold launch at hlaunch
  split at hlaunch
  · cases hlaunch
  · cases hlaunch
    exact ⟨⟨rfl, rfl, rfl, rfl⟩, rfl, rfl⟩

/-- **A program that was launched beside others can be fed**, behind what was gathered for it. -/
theorem start_concurrent {index : Nat} {stage : Stage P} {p : P} {size : Nat} {files : Snapshot}
    {capacity : Nat} {image : Image} {past : List Callback.Call} {input : Option Bytes}
    {events : List StageEvent}
    (hp : stage.executable = .program p size)
    (hstart : (concurrent index stage files capacity image).start past input = (h', events, none)) :
    events = [] ∧ SameIdentity (concurrent index stage files capacity image) h' ∧ h'.ChannelSound ∧
      h'.isShut = false ∧ h'.unread = input.getD [] ∧
      h'.phase = .working (.start p ⟨stage.argv, stage.env, files⟩) files false := by
  have hempty : (concurrent index stage files capacity image).ChannelSound :=
    ⟨Channel.Wf.empty capacity, rfl⟩
  simp only [start, concurrent, hp, startConcurrent] at hstart
  cases input with
  | none =>
    simp only [Prod.mk.injEq] at hstart
    obtain ⟨hsame, hsupply, hphase⟩ := launch_spec (Prod.ext hstart.1 hstart.2.2)
    refine ⟨hstart.2.1.symm, hsame, ?_, ?_, ?_, hphase⟩
    · simp only [ChannelSound, hsupply]
      exact hempty
    · simp only [isShut, hsupply]
      rfl
    · simp only [unread, hsupply]
      rfl
  | some data =>
    obtain ⟨fed, hwrite, hsame₁, hsound, hshut, hunread, -⟩ := writeInput_spec hempty rfl data
    simp only [concurrent] at hwrite
    simp only [hwrite, Prod.mk.injEq] at hstart
    obtain ⟨hsame, hsupply, hphase⟩ := launch_spec (Prod.ext hstart.1 hstart.2.2)
    have hinv : fed.invocation files = ⟨stage.argv, stage.env, files⟩ := by
      rw [invocation, hsame₁.stage]
      rfl
    refine ⟨hstart.2.1.symm, hsame₁.trans hsame, ?_, ?_, ?_, ?_⟩
    · simpa only [ChannelSound, hsupply] using hsound
    · simpa only [isShut, hsupply] using hshut
    · have heq : h'.unread = fed.unread := by simp only [unread, hsupply]
      rw [heq, hunread]
      rfl
    · rw [hphase, hinv]

/-- **A fresh host that could be set going holds what was gathered for it.** One that runs a
callback has used it up already. -/
theorem start_spec {index : Nat} {stage : Stage P} {files : Snapshot} {kind : Kind}
    {past : List Callback.Call} {input : Option Bytes} {events : List StageEvent}
    (hfresh : Fresh index stage files kind h)
    (hkind : kind = .concurrent → stage.isCallback = false)
    (hstart : h.start past input = (h', events, none)) :
    h'.index = index ∧ h'.stage = stage ∧ h'.kind = kind ∧ h'.cancelled = false ∧ h'.ChannelSound ∧
      (kind = .concurrent → h'.isShut = false) ∧ h'.unread <:+ input.getD [] := by
  cases hexec : stage.executable with
  | callback c =>
    cases hfresh with
    | inline =>
      simp only [start, Host.inline, startInline, hexec] at hstart
      cases hstart
      exact ⟨rfl, rfl, rfl, rfl, trivial, nofun, List.nil_suffix⟩
    | concurrent capacity image =>
      cases (hkind rfl).symm.trans (Stage.isCallback_of_callback hexec)
  | program p size =>
    cases hfresh with
    | inline =>
      simp only [start, Host.inline, startInline, hexec] at hstart
      cases hstart
      exact ⟨rfl, rfl, rfl, rfl, trivial, nofun, List.suffix_refl _⟩
    | concurrent capacity image =>
      obtain ⟨-, hsame, hsound, hshut, hunread, -⟩ := start_concurrent hexec hstart
      exact ⟨hsame.index, hsame.stage, hsame.kind, hsame.cancelled, hsound, fun _ => hshut,
        [], hunread⟩

end Host

end Pipework
