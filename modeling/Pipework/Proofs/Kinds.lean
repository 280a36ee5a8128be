import Pipework.Proofs.Reading
import Pipework.Proofs.Waiting

/-!
# Both kinds of host run a program alike

A program that reads plainly makes the same of its input in a host of either kind, in whichever pieces
and at whatever times the input comes (`kinds_agree`). What it tells is laid down by its input as a
whole (`Program.trace`), and a host only decides when it is told.

* `AtTask` — where the stage of a host has come to; `AtTask.step` says what one act does to it.
* `OutputInv` — a host has told so much of a trace; `OutputInv.turns` for any turns of its
  surroundings, `OutputInv.reaches` for a host that has all its input and is left alone.
-/

namespace Pipework

/-! ## What a program tells -/

namespace Program

variable {P : Type} [Program P] {s s' : State P} {input input' : Bytes} {pieces : List Bytes}
  {files : Snapshot}

/-- What a program that has all its input tells while so many of its demands are granted. Raw pieces
are not granted. -/
def trace (files : Snapshot) : Nat → State P → Bytes → List StageEvent
  | 0, _, _ => []
  | grants + 1, s, input =>
    match demand s with
    | .line answer =>
      trace files grants (answer (.ok (LineBuffer.front input).1)) (LineBuffer.front input).2
    | .rest answer => trace files grants (answer (.ok input)) []
    | .piece .. => []
    | .write data answer =>
      (if data.isEmpty then [] else [.data data]) ++ trace files grants (answer (.ok ())) input
    | .finish verdict after => [Host.closing verdict files after]

theorem trace_grants (h : Grants P s input pieces s' input') (grants : Nat) :
    trace files (grants + 1) s input = pieces.map .data ++ trace files grants s' input' := by
  cases h with
  | line _ hd => simp only [trace, hd, List.map_nil, List.nil_append]
  | rest _ hd => simp only [trace, hd, List.map_nil, List.nil_append]
  | write _ hd =>
    simp only [trace, hd]
    split <;> rfl

theorem trace_finish {verdict : Verdict} {after : Snapshot}
    (hd : demand s = .finish verdict after) (grants : Nat) :
    trace files (grants + 1) s input = [Host.closing verdict files after] := by
  simp only [trace, hd]

/-- What was told stays told. -/
theorem trace_grows (more : Nat) : ∀ (grants : Nat) (s : State P) (input : Bytes),
    trace files grants s input <+: trace files (grants + more) s input
  | 0, _, _ => List.nil_prefix
  | grants + 1, s, input => by
    rw [Nat.add_right_comm]
    simp only [trace]
    split
    · exact trace_grows more grants _ _
    · exact trace_grows more grants _ _
    · exact List.prefix_rfl
    · exact (List.prefix_append_right_inj _).mpr (trace_grows more grants _ _)
    · exact List.prefix_rfl

end Program

namespace Host

variable {P : Type} [Program P] {h h' : Host P} {files : Snapshot} {ahead : Bytes} {task : Task P}
  {events : List StageEvent}

open Program

/-! ## One act -/

/-- What a host reports apart from its requests for input. -/
def withoutRequests (events : List StageEvent) : List StageEvent := events.filter (· ≠ .wantsInput)

theorem news_append (events more : List StageEvent) :
    withoutRequests (events ++ more) = withoutRequests events ++ withoutRequests more :=
  List.filter_append ..

theorem news_data (pieces : List Bytes) :
    withoutRequests (pieces.map .data) = pieces.map StageEvent.data := by
  refine List.filter_eq_self.mpr fun e he => ?_
  obtain ⟨data, -, rfl⟩ := List.mem_map.mp he
  rfl

theorem news_closing (verdict : Verdict) (files after : Snapshot) :
    withoutRequests [closing verdict files after] = [closing verdict files after] := by
  have hclosing := closing_isClosing verdict files after
  refine List.filter_eq_self.mpr fun e he => ?_
  rw [List.mem_singleton.mp he]
  refine decide_eq_true fun hasks => ?_
  rw [hasks] at hclosing
  cases hclosing

/-- A host is at work with its stage at `task`, and `ahead` is still to come of its input. -/
structure AtTask (files : Snapshot) (ahead : Bytes) (h : Host P) (task : Task P) : Prop where
  working : ∃ asked, h.phase = .working task files asked
  ready : task.ReadsPlainly (h.unread ++ ahead)

/-- What an act of a host does to its stage. -/
inductive ActCases (files : Snapshot) (ahead : Bytes) (h : Host P) (task : Task P) (h' : Host P) :
    List StageEvent → Prop where
  /-- It waits for input that is still to come. -/
  | waits {events : List StageEvent} (hopen : h.isShut = false)
      (hphase : h'.phase = .working task files true) (hunread : h'.unread = h.unread)
      (hevents : withoutRequests events = []) : ActCases files ahead h task h' events
  /-- It has fetched input that it does not use yet. -/
  | fetched {next : Task P} (hstands : AtTask files ahead h' next)
      (hstate : next.state = task.state)
      (hinput : next.input (h'.unread ++ ahead) = task.input (h.unread ++ ahead))
      (hless : next.unfetched (h'.unread ++ ahead) < task.unfetched (h.unread ++ ahead)) :
      ActCases files ahead h task h' []
  | granted {next : Task P} {pieces : List Bytes} (hstands : AtTask files ahead h' next)
      (hgrants : Grants P task.state (task.input (h.unread ++ ahead)) pieces next.state
        (next.input (h'.unread ++ ahead))) : ActCases files ahead h task h' (pieces.map .data)
  | finished {verdict : Verdict} {after : Snapshot} (hd : demand task.state = .finish verdict after)
      (hphase : h'.phase = .over) : ActCases files ahead h task h' [closing verdict files after]

/-- A read that was answered. -/
theorem AtTask.answered {limit : Nat} {answer} {asked : Bool} {data : Bytes}
    (hs : AtTask files ahead h task) (hact : task.act = .read limit answer)
    (hphase : h'.phase = .working (answer (.ok data)) files asked)
    (hinput : h.unread = data ++ h'.unread) (hend : data = [] → h'.unread ++ ahead = []) :
    ActCases files ahead h task h' [] := by
  obtain ⟨-, hread⟩ := hs.ready.read_grants hact
  obtain ⟨hready, ⟨hstate, hsame, hless⟩ | hgrants⟩ := hread data (h'.unread ++ ahead)
    (by rw [hinput, List.append_assoc]) hend
  · exact .fetched ⟨⟨_, hphase⟩, hready⟩ hstate hsame hless
  · exact .granted ⟨⟨_, hphase⟩, hready⟩ hgrants

/-- **An act takes a stage no further than to its next demand**, and tells what is granted there. -/
theorem AtTask.step (hs : AtTask files ahead h task) (hlive : h.cancelled = false)
    (hsound : h.ChannelSound) (hshut : h.isShut = true → ahead = [])
    (hstep : h.step = some (h', events)) : ActCases files ahead h task h' events := by
  obtain ⟨asked, hphase⟩ := hs.working
  cases step_cases hstep with
  | silent hworking hact =>
    cases hphase.symm.trans hworking
    obtain ⟨hready, hgrants⟩ := hs.ready.silent_grants hact
    show ActCases files ahead h task _ (List.map .data [])
    exact .granted ⟨⟨asked, rfl⟩, hready⟩ hgrants
  | wroteNothing hworking hact hdata =>
    cases hphase.symm.trans hworking
    obtain ⟨hready, hgrants⟩ := hs.ready.write_grants hact
    rw [if_pos (List.isEmpty_iff.mpr hdata)] at hgrants
    show ActCases files ahead h task _ (List.map .data [])
    exact .granted ⟨⟨asked, rfl⟩, hready⟩ hgrants
  | cutOff _ _ _ hcancelled => cases hlive.symm.trans hcancelled
  | @wrote _ _ _ data _ hworking hact hdata =>
    cases hphase.symm.trans hworking
    obtain ⟨hready, hgrants⟩ := hs.ready.write_grants hact
    rw [if_neg (mt List.isEmpty_iff.mp hdata)] at hgrants
    show ActCases files ahead h task _ (List.map .data [data])
    exact .granted ⟨⟨asked, rfl⟩, hready⟩ hgrants
  | finished hworking hact =>
    cases hphase.symm.trans hworking
    rw [report_of_live hlive]
    exact .finished (Task.finish_demands hact) rfl
  | @readGiven _ _ _ limit _ rest hworking hact hsupply =>
    cases hphase.symm.trans hworking
    obtain ⟨hlimit, -⟩ := hs.ready.read_grants hact
    have hunread : h.unread = rest := by simp only [unread, hsupply]
    have hahead : ahead = [] := hshut (by simp only [isShut, hsupply])
    refine hs.answered hact rfl (hunread.trans (List.take_append_drop limit rest).symm) ?_
    intro hnil
    have hrest : rest = [] := (List.take_eq_nil_iff.mp hnil).resolve_left (by omega)
    simp only [unread, hrest, hahead, List.drop_nil, List.append_nil]
  | @readHeld _ _ _ limit _ c after image data hworking hact hsupply _ hread =>
    cases hphase.symm.trans hworking
    obtain ⟨hlimit, -⟩ := hs.ready.read_grants hact
    have hunread : h.unread = c.toList := by simp only [unread, hsupply]
    simp only [ChannelSound, hsupply] at hsound
    obtain ⟨data', after', hbytes, hsome, hlist, -⟩ | ⟨hend, hempty, hclosed⟩ | ⟨hblocked, -, -⟩ :=
      Channel.read_spec hsound.1 hsound.2 hlimit
    · cases hread.symm.trans hbytes
      exact hs.answered hact rfl (hunread.trans hlist) fun hnil => absurd hnil hsome
    · -- the end is found only when all of the input has come
      cases hread.symm.trans hend
      have hahead : ahead = [] := hshut (by simp only [isShut, hsupply, hclosed])
      refine hs.answered hact rfl hunread fun _ => ?_
      simp only [unread, hempty, hahead, List.append_nil]
    · cases hread.symm.trans hblocked
  | refused _ _ hsupply _ hread =>
    simp only [ChannelSound, hsupply] at hsound
    simp only [Channel.read, hsound.2, Bool.false_eq_true, if_false] at hread
    split at hread
    · cases hread
    · split at hread
      · split at hread <;> cases hread
      · cases hread
  | parked hworking _ hsupply _ hread =>
    cases hphase.symm.trans hworking
    simp only [ChannelSound, hsupply] at hsound
    have hidle := (Channel.read_eq_blocked hsound.1 hread).2
    refine .waits ?_ rfl ?_ ?_
    · simp only [isShut, hsupply, hidle.closed]
    · simp only [unread, hsupply]
      rfl
    · split
      · rfl
      · rw [report_of_live hlive]
        rfl

/-! ## Turns -/

/-- What comes next for a host: an act of its own, if it can act, or something done to its input. -/
inductive Turn where
  | work
  | write (data : Bytes)
  | close

def turn (h : Host P) : Turn → Except Channel.Refusal (Host P × List StageEvent)
  | .work => .ok (h.step.getD (h, []))
  | .write data => (h.writeInput data).map (·, [])
  | .close => .ok (h.closeInput, [])

/-- Where turns bring a host, and what it reports meanwhile. -/
def turns (h : Host P) : List Turn → Except Channel.Refusal (Host P × List StageEvent)
  | [] => .ok (h, [])
  | t :: rest =>
    match h.turn t with
    | .error why => .error why
    | .ok (after, events) =>
      (turns after rest).map fun (last, more) => (last, events ++ more)

/-- Turns that write just this to a host, in any pieces and between any of its acts, and then close
its input. -/
inductive Delivers : Bytes → List Turn → Prop where
  | work {ahead : Bytes} {rest : List Turn} (h : Delivers ahead rest) :
      Delivers ahead (.work :: rest)
  | write {ahead : Bytes} {rest : List Turn} (data : Bytes) (h : Delivers ahead rest) :
      Delivers (data ++ ahead) (.write data :: rest)
  | close (acts : Nat) : Delivers [] (.close :: List.replicate acts .work)

variable {last : Host P} {more : List StageEvent} {first rest : List Turn}

theorem turns_cons {t : Turn} (hturn : h.turn t = .ok (h', events))
    (hrest : h'.turns rest = .ok (last, more)) :
    h.turns (t :: rest) = .ok (last, events ++ more) := by
  simp only [turns, hturn, hrest]
  rfl

theorem turns_append (hfirst : h.turns first = .ok (h', events))
    (hrest : h'.turns rest = .ok (last, more)) :
    h.turns (first ++ rest) = .ok (last, events ++ more) := by
  induction first generalizing h events with
  | nil =>
    cases hfirst
    exact hrest
  | cons t first ih =>
    simp only [turns] at hfirst
    split at hfirst
    · cases hfirst
    · rename_i after before hturn
      cases hafter : after.turns first with
      | error why =>
        rw [hafter] at hfirst
        cases hfirst
      | ok pair =>
        rw [hafter] at hfirst
        cases hfirst
        rw [List.append_assoc]
        exact turns_cons hturn (ih hafter)

/-- A host that is only left to work reports what it does in that many acts. -/
theorem turns_work (acts : Nat) : ∀ h : Host P,
    ∃ last, h.turns (List.replicate acts .work) = .ok (last, h.reported acts) := by
  induction acts with
  | zero => exact fun h => ⟨h, rfl⟩
  | succ acts ih =>
    intro h
    rw [List.replicate_succ]
    cases hstep : h.step with
    | none =>
      have hstuck : ∀ acts, h.reported acts = [] := by
        intro acts
        cases acts with
        | zero => rfl
        | succ acts => simp only [reported, hstep]
      obtain ⟨last, hlast⟩ := ih h
      refine ⟨last, ?_⟩
      have hturn : h.turn .work = .ok (h, []) := by simp [turn, hstep]
      rw [hstuck] at hlast ⊢
      exact turns_cons hturn hlast
    | some pair =>
      obtain ⟨after, events⟩ := pair
      obtain ⟨last, hlast⟩ := ih after
      refine ⟨last, ?_⟩
      simp only [reported, hstep]
      exact turns_cons (by simp [turn, hstep]) hlast

/-! ## Keeping to a trace -/

variable {s : State P} {input ahead' : Bytes} {grants : Nat} {told : List StageEvent}

/-- Where a host is that has told so much of the trace of `s` on `input`. -/
inductive OutputPosition (files : Snapshot) (s : State P) (input : Bytes) (grants : Nat)
    (ahead : Bytes) (h : Host P) (told : List StageEvent) : Prop where
  | working {task : Task P} (hstands : AtTask files ahead h task)
      (hcourse : ∀ more, trace files (grants + more) s input =
        told ++ trace files more task.state (task.input (h.unread ++ ahead)))
      (hopen : ∀ e ∈ told, e.isClosing = false)
  | spent (hphase : h.phase = .over)
      (hcourse : ∀ more, trace files (grants + more) s input = told)

/-- A host that has told so much of the trace of `s` on `input` and goes on with it. -/
structure OutputInv (files : Snapshot) (s : State P) (input : Bytes) (grants : Nat) (ahead : Bytes)
    (h : Host P) (told : List StageEvent) : Prop where
  sound : h.ChannelSound
  live : h.cancelled = false
  shut : h.isShut = true → ahead = []
  place : OutputPosition files s input grants ahead h told

/-- How far the stage of a host is from having fetched what the host holds. -/
def unfetched (h : Host P) : Nat :=
  match h.phase with
  | .working task _ _ => task.unfetched h.unread
  | _ => 0

theorem OutputInv.output_eq (ht : OutputInv files s input grants ahead h told) :
    told = trace files grants s input := by
  cases ht.place with
  | working _ hcourse _ => exact ((hcourse 0).trans (List.append_nil _)).symm
  | spent _ hcourse => exact (hcourse 0).symm

/-- Where the rest of the input lies makes no difference. -/
theorem OutputInv.moved (ht : OutputInv files s input grants ahead h told)
    (hsame : SameIdentity h h')
    (hsound : h'.ChannelSound) (hshut : h'.isShut = true → ahead' = [])
    (hphase : h'.phase = h.phase) (hinput : h'.unread ++ ahead' = h.unread ++ ahead) :
    OutputInv files s input grants ahead' h' told where
  sound := hsound
  live := hsame.cancelled.trans ht.live
  shut := hshut
  place := by
    cases ht.place with
    | working hstands hcourse hopen =>
      obtain ⟨⟨asked, hwork⟩, hready⟩ := hstands
      rw [← hinput] at hready hcourse
      exact .working ⟨⟨asked, hphase.trans hwork⟩, hready⟩ hcourse hopen
    | spent hover hcourse => exact .spent (hphase.trans hover) hcourse

theorem AtTask.unfetched_eq (hs : AtTask files ahead h task) :
    h.unfetched = task.unfetched h.unread := by
  obtain ⟨asked, hphase⟩ := hs.working
  simp only [unfetched, hphase]

/-- **An act keeps a host on its trace**, by at most one grant. One that has all its input asks for
none, and an act that is granted nothing leaves it less to fetch. -/
theorem OutputInv.step (ht : OutputInv files s input grants ahead h told)
    (hstep : h.step = some (h', events)) :
    ∃ gained, OutputInv files s input (grants + gained) ahead h' (told ++ withoutRequests events) ∧
      (h.isShut = true → gained ≤ 1 ∧ withoutRequests events = events ∧
        (gained = 0 → h'.unfetched < h.unfetched)) := by
  obtain ⟨hsame, hsound, hshut, -⟩ := step_spec ht.sound hstep
  have hlive : h'.cancelled = false := hsame.cancelled.trans ht.live
  have hshut' : h'.isShut = true → ahead = [] := fun h => ht.shut (hshut ▸ h)
  cases ht.place with
  | spent hphase _ => exact absurd ((step_of_over hphase).symm.trans hstep) nofun
  | working hstands hcourse hopen =>
    rename_i task
    cases hstands.step ht.live ht.sound ht.shut hstep with
    | waits hwaits hphase hunread hevents =>
      have hnext : AtTask files ahead h' task := ⟨⟨true, hphase⟩, hunread ▸ hstands.ready⟩
      refine ⟨0, ⟨hsound, hlive, hshut', ?_⟩, fun hshut => absurd (hshut.symm.trans hwaits) nofun⟩
      rw [← hunread] at hcourse
      rw [hevents, List.append_nil]
      exact .working hnext hcourse hopen
    | fetched hnext hstate hinput hless =>
      refine ⟨0, ⟨hsound, hlive, hshut', ?_⟩, fun hshut => ⟨by omega, rfl, fun _ => ?_⟩⟩
      · rw [← hstate, ← hinput] at hcourse
        exact .working hnext (by simpa [withoutRequests] using hcourse)
          (by simpa [withoutRequests] using hopen)
      · rw [ht.shut hshut, List.append_nil, List.append_nil] at hless
        rwa [hnext.unfetched_eq, hstands.unfetched_eq]
    | granted hnext hgrants =>
      refine ⟨1, ⟨hsound, hlive, hshut', .working hnext (fun more => ?_) fun e he => ?_⟩,
        fun _ => ⟨Nat.le_refl 1, news_data _, nofun⟩⟩
      · rw [Nat.add_assoc, Nat.add_comm 1, hcourse, trace_grants hgrants, news_data,
          List.append_assoc]
      · rw [news_data] at he
        rcases List.mem_append.mp he with he | he
        · exact hopen e he
        · obtain ⟨data, -, rfl⟩ := List.mem_map.mp he
          rfl
    | finished hd hphase =>
      refine ⟨1, ⟨hsound, hlive, hshut', .spent hphase fun more => ?_⟩,
        fun _ => ⟨Nat.le_refl 1, news_closing _ _ _, nofun⟩⟩
      rw [Nat.add_assoc, Nat.add_comm 1, hcourse, trace_finish hd, news_closing]

/-- The turn in which a host is left to work. -/
theorem OutputInv.work (ht : OutputInv files s input grants ahead h told) :
    ∃ h' events gained, h.turn .work = .ok (h', events) ∧
      OutputInv files s input (grants + gained) ahead h' (told ++ withoutRequests events) ∧
        h'.isShut = h.isShut ∧ (h.isShut = true → withoutRequests events = events) := by
  cases hstep : h.step with
  | none =>
    exact ⟨h, [], 0, by simp [turn, hstep], by simpa [withoutRequests] using ht, rfl, fun _ => rfl⟩
  | some pair =>
    obtain ⟨h', events⟩ := pair
    obtain ⟨-, -, hshut, -⟩ := step_spec ht.sound hstep
    obtain ⟨gained, hnext, hwhole⟩ := ht.step hstep
    exact ⟨h', events, gained, by simp [turn, hstep], hnext, hshut, fun h => (hwhole h).2.1⟩

/-- A host that is left to work keeps to its trace, and asks for nothing if it has all its input. -/
theorem OutputInv.works (acts : Nat) (ht : OutputInv files s input grants ahead h told) :
    ∃ h' events gained, h.turns (List.replicate acts .work) = .ok (h', events) ∧
      OutputInv files s input (grants + gained) ahead h' (told ++ withoutRequests events) ∧
        h'.isShut = h.isShut ∧ (h.isShut = true → withoutRequests events = events) := by
  induction acts generalizing h grants told with
  | zero => exact ⟨h, [], 0, rfl, by simpa [withoutRequests] using ht, rfl, fun _ => rfl⟩
  | succ acts ih =>
    obtain ⟨h₁, events, gained, hturn, ht₁, hshut, hquiet⟩ := ht.work
    obtain ⟨h₂, more, gained', hturns, ht₂, hshut', hquiet'⟩ := ih ht₁
    refine ⟨h₂, events ++ more, gained + gained', turns_cons hturn hturns, ?_, hshut'.trans hshut,
      fun hwhole => ?_⟩
    · rwa [news_append, ← List.append_assoc, ← Nat.add_assoc]
    · rw [news_append, hquiet hwhole, hquiet' (hshut.trans hwhole)]

/-- **A host that is given its input by and by keeps to its trace**, and no write is refused. -/
theorem OutputInv.turns {script : List Turn} (hdelivers : Delivers ahead script)
    (hopen : h.isShut = false) (ht : OutputInv files s input grants ahead h told) :
    ∃ h' events gained, h.turns script = .ok (h', events) ∧ h'.isShut = true ∧
      OutputInv files s input (grants + gained) [] h' (told ++ withoutRequests events) := by
  induction hdelivers generalizing h grants told with
  | work _ ih =>
    obtain ⟨h₁, events, gained, hturn, ht₁, hshut, -⟩ := ht.work
    obtain ⟨h₂, more, gained', hturns, hshut', ht₂⟩ := ih (hshut.trans hopen) ht₁
    refine ⟨h₂, events ++ more, gained + gained', turns_cons hturn hturns, hshut', ?_⟩
    rwa [news_append, ← List.append_assoc, ← Nat.add_assoc]
  | write data _ ih =>
    obtain ⟨h₁, hwrite, hsame, hsound, hopen', hunread, hphase⟩ := writeInput_spec ht.sound hopen data
    have ht₁ := ht.moved hsame hsound (fun hshut => absurd (hopen'.symm.trans hshut) nofun) hphase
      (by rw [hunread, List.append_assoc])
    obtain ⟨h₂, more, gained, hturns, hshut, ht₂⟩ := ih hopen' ht₁
    have hturn : h.turn (.write data) = .ok (h₁, []) := by simp only [turn, hwrite]; rfl
    exact ⟨h₂, more, gained, turns_cons hturn hturns, hshut, ht₂⟩
  | close acts =>
    obtain ⟨hsame, hsound, hshut, hunread, hphase⟩ := closeInput_spec ht.sound
    have ht₁ := ht.moved hsame hsound (fun _ => rfl) hphase (by rw [hunread])
    obtain ⟨h₂, more, gained, hturns, ht₂, hshut', -⟩ := ht₁.works acts
    have hturn : h.turn .close = .ok (h.closeInput, []) := rfl
    exact ⟨h₂, more, gained, turns_cons hturn hturns, hshut'.trans hshut, ht₂⟩

/-- A host that has all its input and is left to work is granted its next demand. -/
theorem OutputInv.gains (ht : OutputInv files s input grants [] h told) (hshut : h.isShut = true) :
    ∃ acts h' events, h.turns (List.replicate acts .work) = .ok (h', events) ∧ h'.isShut = true ∧
      OutputInv files s input (grants + 1) [] h' (told ++ withoutRequests events) := by
  induction hleft : h.unfetched using Nat.strongRecOn generalizing h told with
  | ind left ih =>
    cases ht.place with
    | spent hphase hcourse =>
      refine ⟨0, h, [], rfl, hshut, ht.sound, ht.live, fun _ => rfl, .spent hphase fun more => ?_⟩
      rw [Nat.add_assoc, hcourse]
      simp [withoutRequests]
    | working hstands _ _ =>
      obtain ⟨asked, hphase⟩ := hstands.working
      obtain ⟨⟨h₁, events⟩, hstep⟩ := Option.ne_none_iff_exists'.mp (step_of_shut ht.sound hshut hphase)
      obtain ⟨-, -, hshut₁, -⟩ := step_spec ht.sound hstep
      obtain ⟨gained, ht₁, hless⟩ := ht.step hstep
      obtain ⟨hone, -, hless⟩ := hless hshut
      have hturn : h.turn .work = .ok (h₁, events) := by simp [turn, hstep]
      rcases Nat.eq_zero_or_pos gained with rfl | hpos
      · obtain ⟨acts, h₂, more, hturns, hshut₂, ht₂⟩ :=
          ih _ (hleft ▸ hless rfl) ht₁ (hshut₁.trans hshut) rfl
        refine ⟨acts + 1, h₂, events ++ more, turns_cons hturn hturns, hshut₂, ?_⟩
        rwa [news_append, ← List.append_assoc]
      · obtain rfl : gained = 1 := by omega
        exact ⟨1, h₁, events ++ [], turns_cons hturn rfl, hshut₁.trans hshut, by
          rwa [List.append_nil]⟩

/-- **A host that has all its input and is left to work comes to tell as much of its trace as one
likes.** -/
theorem OutputInv.reaches (ht : OutputInv files s input grants [] h told) (hshut : h.isShut = true)
    (more : Nat) : ∃ acts h' events, h.turns (List.replicate acts .work) = .ok (h', events) ∧
      h'.isShut = true ∧
      OutputInv files s input (grants + more) [] h' (told ++ withoutRequests events) := by
  induction more with
  | zero => exact ⟨0, h, [], rfl, hshut, by simpa [withoutRequests] using ht⟩
  | succ more ih =>
    obtain ⟨acts, h₁, events, hturns, hshut₁, ht₁⟩ := ih
    obtain ⟨acts', h₂, events', hturns', hshut₂, ht₂⟩ := ht₁.gains hshut₁
    refine ⟨acts + acts', h₂, events ++ events', ?_, hshut₂, ?_⟩
    · rw [← List.replicate_append_replicate]
      exact turns_append hturns hturns'
    · rwa [news_append, ← List.append_assoc]

/-- A host whose program was just set going has told nothing yet of its trace. -/
theorem OutputInv.started {p : P} {inv : Invocation} {asked : Bool}
    (hplain : ReadsOnly P .lines (Program.start p inv) ∨ ReadsOnly P .rest (Program.start p inv))
    (hsound : h.ChannelSound) (hlive : h.cancelled = false) (hshut : h.isShut = true → ahead = [])
    (hphase : h.phase = .working (.start p inv) files asked) (hinput : h.unread ++ ahead = input) :
    OutputInv files (Program.start p inv) input 0 ahead h [] where
  sound := hsound
  live := hlive
  shut := hshut
  place := by
    refine .working ⟨⟨asked, hphase⟩, .start hplain _⟩ (fun more => ?_) nofun
    rw [Nat.zero_add, hinput]
    rfl

/-! ## Two hosts -/

/-- One host is given its input by turns, beside others; the other has it from the beginning, alone.
They tell the same, but for the requests for input of the first. -/
structure KindsSpec (alone beside : Host P) (script : List Turn) : Prop where
  /-- No write is refused, and what is told by then the other one tells in so many acts. -/
  output : ∃ last events, beside.turns script = .ok (last, events) ∧
    ∃ acts, withoutRequests events = alone.reported acts
  /-- Left to work, it comes to tell all that the other one tells. -/
  reaches : ∀ acts, ∃ enough, ∀ further, enough ≤ further → ∃ last events,
    beside.turns (script ++ List.replicate further .work) = .ok (last, events) ∧
      alone.reported acts <+: withoutRequests events
  /-- When the other one ends it ends so too, and tells nothing else. -/
  ends : ∀ acts, ∀ e ∈ alone.reported acts, e.isClosing = true → ∃ enough, ∀ further,
    enough ≤ further → ∃ last events,
      beside.turns (script ++ List.replicate further .work) = .ok (last, events) ∧
        withoutRequests events = alone.reported acts ∧ last.phase = .over

/-- What a host that has all its input reports is on its trace, and it asks for nothing. -/
theorem OutputInv.reported (ht : OutputInv files s input 0 [] h []) (hshut : h.isShut = true)
    (acts : Nat) : withoutRequests (h.reported acts) = h.reported acts ∧
      ∃ last grants, OutputInv files s input grants [] last (h.reported acts) := by
  obtain ⟨last, events, gained, hturns, hlast, -, hquiet⟩ := ht.works acts
  obtain ⟨last', hwork⟩ := turns_work acts h
  cases hturns.symm.trans hwork
  rw [List.nil_append, hquiet hshut] at hlast
  exact ⟨hquiet hshut, last, 0 + gained, hlast⟩

/-- Some acts of a host that has all its input report just so much of its trace. -/
theorem OutputInv.reported_eq (ht : OutputInv files s input 0 [] h []) (hshut : h.isShut = true)
    (grants : Nat) : ∃ acts, h.reported acts = trace files grants s input := by
  obtain ⟨acts, last, events, hturns, -, hlast⟩ := ht.reaches hshut grants
  obtain ⟨last', hwork⟩ := turns_work acts h
  cases hturns.symm.trans hwork
  rw [List.nil_append, (ht.reported hshut acts).1, Nat.zero_add] at hlast
  exact ⟨acts, hlast.output_eq⟩

/-- A host that was given its input and is left to work comes to tell as much of its trace as one
likes, and goes on from there. -/
theorem OutputInv.goes_on {script : List Turn} (ht : OutputInv files s input 0 ahead h [])
    (hopen : h.isShut = false) (hdelivers : Delivers ahead script) (grants : Nat) :
    ∃ enough, ∀ further, enough ≤ further → ∃ last events more,
      h.turns (script ++ List.replicate further .work) = .ok (last, events) ∧
        OutputInv files s input (grants + more) [] last (withoutRequests events) := by
  obtain ⟨h₁, events₁, gained₁, hturns₁, hshut₁, ht₁⟩ := ht.turns hdelivers hopen
  obtain ⟨enough, h₂, events₂, hturns₂, -, ht₂⟩ := ht₁.reaches hshut₁ grants
  refine ⟨enough, fun further hfurther => ?_⟩
  obtain ⟨h₃, events₃, gained₃, hturns₃, ht₃, -⟩ := ht₂.works (further - enough)
  refine ⟨h₃, events₁ ++ (events₂ ++ events₃), gained₁ + gained₃, ?_, ?_⟩
  · rw [← Nat.add_sub_cancel' hfurther, ← List.replicate_append_replicate]
    exact turns_append hturns₁ (turns_append hturns₂ hturns₃)
  · have hgrants : grants + (gained₁ + gained₃) = 0 + gained₁ + grants + gained₃ := by omega
    rw [hgrants, news_append, news_append, ← List.append_assoc]
    exact ht₃

/-- **Two hosts on one trace tell the same.** -/
theorem OutputInv.kindsSpec {alone beside : Host P} {script : List Turn}
    (halone : OutputInv files s input 0 [] alone []) (hwhole : alone.isShut = true)
    (hbeside : OutputInv files s input 0 ahead beside []) (hopen : beside.isShut = false)
    (hdelivers : Delivers ahead script) : KindsSpec alone beside script where
  output := by
    obtain ⟨last, events, gained, hturns, -, hlast⟩ := hbeside.turns hdelivers hopen
    obtain ⟨acts, hacts⟩ := halone.reported_eq hwhole (0 + gained)
    exact ⟨last, events, hturns, acts, hlast.output_eq.trans hacts.symm⟩
  reaches := by
    intro acts
    obtain ⟨-, there, grants, hreported⟩ := halone.reported hwhole acts
    obtain ⟨enough, hgoes⟩ := hbeside.goes_on hopen hdelivers grants
    refine ⟨enough, fun further hfurther => ?_⟩
    obtain ⟨last, events, more, hturns, hlast⟩ := hgoes further hfurther
    refine ⟨last, events, hturns, ?_⟩
    rw [hlast.output_eq, hreported.output_eq]
    exact trace_grows more grants s input
  ends := by
    intro acts e he hclosing
    obtain ⟨-, there, grants, hreported⟩ := halone.reported hwhole acts
    have hover : ∀ more, trace files (grants + more) s input = alone.reported acts := by
      cases hreported.place with
      | working _ _ hopen => exact absurd (hopen e he) (by simp [hclosing])
      | spent _ hcourse => exact hcourse
    obtain ⟨enough, hgoes⟩ := hbeside.goes_on hopen hdelivers grants
    refine ⟨enough, fun further hfurther => ?_⟩
    obtain ⟨last, events, more, hturns, hlast⟩ := hgoes further hfurther
    have htold : withoutRequests events = alone.reported acts := hlast.output_eq.trans (hover more)
    refine ⟨last, events, hturns, htold, ?_⟩
    cases hlast.place with
    | working _ _ hopen => exact absurd (hopen e (htold ▸ he)) (by simp [hclosing])
    | spent hphase _ => exact hphase

/-- **A program that reads plainly is run alike by both kinds of host.** In a host that feeds it by turns
it tells just what it tells in one that gave it all of its input at once, piece by piece and to the same
end; it only asks for input besides. -/
theorem kinds_agree {index : Nat} {stage : Stage P} {p : P} {size : Nat} {capacity : Nat}
    {image : Image} {past past' : List Callback.Call} {initial : Option Bytes} {script : List Turn}
    {alone beside : Host P}
    (hp : stage.executable = .program p size)
    (hplain : ReadsOnly P .lines (Program.start p (stage.invocation files)) ∨
      ReadsOnly P .rest (Program.start p (stage.invocation files)))
    (hdelivers : Delivers ahead script)
    (halone : ((inline index stage files).start past (some (initial.getD [] ++ ahead))).1 = alone)
    (hbeside : (concurrent index stage files capacity image).start past' initial =
      (beside, events, none)) :
    events = [] ∧ KindsSpec alone beside script := by
  obtain ⟨hnone, hsame, hsound, hopen, hunread, hphase⟩ := start_concurrent hp hbeside
  rw [start_program index past files _ hp] at halone
  subst halone
  have hfed : OutputInv files (Program.start p (stage.invocation files))
    (initial.getD [] ++ ahead) 0
      ahead beside [] :=
    .started hplain hsound hsame.cancelled
      (fun hshut => absurd (hopen.symm.trans hshut) nofun) hphase
      (by rw [hunread])
  exact ⟨hnone,
    OutputInv.kindsSpec (.started hplain trivial rfl (fun _ => rfl) rfl (List.append_nil _)) rfl
    hfed hopen hdelivers⟩

/-- A stage that changes the files, numbers its lines and fails. -/
def numbering : Stage Script :=
  ⟨["s"], [], .program ⟨"s", [.write "log" "x", .filter [.number] false, .fail "over"]⟩ 0⟩

/-- A host that has all the input of the script. -/
def numberingInline : Host Script :=
  ((inline 0 numbering .null).start [] (some (Utf8.encode "a\nbc\nd"))).1

/-- A host that has the beginning of it, behind a ring of one byte. -/
def numberingConcurrent : Host Script :=
  ((concurrent 0 numbering .null 1 ⟨fun _ => none, false⟩).start [] (some (Utf8.encode "a\nb"))).1

/-- Turns that cut the rest in the middle of a line. -/
def twoWrites : List Turn :=
  [.work, .work, .write (Utf8.encode "c\n"), .work, .write (Utf8.encode "d"), .work, .close]

/-- The script numbers the lines that it numbers when it has them all at once, and fails alike with the
files that it changed. -/
theorem kinds_agree_numbering :
    Delivers (Utf8.encode "c\nd") twoWrites ∧
      numberingInline.reported 40 = [.data (Utf8.encode "     1\ta\n"),
        .data (Utf8.encode "     2\tbc\n"), .data (Utf8.encode "     3\td\n"),
        .failed "over" (some (.object [("log", .text "x\n")]))] ∧
      KindsSpec numberingInline numberingConcurrent twoWrites := by
  have hdelivers : Delivers (Utf8.encode "c\nd") twoWrites :=
    .work (.work (.write (Utf8.encode "c\n") (.work (.write (Utf8.encode "d") (.work (.close 0))))))
  have hstart : (concurrent 0 numbering .null 1 ⟨fun _ => none, false⟩).start []
      (some (Utf8.encode "a\nb")) = (numberingConcurrent, [], none) := rfl
  have hinput : (some (Utf8.encode "a\nb")).getD [] ++ Utf8.encode "c\nd" =
      Utf8.encode "a\nbc\nd" := by decide +kernel
  have hwhole : ((inline 0 numbering .null).start []
      (some ((some (Utf8.encode "a\nb")).getD [] ++ Utf8.encode "c\nd"))).1 = numberingInline := by
    rw [hinput]
    rfl
  exact ⟨hdelivers, by decide +kernel,
    (kinds_agree rfl (Or.inl (Script.readsOnly_lines _ _)) hdelivers
    hwhole hstart).2⟩

end Host

end Pipework
