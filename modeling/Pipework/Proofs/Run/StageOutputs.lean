import Pipework.Proofs.Kinds
import Pipework.Proofs.Run.Relay

/-!
# The outputs of the stages

When every stage reads plainly, none fails and none changes the files, what each of them puts out is
fixed before the run begins (`StageOutputs`): it does not depend on when its input comes, in which
pieces, or on which other stages are at work. `OutputInv` says that a pipeline follows such outputs,
with what was handled, what is queued and what is still to come of each stage making up its output,
and every move keeps it (`OutputInv.move`).
-/

namespace Pipework

theorem Host.closing_done (files : Snapshot) : Host.closing .done files files = .ended none := by
  simp [Host.closing, Verdict.message?, Host.changed]

/-! ## One host -/

/-- A host that goes on to put out `left` and then to end, when `ahead` is still to come of its
input; `closing` is the end that it has reported already. -/
inductive Host.Predicted {P : Type} [Program P] (files : Snapshot) (ahead : Bytes) :
    Host P → List Bytes → List StageEvent → Prop where
  | working {h : Host P} {task : Task P} {asked : Bool} {left : List Bytes}
      (hphase : h.phase = .working task files asked)
      (hready : task.ReadsPlainly (h.unread ++ ahead))
      (hdenotes : task.Denotes (h.unread ++ ahead) ⟨left, .done, files⟩) :
      Predicted files ahead h left []
  | ended {h : Host P} (hphase : h.phase = .over) : Predicted files ahead h [] [.ended none]

namespace Host

variable {P : Type} [Program P] {h h' : Host P} {files : Snapshot} {ahead ahead' : Bytes}
  {left : List Bytes} {closing events : List StageEvent}

/-- Where the rest of the input lies makes no difference. -/
theorem Predicted.congr (hb : h.Predicted files ahead left closing) (hphase : h'.phase = h.phase)
    (hinput : h'.unread ++ ahead' = h.unread ++ ahead) :
    h'.Predicted files ahead' left closing := by
  cases hb with
  | working hwork hready hdenotes =>
    rw [← hinput] at hready hdenotes
    exact .working (hphase.trans hwork) hready hdenotes
  | ended hover => exact .ended (hphase.trans hover)

/-- What one act of such a host has come to. -/
def PredictedStep (files : Snapshot) (ahead : Bytes) (left : List Bytes) (h' : Host P)
    (events : List StageEvent) : Prop :=
  ∃ (pieces left' : List Bytes) (closing : List StageEvent),
    withoutRequests events = pieces.map .data ++ closing ∧ left = pieces ++ left' ∧
      h'.Predicted files ahead left' closing

/-- **An act of such a host puts out the next piece, or ends, or shows nothing.** -/
theorem Predicted.step (hb : h.Predicted files ahead left closing) (hlive : h.cancelled = false)
    (hsound : h.ChannelSound) (hshut : h.isShut = true → ahead = [])
    (hstep : h.step = some (h', events)) :
    closing = [] ∧ PredictedStep files ahead left h' events := by
  cases hb with
  | ended hover => exact absurd ((step_of_over hover).symm.trans hstep) nofun
  | working hphase hready hdenotes =>
    rename_i task asked
    refine ⟨rfl, ?_⟩
    have hstands : AtTask files ahead h task := ⟨⟨asked, hphase⟩, hready⟩
    have hdenotes : Program.Denotes P task.state (task.input (h.unread ++ ahead))
      ⟨left, .done, files⟩ := hdenotes
    cases hstands.step hlive hsound hshut hstep with
    | waits _ hphase' hunread hevents =>
      rw [← hunread] at hready hdenotes
      exact ⟨[], left, [], hevents, rfl, .working hphase' hready hdenotes⟩
    | fetched hnext hstate hinput _ =>
      obtain ⟨⟨asked', hphase'⟩, hready'⟩ := hnext
      rw [← hstate, ← hinput] at hdenotes
      exact ⟨[], left, [], rfl, rfl, .working hphase' hready' hdenotes⟩
    | granted hnext hgrants =>
      rename_i next pieces
      obtain ⟨⟨asked', hphase'⟩, hready'⟩ := hnext
      obtain ⟨⟨pieces', verdict, after⟩, hdenotes', hleft⟩ := (hgrants.denotes _).mp hdenotes
      simp only [Yield.after, Yield.mk.injEq] at hleft
      obtain ⟨rfl, rfl, rfl⟩ := hleft
      refine ⟨pieces, pieces', [], ?_, rfl, .working hphase' hready' hdenotes'⟩
      rw [news_data, List.append_nil]
    | finished hd hphase' =>
      have hy := (Program.denotes_finish hd _ _).mp hdenotes
      simp only [Yield.mk.injEq] at hy
      obtain ⟨rfl, rfl, rfl⟩ := hy
      exact ⟨[], [], [.ended none], by rw [news_closing, closing_done]; rfl, rfl, .ended hphase'⟩

/-- The yield of a program that was just set going is what it goes on to put out. -/
theorem Predicted.started {stage : Stage P} {p : P} {size acts : Nat} {past : List Callback.Call}
    {input : Bytes}
    {pieces : List Bytes} (hp : stage.executable = .program p size) (hplain : stage.ReadsPlainly)
    (hyield : stage.yield? acts past files (input ++ ahead) = some ⟨pieces, .done, files⟩)
    (hphase : h.phase = .working (.start p ⟨stage.argv, stage.env, files⟩) files false)
    (hunread : h.unread = input) : h.Predicted files ahead pieces [] := by
  simp only [Stage.ReadsPlainly, hp] at hplain
  simp only [Stage.yield?, hp] at hyield
  have hready := Task.ReadsPlainly.start (hplain ⟨stage.argv, stage.env, files⟩) (input ++ ahead)
  rw [← hunread] at hready hyield
  exact .working hphase hready (hready.denotes_of_yield hyield)

/-- **A stage that was set going goes on to its yield** on what it was given and what is still to
come. -/
theorem start_predicted (acts : Nat) {index : Nat} {stage : Stage P} {kind : Kind}
    {past : List Callback.Call} {input : Option Bytes} {pieces : List Bytes}
    (hfresh : Fresh index stage files kind h)
    (hkind : kind = .concurrent → stage.isCallback = false)
    (hstart : h.start past input = (h', events, none)) (hplain : stage.ReadsPlainly)
    (hyield : stage.yield? acts past files (input.getD [] ++ ahead) = some ⟨pieces, .done, files⟩)
    (hwhole : stage.isCallback = true → ahead = []) :
    PredictedStep files ahead pieces h' events := by
  cases hexec : stage.executable with
  | program p size =>
    cases hfresh with
    | inline =>
      rw [start_program index past files input hexec] at hstart
      cases hstart
      exact ⟨[], pieces, [], rfl, rfl, .started hexec hplain hyield rfl rfl⟩
    | concurrent capacity image =>
      obtain ⟨rfl, -, -, -, hunread, hphase⟩ := start_concurrent hexec hstart
      exact ⟨[], pieces, [], rfl, rfl, .started hexec hplain hyield hphase hunread⟩
  | callback f =>
    have hcall := Stage.isCallback_of_callback hexec
    rw [hwhole hcall, List.append_nil] at hyield
    cases hfresh with
    | inline =>
      rw [start_callback index past files input hexec hyield] at hstart
      cases hstart
      refine ⟨pieces, [], [.ended none], ?_, (List.append_nil _).symm, .ended rfl⟩
      simp only [Yield.events, closing_done, withoutRequests]
      refine List.filter_eq_self.mpr fun e he => ?_
      rcases List.mem_append.mp he with he | he
      · obtain ⟨data, -, rfl⟩ := List.mem_map.mp he
        rfl
      · rw [List.mem_singleton.mp he]
        rfl
    | concurrent capacity image => exact absurd ((hkind rfl).symm.trans hcall) (by decide)

end Host

namespace Run

/-! ## What was handled and what is queued -/

namespace Journal

/-- The pieces of a stage that were handled. -/
def outputOf (index : Nat) : Journal → List Bytes
  | [] => []
  | .handled k (.data bytes) :: past =>
    if k = index then outputOf index past ++ [bytes] else outputOf index past
  | _ :: past => outputOf index past

@[simp] theorem outputOf_cons_data (i k : Nat) (data : Bytes) (j : Journal) :
    outputOf i (.handled k (.data data) :: j) =
      if k = i then outputOf i j ++ [data] else outputOf i j := rfl

/-- Until its reader has ended, all that a stage has put out is sent on. -/
theorem sent_eq_outputOf {k : Nat} {j : Journal} (h : hasEnded (k + 1) j = false) :
    sent k j = (outputOf k j).flatten := by
  induction j with
  | nil => rfl
  | cons n past ih =>
    unfold hasEnded at h
    rw [List.any_cons, Bool.or_eq_false_iff] at h
    have ih := ih h.2
    cases n with
    | started i input => exact ih
    | written i data => exact ih
    | refused i data why => exact ih
    | handled i e =>
      cases e with
      | data bytes =>
        rw [sent_cons_data, outputOf_cons_data]
        by_cases hi : i = k
        · have hpast : hasEnded (k + 1) past = false := h.2
          simp [hi, hpast, ih]
        · simp [hi, ih]
      | ended changed => exact ih
      | failed message changed => exact ih
      | wantsInput => exact ih

end Journal

/-- What a stage has reported that was not handled, apart from requests for input. -/
def reports (k : Nat) (queue : List (Nat × StageEvent)) : List StageEvent :=
  Host.withoutRequests ((queue.filter (·.1 = k)).map (·.2))

theorem reports_append (k : Nat) (queue more : List (Nat × StageEvent)) :
    reports k (queue ++ more) = reports k queue ++ reports k more := by
  simp [reports, Host.withoutRequests]

theorem reports_own (k : Nat) (events : List StageEvent) :
    reports k (events.map (k, ·)) = Host.withoutRequests events := by
  unfold reports
  rw [List.filter_eq_self.mpr (by simp), List.map_map]
  exact congrArg Host.withoutRequests (List.map_id _)

theorem reports_other {i k : Nat} (h : i ≠ k) (events : List StageEvent) :
    reports k (events.map (i, ·)) = [] := by
  unfold reports
  rw [List.filter_eq_nil_iff.mpr (by simp [h])]
  rfl

theorem reports_cons_other {i k : Nat} (h : i ≠ k) (e : StageEvent)
    (queue : List (Nat × StageEvent)) : reports k ((i, e) :: queue) = reports k queue := by
  simp [reports, h]

theorem reports_cons_wantsInput (i k : Nat) (queue : List (Nat × StageEvent)) :
    reports k ((i, .wantsInput) :: queue) = reports k queue := by
  by_cases h : i = k
  · simp [reports, h, Host.withoutRequests]
  · exact reports_cons_other h _ _

theorem reports_cons_self (k : Nat) {e : StageEvent} (he : e ≠ .wantsInput)
    (queue : List (Nat × StageEvent)) : reports k ((k, e) :: queue) = e :: reports k queue := by
  simp [reports, Host.withoutRequests, he]

theorem reports_rest {i k : Nat} {e : StageEvent} {queue rest : List (Nat × StageEvent)}
    (hqueue : queue = (i, e) :: rest) (h : k ≠ i) : reports k rest = reports k queue := by
  rw [hqueue, reports_cons_other (Ne.symm h)]

/-! ## Outputs and inputs -/

/-- The input of each stage when the stages put out these pieces. -/
def inputOf (first : Bytes) (pieces : Nat → List Bytes) : Nat → Bytes
  | 0 => first
  | k + 1 => (pieces k).flatten

/-- The calls that the stages before one make on these inputs, behind those of the past. -/
def callsBefore {P : Type} (past : List Callback.Call) (stages : List (Stage P)) (files : Snapshot)
    (input : Nat → Bytes) : Nat → List Callback.Call
  | 0 => past
  | k + 1 =>
    (stages[k]?.bind fun stage => stage.call? files (input k)).toList ++
      callsBefore past stages files input k

/-- What stages come to that read plainly, one on the output of the other, when none of them fails
and none changes the files. -/
structure StageOutputs {P : Type} [Program P] (stages : List (Stage P)) (files : Snapshot) where
  past : List Callback.Call
  pieces : Nat → List Bytes
  yields : ∀ (k : Nat) (stage : Stage P), stages[k]? = some stage →
    ∃ acts, stage.yield? acts (callsBefore past stages files (inputOf [] pieces) k) files
      (inputOf [] pieces k) = some ⟨pieces k, .done, files⟩
  plain : ∀ (k : Nat) (stage : Stage P), stages[k]? = some stage → stage.ReadsPlainly

variable {P F : Type} [Program P] [Filesystem F] {stages : List (Stage P)} {files : F}

def StageOutputs.input {files : Snapshot} (c : StageOutputs stages files) : Nat → Bytes :=
  inputOf [] c.pieces

/-- The calls that are made before a stage is set going. -/
def StageOutputs.calls {files : Snapshot} (c : StageOutputs stages files) :
    Nat → List Callback.Call :=
  callsBefore c.past stages files c.input

/-- What is still to come of the input of a stage. -/
def Pipeline.toCome {files : Snapshot} (s : Pipeline P F) (c : StageOutputs stages files)
    (k : Nat) : Bytes :=
  (c.input k).drop (s.journal.given k).length

namespace Pipeline

open Journal

/-- The stage of a host has put out the first of its pieces; those queued and those still to come
are the others. -/
def FollowsOutputs {files : Snapshot} (s : Pipeline P F) (c : StageOutputs stages files) (k : Nat)
    (h : Host P) : Prop :=
  ∃ (queued left : List Bytes) (closing : List StageEvent),
    reports k s.queue = queued.map .data ++ closing ∧
      c.pieces k = outputOf k s.journal ++ queued ++ left ∧
        h.Predicted files (s.toCome c k) left closing

/-- A pipeline that follows the outputs: nobody types, the files are those of the beginning,
callbacks were called as the outputs have it, and what was printed is what was handled of the last
stage. -/
structure OutputInv (c : StageOutputs stages (Filesystem.snapshot files)) (console : Console)
    (base : List String) (s : Pipeline P F) : Prop where
  staged : s.stages = stages
  files : s.files = files
  calls : s.calls = c.calls s.next
  untyped : s.typed = false
  first : given 0 s.journal = []
  hosts : ∀ k h, s.host? k = some h → s.FollowsOutputs c k h
  ended : ∀ k ∈ s.finished, outputOf k s.journal = c.pieces k ∧ reports k s.queue = []
  unborn : ∀ k, s.next ≤ k → outputOf k s.journal = [] ∧ reports k s.queue = []
  prints : s.prints = base ++ (outputOf (stages.length - 1) s.journal).flatMap console.shown

variable {c : StageOutputs stages (Filesystem.snapshot files)} {console : Console}
    {base : List String}
  {s t : Pipeline P F} {h h' : Host P}

theorem FollowsOutputs.initial {files : Snapshot} {c : StageOutputs stages files} {k : Nat}
    (hf : s.FollowsOutputs c k h) : outputOf k s.journal <+: c.pieces k := by
  obtain ⟨queued, left, -, -, hpieces, -⟩ := hf
  exact ⟨queued ++ left, by rw [hpieces, List.append_assoc]⟩

/-- Of a stage that was set going a first part of its output was handled. -/
theorem OutputInv.outputOf_initial (hf : s.OutputInv c console base) (ho : s.OrderInv) {k : Nat}
    (hk : k < s.next) : outputOf k s.journal <+: c.pieces k := by
  by_cases hover : k ∈ s.finished
  · exact ⟨[], (List.append_nil _).trans (hf.ended k hover).1⟩
  · have hmem := (ho.placed k hk).mpr hover
    obtain ⟨h, hfound⟩ := Option.isSome_iff_exists.mp (host?_isSome.mpr hmem)
    exact (hf.hosts k h hfound).initial

theorem flatten_initial {xs ys : List Bytes} (h : xs <+: ys) : xs.flatten <+: ys.flatten := by
  obtain ⟨more, rfl⟩ := h
  exact ⟨more.flatten, List.flatten_append.symm⟩

/-- As long as a stage has not ended it was given all that was handled of the one before it. -/
theorem RelayInv.given_eq_outputOf (hr : s.RelayInv) (ho : s.OrderInv) {k : Nat}
    (hborn : k + 1 < s.next)
    (hopen : k + 1 ∉ s.finished) : given (k + 1) s.journal = (outputOf k s.journal).flatten := by
  rw [hr.passed k hborn, sent_eq_outputOf (ho.unended hopen)]

/-- Nothing is to come when the stage before has ended. -/
theorem OutputInv.toCome_shut (hf : s.OutputInv c console base) (ho : s.OrderInv) (hr : s.RelayInv)
    {k : Nat} (hfound : s.host? k = some h) (hshut : h.isShut = true) : s.toCome c k = [] := by
  have hindex := host?_index hfound
  obtain ⟨hborn, hopen⟩ := ho.resident hfound
  cases k with
  | zero => exact List.drop_nil
  | succ j =>
    have hover := ((hr.hosts _ _ hfound).shut j hindex).mp hshut
    rw [toCome, hr.given_eq_outputOf ho hborn hopen, (hf.ended j hover).1]
    exact List.drop_length

/-! ## Move by move -/

/-- Where nothing is handled or reported, only the hosts have to be looked at. -/
theorem OutputInv.of_hosts (hf : s.OutputInv c console base) (hstages : t.stages = s.stages)
    (hfiles : t.files = s.files) (hcalls : t.calls = s.calls) (htyped : t.typed = s.typed)
    (hnext : t.next = s.next) (hfinished : t.finished = s.finished) (hqueue : t.queue = s.queue)
    (hjournal : t.journal = s.journal) (hprints : t.prints = s.prints)
    (hhosts : ∀ k h, t.host? k = some h → t.FollowsOutputs c k h) : t.OutputInv c console base where
  staged := hstages.trans hf.staged
  files := hfiles.trans hf.files
  calls := by
    rw [hcalls, hnext]
    exact hf.calls
  untyped := htyped.trans hf.untyped
  first := by
    rw [hjournal]
    exact hf.first
  hosts := hhosts
  ended := by
    rw [hfinished, hjournal, hqueue]
    exact hf.ended
  unborn := by
    rw [hnext, hjournal, hqueue]
    exact hf.unborn
  prints := by
    rw [hprints, hjournal]
    exact hf.prints

theorem OutputInv.worked (hf : s.OutputInv c console base) (ho : s.OrderInv) (hr : s.RelayInv)
    {events : List StageEvent} (hfound : s.host? h.index = some h)
    (hstep : h.step = some (h', events)) :
    ({ s.setHost h' with queue := s.queue ++ events.map (h.index, ·) } : Pipeline P F).OutputInv
      c console base := by
  have htended := hr.hosts _ _ hfound
  obtain ⟨hsame, -⟩ := Host.step_spec htended.sound hstep
  obtain ⟨queued, left, closing, hqueue, hpieces, hbound⟩ := hf.hosts _ _ hfound
  obtain ⟨hopen, pieces, left', closing', hnews, hleft, hbound'⟩ :=
    hbound.step htended.live htended.sound (hf.toCome_shut ho hr hfound) hstep
  have hother : ∀ k, k ≠ h.index →
      reports k (s.queue ++ events.map (h.index, ·)) = reports k s.queue := by
    intro k hk
    rw [reports_append, reports_other (Ne.symm hk), List.append_nil]
  exact
    { hf with
      hosts := by
        intro k other hk
        have hk : (s.setHost h').host? k = some other := hk
        rw [host?_setHost, hsame.index] at hk
        split at hk
        · rename_i hkey
          rw [hkey, hfound] at hk
          cases hk
          subst hkey
          refine ⟨queued ++ pieces, left', closing', ?_, ?_, hbound'⟩
          · refine (reports_append _ _ _).trans ?_
            rw [hqueue, reports_own, hnews, hopen, List.append_nil, List.map_append,
              List.append_assoc]
          · rw [hpieces, hleft]
            simp only [List.append_assoc, setHost]
        · rename_i hkey
          obtain ⟨queued, left, closing, hqueue, hrest⟩ := hf.hosts k other hk
          exact ⟨queued, left, closing, (hother k hkey).trans hqueue, hrest⟩
      ended := by
        intro k hk
        have hkey : k ≠ h.index := fun he => (ho.resident hfound).2 (he ▸ hk)
        exact ⟨(hf.ended k hk).1, (hother k hkey).trans (hf.ended k hk).2⟩
      unborn := by
        intro k hk
        have hk : s.next ≤ k := hk
        have hkey : k ≠ h.index := by
          have := (ho.resident hfound).1
          omega
        exact ⟨(hf.unborn k hk).1, (hother k hkey).trans (hf.unborn k hk).2⟩ }

/-- A request for input that is handled or thrown away leaves everything as it is. -/
theorem OutputInv.unasked (hf : s.OutputInv c console base) {index : Nat}
    {rest : List (Nat × StageEvent)} (hqueue : s.queue = (index, .wantsInput) :: rest)
    (hstages : t.stages = s.stages) (hfiles : t.files = s.files) (hcalls : t.calls = s.calls)
    (htyped : t.typed = s.typed) (hnext : t.next = s.next) (hfinished : t.finished = s.finished)
    (hrest : t.queue = rest)
    (hhost : ∀ k, t.host? k = s.host? k) (htold : ∀ k, outputOf k t.journal = outputOf k s.journal)
    (hgiven : ∀ k, given k t.journal = given k s.journal) (hprints : t.prints = s.prints) :
    t.OutputInv c console base := by
  have hreports : ∀ k, reports k t.queue = reports k s.queue := by
    intro k
    rw [hrest, hqueue, reports_cons_wantsInput]
  have hcome : ∀ k, t.toCome c k = s.toCome c k := by
    intro k
    rw [toCome, toCome, hgiven]
  constructor
  · exact hstages.trans hf.staged
  · exact hfiles.trans hf.files
  · rw [hcalls, hnext]
    exact hf.calls
  · exact htyped.trans hf.untyped
  · rw [hgiven]
    exact hf.first
  · intro k h hk
    rw [hhost] at hk
    unfold FollowsOutputs
    rw [hreports, htold, hcome]
    exact hf.hosts k h hk
  · intro k hk
    rw [hfinished] at hk
    rw [htold, hreports]
    exact hf.ended k hk
  · intro k hk
    rw [hnext] at hk
    rw [htold, hreports]
    exact hf.unborn k hk
  · rw [hprints, htold]
    exact hf.prints

/-- An event in front of the queue that is no request is of a stage under way. -/
theorem OutputInv.front_resident (hf : s.OutputInv c console base) (ho : s.OrderInv) {index : Nat}
    {e : StageEvent} {rest : List (Nat × StageEvent)} (hqueue : s.queue = (index, e) :: rest)
    (he : e ≠ .wantsInput) : ∃ h, s.host? index = some h := by
  have hreports := reports_cons_self index he rest
  rw [← hqueue] at hreports
  rw [← Option.isSome_iff_exists, host?_isSome]
  have hborn : index < s.next := by
    rcases Nat.lt_or_ge index s.next with hlt | hge
    · exact hlt
    · rw [(hf.unborn index hge).2] at hreports
      cases hreports
  refine (ho.placed index hborn).mpr fun hover => ?_
  rw [(hf.ended index hover).2] at hreports
  cases hreports

/-- **A piece that is handled is the next of its stage.** -/
theorem OutputInv.outputOf_eq (hf : s.OutputInv c console base) (ho : s.OrderInv) {index : Nat}
    {data : Bytes} {rest : List (Nat × StageEvent)} (hqueue : s.queue = (index, .data data) :: rest)
    (hfound : s.host? index = some h) :
    ({ s.handle index (.data data) rest with
      prints := if index + 1 = s.stages.length then s.prints ++ console.shown data else s.prints } :
      Pipeline P F).OutputInv c console base := by
  obtain ⟨hborn, hopen⟩ := ho.resident hfound
  have hother : ∀ k, k ≠ index → reports k rest = reports k s.queue :=
    fun _ => reports_rest hqueue
  have htold : ∀ k, k ≠ index →
      Journal.outputOf k
        (.handled index (.data data) :: s.journal) = Journal.outputOf k s.journal := by
    intro k hk
    rw [outputOf_cons_data, if_neg (Ne.symm hk)]
  have hself : Journal.outputOf index (.handled index (.data data) :: s.journal) =
      Journal.outputOf index s.journal ++ [data] := by
    rw [outputOf_cons_data, if_pos rfl]
  refine { hf with hosts := ?_, ended := ?_, unborn := ?_, prints := ?_ }
  · intro k other hk
    have hk : s.host? k = some other := hk
    by_cases hkey : k = index
    · subst hkey
      cases hk.symm.trans hfound
      obtain ⟨queued, left, closing, hreports, hpieces, hbound⟩ := hf.hosts _ _ hfound
      have hdata : StageEvent.data data ≠ .wantsInput := nofun
      rw [hqueue, reports_cons_self k hdata] at hreports
      cases queued with
      | nil =>
        -- the host has reported its end and nothing else
        cases hbound with
        | working _ _ _ => cases hreports
        | ended _ => cases hreports
      | cons piece queued =>
        simp only [List.map_cons, List.cons_append, List.cons.injEq, StageEvent.data.injEq]
          at hreports
        obtain ⟨rfl, hreports⟩ := hreports
        refine ⟨queued, left, closing, hreports, ?_, hbound⟩
        rw [hpieces]
        refine Eq.trans ?_ (congrArg (fun told => told ++ queued ++ left) hself).symm
        simp
    · obtain ⟨queued, left, closing, hreports, hpieces, hbound⟩ := hf.hosts k other hk
      refine ⟨queued, left, closing, (hother k hkey).trans hreports, ?_, hbound⟩
      rw [hpieces]
      exact congrArg (fun told => told ++ queued ++ left) (htold k hkey).symm
  · intro k hk
    have hkey : k ≠ index := fun he => hopen (he ▸ hk)
    exact ⟨(htold k hkey).trans (hf.ended k hk).1, (hother k hkey).trans (hf.ended k hk).2⟩
  · intro k hk
    have hk : s.next ≤ k := hk
    have hkey : k ≠ index := by omega
    exact ⟨(htold k hkey).trans (hf.unborn k hk).1, (hother k hkey).trans (hf.unborn k hk).2⟩
  · rw [hf.staged]
    have hprints := hf.prints
    have hle := ho.next_le
    rw [hf.staged] at hle
    split
    · rename_i hlast
      obtain rfl : index = stages.length - 1 := by omega
      refine Eq.trans ?_ (congrArg (fun told => base ++ List.flatMap console.shown told) hself).symm
      rw [hprints]
      simp
    · rename_i hinner
      refine hprints.trans ?_
      exact congrArg (fun told => base ++ List.flatMap console.shown told) (htold _ (by omega)).symm

/-- What is written on is the next of the input of the reader. -/
theorem OutputInv.written (hf : s.OutputInv c console base) {k : Nat} {reader reader' : Host P}
    {data : Bytes} (hk : k ≠ 0) (hfound : s.host? k = some reader) (hindex : reader'.index = k)
    (hphase : reader'.phase = reader.phase) (hunread : reader'.unread = reader.unread ++ data)
    (hfits : given k s.journal ++ data <+: c.input k) :
    ({ s.setHost reader' with journal := .written k data :: s.journal } : Pipeline P F).OutputInv
      c console base := by
  have hgiven : ∀ i, given i (.written k data :: s.journal) =
      if k = i then given i s.journal ++ data else given i s.journal :=
    fun i => given_cons_written i k data s.journal
  refine { hf with first := ?_, hosts := ?_ }
  · exact (hgiven 0).trans ((if_neg hk).trans hf.first)
  · intro i other hi
    have hi : (s.setHost reader').host? i = some other := hi
    rw [host?_setHost, hindex] at hi
    split at hi
    · rename_i hkey
      rw [hkey, hfound] at hi
      cases hi
      subst hkey
      obtain ⟨queued, left, closing, hreports, hpieces, hbound⟩ := hf.hosts _ _ hfound
      refine ⟨queued, left, closing, hreports, hpieces, hbound.congr hphase ?_⟩
      obtain ⟨rest, hrest⟩ := hfits
      have hafter : ({ s.setHost reader' with journal := .written i data :: s.journal } :
          Pipeline P F).toCome c i = rest := by
        refine (congrArg (fun g : Bytes => (c.input i).drop g.length)
          ((hgiven i).trans (if_pos rfl))).trans ?_
        rw [← hrest, List.drop_left]
      have hbefore : s.toCome c i = data ++ rest := by
        rw [toCome, ← hrest, List.append_assoc, List.drop_left]
      rw [hafter, hbefore, hunread, List.append_assoc]
    · rename_i hkey
      obtain ⟨queued, left, closing, hreports, hpieces, hbound⟩ := hf.hosts i other hi
      refine ⟨queued, left, closing, hreports, hpieces, hbound.congr rfl ?_⟩
      refine congrArg (other.unread ++ ·) ?_
      exact congrArg (fun g : Bytes => (c.input i).drop g.length)
        ((hgiven i).trans (if_neg (Ne.symm hkey)))

/-- Output that the next stage takes goes on to be its input. -/
theorem OutputInv.fed (hf : s.OutputInv c console base) (ho : s.OrderInv) (hr : s.RelayInv)
    {index : Nat} {reader reader' : Host P} {data : Bytes} {rest : List (Nat × StageEvent)}
    (hqueue : s.queue = (index, .data data) :: rest) (hfound : s.host? index = some h)
    (hinner : index + 1 ≠ s.stages.length) (hopen : index + 1 ∉ s.finished)
    (hreader : s.reader? (index + 1) = some reader)
    (hwrite : reader.writeInput data = .ok reader') :
    ({ (s.handle index (.data data) rest).setHost reader' with
      journal := .written (index + 1) data :: .handled index (.data data) :: s.journal } :
      Pipeline P F).OutputInv c console base := by
  have htold := hf.outputOf_eq ho hqueue hfound
  rw [if_neg hinner] at htold
  have hfound' := (reader?_eq_some.mp hreader).1
  obtain ⟨-, hsound, hshut⟩ := hr.reader_open ho hfound hfound'
  obtain ⟨fed, hfed, hsame, -, -, hunread, hphase⟩ := Host.writeInput_spec hsound hshut data
  cases hfed.symm.trans hwrite
  refine htold.written (Nat.succ_ne_zero index) hfound'
    (hsame.index.trans (host?_index hfound')) hphase hunread ?_
  -- all that was sent so far and the new piece are the first of the reader's input
  have hinitial : Journal.outputOf index
    (.handled index (.data data) :: s.journal) <+: c.pieces index :=
    (htold.hosts index h hfound).initial
  rw [outputOf_cons_data, if_pos rfl] at hinitial
  have hflat := flatten_initial hinitial
  rw [List.flatten_append, List.flatten_singleton] at hflat
  rw [← hr.given_eq_outputOf ho (ho.resident hfound').1 hopen] at hflat
  exact hflat

/-- Closing an input takes nothing away from what is held. -/
theorem OutputInv.closed (hf : s.OutputInv c console base) (hr : s.RelayInv) {i : Nat}
    (hfound : s.host? i = some h) : (s.setHost h.closeInput).OutputInv c console base := by
  obtain ⟨hsame, -, -, hunread, hphase⟩ := Host.closeInput_spec (hr.hosts _ _ hfound).sound
  refine hf.of_hosts rfl rfl rfl rfl rfl rfl rfl rfl rfl ?_
  intro k other hk
  rw [host?_setHost, hsame.index, host?_index hfound] at hk
  split at hk
  · rename_i hkey
    rw [hkey, hfound] at hk
    cases hk
    obtain ⟨queued, left, closing, hreports, hpieces, hbound⟩ := hf.hosts _ _ hfound
    subst hkey
    exact ⟨queued, left, closing, hreports, hpieces,
      hbound.congr hphase (congrArg (· ++ _) hunread)⟩
  · exact hf.hosts k other hk

/-- A stage ends when all its pieces were handled, and it reports no changed files. -/
theorem OutputInv.ending (hf : s.OutputInv c console base) {index : Nat} {changed : Option Snapshot}
    {rest : List (Nat × StageEvent)} (hqueue : s.queue = (index, .ended changed) :: rest)
    (hfound : s.host? index = some h) :
    changed = none ∧ Journal.outputOf index s.journal = c.pieces index ∧
    reports index rest = [] := by
  obtain ⟨queued, left, closing, hreports, hpieces, hbound⟩ := hf.hosts _ _ hfound
  have hended : StageEvent.ended changed ≠ .wantsInput := nofun
  rw [hqueue, reports_cons_self index hended] at hreports
  cases queued with
  | cons piece queued => cases hreports
  | nil =>
    cases hbound with
    | working _ _ _ => cases hreports
    | ended _ =>
      simp only [List.map_nil, List.nil_append, List.cons.injEq, StageEvent.ended.injEq] at hreports
      exact ⟨hreports.1, by simpa using hpieces.symm, hreports.2⟩

theorem OutputInv.retire (hf : s.OutputInv c console base) (ho : s.OrderInv) (hr : s.RelayInv)
    {index : Nat} {changed : Option Snapshot} {rest : List (Nat × StageEvent)}
    (hqueue : s.queue = (index, .ended changed) :: rest) (hfound : s.host? index = some h) :
    ((s.handle index (.ended changed) rest).retire index changed).OutputInv c console base := by
  obtain ⟨rfl, htold, hrest⟩ := hf.ending hqueue hfound
  obtain ⟨hborn, hopen⟩ := ho.resident hfound
  have hother : ∀ k, k ≠ index → reports k rest = reports k s.queue :=
    fun _ => reports_rest hqueue
  refine { hf with hosts := ?_, ended := ?_, unborn := ?_ }
  · intro k other hk
    rw [host?_retire] at hk
    split at hk
    · cases hk
    · rename_i hkey
      rw [host?_closeReader] at hk
      have hkept : ∃ before, s.host? k = some before ∧ other.phase = before.phase ∧
          other.unread = before.unread := by
        split at hk
        · obtain ⟨reader, hreader, hclosed⟩ := Option.map_eq_some_iff.mp hk
          have hreader : s.host? k = some reader := hreader
          refine ⟨reader, hreader, ?_⟩
          split at hclosed
          · obtain ⟨-, -, -, hunread, hphase⟩ :=
              Host.closeInput_spec (hr.hosts _ _ hreader).sound
            subst hclosed
            exact ⟨hphase, hunread⟩
          · subst hclosed
            exact ⟨rfl, rfl⟩
        · exact ⟨other, hk, rfl, rfl⟩
      obtain ⟨before, hbefore, hphase, hunread⟩ := hkept
      obtain ⟨queued, left, closing, hreports, hpieces, hbound⟩ := hf.hosts k before hbefore
      exact ⟨queued, left, closing, (hother k hkey).trans hreports, hpieces,
        hbound.congr hphase (congrArg (· ++ s.toCome c k) hunread)⟩
  · intro k hk
    rcases List.mem_cons.mp hk with rfl | hk
    · exact ⟨htold, hrest⟩
    · have hkey : k ≠ index := fun he => hopen (he ▸ hk)
      exact ⟨(hf.ended k hk).1, (hother k hkey).trans (hf.ended k hk).2⟩
  · intro k hk
    have hk : s.next ≤ k := hk
    have hkey : k ≠ index := by omega
    exact ⟨(hf.unborn k hk).1, (hother k hkey).trans (hf.unborn k hk).2⟩

/-- What waits for the next stage is the first part of its input, and all of it where that stage
cannot work ahead. -/
theorem OutputInv.backlog_initial (hf : s.OutputInv c console base) (ho : s.OrderInv)
    (hr : s.RelayInv) (hlt : s.next < s.stages.length) :
    s.backlog <+: c.input s.next ∧
      ((∀ k, s.next = k + 1 → k ∈ s.finished) → s.backlog = c.input s.next) := by
  cases hnext : s.next with
  | zero =>
    rw [hr.clear (Or.inl hnext)]
    exact ⟨⟨_, rfl⟩, fun _ => rfl⟩
  | succ k =>
    have hopen : k + 1 ∉ s.finished := by
      intro hmem
      have := ho.over_lt _ hmem
      omega
    rw [hr.waiting k hnext.symm hlt, sent_eq_outputOf (ho.unended hopen)]
    refine ⟨flatten_initial (hf.outputOf_initial ho (by omega)), fun hover => ?_⟩
    rw [(hf.ended k (hover k rfl)).1]
    rfl

/-- A callback is not set going before its input is whole. -/
theorem OutputInv.backlog_of_callback (hf : s.OutputInv c console base) (ho : s.OrderInv)
    (hr : s.RelayInv) {stage : Stage P} (hstage : s.stages[s.next]? = some stage)
    (hready : ∀ k, s.next = k + 1 → s.ahead s.next = false → k ∈ s.finished)
    (hcallback : stage.isCallback = true) : s.backlog = c.input s.next := by
  have hlt : s.next < s.stages.length := (List.getElem?_eq_some_iff.mp hstage).1
  have hbehind : s.ahead s.next = false := by simp [ahead, hstage, hcallback]
  exact (hf.backlog_initial ho hr hlt).2 fun k hk => hready k hk hbehind

/-- The host of a stage that was set going puts out what the outputs have for that stage. -/
theorem OutputInv.spawned (hf : s.OutputInv c console base) (ho : s.OrderInv) (hr : s.RelayInv)
    {stage : Stage P} {fresh : Host P} {events : List StageEvent}
    (hstage : s.stages[s.next]? = some stage)
    (hready : ∀ k, s.next = k + 1 → s.ahead s.next = false → k ∈ s.finished)
    (hfresh : Host.Fresh s.next stage (Filesystem.snapshot s.files)
      (if s.ahead s.next then .concurrent else .inline) fresh)
    (hstart : fresh.start s.calls s.gathered = (h, events, none)) :
    Host.PredictedStep (Filesystem.snapshot files) ((s.spawn h events).toCome c s.next)
      (c.pieces s.next) h events := by
  have hself := hr.given_spawned (spawned_spec hstage hfresh hstart).1 events
  have hlt : s.next < s.stages.length := (List.getElem?_eq_some_iff.mp hstage).1
  have hcome : s.backlog ++ (s.spawn h events).toCome c s.next = c.input s.next := by
    obtain ⟨rest, hrest⟩ := (hf.backlog_initial ho hr hlt).1
    rw [toCome, hself, ← hrest, List.drop_left]
  have hplace : stages[s.next]? = some stage := hf.staged ▸ hstage
  obtain ⟨acts, hyield⟩ := c.yields s.next stage hplace
  rw [hf.files] at hfresh
  rw [hf.calls] at hstart
  refine Host.start_predicted acts hfresh (fun hkind => ?_) hstart (c.plain _ _ hplace) ?_
    fun hcallback => ?_
  · exact program_of_ahead hstage (ahead_of_kind hkind)
  · rw [gathered_getD, hcome]
    exact hyield
  · rw [toCome, hself, hf.backlog_of_callback ho hr hstage hready hcallback]
    exact List.drop_length

/-- What was reported of it at once, and what is still to come, is its output. -/
theorem OutputInv.spawned_follows (hf : s.OutputInv c console base) {events : List StageEvent}
    (hindex : h.index = s.next) (hsound : h.ChannelSound)
    (hpredicted : Host.PredictedStep (Filesystem.snapshot files)
      ((s.spawn h events).toCome c s.next) (c.pieces s.next) h events) :
    (s.spawn h events).FollowsOutputs c s.next
      (if s.inputOver s.next then h.closeInput else h) := by
  obtain ⟨htold, hnone⟩ := hf.unborn s.next (Nat.le_refl _)
  obtain ⟨pieces, left, closing, hnews, hleft, hbound⟩ := hpredicted
  refine ⟨pieces, left, closing, ?_, ?_, ?_⟩
  · refine (reports_append _ _ _).trans ?_
    rw [hnone, hindex, reports_own, hnews, List.nil_append]
  · refine Eq.trans ?_ (congrArg (fun told => told ++ pieces ++ left) htold).symm
    rw [hleft, List.nil_append]
  · obtain ⟨-, -, -, hunread, hphase⟩ := Host.closeInput_spec hsound
    split
    · exact hbound.congr hphase (congrArg (· ++ _) hunread)
    · exact hbound

theorem OutputInv.spawn (hf : s.OutputInv c console base) (ho : s.OrderInv) (hr : s.RelayInv)
    {stage : Stage P} {fresh : Host P} {events : List StageEvent}
    (hstage : s.stages[s.next]? = some stage)
    (hready : ∀ k, s.next = k + 1 → s.ahead s.next = false → k ∈ s.finished)
    (hfresh : Host.Fresh s.next stage (Filesystem.snapshot s.files)
      (if s.ahead s.next then .concurrent else .inline) fresh)
    (hstart : fresh.start s.calls s.gathered = (h, events, none)) :
    (s.spawn h events).OutputInv c console base := by
  obtain ⟨hindex, hplace, -, -, hsound, -⟩ := spawned_spec hstage hfresh hstart
  have hreports : ∀ k, k ≠ s.next → reports k (s.spawn h events).queue = reports k s.queue := by
    intro k hk
    refine (reports_append _ _ _).trans ?_
    rw [hindex, reports_other (Ne.symm hk), List.append_nil]
  have hcall : stage.call? (Filesystem.snapshot s.files) s.backlog =
      stage.call? (Filesystem.snapshot files) (c.input s.next) := by
    rw [hf.files]
    cases hexec : stage.executable with
    | callback f =>
      rw [hf.backlog_of_callback ho hr hstage hready (Stage.isCallback_of_callback hexec)]
    | program p size => simp only [Stage.call?, hexec]
  refine { hf with calls := ?_, first := ?_, hosts := ?_, ended := ?_, unborn := ?_ }
  · show (h.stage.call? (Filesystem.snapshot s.files) s.backlog).toList ++ s.calls =
      c.calls (s.next + 1)
    have hnext : stages[s.next]? = some stage := hf.staged ▸ hstage
    rw [hplace, hcall, hf.calls, StageOutputs.calls, callsBefore, hnext]
    rfl
  · rw [given_spawn hindex]
    split
    · rename_i hzero
      rw [hf.first, hr.clear (Or.inl hzero)]
      rfl
    · exact hf.first
  · intro k other hk
    rw [host?_spawn, hindex] at hk
    rcases Option.or_eq_some_iff.mp hk with hold | ⟨-, hnew⟩
    · have hkey : k ≠ s.next := Nat.ne_of_lt (ho.resident hold).1
      obtain ⟨queued, left, closing, hqueue, hpieces, hbound⟩ := hf.hosts k other hold
      refine ⟨queued, left, closing, (hreports k hkey).trans hqueue, hpieces, hbound.congr rfl ?_⟩
      rw [toCome, toCome, given_spawn hindex, if_neg (Ne.symm hkey)]
    · split at hnew
      · rename_i hkey
        subst hkey
        cases hnew
        exact hf.spawned_follows hindex hsound (hf.spawned ho hr hstage hready hfresh hstart)
      · cases hnew
  · intro k hk
    have hkey : k ≠ s.next := Nat.ne_of_lt (ho.over_lt k hk)
    exact ⟨(hf.ended k hk).1, (hreports k hkey).trans (hf.ended k hk).2⟩
  · intro k hk
    have hk : s.next + 1 ≤ k := hk
    obtain ⟨htold', hnone'⟩ := hf.unborn k (by omega)
    exact ⟨htold', (hreports k (by omega)).trans hnone'⟩

end Pipeline

variable {c : StageOutputs stages (Filesystem.snapshot files)} {console : Console}
    {base : List String}
  {s t : Pipeline P F}

/-- **Every move follows the outputs.** -/
theorem Pipeline.OutputInv.move (hmove : Move console s t) (ho : s.OrderInv) (hr : s.RelayInv)
    (hf : s.OutputInv c console base) : t.OutputInv c console base := by
  cases hmove with
  | worked hfound hstep => exact hf.worked ho hr hfound hstep
  | @dropped index e rest hqueue hgone =>
    by_cases he : e = .wantsInput
    · subst he
      exact hf.unasked hqueue rfl rfl rfl rfl rfl rfl rfl (fun _ => rfl) (fun _ => rfl)
        (fun _ => rfl) rfl
    · obtain ⟨h, hfound⟩ := hf.front_resident ho hqueue he
      rw [hgone] at hfound
      cases hfound
  | asked hqueue hfound =>
    exact hf.unasked hqueue rfl rfl rfl rfl rfl rfl rfl (fun _ => rfl) (fun _ => rfl)
        (fun _ => rfl) rfl
  | shown hqueue hfound hlast =>
    have htold := hf.outputOf_eq ho hqueue hfound
    rwa [if_pos hlast] at htold
  | discarded hqueue hfound hinner hover =>
    have htold := hf.outputOf_eq ho hqueue hfound
    rwa [if_neg hinner] at htold
  | fed hqueue hfound hinner hopen hreader hwrite =>
    exact hf.fed ho hr hqueue hfound hinner hopen hreader hwrite
  | refused hqueue hfound hinner hopen hreader hwrite =>
    exfalso
    obtain ⟨-, hsound, hshut⟩ := hr.reader_open ho hfound (Pipeline.reader?_eq_some.mp hreader).1
    obtain ⟨_, hfed, -⟩ := Host.writeInput_spec hsound hshut _
    cases hfed.symm.trans hwrite
  | stored hqueue hfound hinner hopen hreader =>
    have htold := hf.outputOf_eq ho hqueue hfound
    rw [if_neg hinner] at htold
    exact { htold with hosts := htold.hosts }
  | retired hqueue hfound hinner => exact hf.retire ho hr hqueue hfound
  | spawned hstage hroom hready hfresh hstart => exact hf.spawn ho hr hstage hready hfresh hstart
  | closed hreader => exact hf.closed hr (Pipeline.reader?_eq_some.mp hreader).1
  | typed htyped hreader hwrite => exact absurd (hf.untyped.symm.trans htyped) (by decide)
  | rejected htyped hreader hwrite => exact absurd (hf.untyped.symm.trans htyped) (by decide)

theorem Pipeline.OutputInv.opening {s : Session F} (c : StageOutputs stages s.snapshot)
    (console : Console) (hpast : c.past = s.calls) (huntyped : s.input = none) :
    (Pipeline.opening stages s).OutputInv c console s.prints where
  staged := rfl
  files := rfl
  calls := hpast.symm
  untyped := by simp [Pipeline.opening, huntyped]
  first := rfl
  hosts := nofun
  ended := nofun
  unborn := fun _ _ => ⟨rfl, rfl⟩
  prints := (List.append_nil _).symm

end Run

end Pipework
