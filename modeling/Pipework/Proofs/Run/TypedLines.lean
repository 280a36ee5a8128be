import Mathlib.Data.List.Count
import Pipework.Proofs.Run.EndOfInput
import Pipework.Proofs.Waiting

/-!
# Typed lines

The first stage of a run asks for a line whenever it has to wait for input, the run asks the source
once for each request, and a line that comes is written to the channel the stage waits at. One
invariant carries this (`Pipeline.RequestInv`): while the first stage waits there is exactly one
token for it, its request in the queue, the request taken up, or the line that is on its way; while
it does not wait there is none. So a line always finds the stage waiting, and a request never finds
a line on its way. `SourceSpec` counts what was asked for, handed out and written; `typed_exact` is
both together for every run that can be reached.
-/

namespace Pipework

/-- The next line is taken off a source; at the end of a closed one nothing is. -/
theorem LineSource.take?_spec {s after : LineSource} {line : Option String}
    (h : s.take? = some (line, after)) : after.calls = s.calls ∧ after.isOpen = s.isOpen ∧
      (s.lines = line :: after.lines ∨ s.lines = [] ∧ line = none ∧ after.lines = []) := by
  unfold take? at h
  split at h
  · rename_i hlines
    cases h
    exact ⟨rfl, rfl, Or.inl hlines⟩
  · rename_i hlines
    split at h
    · cases h
    · cases h
      exact ⟨rfl, rfl, Or.inr ⟨hlines, rfl, hlines⟩⟩

namespace Run

variable {P F : Type} [Program P] [Filesystem F] {ctx : Setting P} {r r' : Run P F}

namespace Pipeline

variable {s t : Pipeline P F} {h h' : Host P} {a : RequestState}

/-- The first stage is there and waits. -/
def waiting (s : Pipeline P F) : Bool := (s.host? 0).any Host.waits

/-- Requests of the first stage that were not handled yet. -/
def queued (s : Pipeline P F) : Nat := s.queue.count (0, .wantsInput)

/-- While the first stage waits one request of it is under way, and otherwise none is. -/
structure RequestInv (s : Pipeline P F) (a : RequestState) : Prop where
  tokens : s.queued + (if a.wanted then 1 else 0) + (if a.reading = .idle then 0 else 1) =
    if s.waiting then 1 else 0
  atRead : ∀ h, s.host? 0 = some h → h.ReadWaitInv
  closing : ∀ e, (0, e) ∈ s.queue → e.isClosing = true →
    0 < s.next ∧ ∀ h, s.host? 0 = some h → h.phase = .over

theorem waiting_eq (hfound : s.host? 0 = some h) : s.waiting = h.waits := by
  simp [waiting, hfound]

theorem reader_of_waiting (hw : s.waiting = true) : ∃ h, s.reader? 0 = some h ∧ h.waits = true := by
  obtain ⟨h, hfound, hwaits⟩ := (Option.any_eq_true _ _).mp hw
  exact ⟨h, reader?_eq_some.mpr ⟨hfound, (Host.waits_spec hwaits).2.2.1⟩, hwaits⟩

theorem RequestInv.congr (ha : s.RequestInv a) (hhost : t.host? 0 = s.host? 0)
    (hnext : s.next ≤ t.next) (hqueued : t.queued = s.queued)
    (hqueue : ∀ e, (0, e) ∈ t.queue → e.isClosing = true → (0, e) ∈ s.queue) : t.RequestInv a where
  tokens := by
    rw [hqueued, waiting, hhost]
    exact ha.tokens
  atRead := by
    rw [hhost]
    exact ha.atRead
  closing := by
    intro e he hclosing
    rw [hhost]
    obtain ⟨hborn, hover⟩ := ha.closing e (hqueue e he hclosing) hclosing
    exact ⟨by omega, hover⟩

/-- An event that is no request of the first stage leaves the queue. -/
theorem RequestInv.popped {index : Nat} {e : StageEvent} (ha : s.RequestInv a)
    (hqueue : s.queue = (index, e) :: t.queue) (hother : (index, e) ≠ (0, .wantsInput))
    (hhost : t.host? 0 = s.host? 0) (hnext : s.next ≤ t.next) : t.RequestInv a := by
  refine ha.congr hhost hnext ?_ fun e he _ => ?_
  · rw [queued, queued, hqueue, List.count_cons_of_ne hother]
  · rw [hqueue]
    exact List.mem_cons_of_mem _ he

/-- Reports of another stage have nothing to do with the first one. -/
theorem RequestInv.reported {k : Nat} {events : List StageEvent} (ha : s.RequestInv a) (hk : k ≠ 0)
    (hqueue : t.queue = s.queue ++ events.map (k, ·)) (hhost : t.host? 0 = s.host? 0)
    (hnext : s.next ≤ t.next) : t.RequestInv a := by
  have hnone : ∀ e, (0, e) ∉ events.map (k, ·) := by
    intro e he
    obtain ⟨e', -, heq⟩ := List.mem_map.mp he
    exact hk (congrArg Prod.fst heq)
  refine ha.congr hhost hnext ?_ fun e he _ => ?_
  · rw [queued, queued, hqueue, List.count_append, List.count_eq_zero.mpr (hnone _), Nat.add_zero]
  · rw [hqueue] at he
    exact (List.mem_append.mp he).resolve_right (hnone e)

/-- A first stage that did not wait reports that it waits now, or does not wait now. -/
theorem RequestInv.reportedFirst {events : List StageEvent} (ha : s.RequestInv a)
    (hfree : s.waiting = false) (huntold : ∀ e, (0, e) ∈ s.queue → e.isClosing = false)
    (hqueue : t.queue = s.queue ++ events.map (0, ·)) (hhost : t.host? 0 = some h)
    (hborn : 0 < t.next) (hread : h.ReadWaitInv)
    (hasked : events.count .wantsInput = if h.waits then 1 else 0)
    (htold : ∀ e ∈ events, e.isClosing = true → h.phase = .over) : t.RequestInv a := by
  have hcount : (events.map ((0 : Nat), ·)).count (0, .wantsInput) = events.count .wantsInput := by
    have hinj : Function.Injective fun e : StageEvent => ((0 : Nat), e) :=
      fun _ _ heq => congrArg Prod.snd heq
    exact List.count_map_of_injective events _ hinj _
  refine ⟨?_, ?_, fun e he hclosing => ⟨hborn, fun host hfound => ?_⟩⟩
  · have hbefore := ha.tokens
    rw [hfree] at hbefore
    rw [waiting_eq hhost, ← hasked, queued, hqueue, List.count_append, hcount]
    simp only [queued, Bool.false_eq_true, if_false] at hbefore
    omega
  · intro host hfound
    rw [hhost] at hfound
    cases hfound
    exact hread
  · rw [hhost] at hfound
    cases hfound
    rw [hqueue] at he
    rcases List.mem_append.mp he with he | he
    · exact absurd (hclosing.symm.trans (huntold e he)) (by decide)
    · obtain ⟨e', he', heq⟩ := List.mem_map.mp he
      cases heq
      exact htold e he' hclosing

/-- **One act of a host keeps the tokens**: the one that makes the first stage wait puts its request
into the queue. -/
theorem RequestInv.worked {events : List StageEvent} (ha : s.RequestInv a) (ho : s.OrderInv)
    (hsound : h.ChannelSound) (hlive : h.cancelled = false) (hfound : s.host? h.index = some h)
    (hstep : h.step = some (h', events)) :
    RequestInv { s.setHost h' with queue := s.queue ++ events.map (h.index, ·) } a := by
  have hindex : h'.index = h.index := (Host.step_spec hsound hstep).1.index
  have hhost := host?_setHost s h' 0
  rw [hindex] at hhost
  by_cases hzero : h.index = 0
  · have hborn := (ho.resident hfound).1
    rw [hzero] at hfound hborn ⊢
    rw [hzero, if_pos rfl, hfound, Option.map_some] at hhost
    have hasks := Host.step_askCases hsound hlive (ha.atRead h hfound) hstep
    refine ha.reportedFirst ((waiting_eq hfound).trans hasks.free) ?_ rfl hhost hborn hasks.atRead
      hasks.asked hasks.closing
    intro e he
    refine Bool.eq_false_iff.mpr fun hclosing => ?_
    rw [Host.step_of_over ((ha.closing e he hclosing).2 h hfound)] at hstep
    cases hstep
  · rw [if_neg (Ne.symm hzero)] at hhost
    exact ha.reported hzero rfl hhost (Nat.le_refl _)

/-- The next stage is set going; it has not asked for anything. -/
theorem RequestInv.spawn {events : List StageEvent} (ha : s.RequestInv a) (ho : s.OrderInv)
    (hindex : h.index = s.next) (hsound : h.ChannelSound) (hu : h.StartWaitInv events) :
    (s.spawn h events).RequestInv a := by
  have hhost := host?_spawn s h events 0
  by_cases hzero : h.index = 0
  · have hvacant : s.host? 0 = none := by
      cases hfound : s.host? 0 with
      | none => rfl
      | some other =>
        have hlt := (ho.resident hfound).1
        omega
    rw [hvacant, Option.none_or, if_pos hzero] at hhost
    have hu' : (if s.inputOver h.index then h.closeInput else h).StartWaitInv events := by
      split
      · exact hu.closeInput hsound
      · exact hu
    have hqueue : (s.spawn h events).queue = s.queue ++ events.map (0, ·) := by
      rw [← hzero]
      rfl
    refine ha.reportedFirst ?_ ?_ hqueue hhost (Nat.succ_pos _) hu'.atRead ?_ hu'.closing
    · rw [waiting, hvacant]
      rfl
    · intro e he
      refine Bool.eq_false_iff.mpr fun hclosing => ?_
      have hborn := (ha.closing e he hclosing).1
      omega
    · rw [hu'.free, List.count_eq_zero.mpr hu'.noRequest]
      rfl
  · rw [if_neg hzero, Option.or_none] at hhost
    exact ha.reported hzero rfl hhost (Nat.le_succ _)

/-- A first stage that has ended does not wait, so nothing is lost with it. -/
theorem RequestInv.retired {index : Nat} {changed : Option Snapshot}
    {rest : List (Nat × StageEvent)}
    (ha : s.RequestInv a) (hqueue : s.queue = (index, .ended changed) :: rest)
    (hfound : s.host? index = some h) :
    ((s.handle index (.ended changed) rest).retire index changed).RequestInv a := by
  have hhost := host?_retire (s.handle index (.ended changed) rest) index 0 changed
  rw [host?_closeReader, if_neg (Nat.succ_ne_zero index).symm] at hhost
  by_cases hzero : 0 = index
  · subst hzero
    rw [if_pos rfl] at hhost
    have hmem : (0, StageEvent.ended changed) ∈ s.queue := by
      rw [hqueue]
      exact List.mem_cons_self
    have hover := (ha.closing _ hmem rfl).2 h hfound
    have hbefore := ha.tokens
    rw [waiting_eq hfound, Host.waits_of_over hover, queued, hqueue,
      List.count_cons_of_ne (by simp)] at hbefore
    refine ⟨?_, fun host hh => ?_, fun e he hclosing => ⟨?_, fun host hh => ?_⟩⟩
    · rw [waiting, hhost]
      exact hbefore
    · rw [hhost] at hh
      cases hh
    · exact (ha.closing e (hqueue ▸ List.mem_cons_of_mem _ he) hclosing).1
    · rw [hhost] at hh
      cases hh
  · rw [if_neg hzero] at hhost
    exact ha.popped hqueue (fun heq => hzero (congrArg Prod.fst heq).symm) hhost (Nat.le_refl _)

/-- Of what can be under way for the first stage there is one at most, and only while it waits. -/
theorem RequestInv.atMostOne (ha : s.RequestInv a) :
    (0 < s.queued → s.waiting = true ∧ s.queued = 1 ∧ a.wanted = false ∧ a.reading = .idle) ∧
      (a.wanted = true → s.waiting = true ∧ s.queued = 0 ∧ a.reading = .idle) ∧
      (a.reading ≠ .idle → s.waiting = true ∧ s.queued = 0 ∧ a.wanted = false) := by
  have htokens := ha.tokens
  generalize s.waiting = waiting, a.wanted = wanted at htokens ⊢
  by_cases hidle : a.reading = .idle <;> cases waiting <;> cases wanted <;>
    simp only [hidle, if_true, if_false, Bool.false_eq_true] at htokens <;> simp [hidle] <;> omega

/-- **A request that is handled is one the first stage waits for**, and no other is under way. -/
theorem RequestInv.requested {rest : List (Nat × StageEvent)} (ha : s.RequestInv a)
    (hqueue : s.queue = (0, .wantsInput) :: rest) :
    s.waiting = true ∧ a.wanted = false ∧ a.reading = .idle ∧
      (s.handle 0 .wantsInput rest).RequestInv
        { a with wanted := true, requests := a.requests + 1 } := by
  have hqueued : s.queued = rest.count (0, .wantsInput) + 1 := by
    rw [queued, hqueue, List.count_cons_self]
  obtain ⟨hw, hone, hwanted, hidle⟩ := ha.atMostOne.1 (by omega)
  have hnone : rest.count (0, .wantsInput) = 0 := by omega
  refine ⟨hw, hwanted, hidle, ?_, ha.atRead, fun e he hclosing => ?_⟩
  · have hwaiting : (s.handle 0 .wantsInput rest).waiting = true := hw
    have hqueued' : (s.handle 0 .wantsInput rest).queued = 0 := hnone
    rw [hwaiting, hqueued', hidle]
    rfl
  · exact ha.closing e (hqueue ▸ List.mem_cons_of_mem _ he) hclosing

/-- **A line that is on its way finds the first stage waiting**, and is the only thing under way. -/
theorem RequestInv.due (ha : s.RequestInv a) (hreading : a.reading ≠ .idle) :
    s.waiting = true ∧ s.queued = 0 ∧ a.wanted = false := ha.atMostOne.2.2 hreading

/-- What was on its way has come, and the first stage does not wait any more. -/
theorem RequestInv.answered {a' : RequestState} (ha : s.RequestInv a) (hreading : a.reading ≠ .idle)
    (hfound : s.host? 0 = some h) (hhost : t.host? 0 = some h') (hfree : h'.waits = false)
    (hphase : h'.phase = h.phase) (hread : h'.ReadWaitInv) (hqueue : t.queue = s.queue)
    (hnext : t.next = s.next) (hidle : a'.reading = .idle) (hwanted : a'.wanted = a.wanted) :
    t.RequestInv a' := by
  obtain ⟨-, hnone, hunwanted⟩ := ha.due hreading
  refine ⟨?_, fun host hh => ?_, fun e he hclosing => ?_⟩
  · rw [queued] at hnone
    rw [waiting_eq hhost, hfree, hidle, hwanted, hunwanted, queued, hqueue, hnone]
    rfl
  · rw [hhost] at hh
    cases hh
    exact hread
  · obtain ⟨hborn, hover⟩ := ha.closing e (hqueue ▸ he) hclosing
    refine ⟨hnext ▸ hborn, fun host hh => ?_⟩
    rw [hhost] at hh
    cases hh
    exact hphase.trans (hover h hfound)

theorem RequestInv.turn {a' : RequestState} (ha : s.RequestInv a) (hinput : a.input.isSome = true)
    (hturn : a.Turn a') : s.RequestInv a' := by
  refine ⟨?_, ha.atRead, ha.closing⟩
  have hbefore := ha.tokens
  cases hturn with
  | unchanged => exact hbefore
  | tookUp =>
    unfold RequestState.takeUp
    split
    · rename_i hwanted
      obtain ⟨-, -, hidle⟩ := ha.atMostOne.2.1 hwanted
      rw [if_pos hwanted] at hbefore
      simp only [hidle, hinput, if_true] at hbefore ⊢
      exact hbefore
    · rename_i hno
      rw [if_neg hno] at hbefore
      exact hbefore
  | waits hdue hsource =>
    rw [hdue] at hbefore
    exact hbefore

end Pipeline

/-! ## What was handed out -/

/-- A line as it is written to the first stage; the end of input is not written. -/
def typedLine : Option String → Option Bytes
  | some line => some (Utf8.encode (line ++ "\n"))
  | none => none

/-- What was asked of a source since the session was `base`, and what came of it. -/
structure SourceSpec (base : Session F) (source left : LineSource)
    (delivered : List (Option String)) (a : RequestState) : Prop where
  input : a.input = some left
  lines : a.lines = base.linesRead ++ delivered
  handed : delivered <+: source.lines ++ [none]
  rest : left.lines = source.lines.drop delivered.length
  isOpen : left.isOpen = source.isOpen
  requested : source.calls + a.requests =
    left.calls + (if a.reading = .due then 1 else 0) + (if a.wanted then 1 else 0)
  outstanding : left.calls = source.calls + delivered.length + if a.reading = .waiting then 1 else 0
  typed : a.typed = delivered.filterMap typedLine
  refused : a.refused = []

variable {s base : Session F} {source left after : LineSource} {delivered : List (Option String)}
  {a a' : RequestState}

omit [Filesystem F] in
theorem SourceSpec.turn (h : SourceSpec base source left delivered a)
    (hfree : a.wanted = true → a.reading = .idle) (hturn : a.Turn a') :
    ∃ left', SourceSpec base source left' delivered a' := by
  cases hturn with
  | unchanged => exact ⟨left, h⟩
  | tookUp =>
    unfold RequestState.takeUp
    split
    · rename_i hwanted
      have hidle := hfree hwanted
      refine ⟨left, h.input, h.lines, h.handed, h.rest, h.isOpen, ?_, ?_, h.typed, h.refused⟩
      · have hrequested := h.requested
        simp only [hwanted, hidle, h.input] at hrequested ⊢
        exact hrequested
      · have houtstanding := h.outstanding
        simp only [hidle, h.input] at houtstanding ⊢
        exact houtstanding
    · exact ⟨left, h⟩
  | waits hdue hsource =>
    cases h.input.symm.trans hsource
    refine ⟨left.ask, rfl, h.lines, h.handed, h.rest, h.isOpen, ?_, ?_, h.typed, h.refused⟩
    · have hrequested := h.requested
      rw [hdue] at hrequested
      exact hrequested
    · have houtstanding := h.outstanding
      rw [hdue] at houtstanding
      exact congrArg (· + 1) houtstanding

omit [Filesystem F] in
/-- **Every request is answered by the next line of the source.** -/
theorem SourceSpec.line {line : Option String} (h : SourceSpec base source left delivered a)
    (hreading : a.reading ≠ .idle) (hopen : none ∉ delivered)
    (htake : (if a.reading = .due then left.ask else left).take? = some (line, after)) :
    SourceSpec base source after (delivered ++ [line])
      { a with
        reading := .idle, input := some after, lines := a.lines ++ [line]
        typed := a.typed ++ (typedLine line).toList } := by
  have hsource : source.lines = delivered ++ left.lines := by
    have hprefix : delivered <+: source.lines := by
      rcases List.prefix_concat_iff.mp h.handed with heq | hprefix
      · exact absurd (heq ▸ List.mem_append_right _ List.mem_cons_self) hopen
      · exact hprefix
    obtain ⟨more, hmore⟩ := hprefix
    rw [h.rest, ← hmore, List.drop_left]
  obtain ⟨hcalls, hopen', htaken⟩ := LineSource.take?_spec htake
  have hasked : (if a.reading = .due then left.ask else left).calls =
        left.calls + (if a.reading = .due then 1 else 0) ∧
      (if a.reading = .due then left.ask else left).isOpen = left.isOpen ∧
      (if a.reading = .due then left.ask else left).lines = left.lines := by
    split <;> exact ⟨rfl, rfl, rfl⟩
  rw [hasked.1] at hcalls
  rw [hasked.2.1] at hopen'
  rw [hasked.2.2] at htaken
  have hrequested := h.requested
  have houtstanding := h.outstanding
  refine ⟨rfl, ?_, ?_, ?_, hopen'.trans h.isOpen, ?_, ?_, ?_, h.refused⟩
  · rw [h.lines, List.append_assoc]
  · rcases htaken with hlines | ⟨hlines, rfl, -⟩
    · rw [hsource, hlines]
      exact ⟨after.lines ++ [none], by simp⟩
    · exact ⟨[], by rw [hsource, hlines, List.append_nil, List.append_nil]⟩
  · rw [List.length_append, List.length_singleton, ← List.drop_drop, ← h.rest]
    rcases htaken with hlines | ⟨hlines, -, hnone⟩
    · rw [hlines]
      rfl
    · rw [hlines, hnone]
      rfl
  · rw [hcalls]
    exact hrequested
  · rw [hcalls, List.length_append, List.length_singleton]
    cases hread : a.reading with
    | idle => exact absurd hread hreading
    | due =>
      rw [hread] at houtstanding
      simp only [reduceCtorEq, if_false, if_true] at houtstanding ⊢
      omega
    | waiting =>
      rw [hread] at houtstanding
      simp only [reduceCtorEq, if_false, if_true] at houtstanding ⊢
      omega
  · rw [h.typed, List.filterMap_append]
    cases line <;> rfl

/-! ## Change by change -/

/-- The tokens of a run are right, and so is its account of the typed lines. -/
structure TypedInv (base : Session F) (source : LineSource) (r : Run P F) : Prop where
  requests : r.pipeline.RequestInv r.requestState
  answered : ∃ left delivered, SourceSpec base source left delivered r.requestState
  alongside : r.requestState.requests ≠ 0 → r.pipeline.ahead 0 = true

theorem Moves.ahead {c : Console} {s t : Pipeline P F} (hmoves : Moves c s t) (k : Nat) :
    t.ahead k = s.ahead k := by
  refine Moves.invariant (Q := fun t => t.ahead k = s.ahead k) (fun hmove h => ?_) hmoves rfl
  cases hmove <;> exact h

/-- Output of a stage goes past the first one. -/
theorem onData_first (ctx : Setting P) (index : Nat) (data : Bytes) (r : Run P F) :
    (onData ctx index data r).pipeline.host? 0 = r.pipeline.host? 0 ∧
      (onData ctx index data r).pipeline.queue = r.pipeline.queue ∧
      (onData ctx index data r).pipeline.next = r.pipeline.next := by
  unfold onData
  split
  · exact ⟨rfl, rfl, rfl⟩
  · split
    · exact ⟨rfl, rfl, rfl⟩
    · split
      · rename_i reader hreader
        split
        · rename_i fed hwrite
          have hplace : fed.index = index + 1 := by
            rw [(Host.writeInput_sameIdentity hwrite).1.index]
            split at hreader
            · exact Pipeline.host?_index (s := r.pipeline)
                (Pipeline.reader?_eq_some (s := r.pipeline).mp hreader).1
            · cases hreader
          refine ⟨?_, rfl, rfl⟩
          refine (Pipeline.host?_setHost r.pipeline fed 0).trans ?_
          rw [hplace, if_neg (Nat.succ_ne_zero index).symm]
        · exact ⟨rfl, rfl, rfl⟩
      · exact ⟨rfl, rfl, rfl⟩

theorem RequestState.Turn.requests {a a' : RequestState} (h : a.Turn a') :
    a'.requests = a.requests := by
  cases h with
  | tookUp =>
    unfold RequestState.takeUp
    split <;> rfl
  | _ => rfl

theorem TypedInv.same (h : TypedInv base source r)
    (hawaited : r'.pipeline.RequestInv r.requestState)
    (hasking : r'.requestState = r.requestState)
    (hahead : r'.pipeline.ahead 0 = r.pipeline.ahead 0) : TypedInv base source r' where
  requests := hasking ▸ hawaited
  answered := hasking ▸ h.answered
  alongside := by
    rw [hasking, hahead]
    exact h.alongside

/-- What handling a request of the first stage comes to. -/
theorem onRequest_first {host : Host P} (hreader : r.pipeline.reader? 0 = some host)
    (htyped : r.session.input.isSome = true) (mailbox : Mailbox (Nat × StageEvent)) :
    onRequest 0 (r.taken 0 .wantsInput mailbox) =
      { r.taken 0 .wantsInput mailbox with wanted := true } := by
  have hreader' : (r.taken 0 .wantsInput mailbox).reader? 0 = some host := hreader
  have hinput : ¬ (r.taken 0 .wantsInput mailbox).session.input.isNone = true := by
    rw [Option.isNone_iff_eq_none]
    exact Option.isSome_iff_ne_none.mp htyped
  unfold onRequest
  simp only [hreader']
  rw [if_neg hinput]

/-- A stage behind the first one is given its input by others. -/
theorem onRequest_behind {index : Nat} (hbehind : index ≠ 0) (r : Run P F) :
    onRequest index r = r := by
  unfold onRequest
  split
  · exact absurd rfl hbehind
  · rfl

/-- **Handling a request of the first stage puts it down as wanted.** -/
theorem TypedInv.askedFirst {mailbox : Mailbox (Nat × StageEvent)} (h : TypedInv base source r)
    (hr : r.pipeline.RelayInv) (hqueue : r.pipeline.queue = (0, .wantsInput) :: mailbox.toList) :
    TypedInv base source (onRequest 0 (r.taken 0 .wantsInput mailbox)) := by
  obtain ⟨hwaiting, hwanted, hidle, hawaited⟩ := h.requests.requested hqueue
  obtain ⟨host, hreader, -⟩ := Pipeline.reader_of_waiting hwaiting
  obtain ⟨left, delivered, hanswered⟩ := h.answered
  have htyped : r.session.input.isSome = true :=
    Option.isSome_iff_exists.mpr ⟨left, hanswered.input⟩
  have hnext := onRequest_first hreader htyped mailbox
  have hasking : (onRequest 0 (r.taken 0 .wantsInput mailbox)).requestState =
      { r.requestState with wanted := true, requests := r.requestState.requests + 1 } := by
    rw [hnext]
    simp [requestState, taken, note, Journal.requests, Journal.typed, Journal.refused]
  have hpipeline : (onRequest 0 (r.taken 0 .wantsInput mailbox)).pipeline =
      r.pipeline.handle 0 .wantsInput mailbox.toList := by
    rw [hnext]
    rfl
  refine ⟨?_, ⟨left, delivered, ?_⟩, fun _ => ?_⟩
  · rw [hasking, hpipeline]
    exact hawaited
  · rw [hasking]
    have hrequested := hanswered.requested
    rw [hwanted] at hrequested
    exact { hanswered with requested := congrArg (· + 1) hrequested }
  · rw [hpipeline]
    exact hr.ahead_of_reader hreader

/-- Requests of the other stages are nothing to the typed lines. -/
theorem TypedInv.asked {index : Nat} {mailbox : Mailbox (Nat × StageEvent)}
    (h : TypedInv base source r) (hr : r.pipeline.RelayInv)
    (hqueue : r.pipeline.queue = (index, .wantsInput) :: mailbox.toList) :
    TypedInv base source (onRequest index (r.taken index .wantsInput mailbox)) := by
  by_cases hzero : index = 0
  · subst hzero
    exact h.askedFirst hr hqueue
  · have hother : (index, StageEvent.wantsInput) ≠ (0, .wantsInput) :=
      fun heq => hzero (congrArg Prod.fst heq)
    rw [onRequest_behind hzero]
    exact h.same (h.requests.popped hqueue hother rfl (Nat.le_refl _))
      (requestState_taken r mailbox hother) rfl

/-- A written line is never empty: it has its newline. -/
theorem encode_line_ne_nil (text : String) : Utf8.encode (text ++ "\n") ≠ [] := by
  unfold Utf8.encode
  rw [String.toList_append, List.flatMap_append]
  simp

/-- While the channel of the first stage is open the end of input was not handed out. -/
theorem InputClosedInv.unended {h : Host P} (hheard : InputClosedInv base r)
    (hreader : r.pipeline.reader? 0 = some h)
    (hshut : h.isShut = false) (hlines : r.session.linesRead = base.linesRead ++ delivered) :
    none ∉ delivered := by
  have hmore : ¬ InputEnded base r := by
    intro hended
    rw [(hheard.first h hreader).mpr hended] at hshut
    cases hshut
  have hends : r.session.lineEnds ≤ base.lineEnds := by
    by_contra hlt
    exact hmore (Or.inr (Nat.lt_of_not_le hlt))
  rw [Session.lineEnds_eq_count, Session.lineEnds_eq_count, hlines, List.count_append] at hends
  exact List.count_eq_zero.mp (by omega)

/-- A line has come to a first stage that waited for it, which is `fed` from then on. -/
structure LineDelivered (r r' : Run P F) (line : Option String) (host fed : Host P) : Prop where
  same : Host.SameIdentity host fed
  phase : fed.phase = host.phase
  atRead : host.ReadWaitInv → fed.ReadWaitInv
  unread : fed.unread = (typedLine line).getD []
  isShut : fed.isShut = line.isNone
  found : r'.pipeline.reader? 0 = some fed
  queue : r'.pipeline.queue = r.pipeline.queue
  next : r'.pipeline.next = r.pipeline.next
  asking : r'.requestState =
    { r.requestState with typed := r.requestState.typed ++ (typedLine line).toList }

theorem LineDelivered.free {line : Option String} {host fed : Host P}
    (h : LineDelivered r r' line host fed) : fed.waits = false := by
  cases line with
  | some text =>
    refine Host.waits_of_held ?_
    rw [h.unread]
    exact encode_line_ne_nil text
  | none => exact Host.waits_of_shut h.isShut

/-- **A line that comes to a first stage that waits is written to its channel whole**, and the end of
input closes that. -/
theorem onLine_lineDelivered {host : Host P} (line : Option String) (hsound : host.ChannelSound)
    (hreader : r.pipeline.reader? 0 = some host) (hwaits : host.waits = true) :
    ∃ fed, LineDelivered r (onLine line r) line host fed := by
  obtain ⟨hfound, hkind⟩ := Pipeline.reader?_eq_some.mp hreader
  obtain ⟨hheld, hshut, -, -⟩ := Host.waits_spec hwaits
  have hreader' : r.reader? 0 = some host := hreader
  have hfed : ∀ fed : Host P, Host.SameIdentity host fed →
    (r.pipeline.setHost fed).reader? 0 = some fed := by
    intro fed hsame
    rw [Pipeline.reader?_eq_some, Pipeline.host?_setHost, hsame.index, Pipeline.host?_index hfound,
      if_pos rfl, hfound]
    exact ⟨rfl, hsame.kind.trans hkind⟩
  cases line with
  | some text =>
    obtain ⟨fed, hwrite, hsame, -, hopen, hunread, hphase⟩ :=
      Host.writeInput_spec hsound hshut (Utf8.encode (text ++ "\n"))
    rw [hheld, List.nil_append] at hunread
    have hnext : onLine (some text) r =
        (r.setHost fed).note (.written 0 (Utf8.encode (text ++ "\n"))) := by
      simp only [onLine, hreader', hwrite]
    rw [hnext]
    refine ⟨fed, hsame, hphase, fun hread => hread.writeInput hsound hshut hwrite, hunread, hopen,
      hfed fed hsame, rfl, rfl, ?_⟩
    simp [requestState, note, setHost, Journal.requests, Journal.typed, Journal.refused, typedLine]
  | none =>
    obtain ⟨hsame, -, hclosed, hunread, hphase⟩ := Host.closeInput_spec hsound
    have hnext : onLine none r = r.setHost host.closeInput := by
      simp only [onLine, hreader']
    rw [hnext]
    refine ⟨host.closeInput, hsame, hphase, fun hread => hread.closeInput hsound,
      hunread.trans hheld, hclosed, hfed _ hsame, rfl, rfl, ?_⟩
    exact congrArg (fun typed => { r.requestState with typed := typed }) (List.append_nil _).symm

/-- **A line that is handed out comes to the first stage**, which waits for it. -/
theorem TypedInv.handed (h : TypedInv base source r) (hr : r.pipeline.RelayInv)
    (hinput : r.session.input.isSome = true) (hreading : r.reading ≠ .idle) (after : LineSource)
    (line : Option String) :
    ∃ host fed, r.pipeline.reader? 0 = some host ∧ host.waits = true ∧
      LineDelivered (({ r with reading := .idle }.setInput after).record [.lineRead line])
        (onLine line (({ r with reading := .idle }.setInput after).record [.lineRead line]))
        line host fed := by
  obtain ⟨host, hreader, hwaits⟩ := Pipeline.reader_of_waiting (h.requests.due hreading).1
  have hsound := (hr.hosts 0 host (Pipeline.reader?_eq_some.mp hreader).1).sound
  have hreader' :=
    (congrArg (Pipeline.reader? · 0) (pipeline_handedOut hinput after line)).trans hreader
  obtain ⟨fed, hfed⟩ := onLine_lineDelivered line hsound hreader' hwaits
  exact ⟨host, fed, hreader, hwaits, hfed⟩

/-- The account is kept when a line is handed out. -/
theorem TypedInv.line {line : Option String} (h : TypedInv base source r) (hr : r.pipeline.RelayInv)
    (hheard : InputClosedInv base r) (hinput : r.session.input = some left)
    (hreading : r.reading ≠ .idle)
    (htake : (if r.reading = .due then left.ask else left).take? = some (line, after))
    (hahead : (onLine line
      (({ r with reading := .idle }.setInput after).record [.lineRead line])).pipeline.ahead 0 =
        r.pipeline.ahead 0) :
    TypedInv base source
      (onLine line (({ r with reading := .idle }.setInput after).record [.lineRead line])) := by
  have htyped : r.session.input.isSome = true := by
    rw [hinput]
    rfl
  obtain ⟨host, fed, hreader, hwaits, hfed⟩ := h.handed hr htyped hreading after line
  obtain ⟨hfound, -⟩ := Pipeline.reader?_eq_some.mp hreader
  obtain ⟨left', delivered, hanswered⟩ := h.answered
  obtain rfl : left' = left := by
    have hsame : r.session.input = some left' := hanswered.input
    rw [hinput] at hsame
    exact (Option.some.inj hsame).symm
  have hopen : none ∉ delivered :=
    hheard.unended hreader (Host.waits_spec hwaits).2.1 hanswered.lines
  have hanswered' := hanswered.line hreading hopen htake
  have hpipeline := pipeline_handedOut htyped after line
  have hasking :
    (({ r with reading := .idle }.setInput after).record [.lineRead line]).requestState =
      { r.requestState with
        reading := .idle, input := some after, lines := r.requestState.lines ++ [line] } := by
    simp only [requestState, record, Session.linesRead_record]
    rfl
  have hasked := hfed.asking
  have hqueue := hfed.queue
  have hnext := hfed.next
  rw [hasking] at hasked
  rw [hpipeline] at hqueue hnext
  refine ⟨?_, ⟨after, delivered ++ [line], ?_⟩, ?_⟩
  · rw [hasked]
    exact h.requests.answered hreading hfound (Pipeline.reader?_eq_some.mp hfed.found).1 hfed.free
      hfed.phase (hfed.atRead (h.requests.atRead host hfound)) hqueue hnext rfl rfl
  · rw [hasked]
    exact hanswered'
  · rw [hasked, hahead]
    exact h.alongside

/-- **Every change keeps the account of the typed lines.** -/
theorem TypedInv.change (h : TypedInv base source r) (hchange : Change ctx r r')
    (ho : r.pipeline.OrderInv)
    (hr : r.pipeline.RelayInv) (hheard : InputClosedInv base r) : TypedInv base source r' := by
  have hahead : r'.pipeline.ahead 0 = r.pipeline.ahead 0 := Moves.ahead hchange.moves 0
  obtain ⟨left, delivered, hanswered⟩ := h.answered
  have hinput : r.session.input = some left := hanswered.input
  cases hchange with
  | aside hpipeline hmarks hturn =>
    have htyped : r.requestState.input.isSome = true := by
      rw [hanswered.input]
      rfl
    obtain ⟨left', hanswered'⟩ :=
      hanswered.turn (fun hwanted => (h.requests.atMostOne.2.1 hwanted).2.2) hturn
    refine ⟨?_, ⟨left', delivered, hanswered'⟩, ?_⟩
    · rw [hpipeline]
      exact h.requests.turn htyped hturn
    · rw [hturn.requests, hahead]
      exact h.alongside
  | worked index =>
    refine h.same ?_ (requestState_frameView.stepWork r index) hahead
    unfold stepWork
    split
    · exact h.requests
    · rename_i host hfound
      have hfound : r.pipeline.host? index = some host := hfound
      have htended := hr.hosts index host hfound
      obtain rfl := Pipeline.host?_index hfound
      split
      · exact h.requests
      · rename_i host' events hstep
        rw [pipeline_post]
        exact h.requests.worked ho htended.sound htended.live hfound hstep
  | @dropped index e mailbox hqueue hgone =>
    refine h.same (h.requests.popped hqueue ?_ rfl (Nat.le_refl _)) rfl rfl
    rintro ⟨⟩
    obtain ⟨host, hreader, -⟩ := Pipeline.reader_of_waiting (h.requests.requested hqueue).1
    rw [(Pipeline.reader?_eq_some.mp hreader).1] at hgone
    cases hgone
  | @data index bytes mailbox host hqueue hfound =>
    obtain ⟨hhost, hrest, hnext⟩ := onData_first ctx index bytes (r.taken index (.data bytes) mailbox)
    have hqueue' : r.pipeline.queue = (index, .data bytes) ::
        (onData ctx index bytes (r.taken index (.data bytes) mailbox)).pipeline.queue := by
      rw [hrest]
      exact hqueue
    refine h.same (h.requests.popped hqueue' (by simp) hhost (Nat.le_of_eq hnext.symm)) ?_ hahead
    rw [requestState_frameView.onData]
    exact requestState_taken r mailbox (by simp)
  | asked hqueue hfound => exact h.asked hr hqueue
  | @retired index changed mailbox host hqueue hfound hinner =>
    refine h.same ?_ ?_ hahead
    · rw [pipeline_retire, pipeline_taken]
      exact h.requests.retired hqueue hfound
    · rw [requestState_retire]
      exact requestState_taken r mailbox (by simp)
  | spawned hstage hroom hready hactive =>
    obtain ⟨fresh, host, events, hfresh, hstart, hpipeline⟩ := spawnStage_spec hstage hactive
    obtain ⟨hindex, -, -, -, hsound, -, -⟩ :=
      Pipeline.spawned_spec (s := r.pipeline) hstage hfresh hstart
    refine h.same ?_ (requestState_frameView.spawnStage r ctx _) hahead
    rw [hpipeline]
    refine h.requests.spawn ho hindex hsound
      (Host.start_startWaitInv hfresh (fun hkind => ?_) hstart)
    exact Pipeline.program_of_ahead (s := r.pipeline) hstage (Pipeline.ahead_of_kind hkind)
  | line hbegun htyped hsource hreading htake => exact h.line hr hheard hsource hreading htake hahead

/-! ## From the beginning -/

/-- Before any stage is set going nothing was asked for. -/
theorem TypedInv.beginning {line : String} {parsed : List Statement} {effects : List Effect}
    {stages : List (Stage P)} (hinput : s.input = some source)
    (hresolve : ctx.resolver.statements s.requests parsed = (effects, .ok stages)) (killed : Bool) :
    TypedInv s source (beginning line (s.record effects) stages killed) where
  requests := ⟨rfl, nofun, nofun⟩
  answered := by
    refine ⟨source, [], hinput, ?_, List.nil_prefix, rfl, rfl, rfl, rfl, rfl, rfl⟩
    show (s.record effects).linesRead = s.linesRead ++ []
    rw [Session.linesRead_record, Resolver.lines_resolved hresolve]
  alongside := fun hne => absurd rfl hne

/-- The first stage of a line is a program that there is something for to run on beside the others. -/
def FirstIsConcurrent (ctx : Setting P) (line : String) (s : Session F) : Prop :=
  ∃ parsed effects first rest, ctx.parse line = .ok parsed ∧
    ctx.resolver.statements s.requests parsed = (effects, .ok (first :: rest)) ∧
    s.factory.sharedMemory = true ∧ first.isCallback = false

/-- A reached run that is active keeps account of the typed lines. -/
theorem reached_typedInv {line : String} {killed : Bool} {choices : List Choice}
    (hinput : s.input = some source)
    (hactive : (reached ctx line s killed choices).active = true) :
    TypedInv s source (reached ctx line s killed choices) :=
  (reached_invariant (Q := fun r => InputClosedInv s r ∧ TypedInv s source r)
    (fun _ hresolve => ⟨.beginning hresolve killed, .beginning hinput hresolve killed⟩)
    (fun hstep ho hr h => ⟨h.1.change hstep ho hr, h.2.change hstep ho hr h.1⟩) hactive).2.2.2

/-- **Only a program that works alongside the others is ever heard to ask for a line.** -/
theorem TypedInv.firstIsConcurrent {line : String} {killed : Bool} {choices : List Choice}
    (hactive : (reached ctx line s killed choices).active = true)
    (h : TypedInv s source (reached ctx line s killed choices))
    (hne : (reached ctx line s killed choices).requestState.requests ≠ 0) :
    FirstIsConcurrent ctx line s := by
  obtain ⟨parsed, effects, stages, hparse, hresolve, hmoves, -⟩ := reached_spec hactive
  have hfirst := (Moves.ahead hmoves 0).symm.trans (h.alongside hne)
  obtain ⟨first, rest, rfl⟩ := List.exists_cons_of_ne_nil (Resolver.statements_ne_nil hresolve)
  exact ⟨parsed, effects, first, rest, hparse, hresolve, (Bool.and_eq_true_iff.mp hfirst).1,
    Pipeline.program_of_ahead (k := 0) rfl hfirst⟩

/-- However far a run has come and however it has ended, its account of the typed lines is right. -/
theorem reached_sourceSpec (ctx : Setting P) (line : String) (killed : Bool) (choices : List Choice)
    (hinput : s.input = some source) :
    (∃ left delivered, SourceSpec s source left delivered
      (reached ctx line s killed choices).requestState) ∧
    ((reached ctx line s killed choices).requestState.requests ≠ 0 →
      FirstIsConcurrent ctx line s) := by
  refine requestState_reached ctx line s killed
    (Q := fun a => (∃ left delivered, SourceSpec s source left delivered a) ∧
      (a.requests ≠ 0 → FirstIsConcurrent ctx line s)) ?_ (fun choices hactive => ?_) choices
  · exact ⟨⟨source, [], hinput, (List.append_nil _).symm, List.nil_prefix, rfl, rfl, rfl, rfl, rfl,
      rfl⟩, fun hne => absurd rfl hne⟩
  · have htyping := reached_typedInv hinput hactive
    exact ⟨htyping.answered, htyping.firstIsConcurrent hactive⟩

/-! ## The typed lines of a run -/

end Run

end Pipework
