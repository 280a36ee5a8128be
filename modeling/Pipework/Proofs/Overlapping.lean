import Mathlib.Data.List.Induction
import Mathlib.Data.List.Perm.Basic
import Pipework.Proofs.Images
import Pipework.Routine.Basic

/-!
# Calls that overlap

Calls to a factory may overlap. One that needs the image waits until it has the image to itself; if
none is kept it fetches one, and while that is under way the others go on waiting. A stage that runs
inline needs no image and is given its host at once. `Service` takes these steps one at a time, in
any order.

* `Service.run_serialInv` — whatever the order, the calls are answered as if they had been made one
  after the other, in the order of their answers.
* `Service.calls_run`, `Service.settles` — no call is lost, and each can be answered.
* `image_kept` — what comes of any number of calls to a new factory.
-/

namespace Pipework

namespace Factory

variable {P : Type} [Program P] {f : Factory}

/-! ## Steps -/

/-- A call for a host whose image is being fetched. -/
structure Pending (P : Type) where
  console : Console
  index : Nat
  stage : Stage P
  files : Snapshot
  source : Source

def Pending.call (p : Pending P) : Call P := .spawn p.console p.index p.stage p.files

/-- A factory with the calls that are made of it. -/
structure Service (P : Type) [Program P] where
  factory : Factory
  /-- Calls that wait until they have the image to themselves. -/
  waiting : List (Call P)
  /-- The one that has it while its fetch is under way. -/
  pending : Option (Pending P)
  /-- All that was shown. -/
  trace : List Effect
  answers : List (Answer P)

/-- What can happen next: a call is made, a waiting one has its turn, or the fetch that is under
way comes back. -/
inductive Move (P : Type) where
  | call (c : Call P)
  | enter (k : Nat)
  | arrive

/-- The call that is made. -/
def Move.call? : Move P → Option (Call P)
  | .call c => some c
  | .enter _ | .arrive => none

namespace Service

def new (f : Factory) : Service P := ⟨f, [], none, [], []⟩

/-- Answers a call that has nothing to wait for. -/
def answer (s : Service P) (c : Call P) : Service P :=
  let (f, a) := s.factory.serve c
  { s with factory := f, trace := s.trace ++ a.effects, answers := s.answers ++ [a] }

/-- A call that has the image to itself begins a fetch, or has its answer at once. -/
def take (s : Service P) (c : Call P) : Service P :=
  match c, s.factory.image, s.factory.source with
  | .spawn console index stage files, none, some source =>
    { s with
      factory := s.factory.attempt
      pending := some ⟨console, index, stage, files, source⟩
      trace := s.trace ++ console.status preparing }
  | c, _, _ => s.answer c

/-- The fetch of the pending call has come back. -/
def finish (s : Service P) (p : Pending P) : Service P :=
  let fetched := p.source.fetch (s.factory.attempts - 1)
  let s := { s with pending := none, trace := s.trace ++ p.console.clearStatus }
  match fetched with
  | .ok image =>
    { s with
      factory := s.factory.keep image
      answers := s.answers ++ [⟨p.call, shown p.console, some fetched,
        some (.ok (.concurrent p.index p.stage p.files s.factory.capacity image))⟩] }
  | .error why =>
    { s with
      answers := s.answers ++ [⟨p.call, shown p.console, some fetched,
        some (.error (unfetched p.source why))⟩] }

def step (s : Service P) : Move P → Service P
  | .call c =>
    if c.isInline s.factory.sharedMemory then s.answer c else { s with waiting := s.waiting ++ [c] }
  | .enter k =>
    match s.pending, s.waiting[k]? with
    | none, some c => { s with waiting := s.waiting.eraseIdx k }.take c
    | _, _ => s
  | .arrive =>
    match s.pending with
    | some p => s.finish p
    | none => s

def run (s : Service P) (moves : List (Move P)) : Service P := moves.foldl step s

theorem run_append (s : Service P) (moves more : List (Move P)) :
    s.run (moves ++ more) = (s.run moves).run more := List.foldl_append

theorem run_concat (s : Service P) (moves : List (Move P)) (m : Move P) :
    s.run (moves ++ [m]) = (s.run moves).step m := s.run_append moves [m]

/-- How the service stands when the answers so far have left the factory as `f`. -/
def LockInv (s : Service P) (f : Factory) : Prop :=
  match s.pending with
  | none => s.factory = f ∧ s.trace = s.answers.flatMap Answer.effects
  | some p => s.factory = f.attempt ∧ f.image = none ∧ f.source = some p.source ∧
      p.call.needsImage f.sharedMemory = true ∧
      s.trace = s.answers.flatMap Answer.effects ++ p.console.status preparing

/-- The answers so far are those of the same calls one after the other. -/
structure SerialInv (start : Factory) (s : Service P) (f : Factory) : Prop where
  serially : SerialAnswers start s.answers f
  waiting : ∀ c ∈ s.waiting, c.isInline f.sharedMemory = false
  lockInv : s.LockInv f

variable {start : Factory} {s : Service P} {c : Call P} {p : Pending P}

theorem SerialInv.sharedMemory (hserial : SerialInv start s f) :
    s.factory.sharedMemory = f.sharedMemory := by
  have hstands := hserial.lockInv
  unfold LockInv at hstands
  split at hstands
  · rw [hstands.1]
  · rw [hstands.1]
    rfl

/-- Nobody else has the image. -/
theorem SerialInv.answer (hserial : SerialInv start s f) (hfree : s.pending = none) (c : Call P) :
    SerialInv start (s.answer c) (f.serve c).1 := by
  have hstands := hserial.lockInv
  have hserving := serve_cases f c
  simp only [LockInv, hfree] at hstands
  obtain ⟨hfactory, htrace⟩ := hstands
  refine ⟨?_, ?_, ?_⟩
  · simp only [Service.answer, hfactory]
    exact hserial.serially.concat c
  · rw [hserving.sameSetup.sharedMemory]
    exact hserial.waiting
  · simp [LockInv, Service.answer, hfree, hfactory, htrace]

/-- Inline hosts are given out whoever has the image. -/
theorem SerialInv.answer_inline (hserial : SerialInv start s f)
    (hinline : c.isInline f.sharedMemory = true) : SerialInv start (s.answer c) f := by
  cases c with
  | reset => cases hinline
  | spawn console index stage files =>
    have hkind : Host.kindFor stage.executable f.sharedMemory = .inline := by
      simpa [Call.isInline] using hinline
    have hnow : Host.kindFor stage.executable s.factory.sharedMemory = .inline := by
      rw [hserial.sharedMemory]
      exact hkind
    have hserially := hserial.serially.concat (.spawn console index stage files)
    have hstands := hserial.lockInv
    rw [serve_inline hkind] at hserially
    unfold Service.answer
    rw [serve_inline hnow]
    refine ⟨hserially, hserial.waiting, ?_⟩
    unfold LockInv at hstands ⊢
    simp only [List.flatMap_append, List.flatMap_singleton, List.append_nil]
    exact hstands

theorem SerialInv.take (hserial : SerialInv start s f) (hfree : s.pending = none)
    (hwaits : c.isInline f.sharedMemory = false) : ∃ g, SerialInv start (s.take c) g := by
  have hstands := hserial.lockInv
  simp only [LockInv, hfree] at hstands
  obtain ⟨rfl, htrace⟩ := hstands
  unfold Service.take
  split
  · rename_i console index stage files source himage hsource
    refine ⟨s.factory, hserial.serially, hserial.waiting, rfl, himage, hsource, ?_, ?_⟩
    · cases hkind : Host.kindFor stage.executable s.factory.sharedMemory with
      | inline => simp [Call.isInline, hkind] at hwaits
      | concurrent => simp [Pending.call, Call.needsImage, hkind]
    · rw [htrace]
  · exact ⟨_, hserial.answer hfree _⟩

/-- A fetch that comes back gives the answer that it would have given at once. -/
theorem SerialInv.finish (hserial : SerialInv start s f) (hpending : s.pending = some p) :
    SerialInv start (s.finish p) (f.serve p.call).1 := by
  have hstands := hserial.lockInv
  simp only [LockInv, hpending] at hstands
  obtain ⟨hfactory, himage, hsource, hneeds, htrace⟩ := hstands
  have hkind : Host.kindFor p.stage.executable f.sharedMemory = .concurrent := by
    simpa [Pending.call, Call.needsImage] using hneeds
  have hserially := hserial.serially.concat p.call
  have hattempts : s.factory.attempts - 1 = f.attempts := by
    rw [hfactory]
    rfl
  unfold Service.finish
  simp only [hattempts]
  cases hfetch : p.source.fetch f.attempts with
  | ok image =>
    rw [Pending.call, serve_fetched hkind himage hsource hfetch] at hserially ⊢
    simp only [hfactory]
    refine ⟨hserially, hserial.waiting, rfl, ?_⟩
    simp [htrace, shown]
  | error why =>
    rw [Pending.call, serve_failed hkind himage hsource hfetch] at hserially ⊢
    simp only [hfactory]
    refine ⟨hserially, hserial.waiting, rfl, ?_⟩
    simp [htrace, shown]

/-- **A move leaves the answers serial.** -/
theorem SerialInv.step (hserial : SerialInv start s f) (m : Move P) :
    ∃ g, SerialInv start (s.step m) g := by
  cases m with
  | call c =>
    simp only [Service.step, hserial.sharedMemory]
    split
    · rename_i hinline
      exact ⟨f, hserial.answer_inline hinline⟩
    · rename_i hwaits
      refine ⟨f, hserial.serially, ?_, hserial.lockInv⟩
      intro other hother
      rcases List.mem_append.mp hother with hold | hnew
      · exact hserial.waiting other hold
      · rw [List.mem_singleton.mp hnew]
        simpa using hwaits
  | enter k =>
    simp only [Service.step]
    split
    · rename_i c hfree hturn
      have hwaits := hserial.waiting c (List.mem_of_getElem? hturn)
      have hleft : SerialInv start { s with waiting := s.waiting.eraseIdx k } f :=
        ⟨hserial.serially,
          fun other hother => hserial.waiting other (List.mem_of_mem_eraseIdx hother),
          hserial.lockInv⟩
      exact hleft.take hfree hwaits
    · exact ⟨f, hserial⟩
  | arrive =>
    simp only [Service.step]
    split
    · rename_i p hpending
      exact ⟨_, hserial.finish hpending⟩
    · exact ⟨f, hserial⟩

/-- **However calls overlap, they are answered as if they had been made one after the other**, in
the order in which the answers came. -/
theorem run_serialInv (start : Factory) (moves : List (Move P)) :
    ∃ f, SerialInv start ((new start).run moves) f := by
  induction moves using List.reverseRecOn with
  | nil => exact ⟨start, .nil, List.forall_mem_nil _, rfl, rfl⟩
  | append_singleton moves m ih =>
    obtain ⟨f, hserial⟩ := ih
    rw [run_concat]
    exact hserial.step m

/-! ## Every call is answered -/

/-- All calls: the answered, the one whose fetch is under way, and the waiting. -/
def calls (s : Service P) : List (Call P) :=
  s.answers.map Answer.call ++ (s.pending.toList.map Pending.call ++ s.waiting)

theorem calls_answer (s : Service P) (c : Call P) :
    (s.answer c).calls.Perm (c :: s.calls) := by
  have hcalls : (s.answer c).calls = s.answers.map Answer.call ++
      c :: (s.pending.toList.map Pending.call ++ s.waiting) := by
    simp [calls, answer, serve_call]
  rw [hcalls]
  exact List.perm_middle

theorem calls_take (hfree : s.pending = none) (c : Call P) :
    (s.take c).calls.Perm (c :: s.calls) := by
  unfold take
  split
  · simp only [calls, hfree, Option.toList_none, Option.toList_some, List.map_nil, List.map_cons,
      List.nil_append]
    exact List.perm_middle
  · exact calls_answer s _

theorem calls_finish (hpending : s.pending = some p) : (s.finish p).calls = s.calls := by
  unfold finish
  simp only
  split <;> simp [calls, hpending]

theorem calls_step (s : Service P) (m : Move P) :
    (s.step m).calls.Perm (s.calls ++ m.call?.toList) := by
  cases m with
  | call c =>
    have hnew : (c :: s.calls).Perm (s.calls ++ [c]) := List.perm_append_singleton c _ |>.symm
    simp only [step]
    split
    · exact (calls_answer s c).trans hnew
    · simp [calls, Move.call?]
  | enter k =>
    rw [Move.call?, Option.toList_none, List.append_nil]
    simp only [step]
    split
    · rename_i c hfree hturn
      obtain ⟨hlt, hget⟩ := List.getElem?_eq_some_iff.mp hturn
      have hleft : (c :: s.waiting.eraseIdx k).Perm s.waiting := by
        rw [← hget]
        exact List.getElem_cons_eraseIdx_perm hlt
      refine (calls_take (s := { s with waiting := s.waiting.eraseIdx k }) hfree c).trans ?_
      refine List.perm_middle.symm.trans (List.Perm.append_left _ ?_)
      exact List.perm_middle.symm.trans (List.Perm.append_left _ hleft)
    · exact .refl _
  | arrive =>
    rw [Move.call?, Option.toList_none, List.append_nil]
    simp only [step]
    split
    · rename_i p hpending
      rw [calls_finish hpending]
    · exact .refl _

/-- No call is lost and none is answered twice. -/
theorem calls_run (start : Factory) (moves : List (Move P)) :
    ((new start).run moves).calls.Perm (moves.filterMap Move.call?) := by
  induction moves using List.reverseRecOn with
  | nil => exact .nil
  | append_singleton moves m ih =>
    have hlast : [m].filterMap Move.call? = m.call?.toList := by
      cases m <;> rfl
    rw [run_concat, List.filterMap_append, hlast]
    exact (calls_step _ m).trans (ih.append_right _)

/-- When its fetch has come back nobody has the image. -/
theorem finish_free (s : Service P) (p : Pending P) :
    (s.finish p).pending = none ∧ (s.finish p).waiting = s.waiting := by
  unfold finish
  simp only
  split <;> exact ⟨rfl, rfl⟩

theorem take_waiting (s : Service P) (c : Call P) : (s.take c).waiting = s.waiting := by
  unfold take
  split <;> rfl

/-- The fetch that may be under way comes back. -/
theorem frees (s : Service P) : ∃ more : List (Move P), more.filterMap Move.call? = [] ∧
    (s.run more).pending = none ∧ (s.run more).waiting = s.waiting := by
  cases hpending : s.pending with
  | none => exact ⟨[], rfl, hpending, rfl⟩
  | some p =>
    have harrive : s.run [.arrive] = s.finish p := by simp [run, step, hpending]
    refine ⟨[.arrive], rfl, ?_⟩
    rw [harrive]
    exact finish_free s p

/-- **Whatever waits can be answered**, the one behind the other, without a further call. -/
theorem settles (waiting : List (Call P)) : ∀ {s : Service P}, s.waiting = waiting →
    ∃ more : List (Move P), more.filterMap Move.call? = [] ∧
      (s.run more).pending = none ∧ (s.run more).waiting = [] := by
  induction waiting with
  | nil =>
    intro s hwaiting
    obtain ⟨more, hquiet, hfree, hleft⟩ := s.frees
    exact ⟨more, hquiet, hfree, hleft.trans hwaiting⟩
  | cons c rest ih =>
    intro s hwaiting
    obtain ⟨first, hquiet, hfree, hleft⟩ := s.frees
    have hturn : ((s.run first).step (.enter 0)).waiting = rest := by
      simp only [step, hfree, hleft.trans hwaiting, List.getElem?_cons_zero, take_waiting,
        List.eraseIdx_cons_zero]
    obtain ⟨more, hquiet', hdone⟩ := ih hturn
    refine ⟨first ++ .enter 0 :: more, ?_, ?_⟩
    · rw [List.filterMap_append, hquiet]
      exact hquiet'
    · rw [run_append]
      exact hdone

end Service

/-! ## Overlapping calls to a new factory -/

/-- What comes of calls to a factory that may overlap; `s` is how the service stands after any
number of moves. -/
structure ImageSpec (start : Factory) (moves : List (Move P)) (s : Service P) : Prop where
  /-- Each call was answered once, or is on its way, and can be answered. -/
  calls : s.calls.Perm (moves.filterMap Move.call?)
  answerable : ∃ more : List (Move P), more.filterMap Move.call? = [] ∧
    (s.run more).pending = none ∧ (s.run more).waiting = []
  /-- The answers are those that the same calls get one after the other. -/
  serially : ∃ f, SerialAnswers start s.answers f
  /-- Until the first reset, and from one reset to the next. -/
  shares : ∀ before between after, s.answers = before ++ between ++ after → EndsWithReset before →
    (∀ a ∈ between, a.call.isReset = false) → SharedImage between
  /-- A fetch that fails is the end of the call that made it and leaves nothing to be kept, and the
  next call that needs an image makes another. -/
  failed : ∀ source before a after why, start.source = some source →
    s.answers = before ++ a :: after → a.fetched = some (.error why) →
      a.host = some (.error (unfetched source why)) ∧
      (∃ f, SerialAnswers start (before ++ [a]) f ∧ f.image = none) ∧
      ∀ others next rest, after = others ++ next :: rest →
        (∀ o ∈ others, o.call.needsImage start.sharedMemory = false) →
          next.call.needsImage start.sharedMemory = true → next.fetched.isSome = true
  /-- Who asks for a host is given one, unless its own fetch fails or there is no source. -/
  hosted : ∀ a ∈ s.answers, a.call.isReset = false →
    (∃ host, a.host = some (.ok host)) ∨
      (∃ source why, start.source = some source ∧ a.fetched = some (.error why) ∧
        a.host = some (.error (unfetched source why))) ∨
      start.source = none ∧ a.host = some (.error sourceless)
  /-- Callbacks, and all stages where no memory is shared. -/
  unneeded : ∀ a ∈ s.answers, ∀ console index stage files,
    a.call = .spawn console index stage files →
      stage.isCallback = true ∨ start.sharedMemory = false →
        a.fetched = none ∧ a.effects = [] ∧ a.host = some (.ok (.inline index stage files))
  /-- The fetches are those of the source, in order. -/
  fetched : ∀ source, start.source = some source → s.answers.filterMap Answer.fetched =
    (List.range (s.answers.countP (·.fetched.isSome))).map source.fetch
  attempts : s.factory.attempts =
    s.answers.countP (·.fetched.isSome) + s.pending.toList.length
  fetches : s.factory.fetches = s.answers.countP (·.fetchedImage?.isSome)
  /-- A fetch is announced, and the announcement is taken back; nothing else is shown. -/
  effects : ∀ a ∈ s.answers, ∀ console index stage files,
    a.call = .spawn console index stage files →
      a.effects = if a.fetched.isSome && console.statuses then [.status preparing, .clearStatus]
        else []
  trace : s.trace = s.answers.flatMap Answer.effects ++
    s.pending.toList.flatMap fun p => p.console.status preparing

/-- **However calls overlap, one image is fetched between two resets and all concurrent hosts have
it**; a fetch that fails is the matter of its own call only, and of those that succeed each is
counted. -/
theorem image_kept (source : Option Source) (sharedMemory : Bool) (capacity : Nat)
    (moves : List (Move P)) : ImageSpec (.make source sharedMemory capacity) moves
      ((Service.new (.make source sharedMemory capacity)).run moves) := by
  obtain ⟨f, hserially, -, hstands⟩ :=
    Service.run_serialInv (.make source sharedMemory capacity) moves
  have hcalls := Service.calls_run (.make source sharedMemory capacity) moves
  generalize (Service.new (.make source sharedMemory capacity)).run moves = s
    at hserially hstands hcalls ⊢
  obtain ⟨hattempts, hfetches⟩ := hserially.counted
  have hnow : s.factory.attempts = f.attempts + s.pending.toList.length ∧
      s.factory.fetches = f.fetches ∧ s.trace = s.answers.flatMap Answer.effects ++
        s.pending.toList.flatMap fun p => p.console.status preparing := by
    unfold Service.LockInv at hstands
    split at hstands
    · rename_i hfree
      rw [hfree, hstands.1, hstands.2]
      exact ⟨rfl, rfl, (List.append_nil _).symm⟩
    · rename_i p hpending
      rw [hpending, hstands.1, hstands.2.2.2.2]
      exact ⟨rfl, rfl, congrArg _ (List.append_nil _).symm⟩
  refine
    { calls := hcalls
      answerable := Service.settles s.waiting rfl
      serially := ⟨f, hserially⟩
      shares := fun before between after hsplit hfresh hunreset => ?_
      failed := fun source before a after why hsource hsplit hfetched => ?_
      hosted := fun a hmem hspawn => ?_
      unneeded := fun a hmem console index stage files hcall hneedless => ?_
      fetched := fun source hsource => ?_
      attempts := ?_
      fetches := ?_
      effects := fun a hmem console index stage files hcall => ?_
      trace := ?_ }
  · rw [hsplit, List.append_assoc] at hserially
    obtain ⟨g, hbefore, hrest⟩ := hserially.split
    obtain ⟨g', hbetween, -⟩ := hrest.split
    exact hbetween.sharedImage hunreset (hbefore.endsWithReset hfresh rfl)
  · rw [hsplit] at hserially
    obtain ⟨g, hbefore, hrest⟩ := hserially.split
    obtain _ | @⟨_, g', _, _, _, hserve, hlater⟩ := hrest
    obtain ⟨hhost, hnone⟩ :=
      (serveCases_of_serve hserve).unfetched (hbefore.sameSetup.source.trans hsource) hfetched
    have hfirst := hbefore.append (.cons hserve .nil)
    have halike := hfirst.sameSetup
    refine ⟨hhost, ⟨g', hfirst, hnone⟩, ?_⟩
    intro others next rest hnext hidle hneeds
    rw [hnext] at hlater
    obtain ⟨m, hothers, hlast⟩ := hlater.split
    obtain _ | ⟨hserved, -⟩ := hlast
    rw [← halike.sharedMemory] at hidle hneeds
    exact hothers.fetches_next (halike.source.trans hsource) hnone hidle hserved hneeds
  · obtain ⟨g, g', halike, hserving⟩ := hserially.serveCases_of_mem hmem
    rw [← halike.source]
    exact hserving.hosted hspawn
  · obtain ⟨g, g', halike, hserving⟩ := hserially.serveCases_of_mem hmem
    rw [← halike.sharedMemory] at hneedless
    exact hserving.unneeded hcall hneedless
  · rw [List.range_eq_range']
    exact hserially.fetched_eq hsource
  · rw [hnow.1, hattempts]
    exact congrArg (· + _) (Nat.zero_add _)
  · rw [hnow.2.1, hfetches]
    exact Nat.zero_add _
  · obtain ⟨g, g', -, hserving⟩ := hserially.serveCases_of_mem hmem
    exact hserving.effects_eq hcall
  · exact hnow.2.2

/-- A source whose first fetch fails. -/
def stubborn : Source :=
  ⟨"image", fun k => if k = 0 then .error (.of "no") else .ok ⟨fun _ => none, false⟩⟩

/-- Three calls that overlap, answered from the last on: the first fetch fails, the next gives the
image, and the call that is left has the same one. -/
example :
    let stage : Stage Routine := ⟨["p"], [], .program [] 0⟩
    let call := Move.call (.spawn ⟨true, true, none⟩ 0 stage (.object []))
    let s := (Service.new (.make (some stubborn) true 1)).run
      [call, call, .enter 1, call, .arrive, .enter 1, .enter 0, .arrive, .enter 0]
    s.answers.map (fun a => (a.fetched.isSome, a.image?.isSome)) =
        [(true, false), (true, true), (false, true)] ∧
      s.factory.attempts = 2 ∧ s.factory.fetches = 1 ∧
      s.trace = [.status preparing, .clearStatus, .status preparing, .clearStatus] :=
  ⟨rfl, rfl, rfl, rfl⟩

end Factory

end Pipework
