import Pipework.Proofs.Run.Completion
import Pipework.Proofs.Run.Relay
import Pipework.Proofs.Texts

/-!
# Updates of the file store

Each stage edits a copy of the store that it is given when it is set going, and what it has changed
replaces the store as a whole when its end is handled. `Journal.updates` reads off a journal which
copies were given and which of them came back. A path keeps what an update says of it as long as no
later one changes it, unless the later one was made on a copy that was given before the update was
there (`survives`).

* `UpdatesInv.change` — the store of a run and the snapshots it gives out are those of its journal.
* `updates_kept` — the updates of a completed run; where stages follow one another none is lost.
-/

namespace Pipework

namespace Run

/-! ## Updates of a journal -/

/-- What a stage was given when it was set going, and how many updates there had been by then. -/
structure Copy where
  stage : Nat
  after : Nat
  files : Snapshot

/-- A snapshot that a stage made of its copy and that was taken over. -/
structure Update where
  copy : Copy
  reported : Snapshot

/-- The stage wrote or removed the path. -/
def Update.Changes (u : Update) (path : String) : Prop :=
  Snapshot.read? u.reported path ≠ Snapshot.read? u.copy.files path

instance (u : Update) (path : String) : Decidable (u.Changes path) :=
  inferInstanceAs (Decidable (_ ≠ _))

/-- The filesystem with the copies given out of it and the updates that were taken over, last
first. -/
structure Updates (F : Type) where
  files : F
  copies : List Copy
  taken : List Update

variable {F : Type} [Filesystem F]

def Updates.give (u : Updates F) (stage : Nat) : Updates F :=
  { u with copies := ⟨stage, u.taken.length, Filesystem.snapshot u.files⟩ :: u.copies }

def Updates.copy? (u : Updates F) (stage : Nat) : Option Copy := u.copies.find? (·.stage == stage)

/-- A stage reports what it has changed; what the filesystem refuses is not taken over. -/
def Updates.take (u : Updates F) (stage : Nat) : Option Snapshot → Updates F
  | none => u
  | some s =>
    match u.copy? stage, Filesystem.accept u.files s with
    | some copy, .ok files => { u with files := files, taken := ⟨copy, s⟩ :: u.taken }
    | _, _ => u

/-- The updates that a journal tells of, beginning with the given filesystem. -/
def Journal.updates (files : F) : Journal → Updates F
  | [] => ⟨files, [], []⟩
  | .started k _ :: past => (updates files past).give k
  | .handled k (.ended changed) :: past => (updates files past).take k changed
  | _ :: past => updates files past

/-- The filesystem when the given updates had been taken over. -/
def filesAfter (base : F) : List Update → F
  | [] => base
  | u :: before => Filesystem.after (filesAfter base before) (some u.reported)

/-- Where the copy was made of the filesystem as it was then. -/
def Copy.TakenFrom (c : Copy) (base : F) (taken : List Update) : Prop :=
  c.after ≤ taken.length ∧
    c.files = Filesystem.snapshot (filesAfter base (taken.drop (taken.length - c.after)))

/-- Every update was made on a copy of the filesystem as it was at some time before. -/
def CopiesTraced (base : F) : List Update → Prop
  | [] => True
  | u :: before => CopiesTraced base before ∧ u.copy.TakenFrom base before ∧
      ∃ files, Filesystem.accept (filesAfter base before) u.reported = .ok files

theorem Copy.TakenFrom.cons {c : Copy} {base : F} {taken : List Update} (h : c.TakenFrom base taken)
    (u : Update) : c.TakenFrom base (u :: taken) := by
  obtain ⟨hle, hfiles⟩ := h
  refine ⟨Nat.le_succ_of_le hle, ?_⟩
  rw [List.length_cons, Nat.succ_sub hle, List.drop_succ_cons]
  exact hfiles

theorem CopiesTraced.drop {base : F} : ∀ {taken : List Update} (n : Nat), CopiesTraced base taken →
    CopiesTraced base (taken.drop n)
  | _, 0, h => h
  | [], _ + 1, h => h
  | _ :: _, n + 1, h => h.1.drop n

theorem read?_filesAfter [LawfulFilesystem F] {base : F} {u : Update} {before : List Update}
    (h : ∃ files, Filesystem.accept (filesAfter base before) u.reported = .ok files)
    (path : String) : Snapshot.read? (Filesystem.snapshot (filesAfter base (u :: before))) path =
      Snapshot.read? u.reported path := by
  obtain ⟨files, hfiles⟩ := h
  simp only [filesAfter, Filesystem.after, hfiles]
  exact LawfulFilesystem.read?_accepted hfiles path

/-- **What an update says of a path stands as long as no later one changes the path** and all of
them were made on copies that had the update. -/
theorem survives [LawfulFilesystem F] {base : F} {update : Update} {earlier : List Update}
    {path : String} :
    ∀ later : List Update, CopiesTraced base (later ++ update :: earlier) →
      (∀ u ∈ later, ¬ u.Changes path ∧ earlier.length < u.copy.after) →
        Snapshot.read? (Filesystem.snapshot (filesAfter base (later ++ update :: earlier))) path =
          Snapshot.read? update.reported path
  | [], htraced, _ => read?_filesAfter htraced.2.2 path
  | u :: later, htraced, hlater => by
    rw [List.cons_append] at htraced ⊢
    obtain ⟨htraced, ⟨hle, hfiles⟩, hok⟩ := htraced
    obtain ⟨hsame, hafter⟩ := hlater u List.mem_cons_self
    have hsame : Snapshot.read? u.reported path = Snapshot.read? u.copy.files path := not_not.mp hsame
    -- the copy was made when fewer updates had been taken over, but this one among them
    have hdrop : (later ++ update :: earlier).length - u.copy.after ≤ later.length := by
      rw [List.length_append, List.length_cons]
      omega
    rw [read?_filesAfter hok, hsame, hfiles, List.drop_append_of_le_length hdrop]
    refine survives (later.drop _) ?_ fun w hw => hlater w ?_
    · rw [← List.drop_append_of_le_length hdrop]
      exact htraced.drop _
    · exact List.mem_cons_of_mem u (List.mem_of_mem_drop hw)
  termination_by later => later.length
  decreasing_by
    rw [List.length_drop, List.length_cons]
    omega

/-- The filesystem, the copies and the updates fit together. -/
structure Updates.Inv (base : F) (u : Updates F) : Prop where
  files : u.files = filesAfter base u.taken
  copies : ∀ c ∈ u.copies, c.TakenFrom base u.taken
  traced : CopiesTraced base u.taken

theorem Updates.Inv.give {base : F} {u : Updates F} (h : u.Inv base) (stage : Nat) :
    (u.give stage).Inv base where
  files := h.files
  copies := by
    intro c hc
    rcases List.mem_cons.mp hc with rfl | hc
    · refine ⟨Nat.le_refl _, ?_⟩
      change Filesystem.snapshot u.files =
        Filesystem.snapshot (filesAfter base (u.taken.drop (u.taken.length - _)))
      rw [Nat.sub_self, List.drop_zero, h.files]
    · exact h.copies c hc
  traced := h.traced

theorem Updates.Inv.take {base : F} {u : Updates F} (h : u.Inv base) (stage : Nat)
    (changed : Option Snapshot) : (u.take stage changed).Inv base := by
  unfold Updates.take
  split
  · exact h
  · rename_i s
    split
    · rename_i copy files hcopy hfiles
      have hof : copy.TakenFrom base u.taken := h.copies copy (List.mem_of_find?_eq_some hcopy)
      refine ⟨?_, fun c hc => (h.copies c hc).cons _, h.traced, hof, files, h.files ▸ hfiles⟩
      rw [filesAfter, Filesystem.after, ← h.files, hfiles]
    · exact h

theorem Journal.updates_inv (base : F) (j : Journal) : (j.updates base).Inv base := by
  induction j with
  | nil => exact ⟨rfl, nofun, trivial⟩
  | cons n past ih =>
    cases n with
    | started k input => exact ih.give k
    | handled k e =>
      cases e with
      | ended changed => exact ih.take k changed
      | _ => exact ih
    | _ => exact ih

@[simp] theorem Updates.take_copies (u : Updates F) (stage : Nat) (changed : Option Snapshot) :
    (u.take stage changed).copies = u.copies := by
  unfold take
  split
  · rfl
  · split <;> rfl

/-- A copy was given to each stage that was set going. -/
theorem Journal.copies_stage (base : F) (j : Journal) :
    ((j.updates base).copies.map Copy.stage).reverse = j.started := by
  induction j with
  | nil => rfl
  | cons n past ih =>
    cases n with
    | started k input =>
      rw [started_cons_started, ← ih]
      simp [updates, Updates.give]
    | handled k e =>
      cases e with
      | ended changed => simpa [updates, started] using ih
      | _ => exact ih
    | _ => exact ih

variable {P : Type} [Program P] {ctx : Setting P} {base : F} {r r' : Run P F}

theorem Pipeline.OrderInv.copy? {s : Pipeline P F} (ho : s.OrderInv) (base : F) {k : Nat}
    (hk : k ∈ s.indices) : ∃ copy, (s.journal.updates base).copy? k = some copy := by
  have hstarted : k ∈ ((s.journal.updates base).copies.map Copy.stage).reverse := by
    rw [Journal.copies_stage, ho.started, List.mem_range]
    exact ho.below k hk
  obtain ⟨copy, hcopy, rfl⟩ := List.mem_map.mp (List.mem_reverse.mp hstarted)
  rw [← Option.isSome_iff_exists, Updates.copy?, List.find?_isSome]
  exact ⟨copy, hcopy, by simp⟩

/-- Where the stage has its copy, the files of the updates go along with those of the pipeline. -/
theorem Updates.take_files {u : Updates F} {stage : Nat} {copy : Copy}
    (hcopy : u.copy? stage = some copy) (changed : Option Snapshot) :
    (u.take stage changed).files = Filesystem.after u.files changed := by
  cases changed with
  | none => rfl
  | some s =>
    simp only [take, hcopy, Filesystem.after]
    cases Filesystem.accept u.files s <;> rfl

namespace Pipeline

variable {s t : Pipeline P F}

/-- The files are those that the journal tells of. -/
def FilesInv (base : F) (s : Pipeline P F) : Prop := s.files = (s.journal.updates base).files

theorem FilesInv.move {c : Console} (hmove : Move c s t) (ho : s.OrderInv) (h : s.FilesInv base) :
    t.FilesInv base := by
  cases hmove with
  | retired hqueue hfound hinner =>
    obtain ⟨copy, hcopy⟩ := ho.copy? base (mem_indices hfound)
    exact (congrArg (Filesystem.after · _) h).trans (Updates.take_files hcopy _).symm
  | _ => exact h

end Pipeline

/-! ## Updates of a run -/

/-- The store of a run is the one that its journal tells of, and what it gave out are the copies. -/
structure UpdatesInv (s : Session F) (r : Run P F) : Prop where
  files : r.session.files = (r.journal.updates s.files).files
  exports : r.session.exports =
    s.exports ++ (r.journal.updates s.files).copies.reverse.map Copy.files

theorem updates_onData (ctx : Setting P) (index : Nat) (data : Bytes) (r : Run P F) :
    (onData ctx index data r).journal.updates base = r.journal.updates base := by
  unfold onData
  split
  · rfl
  · split
    · rfl
    · split
      · split <;> rfl
      · rfl

theorem updates_onLine (line : Option String) (r : Run P F) :
    (onLine line r).journal.updates base = r.journal.updates base := by
  unfold onLine
  split
  · rfl
  · simp only
    split <;> rfl
  · rfl

theorem updates_onRequest (index : Nat) (r : Run P F) :
    (onRequest index r).journal.updates base = r.journal.updates base := by
  unfold onRequest
  split
  · split <;> rfl
  · rfl

theorem updates_stepWork (index : Nat) (r : Run P F) :
    (r.stepWork index).journal.updates base = r.journal.updates base := by
  unfold stepWork
  split
  · rfl
  · split <;> rfl

theorem UpdatesInv.change {s : Session F} (h : UpdatesInv s r) (hchange : Change ctx r r')
    (ho : r.pipeline.OrderInv) : UpdatesInv s r' := by
  have hstored : r'.pipeline.FilesInv s.files := by
    have hkeep := Moves.invariant
      (Q := fun t => t.OrderInv ∧ t.FilesInv s.files) (fun hm h => ⟨h.1.move hm, h.2.move hm h.1⟩)
      hchange.moves ⟨ho, h.files⟩
    exact hkeep.2
  refine ⟨hstored, ?_⟩
  -- what was given out changes only when a stage is set going
  have hquiet : r'.session.exports = r.session.exports →
      (r'.journal.updates s.files).copies = (r.journal.updates s.files).copies →
        r'.session.exports =
          s.exports ++ (r'.journal.updates s.files).copies.reverse.map Copy.files := by
    intro hexports hcopies
    rw [hexports, hcopies]
    exact h.exports
  cases hchange with
  | aside hpipeline hmarks =>
    refine hquiet (Session.exports_congr hmarks) ?_
    have hjournal : r'.journal = r.journal := congrArg Pipeline.journal hpipeline
    rw [hjournal]
  | worked index =>
    exact hquiet (Session.exports_congr (congrArg Status.marks (status_stepWork r index)))
      (congrArg Updates.copies (updates_stepWork index r))
  | dropped hqueue hgone => exact hquiet rfl rfl
  | data hqueue hfound =>
    exact hquiet (Session.exports_congr (congrArg Status.marks (status_onData _ ctx _ _)))
      (congrArg Updates.copies (updates_onData ctx _ _ _))
  | asked hqueue hfound =>
    exact hquiet (Session.exports_congr (congrArg Status.marks (status_onRequest _ _)))
      (congrArg Updates.copies (updates_onRequest _ _))
  | @retired index changed mailbox host hqueue hfound hinner =>
    have hjournal : ((r.taken index (.ended changed) mailbox).retire index changed).journal =
        .handled index (.ended changed) :: r.journal :=
      congrArg Pipeline.journal (pipeline_retire _ index changed)
    refine hquiet (Session.exports_congr (congrArg Status.marks (status_retire _ index changed))) ?_
    rw [hjournal]
    exact Updates.take_copies _ index changed
  | @spawned stage hstage hroom hready hactive =>
    obtain ⟨_, host, events, -, -, hpipeline⟩ := spawnStage_spec hstage hactive
    have hstatus := spawnStage_status hstage hactive
    generalize spawnStage ctx r.nextSpawn r = r' at hpipeline hstatus ⊢
    have hjournal : r'.journal = .started host.index r.pipeline.gathered :: r.journal :=
      congrArg Pipeline.journal hpipeline
    have hmarks : r'.session.marks = r.session.marks ++ [.exported r.session.snapshot] :=
      congrArg Status.marks hstatus
    have hcopies : (r'.journal.updates s.files).copies.reverse.map Copy.files =
        (r.journal.updates s.files).copies.reverse.map Copy.files ++
          [r.session.snapshot] := by
      rw [hjournal, Session.snapshot, h.files]
      simp [Journal.updates, Updates.give]
    rw [hcopies, Session.exports_append hmarks, h.exports, List.append_assoc]
    rfl
  | @line source line hbegun htyped =>
    refine hquiet ?_ (congrArg Updates.copies (updates_onLine line _))
    rw [Session.exports_congr (congrArg Status.marks (status_onLine _ line))]
    cases line <;> simp [Session.exports, record, Session.record, setInput, Effect.exported?]

/-! ## Stages one after another -/

/-- Every update was made on a copy that had all those before it. -/
def Sequential (taken : List Update) : Prop :=
  ∀ later u earlier, taken = later ++ u :: earlier → u.copy.after = earlier.length

theorem Sequential.nil : Sequential [] := fun _ _ _ hsplit => by simp at hsplit

theorem Sequential.cons {taken : List Update} {u : Update} (h : Sequential taken)
    (hu : u.copy.after = taken.length) : Sequential (u :: taken) := by
  intro later w earlier hsplit
  cases later with
  | nil =>
    cases hsplit
    exact hu
  | cons first later =>
    cases hsplit
    exact h later w earlier rfl

namespace Pipeline

variable {s t : Pipeline P F}

/-- Where stages follow one another only the newest is resident, and its copy has all updates. -/
structure SequentialInv (base : F) (s : Pipeline P F) : Prop where
  newest : ∀ k ∈ s.indices, k + 1 = s.next
  fresh : ∀ k ∈ s.indices, ∀ copy, (s.journal.updates base).copy? k = some copy →
    copy.after = (s.journal.updates base).taken.length
  inTurn : Sequential (s.journal.updates base).taken

theorem SequentialInv.take (h : s.SequentialInv base) {k : Nat} (hk : k ∈ s.indices)
    (changed : Option Snapshot) : Sequential ((s.journal.updates base).take k changed).taken := by
  unfold Updates.take
  split
  · exact h.inTurn
  · split
    · rename_i copy files hcopy _
      exact h.inTurn.cons (h.fresh k hk copy hcopy)
    · exact h.inTurn

theorem SequentialInv.congr (h : s.SequentialInv base) (hindices : t.indices = s.indices)
    (hnext : t.next = s.next)
    (hupdates : t.journal.updates base = s.journal.updates base) : t.SequentialInv base where
  newest := by
    rw [hindices, hnext]
    exact h.newest
  fresh := by
    rw [hindices, hupdates]
    exact h.fresh
  inTurn := by
    rw [hupdates]
    exact h.inTurn

theorem sharedMemory_move {c : Console} (hmove : Move c s t) : t.sharedMemory = s.sharedMemory := by
  cases hmove <;> rfl

theorem SequentialInv.move {c : Console} (hmove : Move c s t) (ho : s.OrderInv)
    (hapart : s.sharedMemory = false) (h : s.SequentialInv base) : t.SequentialInv base := by
  cases hmove with
  | @retired index host changed rest hqueue hfound hinner =>
    have hmem := mem_indices hfound
    -- the only resident has gone
    have hnone : ∀ k, k ∉ ((s.handle index (.ended changed) rest).retire index changed).indices := by
      intro k hk
      rw [retire_indices, List.mem_filter] at hk
      have hlone := h.newest index hmem
      have hlone' := h.newest k hk.1
      have hne : k ≠ index := by simpa using hk.2
      omega
    exact ⟨fun k hk => absurd hk (hnone k), fun k hk => absurd hk (hnone k), h.take hmem changed⟩
  | @spawned stage fresh host events hstage hroom hready hfresh hstart =>
    have hindex : host.index = s.next := (spawned_spec hstage hfresh hstart).1
    have hnone : ∀ k, k ∉ s.indices := by
      intro k hk
      have hover := hready k (h.newest k hk).symm (by simp [ahead, hapart])
      exact (ho.placed k (ho.below k hk)).mp hk hover
    have honly : ∀ k ∈ (s.spawn host events).indices, k = s.next := by
      intro k hk
      rw [spawn_indices, hindex] at hk
      exact List.mem_singleton.mp ((List.mem_append.mp hk).resolve_left (hnone k))
    refine ⟨fun k hk => ?_, fun k hk copy hcopy => ?_, h.inTurn⟩
    · rw [honly k hk]
      rfl
    · have hgiven : ((s.spawn host events).journal.updates base).copy? k =
          some ⟨s.next, (s.journal.updates base).taken.length,
            Filesystem.snapshot (s.journal.updates base).files⟩ := by
        rw [honly k hk, spawn, Journal.updates, Updates.copy?, Updates.give, hindex,
          List.find?_cons_of_pos (by simp)]
      rw [hgiven] at hcopy
      cases hcopy
      rfl
  | worked hfound hstep => exact h.congr (setHost_indices _ _) rfl rfl
  | fed hqueue hfound hinner hopen hreader hwrite => exact h.congr (setHost_indices _ _) rfl rfl
  | closed hreader => exact h.congr (setHost_indices _ _) rfl rfl
  | typed htyped hreader hwrite => exact h.congr (setHost_indices _ _) rfl rfl
  | _ => exact h.congr rfl rfl rfl

end Pipeline

/-! ## Completed runs -/

/-- A run and what it has taken over: where its stages follow one another, nothing on an old copy. -/
structure UpdateAccount (s : Session F) (r : Run P F) : Prop where
  recorded : UpdatesInv s r
  inTurn : s.factory.sharedMemory = false → Sequential (r.journal.updates s.files).taken

theorem UpdateAccount.congr {s : Session F} (h : UpdateAccount s r)
    (hjournal : r'.journal = r.journal) (hfiles : r'.session.files = r.session.files)
    (hexports : r'.session.exports = r.session.exports) : UpdateAccount s r' where
  recorded := by
    refine ⟨?_, ?_⟩
    · rw [hfiles, hjournal]
      exact h.recorded.files
    · rw [hexports, hjournal]
      exact h.recorded.exports
  inTurn := by
    rw [hjournal]
    exact h.inTurn

theorem UpdateAccount.takeUp {s : Session F} (h : UpdateAccount s r) :
    UpdateAccount s r.takeUp := by
  refine h.congr ?_ ?_ (Session.exports_congr (congrArg Status.marks (status_takeUp r)))
  · exact congrArg Pipeline.journal (pipeline_takeUp r)
  · exact congrArg Pipeline.files (pipeline_takeUp r)

theorem UpdateAccount.succeed {s : Session F} (h : UpdateAccount s r) :
    UpdateAccount s r.succeed := by
  unfold Run.succeed complete
  split
  · exact h.congr rfl rfl rfl
  · refine h.congr rfl rfl ?_
    simp [Session.exports, record, Session.record, dismissAll, Effect.exported?]

theorem reached_updateAccount {line : String} {s : Session F} {killed : Bool}
    {choices : List Choice} (hactive : (reached ctx line s killed choices).active = true) :
    UpdatesInv s (reached ctx line s killed choices) ∧
      (s.factory.sharedMemory = false →
        (reached ctx line s killed choices).pipeline.SequentialInv s.files) := by
  obtain ⟨statements, effects, stages, -, hresolve, hchanges⟩ := reached_changes hactive
  have hexports : (s.record effects).exports = s.exports :=
    Session.exports_congr (Resolver.marks_resolved hresolve s)
  have hbegun : UpdatesInv s (beginning line (s.record effects) stages killed) :=
    ⟨rfl, hexports.trans (List.append_nil _).symm⟩
  have hkeep := Changes.invariant
    (Q := fun r => r.pipeline.OrderInv ∧ UpdatesInv s r ∧ (s.factory.sharedMemory = false →
      r.pipeline.sharedMemory = false ∧ r.pipeline.SequentialInv s.files))
        (fun hchange h => ?_) hchanges
    ⟨.opening stages (s.record effects), hbegun, fun hapart =>
      ⟨hapart, nofun, nofun, .nil⟩⟩
  · exact ⟨hkeep.2.1, fun hapart => (hkeep.2.2 hapart).2⟩
  · obtain ⟨ho, hr, hsingle⟩ := h
    refine ⟨Moves.invariant (fun hm ho => Pipeline.OrderInv.move hm ho) hchange.moves ho,
      hr.change hchange ho, fun hapart => ?_⟩
    have hmoves := Moves.invariant
      (Q := fun t => t.OrderInv ∧ t.sharedMemory = false ∧ t.SequentialInv s.files)
      (fun hm h =>
        ⟨h.1.move hm, (Pipeline.sharedMemory_move hm).trans h.2.1, h.2.2.move hm h.1 h.2.1⟩)
      hchange.moves ⟨ho, hsingle hapart⟩
    exact hmoves.2

/-- The end of the last stage is taken over like any other. -/
theorem LastStageEnded.updateAccount {s : Session F} {index : Nat} {changed : Option Snapshot}
    {mailbox : Mailbox (Nat × StageEvent)} (h : LastStageEnded r r' index changed mailbox)
    (ho : r.pipeline.OrderInv) (hr : UpdatesInv s r)
    (hsingle : s.factory.sharedMemory = false → r.pipeline.SequentialInv s.files) :
    UpdateAccount s r' := by
  have hmem := Pipeline.host?_isSome.mp h.found
  obtain ⟨copy, hcopy⟩ := ho.copy? s.files hmem
  have hpipeline := pipeline_retire (r.taken index (.ended changed) mailbox) index changed
  have hmarks := congrArg Status.marks
    (status_retire (r.taken index (.ended changed) mailbox) index changed)
  rw [h.result]
  generalize (r.taken index (.ended changed) mailbox).retire index changed = last
    at hpipeline hmarks ⊢
  have hjournal : last.journal = .handled index (.ended changed) :: r.journal :=
    congrArg Pipeline.journal hpipeline
  have hfiles : last.session.files = Filesystem.after r.session.files changed :=
    congrArg Pipeline.files hpipeline
  refine UpdateAccount.takeUp (UpdateAccount.succeed ⟨⟨?_, ?_⟩, fun hapart => ?_⟩)
  · rw [hjournal, hfiles, hr.files]
    exact (Updates.take_files hcopy changed).symm
  · have hexports : last.session.exports = r.session.exports := Session.exports_congr hmarks
    rw [hjournal, hexports, hr.exports, Journal.updates, Updates.take_copies]
  · rw [hjournal]
    exact (hsingle hapart).take hmem changed

theorem completed_updateAccount {line : String} {s : Session F} {killed : Bool}
    {choices : List Choice}
    {rep : Report} (hreport : (reached ctx line s killed choices).report = some rep)
    (hcompleted : rep.outcome = .completed) :
    UpdateAccount s (reached ctx line s killed choices) := by
  obtain ⟨before, c, index, changed, mailbox, hopen, hlast, heq⟩ :=
    reached_lastStageEnded hreport hcompleted
  obtain ⟨hrecorded, hsingle⟩ := reached_updateAccount hopen.active
  have haccounted := hlast.updateAccount (reached_orderInv hopen.active) hrecorded hsingle
  rw [heq]
  exact haccounted.congr rfl rfl rfl

/-- What becomes of the updates of a run. -/
structure UpdatesSpec (s : Session F) (r : Run P F) : Prop where
  recorded : UpdatesInv s r
  /-- What an update says of a path is so at the end, unless a later one changed the path
  or was made on a copy that was given before. -/
  survives : ∀ later update earlier, (r.journal.updates s.files).taken = later ++ update :: earlier →
    ∀ path, (∀ u ∈ later, ¬ u.Changes path ∧ earlier.length < u.copy.after) →
      Snapshot.read? r.session.snapshot path =
        Snapshot.read? update.reported path
  /-- Where stages follow one another, unless a later one changed the path. -/
  sequential : s.factory.sharedMemory = false → ∀ later update earlier,
    (r.journal.updates s.files).taken = later ++ update :: earlier →
      ∀ path, (∀ u ∈ later, ¬ u.Changes path) →
        Snapshot.read? r.session.snapshot path =
          Snapshot.read? update.reported path

/-- **An update of a completed run is lost only to a later one that changed the same path or was made
on an older copy**; where stages follow one another there are no older copies. -/
theorem updates_kept [LawfulFilesystem F] (ctx : Setting P) (line : String) (s : Session F)
    (killed : Bool) (choices : List Choice) {rep : Report}
    (hreport : (reached ctx line s killed choices).report = some rep)
    (hcompleted : rep.outcome = .completed) :
    UpdatesSpec s (reached ctx line s killed choices) := by
  obtain ⟨hrecorded, hinTurn⟩ := completed_updateAccount hreport hcompleted
  obtain ⟨hstore, -, htraced⟩ :=
    Journal.updates_inv s.files (reached ctx line s killed choices).journal
  have hsurvives : ∀ later update earlier,
      ((reached ctx line s killed choices).journal.updates s.files).taken =
        later ++ update :: earlier →
      ∀ path, (∀ u ∈ later, ¬ u.Changes path ∧ earlier.length < u.copy.after) →
        Snapshot.read? (reached ctx line s killed choices).session.snapshot path =
          Snapshot.read? update.reported path := by
    intro later update earlier htaken path hlater
    rw [Session.snapshot, hrecorded.files, hstore, htaken]
    exact Run.survives later (htaken ▸ htraced) hlater
  refine ⟨hrecorded, hsurvives, fun hapart later update earlier htaken path hlater => ?_⟩
  refine hsurvives later update earlier htaken path fun u hu => ⟨hlater u hu, ?_⟩
  -- the copy of a later update had all that came before it, and so this one
  obtain ⟨front, back, rfl⟩ := List.append_of_mem hu
  have hafter : u.copy.after = (back ++ update :: earlier).length := by
    refine hinTurn hapart front u (back ++ update :: earlier) ?_
    rw [htaken, List.append_assoc, List.cons_append]
  rw [hafter, List.length_append, List.length_cons]
  omega

/-- Two stages that change different paths. Where they work alongside each other the second one is
given its copy before the first one has changed anything. -/
def twoPaths : Setting Routine :=
  .fixed [⟨["p"], [], .program [.store "a" (.text "1")] 0⟩,
    ⟨["q"], [], .program [.copyRest, .store "b" (.text "2")] 0⟩] .none true

/-- The first stage ends, then the second. -/
def oneAfterOther : List Choice :=
  [.work 0, .work 0, .event, .work 1, .work 1, .work 1, .work 1, .event]

theorem updates_kept_twoPaths :
    UpdatesSpec (.streaming 4) (reached twoPaths "" (.streaming 4) false oneAfterOther) ∧
      UpdatesSpec .sequential (reached twoPaths "" .sequential false oneAfterOther) ∧
      ((reached twoPaths "" .sequential false oneAfterOther).journal.updates
        FileStore.empty).taken.length = 2 :=
  ⟨updates_kept _ _ _ _ _ rfl rfl, updates_kept _ _ _ _ _ rfl rfl, by decide⟩

/-- **That nobody changed a path later does not keep an update of it.** What the first stage wrote is
gone when the second one, which never saw it, has ended; one after the other they keep both. -/
theorem twoPaths_overlapping_loses :
    (reached twoPaths "" .sequential false oneAfterOther).session.files =
      .ofList [("a", "1"), ("b", "2")] ∧
    (reached twoPaths "" (.streaming 4) false oneAfterOther).session.files = .ofList [("b", "2")] ∧
    ¬ ∀ (line : String) (s : Session FileStore) (killed : Bool) (choices : List Choice)
      (rep : Report),
      (reached twoPaths line s killed choices).report = some rep → rep.outcome = .completed →
        ∀ later update earlier,
          ((reached twoPaths line s killed choices).journal.updates s.files).taken =
            later ++ update :: earlier →
          ∀ path, update.Changes path → (∀ u ∈ later, ¬ u.Changes path) →
            (reached twoPaths line s killed choices).session.files.read? path =
              Snapshot.read? update.reported path := by
  refine ⟨rfl, rfl, fun hclaim => ?_⟩
  have hkept := hclaim "" (.streaming 4) false oneAfterOther _ rfl rfl
    [⟨⟨1, 0, .object []⟩, .object [("b", .text "2")]⟩]
    ⟨⟨0, 0, .object []⟩, .object [("a", .text "1")]⟩ [] rfl "a" (by decide) (by decide)
  exact absurd hkept (by decide)

end Run

end Pipework
