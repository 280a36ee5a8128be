import Pipework.Proofs.Run.Window

/-!
# Relaying output

What a stage puts out reaches the next one byte for byte: as long as the next stage has not been set
going it waits in the backlog, and from then on all of it has been given to that stage, as its first
input and by later writes (`relay_exact`). The invariant behind it is `RelayInv`: it ties the
journal to the backlog and to what each resident host still holds.
-/

namespace Pipework

namespace Run

variable {P F : Type} [Program P] [Filesystem F]

namespace Journal

@[simp] theorem sent_cons_data (i k : Nat) (data : Bytes) (j : Journal) :
    sent i (.handled k (.data data) :: j) =
      if k = i ∧ !hasEnded (i + 1) j then sent i j ++ data else sent i j := rfl

@[simp] theorem sent_cons_started (i k : Nat) (input : Option Bytes) (j : Journal) :
    sent i (.started k input :: j) = sent i j := rfl

@[simp] theorem sent_cons_written (i k : Nat) (data : Bytes) (j : Journal) :
    sent i (.written k data :: j) = sent i j := rfl

@[simp] theorem given_cons_handled (i k : Nat) (e : StageEvent) (j : Journal) :
    given i (.handled k e :: j) = given i j := rfl

@[simp] theorem given_cons_started (i k : Nat) (input : Option Bytes) (j : Journal) :
    given i (.started k input :: j) = if k = i then given i j ++ input.getD [] else given i j := rfl

@[simp] theorem given_cons_written (i k : Nat) (data : Bytes) (j : Journal) :
    given i (.written k data :: j) = if k = i then given i j ++ data else given i j := rfl

end Journal

namespace Pipeline

open Journal

/-- A resident host has its own stage, its input is over exactly when the stage before it has ended,
and what it holds is the end of what it was given. -/
structure HostInv (s : Pipeline P F) (h : Host P) : Prop where
  stage : s.stages[h.index]? = some h.stage
  kind : h.kind = if s.ahead h.index then .concurrent else .inline
  live : h.cancelled = false
  sound : h.ChannelSound
  shut : ∀ k, h.index = k + 1 → (h.isShut = true ↔ k ∈ s.finished)
  unread : h.unread <:+ given h.index s.journal

structure RelayInv (s : Pipeline P F) : Prop where
  hosts : ∀ k h, s.host? k = some h → s.HostInv h
  passed : ∀ i, i + 1 < s.next → given (i + 1) s.journal = sent i s.journal
  waiting : ∀ i, i + 1 = s.next → s.next < s.stages.length → s.backlog = sent i s.journal
  unborn : ∀ k, s.next ≤ k → given k s.journal = [] ∧ sent k s.journal = []
  clear : s.next = 0 ∨ s.next = s.stages.length → s.backlog = []
  accepted : ∀ k data why, Note.refused (k + 1) data why ∉ s.journal

variable {s t : Pipeline P F} {h h' : Host P}

theorem HostInv.after (ht : s.HostInv h) (hstages : t.stages = s.stages)
    (hshared : t.sharedMemory = s.sharedMemory) (hsame : Host.SameIdentity h h')
    (hsound : h'.ChannelSound) (hshut : ∀ k, h.index = k + 1 → (h'.isShut = true ↔ k ∈ t.finished))
    (hunread : h'.unread <:+ given h.index t.journal) : t.HostInv h' where
  stage := by
    rw [hstages, hsame.index, hsame.stage]
    exact ht.stage
  kind := by
    rw [ahead, hstages, hshared, hsame.index, hsame.kind]
    exact ht.kind
  live := hsame.cancelled.trans ht.live
  sound := hsound
  shut := by
    rw [hsame.index]
    exact hshut
  unread := by
    rw [hsame.index]
    exact hunread

theorem RelayInv.stage_of_host? (hr : s.RelayInv) {k : Nat} (hfound : s.host? k = some h) :
    s.stages[k]? = some h.stage := by
  have hstage := (hr.hosts _ _ hfound).stage
  rw [host?_index hfound] at hstage
  exact hstage

/-- Only a stage that works alongside the one before it reads from a channel. -/
theorem RelayInv.ahead_of_reader (hr : s.RelayInv) {k : Nat} (hreader : s.reader? k = some h) :
    s.ahead k = true := by
  obtain ⟨hfound, hkind⟩ := reader?_eq_some.mp hreader
  have hplace := (hr.hosts k h hfound).kind
  rw [host?_index hfound] at hplace
  exact ahead_of_kind (hplace.symm.trans hkind)

/-- What holds of a host goes on to hold while nothing happens to it. -/
theorem HostInv.congr (ht : s.HostInv h) (hstages : t.stages = s.stages)
    (hshared : t.sharedMemory = s.sharedMemory) (hfinished : t.finished = s.finished)
    (hgiven : given h.index t.journal = given h.index s.journal) : t.HostInv h :=
  ht.after hstages hshared (.refl h) ht.sound (hfinished ▸ ht.shut) (hgiven ▸ ht.unread)

/-- **While a stage is under way the one behind it can be fed**, if it has been set going at all. -/
theorem RelayInv.reader_open (hr : s.RelayInv) (ho : s.OrderInv) {k : Nat} {reader : Host P}
    (hfound : s.host? k = some h) (hreader : s.host? (k + 1) = some reader) :
    reader.kind = .concurrent ∧ reader.ChannelSound ∧ reader.isShut = false := by
  have htended := hr.hosts _ _ hreader
  have hindex := host?_index hreader
  have hunder := (ho.resident hfound).2
  have hshut : reader.isShut = false := by
    refine Bool.eq_false_iff.mpr fun hs => hunder ?_
    exact (htended.shut k hindex).mp hs
  refine ⟨?_, htended.sound, hshut⟩
  cases hkind : reader.kind with
  | concurrent => rfl
  | inline => exact absurd (Host.isShut_of_inline hkind) (by simp [hshut])

/-- Output is put by only for a stage that is next to be set going. -/
theorem RelayInv.next_of_unread (hr : s.RelayInv) (ho : s.OrderInv) {k : Nat}
    (hfound : s.host? k = some h) (hopen : k + 1 ∉ s.finished)
    (hreader : s.sharedMemory = false ∨ s.reader? (k + 1) = none) : k + 1 = s.next := by
  have hlt := (ho.resident hfound).1
  rcases Nat.lt_or_ge (k + 1) s.next with hborn | hunborn
  · -- the reader would be resident, could be fed, and so would be there to read
    exfalso
    obtain ⟨reader, hfound'⟩ : ∃ reader, s.host? (k + 1) = some reader := by
      rw [← Option.isSome_iff_exists, host?_isSome]
      exact (ho.placed (k + 1) hborn).mpr hopen
    obtain ⟨hkind, -, -⟩ := hr.reader_open ho hfound hfound'
    have hsome := reader?_eq_some.mpr ⟨hfound', hkind⟩
    rcases hreader with hshared | hnone
    · have hahead := hr.ahead_of_reader hsome
      simp [ahead, hshared] at hahead
    · cases hsome.symm.trans hnone
  · omega

/-! ## Move by move -/

/-- Only the bookkeeping of the hosts has to be looked at where the journal says nothing new. -/
theorem RelayInv.of_hosts (hr : s.RelayInv) (hnext : t.next = s.next)
    (hstages : t.stages = s.stages)
    (hbacklog : t.backlog = s.backlog) (hjournal : t.journal = s.journal)
    (hhosts : ∀ k h, t.host? k = some h → t.HostInv h) : t.RelayInv where
  hosts := hhosts
  passed := by
    rw [hnext, hjournal]
    exact hr.passed
  waiting := by
    rw [hnext, hstages, hbacklog, hjournal]
    exact hr.waiting
  unborn := by
    rw [hnext, hjournal]
    exact hr.unborn
  clear := by
    rw [hnext, hstages, hbacklog]
    exact hr.clear
  accepted := by
    rw [hjournal]
    exact hr.accepted

theorem RelayInv.worked (hr : s.RelayInv) {events : List StageEvent}
    (hfound : s.host? h.index = some h) (hstep : h.step = some (h', events)) :
    ({ s.setHost h' with
        queue := s.queue ++ events.map (h.index, ·) } : Pipeline P F).RelayInv := by
  have htended := hr.hosts _ _ hfound
  obtain ⟨hsame, hsound, hshut, piece, hpiece⟩ := Host.step_spec htended.sound hstep
  refine hr.of_hosts rfl rfl rfl rfl fun k other hk => ?_
  have hk : (s.setHost h').host? k = some other := hk
  rw [host?_setHost] at hk
  split at hk
  · rename_i hindex
    rw [hindex, hsame.index, hfound] at hk
    cases hk
    refine htended.after rfl rfl hsame hsound (fun k hk => ?_) ?_
    · rw [hshut]
      exact htended.shut k hk
    · exact List.IsSuffix.trans ⟨piece, hpiece.symm⟩ htended.unread
  · exact (hr.hosts _ _ hk).congr rfl rfl rfl rfl

/-- Handling an event that carries no output to the next stage changes nothing that is relayed. -/
theorem RelayInv.handled (hr : s.RelayInv) {index : Nat} {e : StageEvent}
    {rest : List (Nat × StageEvent)}
    (hsent : ∀ i, i + 1 < s.stages.length ∨ s.next ≤ i →
      sent i (.handled index e :: s.journal) = sent i s.journal)
    (hnext : s.next ≤ s.stages.length) : (s.handle index e rest).RelayInv where
  hosts := fun k h hk => (hr.hosts k h hk).congr rfl rfl rfl rfl
  passed := fun i hi => by
    have hi : i + 1 < s.next := hi
    refine (hr.passed i hi).trans (hsent i (Or.inl ?_)).symm
    omega
  waiting := fun i hi hlt => by
    have hi : i + 1 = s.next := hi
    have hlt : s.next < s.stages.length := hlt
    refine (hr.waiting i hi hlt).trans (hsent i (Or.inl ?_)).symm
    omega
  unborn := fun k hk => ⟨(hr.unborn k hk).1, (hsent k (Or.inr hk)).trans (hr.unborn k hk).2⟩
  clear := hr.clear
  accepted := fun k data why hmem =>
    hr.accepted k data why ((List.mem_cons.mp hmem).resolve_left (by simp))

/-- What is handled while the next stage has not ended is sent on. -/
theorem OrderInv.sent_data (ho : s.OrderInv) {index : Nat} (hopen : index + 1 ∉ s.finished)
    (data : Bytes) (i : Nat) : sent i (.handled index (.data data) :: s.journal) =
      if index = i then sent i s.journal ++ data else sent i s.journal := by
  rw [sent_cons_data]
  by_cases hi : index = i
  · subst hi
    simp [ho.unended hopen]
  · simp [hi]

/-- Output that the next stage takes is sent and given alike. -/
theorem RelayInv.fed (hr : s.RelayInv) (ho : s.OrderInv) {index : Nat} {reader reader' : Host P}
    {data : Bytes} {rest : List (Nat × StageEvent)} (hfound : s.host? index = some h)
    (hopen : index + 1 ∉ s.finished) (hreader : s.reader? (index + 1) = some reader)
    (hwrite : reader.writeInput data = .ok reader') :
    ({ (s.handle index (.data data) rest).setHost reader' with
      journal := .written (index + 1) data :: .handled index (.data data) :: s.journal } :
      Pipeline P F).RelayInv := by
  have hfound' := (reader?_eq_some.mp hreader).1
  have hindex := host?_index hfound'
  have htended := hr.hosts _ _ hfound'
  have hborn := (ho.resident hfound').1
  obtain ⟨-, hsound, hshut⟩ := hr.reader_open ho hfound hfound'
  obtain ⟨fed, hfed, hsame, hsound', hshut', hunread, -⟩ := Host.writeInput_spec hsound hshut data
  cases hfed.symm.trans hwrite
  -- only the stage that reports has sent more, and only the one behind it was given more
  have hsent : ∀ i, sent i (.written (index + 1) data :: .handled index (.data data) :: s.journal) =
      if index = i then sent i s.journal ++ data else sent i s.journal := by
    intro i
    rw [sent_cons_written]
    exact ho.sent_data hopen data i
  have hgiven : ∀ k, given k (.written (index + 1) data :: .handled index (.data data) :: s.journal) =
      if index + 1 = k then given k s.journal ++ data else given k s.journal := by
    intro k
    rw [given_cons_written, given_cons_handled]
  constructor
  · intro k other hk
    have hk : (s.setHost reader').host? k = some other := hk
    rw [host?_setHost, hsame.index, hindex] at hk
    split at hk
    · rename_i hkey
      rw [hkey, hfound'] at hk
      cases hk
      refine htended.after rfl rfl hsame hsound' (fun k hk => ?_) ?_
      · rw [hshut', ← hshut]
        exact htended.shut k hk
      · rw [hgiven, hindex, if_pos rfl, hunread]
        have hsuffix := htended.unread
        rw [hindex] at hsuffix
        obtain ⟨before, hbefore⟩ := hsuffix
        exact ⟨before, by rw [← hbefore, List.append_assoc]⟩
    · rename_i hkey
      refine (hr.hosts _ _ hk).congr rfl rfl rfl ?_
      rw [hgiven, host?_index hk, if_neg (Ne.symm hkey)]
  · intro i hi
    rw [hgiven, hsent, hr.passed i hi]
    simp only [Nat.add_right_cancel_iff]
  · intro i hi hlt
    have hi : i + 1 = s.next := hi
    rw [hsent, if_neg (by omega)]
    exact hr.waiting i hi hlt
  · intro k hk
    have hk : s.next ≤ k := hk
    rw [hgiven, hsent, if_neg (by omega), if_neg (by omega)]
    exact hr.unborn k hk
  · exact hr.clear
  · intro k data' why hmem
    have hmem := (List.mem_cons.mp hmem).resolve_left (by simp)
    exact hr.accepted k data' why ((List.mem_cons.mp hmem).resolve_left (by simp))

theorem RelayInv.stored (hr : s.RelayInv) (ho : s.OrderInv) {index : Nat} {data : Bytes}
    {rest : List (Nat × StageEvent)} (hfound : s.host? index = some h)
    (hinner : index + 1 ≠ s.stages.length) (hopen : index + 1 ∉ s.finished)
    (hreader : s.sharedMemory = false ∨ s.reader? (index + 1) = none) :
    ({ s.handle index (.data data) rest with
      backlog := s.backlog ++ data } : Pipeline P F).RelayInv := by
  have hnext := hr.next_of_unread ho hfound hopen hreader
  have hle := ho.next_le
  have hsent := ho.sent_data hopen data
  constructor
  · intro k other hk
    exact (hr.hosts k other hk).congr rfl rfl rfl rfl
  · intro i hi
    have hi : i + 1 < s.next := hi
    refine (hr.passed i hi).trans ?_
    exact ((hsent i).trans (if_neg (by omega))).symm
  · intro i hi hlt
    have hi : i + 1 = s.next := hi
    obtain rfl : index = i := by omega
    refine (congrArg (· ++ data) (hr.waiting index hi hlt)).trans ?_
    exact ((hsent index).trans (if_pos rfl)).symm
  · intro k hk
    have hk : s.next ≤ k := hk
    refine ⟨(hr.unborn k hk).1, ?_⟩
    exact ((hsent k).trans (if_neg (by omega))).trans (hr.unborn k hk).2
  · intro hbound
    have hbound : s.next = 0 ∨ s.next = s.stages.length := hbound
    omega
  · intro k data' why hmem
    exact hr.accepted k data' why ((List.mem_cons.mp hmem).resolve_left (by simp))

/-- The reader of a stage that has ended finds the end of its input, what it holds stays. -/
theorem RelayInv.retire (hr : s.RelayInv) (k : Nat) (changed : Option Snapshot) :
    (s.retire k changed).RelayInv := by
  refine hr.of_hosts rfl rfl rfl rfl fun j other hj => ?_
  rw [host?_retire] at hj
  split at hj
  · cases hj
  · rw [host?_closeReader] at hj
    split at hj
    · rename_i hnext
      obtain ⟨reader, hfound, hclosed⟩ := Option.map_eq_some_iff.mp hj
      have hindex := host?_index hfound
      have htended := hr.hosts j reader hfound
      have hover : ∀ i, reader.index = i + 1 → i ∈ (s.retire k changed).finished := by
        intro i hi
        obtain rfl : i = k := by omega
        exact List.mem_cons_self
      obtain ⟨hsame, hsound, hshut, hunread, -⟩ := Host.closeInput_spec htended.sound
      split at hclosed
      · subst hclosed
        refine htended.after rfl rfl hsame hsound (fun i hi => ?_) ?_
        · exact iff_of_true hshut (hover i hi)
        · rw [hunread]
          exact htended.unread
      · rename_i hkind
        subst hclosed
        have hinline : reader.kind = .inline := by
          cases hk : reader.kind with
          | inline => rfl
          | concurrent => exact absurd hk hkind
        refine htended.after rfl rfl (.refl _) htended.sound (fun i hi => ?_) htended.unread
        exact iff_of_true (Host.isShut_of_inline hinline) (hover i hi)
    · rename_i hother
      have hindex := host?_index hj
      have htended := hr.hosts j other hj
      refine htended.after rfl rfl (.refl _) htended.sound (fun i hi => ?_) htended.unread
      rw [htended.shut i hi]
      refine ⟨List.mem_cons_of_mem k, fun hmem => ?_⟩
      rcases List.mem_cons.mp hmem with rfl | hmem
      · omega
      · exact hmem

/-! ### Setting a stage going -/

/-- A stage that is set going is given all that was put by. -/
theorem given_spawn (hindex : h.index = s.next) (events : List StageEvent) (k : Nat) :
    given k (s.spawn h events).journal =
      if s.next = k then given k s.journal ++ s.backlog else given k s.journal := by
  refine (given_cons_started _ _ _ _).trans ?_
  rw [hindex, gathered_getD]

theorem RelayInv.given_spawned (hr : s.RelayInv) (hindex : h.index = s.next)
    (events : List StageEvent) : given s.next (s.spawn h events).journal = s.backlog := by
  rw [given_spawn hindex, if_pos rfl, (hr.unborn s.next (Nat.le_refl _)).1, List.nil_append]

/-- The host of a stage that was set going holds what it was given, and its input is over if the
stage before it has ended. -/
theorem RelayInv.spawned (hr : s.RelayInv) {stage : Stage P} {fresh : Host P}
    {events : List StageEvent} (hstage : s.stages[s.next]? = some stage)
    (hready : ∀ k, s.next = k + 1 → s.ahead s.next = false → k ∈ s.finished)
    (hfresh : Host.Fresh s.next stage (Filesystem.snapshot s.files)
      (if s.ahead s.next then .concurrent else .inline) fresh)
    (hstart : fresh.start s.calls s.gathered = (h, events, none)) :
    (s.spawn h events).HostInv (if s.inputOver s.next then h.closeInput else h) := by
  obtain ⟨hindex, hplace, hkind, hlive, hsound, hopen, hunread⟩ := spawned_spec hstage hfresh hstart
  have hinv : ∀ h' : Host P, Host.SameIdentity h h' → h'.ChannelSound → h'.unread = h.unread →
      (∀ i, s.next = i + 1 → (h'.isShut = true ↔ i ∈ s.finished)) →
        (s.spawn h events).HostInv h' := by
    intro h' hsame hsound' hunread' hshut
    refine ⟨?_, ?_, hsame.cancelled.trans hlive, hsound', fun i hi => hshut i ?_, ?_⟩
    · rw [hsame.index, hsame.stage, hindex, hplace]
      exact hstage
    · rw [hsame.index, hsame.kind, hindex]
      exact hkind
    · exact hindex.symm.trans (hsame.index.symm.trans hi)
    · rw [hsame.index, hunread', hindex, hr.given_spawned hindex]
      exact hunread
  cases hover : s.inputOver s.next with
  | true =>
    -- the stage before it has ended, or the first stage cannot be typed to
    obtain ⟨hsame, hsound', hshut, hunread', -⟩ := Host.closeInput_spec hsound
    refine hinv _ hsame hsound' hunread' fun i hi => iff_of_true hshut ?_
    rw [hi] at hover
    simpa [inputOver] using hover
  | false =>
    refine hinv h (.refl h) hsound rfl fun i hi => ?_
    have hunder : i ∉ s.finished := by
      rw [hi] at hover
      simpa [inputOver] using hover
    have hahead : s.ahead s.next = true := by
      cases ha : s.ahead s.next with
      | true => rfl
      | false => exact absurd (hready i hi ha) hunder
    exact iff_of_false (by simp [hopen hahead]) hunder

theorem RelayInv.spawn (hr : s.RelayInv) (ho : s.OrderInv) {stage : Stage P} {fresh : Host P}
    {events : List StageEvent} (hstage : s.stages[s.next]? = some stage)
    (hready : ∀ k, s.next = k + 1 → s.ahead s.next = false → k ∈ s.finished)
    (hfresh : Host.Fresh s.next stage (Filesystem.snapshot s.files)
      (if s.ahead s.next then .concurrent else .inline) fresh)
    (hstart : fresh.start s.calls s.gathered = (h, events, none)) :
    (s.spawn h events).RelayInv := by
  have hindex := (spawned_spec hstage hfresh hstart).1
  have hlt : s.next < s.stages.length := (List.getElem?_eq_some_iff.mp hstage).1
  constructor
  · intro k other hk
    rw [host?_spawn, hindex] at hk
    rcases Option.or_eq_some_iff.mp hk with hk | ⟨-, hk⟩
    · refine (hr.hosts k other hk).congr rfl rfl rfl ?_
      have hborn := (ho.resident hk).1
      have hkey := host?_index hk
      rw [given_spawn hindex, if_neg (by omega)]
    · split at hk
      · cases hk
        exact hr.spawned hstage hready hfresh hstart
      · cases hk
  · intro i hi
    have hi : i + 1 < s.next + 1 := hi
    refine Eq.trans ?_ (sent_cons_started i h.index s.gathered s.journal).symm
    rcases Nat.lt_or_ge (i + 1) s.next with hborn | hnew
    · rw [given_spawn hindex, if_neg (by omega)]
      exact hr.passed i hborn
    · have hi' : i + 1 = s.next := by omega
      rw [hi', hr.given_spawned hindex]
      exact hr.waiting i hi' hlt
  · intro i hi hlt'
    have hi : i + 1 = s.next + 1 := hi
    obtain rfl : i = s.next := by omega
    exact ((sent_cons_started _ _ _ _).trans (hr.unborn s.next (Nat.le_refl _)).2).symm
  · intro k hk
    have hk : s.next + 1 ≤ k := hk
    have hunborn := hr.unborn k (by omega)
    refine ⟨?_, (sent_cons_started _ _ _ _).trans hunborn.2⟩
    rw [given_spawn hindex, if_neg (by omega)]
    exact hunborn.1
  · exact fun _ => rfl
  · intro k data why hmem
    exact hr.accepted k data why ((List.mem_cons.mp hmem).resolve_left (by simp))

/-! ### Typed input -/

theorem RelayInv.closed (hr : s.RelayInv) (hreader : s.reader? 0 = some h) :
    (s.setHost h.closeInput).RelayInv := by
  have hfound := (reader?_eq_some.mp hreader).1
  have hindex := host?_index hfound
  have htended := hr.hosts _ _ hfound
  obtain ⟨hsame, hsound, -, hunread, -⟩ := Host.closeInput_spec htended.sound
  refine hr.of_hosts rfl rfl rfl rfl fun k other hk => ?_
  rw [host?_setHost, hsame.index, hindex] at hk
  split at hk
  · rename_i hkey
    rw [hkey, hfound] at hk
    cases hk
    refine htended.after rfl rfl hsame hsound (fun i hi => ?_) ?_
    · omega
    · rw [hunread]
      exact htended.unread
  · exact (hr.hosts k other hk).congr rfl rfl rfl rfl

theorem RelayInv.typed (hr : s.RelayInv) (ho : s.OrderInv) {data : Bytes}
    (hreader : s.reader? 0 = some h) (hwrite : h.writeInput data = .ok h') :
    ({ s.setHost h' with journal := .written 0 data :: s.journal } : Pipeline P F).RelayInv := by
  obtain ⟨hfound, hkind⟩ := reader?_eq_some.mp hreader
  have hindex := host?_index hfound
  have htended := hr.hosts _ _ hfound
  have hborn := (ho.resident hfound).1
  have hshut : h.isShut = false := by
    refine Bool.eq_false_iff.mpr fun hs => ?_
    rw [Host.writeInput_shut htended.sound hkind hs] at hwrite
    cases hwrite
  obtain ⟨fed, hfed, hsame, hsound, -, hunread, -⟩ := Host.writeInput_spec htended.sound hshut data
  cases hfed.symm.trans hwrite
  have hgiven : ∀ k, given k (.written 0 data :: s.journal) =
      if 0 = k then given k s.journal ++ data else given k s.journal :=
    fun k => given_cons_written k 0 data s.journal
  constructor
  · intro k other hk
    have hk : (s.setHost h').host? k = some other := hk
    rw [host?_setHost, hsame.index, hindex] at hk
    split at hk
    · rename_i hkey
      rw [hkey, hfound] at hk
      cases hk
      refine htended.after rfl rfl hsame hsound (fun i hi => ?_) ?_
      · omega
      · have hsuffix := htended.unread
        rw [hindex] at hsuffix
        obtain ⟨before, hbefore⟩ := hsuffix
        rw [hgiven, hindex, if_pos rfl, hunread, ← hbefore]
        exact ⟨before, (List.append_assoc _ _ _).symm⟩
    · rename_i hkey
      refine (hr.hosts k other hk).congr rfl rfl rfl ?_
      rw [hgiven, host?_index hk, if_neg (by omega)]
  · intro i hi
    exact (hgiven (i + 1)).trans ((if_neg (by omega)).trans (hr.passed i hi))
  · exact hr.waiting
  · intro k hk
    have hk : s.next ≤ k := hk
    refine ⟨?_, (hr.unborn k hk).2⟩
    exact (hgiven k).trans ((if_neg (by omega)).trans (hr.unborn k hk).1)
  · exact hr.clear
  · intro k data' why hmem
    exact hr.accepted k data' why ((List.mem_cons.mp hmem).resolve_left (by simp))

theorem RelayInv.rejected (hr : s.RelayInv) (data : Bytes) (why : Channel.Refusal) :
    ({ s with journal := .refused 0 data why :: s.journal } : Pipeline P F).RelayInv where
  hosts := fun k h hk => (hr.hosts k h hk).congr rfl rfl rfl rfl
  passed := hr.passed
  waiting := hr.waiting
  unborn := hr.unborn
  clear := hr.clear
  accepted := fun k data' why' hmem =>
    hr.accepted k data' why' ((List.mem_cons.mp hmem).resolve_left (by simp))

end Pipeline

/-- **Every move passes output on exactly.** -/
theorem Pipeline.RelayInv.move {c : Console} {s t : Pipeline P F} (hmove : Move c s t)
    (ho : s.OrderInv) (hr : s.RelayInv) : t.RelayInv := by
  cases hmove with
  | worked hfound hstep => exact hr.worked hfound hstep
  | dropped hqueue hgone =>
    exact hr.of_hosts rfl rfl rfl rfl fun k h hk => (hr.hosts k h hk).congr rfl rfl rfl rfl
  | asked hqueue hfound => exact hr.handled (fun _ _ => rfl) ho.next_le
  | @shown index h data rest hqueue hfound hlast =>
    have hborn := (ho.resident hfound).1
    have hhandled : (s.handle index (.data data) rest).RelayInv := by
      refine hr.handled (fun i hi => ?_) ho.next_le
      rw [Journal.sent_cons_data, if_neg (by omega)]
    exact hhandled.of_hosts rfl rfl rfl rfl fun k h hk =>
      (hhandled.hosts k h hk).congr rfl rfl rfl rfl
  | discarded hqueue hfound hinner hover =>
    refine hr.handled (fun i _ => ?_) ho.next_le
    rw [Journal.sent_cons_data]
    refine if_neg fun h => ?_
    have hended := (ho.ended _).mpr hover
    rw [← h.1] at h
    simp [hended] at h
  | fed hqueue hfound hinner hopen hreader hwrite => exact hr.fed ho hfound hopen hreader hwrite
  | refused hqueue hfound hinner hopen hreader hwrite =>
    exfalso
    obtain ⟨-, hsound, hshut⟩ := hr.reader_open ho hfound (Pipeline.reader?_eq_some.mp hreader).1
    obtain ⟨_, hfed, -⟩ := Host.writeInput_spec hsound hshut _
    cases hfed.symm.trans hwrite
  | stored hqueue hfound hinner hopen hreader => exact hr.stored ho hfound hinner hopen hreader
  | retired hqueue hfound hinner => exact (hr.handled (fun _ _ => rfl) ho.next_le).retire _ _
  | spawned hstage hroom hready hfresh hstart => exact hr.spawn ho hstage hready hfresh hstart
  | closed hreader => exact hr.closed hreader
  | typed htyped hreader hwrite => exact hr.typed ho hreader hwrite
  | rejected htyped hreader hwrite => exact hr.rejected _ _

theorem Pipeline.RelayInv.opening (stages : List (Stage P)) (s : Session F) :
    (Pipeline.opening stages s).RelayInv where
  hosts := nofun
  passed := nofun
  waiting := nofun
  unborn := fun _ _ => ⟨rfl, rfl⟩
  clear := fun _ => rfl
  accepted := nofun

end Run

end Pipework
