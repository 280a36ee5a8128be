import Pipework.Proofs.Channel.Queue

/-!
# The cursors of a channel

A channel holds a stretch of the stream of bytes that it accepted: the ring from the one cursor to
the other, and the overflow behind it (`CursorInv`). What an operation can do is one of few things
(`OpCases`), and each keeps that (`OpCases.cursorInv`); so it holds after any operations on a new
channel (`ring_represents`).
-/

namespace Pipework

namespace Channel

variable {c c' : Channel} {op : Op} {stream gained : List UInt8}

/-! ## What an operation does -/

/-- All that an operation can do to a channel, with the bytes that are accepted by it. -/
inductive OpCases (c : Channel) : Op → List UInt8 → Channel → Prop where
  | refused {data : List UInt8} (hclosed : c.isClosed = true) : OpCases c (.write data) [] c
  | stored {data : List UInt8} (hopen : c.isClosed = false) :
      OpCases c (.write data) data (c.accept data)
  | closed : OpCases c .close [] c.close
  | ended : OpCases c .terminate [] c.terminate
  | idle {limit : Nat} {mayWait : Bool} : OpCases c (.read limit mayWait) [] c
  | parked {limit : Nat} (hidle : c.NothingToRead) : OpCases c (.read limit true) [] c.await
  | taken {limit : Nat} {mayWait : Bool} (hterminated : c.terminated = false) :
      OpCases c (.read limit mayWait) [] (c.take limit)

theorem apply_cases (h : c.Wf) (op : Op) : ∃ gained, OpCases c op gained (c.apply op).2 := by
  cases op with
  | write data =>
    cases hterminated : c.terminated with
    | true =>
      have hclosed : c.isClosed = true := by simp [isClosed, hterminated]
      exact ⟨[], by simpa [apply, write, hterminated] using OpCases.refused hclosed⟩
    | false =>
      cases hclosed : c.closed with
      | true =>
        have hshut : c.isClosed = true := by simp [isClosed, hclosed]
        exact ⟨[], by simpa [apply, write, hterminated, hclosed] using OpCases.refused hshut⟩
      | false =>
        have hopen : c.isClosed = false := by simp [isClosed, hclosed, hterminated]
        exact ⟨data, by simpa [apply, write_open hclosed hterminated] using OpCases.stored hopen⟩
  | close => exact ⟨[], .closed⟩
  | terminate => exact ⟨[], .ended⟩
  | read limit mayWait =>
    refine ⟨[], ?_⟩
    cases hterminated : c.terminated with
    | true => simpa [apply, read, hterminated] using OpCases.idle
    | false =>
      by_cases hlimit : limit = 0
      · simpa [apply, read, hterminated, hlimit] using OpCases.idle
      by_cases hheld : c.toList = []
      · cases hclosed : c.closed with
        | true => simpa [apply, read_unheld hterminated hlimit hheld, hclosed] using OpCases.idle
        | false =>
          cases mayWait with
          | false => simpa [apply, read_unheld hterminated hlimit hheld, hclosed] using OpCases.idle
          | true =>
            simpa [apply, read_unheld hterminated hlimit hheld, hclosed] using
              OpCases.parked ⟨hheld, hclosed, hterminated⟩
      · simpa [apply, read_held h hterminated hlimit hheld] using OpCases.taken hterminated

/-- What is accepted by an operation and those behind it. -/
theorem OpCases.accepted (h : OpCases c op gained c') (ops : List Op) :
    gained ++ (if c'.isClosed then [] else accepted ops) =
      if c.isClosed then [] else accepted (op :: ops) := by
  cases h with
  | refused hclosed => simp [hclosed]
  | stored hopen =>
    have hsame : (c.accept gained).isClosed = c.isClosed := by
      unfold accept
      split <;> rfl
    rw [hsame, hopen]
    rfl
  | closed => simp [close, isClosed, Channel.accepted]
  | ended => simp [terminate, isClosed, Channel.accepted]
  | idle | parked | taken => rfl

/-! ## The stretch that is held -/

/-- Between the cursors the ring holds that stretch of the stream. Until the channel is terminated the
overflow holds all of the stream behind it. -/
structure CursorInv (c : Channel) (stream : List UInt8) : Prop where
  wf : c.Wf
  taken_le : c.ring.taken ≤ stream.length
  ring : c.ring.toList <+: stream.drop c.ring.taken
  all : c.terminated = false → c.toList = stream.drop c.ring.taken
  written : c.ring.written = 0 → stream = []

theorem CursorInv.empty (capacity : Nat) : CursorInv (Channel.empty capacity) [] :=
  ⟨Wf.empty capacity, Nat.le_refl 0, List.nil_prefix, fun _ => rfl, fun _ => rfl⟩

/-- A channel that nothing was stored to holds nothing. -/
theorem Wf.toList_of_written (h : c.Wf) (hwritten : c.ring.written = 0) :
    c.toList = [] ∧ c.ring.taken = 0 := by
  have htaken : c.ring.taken = 0 := Nat.le_zero.mp (hwritten ▸ h.ring.taken_le)
  have hsize : c.ring.size = 0 := by rw [Ring.size, hwritten, Nat.zero_sub]
  have hover : c.overflow = [] := Decidable.byContradiction fun hsome =>
    absurd (h.overflow hsome) (hsize ▸ Nat.ne_of_lt c.ring.positive)
  have hring : c.ring.toList = [] := List.length_eq_zero_iff.mp (by rw [Ring.length_toList, hsize])
  exact ⟨by rw [toList, hring, hover, List.append_nil], htaken⟩

/-- Of a channel that is not terminated it is enough to know all that it holds. -/
theorem CursorInv.of_toList (hwf : c.Wf) (htaken : c.ring.taken ≤ stream.length)
    (hall : c.toList = stream.drop c.ring.taken) : CursorInv c stream where
  wf := hwf
  taken_le := htaken
  ring := hall ▸ List.prefix_append c.ring.toList c.overflow
  all := fun _ => hall
  written := by
    intro hwritten
    obtain ⟨hnone, hzero⟩ := hwf.toList_of_written hwritten
    rw [← List.drop_zero (l := stream), ← hzero, ← hall, hnone]

theorem accept_taken (h : c.Wf) (data : List UInt8) :
    (c.accept data).ring.taken = c.ring.taken ∧ c.ring.written ≤ (c.accept data).ring.written := by
  unfold accept
  split
  · obtain ⟨-, hwritten, htaken⟩ := Ring.store_cursors h.ring data
    exact ⟨htaken, hwritten ▸ Nat.le_add_right _ _⟩
  · exact ⟨rfl, Nat.le_refl _⟩

/-- How a read that takes bytes from the ring moves the cursors. -/
theorem take_cursors (h : c.ring.Wf) (limit : Nat) :
    (c.take limit).ring.taken = c.ring.taken + min limit c.ring.size ∧
      c.ring.written ≤ (c.take limit).ring.written := by
  obtain ⟨-, hwritten, htaken⟩ := Ring.store_cursors (h.drop limit) c.overflow
  exact ⟨htaken, hwritten ▸ Nat.le_add_right c.ring.written _⟩

/-- **Whatever an operation does, the channel holds its stretch of the stream.** -/
theorem OpCases.cursorInv (h : OpCases c op gained c') (hholds : CursorInv c stream) :
    CursorInv c' (stream ++ gained) := by
  cases h with
  | refused | idle => rwa [List.append_nil]
  | closed =>
    rw [List.append_nil]
    exact ⟨hholds.wf.close, hholds.taken_le, hholds.ring, hholds.all, hholds.written⟩
  | parked hidle =>
    rw [List.append_nil]
    exact ⟨hholds.wf.await hidle, hholds.taken_le, hholds.ring, hholds.all, hholds.written⟩
  | ended =>
    rw [List.append_nil]
    exact ⟨hholds.wf.terminate, hholds.taken_le, hholds.ring, nofun, hholds.written⟩
  | stored hopen =>
    obtain ⟨hwf, hlist, -, -⟩ := accept_spec hholds.wf gained
    have htaken := (accept_taken hholds.wf gained).1
    have hterminated : c.terminated = false := (Bool.or_eq_false_iff.mp hopen).2
    refine .of_toList hwf ?_ ?_
    · rw [htaken, List.length_append]
      exact Nat.le_add_right_of_le hholds.taken_le
    · rw [hlist, htaken, hholds.all hterminated, List.drop_append_of_le_length hholds.taken_le]
  | @taken limit _ hterminated =>
    rw [List.append_nil]
    have hlist := hholds.wf.toList_take_size limit
    obtain ⟨htaken, -⟩ := take_cursors hholds.wf.ring limit
    have hall := hholds.all hterminated
    refine .of_toList (take_spec hholds.wf.ring limit).1 ?_ ?_
    · have hlength := congrArg List.length hall
      rw [length_toList, List.length_drop, pending] at hlength
      have htaken_le := hholds.taken_le
      rw [htaken]
      omega
    · rw [hlist, htaken, hall, List.drop_drop]

/-- No operation takes a cursor back. -/
theorem OpCases.advances (h : OpCases c op gained c') (hwf : c.Wf) :
    c.ring.taken ≤ c'.ring.taken ∧ c.ring.written ≤ c'.ring.written := by
  cases h with
  | refused | idle | parked | closed | ended => exact ⟨Nat.le_refl _, Nat.le_refl _⟩
  | stored hopen =>
    obtain ⟨htaken, hwritten⟩ := accept_taken hwf gained
    exact ⟨Nat.le_of_eq htaken.symm, hwritten⟩
  | @taken limit _ hterminated =>
    obtain ⟨htaken, hwritten⟩ := take_cursors hwf.ring limit
    exact ⟨htaken ▸ Nat.le_add_right _ _, hwritten⟩

/-! ## Any number of operations -/

theorem CursorInv.run (ops : List Op) : ∀ {c : Channel} {stream : List UInt8}, CursorInv c stream →
    CursorInv (c.run ops).2 (stream ++ if c.isClosed then [] else accepted ops) ∧
      c.ring.taken ≤ (c.run ops).2.ring.taken ∧ c.ring.written ≤ (c.run ops).2.ring.written := by
  induction ops with
  | nil =>
    intro c stream h
    refine ⟨?_, Nat.le_refl _, Nat.le_refl _⟩
    rw [accepted, ite_self, List.append_nil]
    exact h
  | cons op ops ih =>
    intro c stream h
    obtain ⟨gained, hmoves⟩ := apply_cases h.wf op
    obtain ⟨hrest, htaken, hwritten⟩ := ih (hmoves.cursorInv h)
    obtain ⟨htaken', hwritten'⟩ := hmoves.advances h.wf
    rw [List.append_assoc, hmoves.accepted] at hrest
    exact ⟨hrest, Nat.le_trans htaken' htaken, Nat.le_trans hwritten' hwritten⟩

theorem run_append (ops more : List Op) (c : Channel) :
    (c.run (ops ++ more)).2 = ((c.run ops).2.run more).2 := by
  induction ops generalizing c with
  | nil => rfl
  | cons op ops ih => exact ih (c.apply op).2

/-- **Byte number `p` of the stream stands in slot `p % capacity`**, as long as it is between the
cursors. -/
theorem CursorInv.slot (h : CursorInv c stream) {p : Nat} (htaken : c.ring.taken ≤ p)
    (hwritten : p < c.ring.written) : stream[p]? = some (c.ring.slot p) := by
  obtain ⟨behind, hbehind⟩ := h.ring
  have hin : p - c.ring.taken < c.ring.toList.length := by
    rw [Ring.length_toList, Ring.size]
    omega
  have hp : c.ring.taken + (p - c.ring.taken) = p := by omega
  calc stream[p]? = (stream.drop c.ring.taken)[p - c.ring.taken]? := by rw [List.getElem?_drop, hp]
    _ = c.ring.toList[p - c.ring.taken]? := by rw [← hbehind, List.getElem?_append_left hin]
    _ = some (c.ring.slot p) := by
      rw [List.getElem?_eq_getElem hin]
      simp only [Ring.toList, List.getElem_map, List.getElem_range, hp]

/-- The write cursor is at its start as long as nothing was accepted. -/
theorem CursorInv.written_eq_zero (h : CursorInv c stream) : c.ring.written = 0 ↔ stream = [] := by
  refine ⟨h.written, ?_⟩
  rintro rfl
  have htaken : c.ring.taken = 0 := Nat.le_zero.mp h.taken_le
  have hlength := h.ring.length_le
  rw [List.drop_nil, Ring.length_toList, Ring.size, htaken, List.length_nil] at hlength
  exact Nat.le_zero.mp hlength

/-- Every accepted byte was stored or waits behind the ring. -/
theorem CursorInv.total (h : CursorInv c stream) (hterminated : c.terminated = false) :
    c.ring.written + c.overflow.length = stream.length := by
  have hlength := congrArg List.length (h.all hterminated)
  have htaken_le := h.taken_le
  have hordered := h.wf.ring.taken_le
  rw [length_toList, List.length_drop, pending, Ring.size] at hlength
  omega

/-- What a channel keeps of the stream of bytes that it accepted. -/
structure StreamSpec (c : Channel) (stream : List UInt8) : Prop where
  /-- No difference of the cursors is negative, and none is greater than the capacity. -/
  ordered : c.ring.taken ≤ c.ring.written ∧ c.ring.written ≤ c.ring.taken + c.capacity
  /-- The same holds within an operation: once a read has taken its bytes, and from one byte that is
  stored to the next. -/
  between : ∀ limit (data : List UInt8), data.length ≤ (c.ring.drop limit).free →
    (data.foldl Ring.put (c.ring.drop limit)).Wf
  /-- Every position between the cursors has its slot. -/
  inRange : ∀ p, c.ring.taken ≤ p → p < c.ring.written → p % c.capacity < c.ring.slots.size
  /-- Bytes wait behind the ring only while it is full. -/
  full : c.overflow ≠ [] → c.ring.written = c.ring.taken + c.capacity
  slot : ∀ p, c.ring.taken ≤ p → p < c.ring.written → stream[p]? = some (c.ring.slot p)
  /-- The write cursor is unset as long as nothing was accepted. -/
  unset : c.ring.lastStored? = none ↔ stream = []
  last : ∀ position, c.ring.lastStored? = some position → position + 1 = c.ring.written
  total : c.terminated = false → c.ring.written + c.overflow.length = stream.length

theorem CursorInv.streamSpec (h : CursorInv c stream) : StreamSpec c stream where
  ordered := ⟨h.wf.ring.taken_le, h.wf.ring.written_le⟩
  between := fun limit data hroom =>
    (Ring.foldl_put_spec data _ (h.wf.ring.drop limit) hroom).1
  inRange := by
    intro p _ hp
    have hmod : p % c.capacity < c.capacity := Nat.mod_lt p c.ring.positive
    have hmod_le : p % c.capacity ≤ p := Nat.mod_le p c.capacity
    rw [h.wf.ring.slots]
    exact Nat.lt_min.mpr ⟨by omega, hmod⟩
  full := by
    intro hover
    have hfull : c.ring.written - c.ring.taken = c.capacity := h.wf.overflow hover
    have hordered := h.wf.ring.taken_le
    omega
  slot := fun _ => h.slot
  unset := by
    rw [← h.written_eq_zero]
    simp [Ring.lastStored?]
  last := by
    intro position hlast
    unfold Ring.lastStored? at hlast
    split at hlast
    · cases hlast
    · cases hlast
      omega
  total := h.total

/-- **After any operations on a new channel its ring holds its stretch of the accepted stream**, and
no cursor ever goes back. -/
theorem ring_represents (capacity : Nat) (ops : List Op) :
    StreamSpec ((empty capacity).run ops).2 (accepted ops) ∧
      ((empty capacity).run ops).2.capacity = max capacity 1 ∧
      ∀ more, ((empty capacity).run ops).2.ring.taken ≤
          ((empty capacity).run (ops ++ more)).2.ring.taken ∧
        ((empty capacity).run ops).2.ring.written ≤
          ((empty capacity).run (ops ++ more)).2.ring.written := by
  obtain ⟨hholds, -⟩ := CursorInv.run ops (CursorInv.empty capacity)
  obtain ⟨-, -, hcapacity⟩ := run_refines ops (RefinesQueue.empty capacity)
  refine ⟨hholds.streamSpec, hcapacity, fun more => ?_⟩
  rw [run_append]
  exact (CursorInv.run more hholds).2

/-- Three bytes go through a ring of two: the third waits until the first was read, and then stands in
the slot that this one has left. -/
example : ((empty 2).run [.write [1, 2, 3], .read 1 false]).2.ring.slots = #[3, 2] := by decide

end Channel

end Pipework
