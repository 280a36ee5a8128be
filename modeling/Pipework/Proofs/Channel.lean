import Pipework.Channel.Basic

/-!
# Channels as queues

A ring holds the bytes between its two cursors, byte number `p` in slot `p % capacity`; as long as
no more than `capacity` bytes lie between them no stored byte is overwritten before it is taken.
With the overflow behind it a channel is a queue of bytes: `accept_spec` appends, and `read_spec`
says that a read takes a piece off the front, or finds the end, or has to wait.
-/

namespace Pipework

namespace Ring

variable {r : Ring}

/-- The cursors are in order and not further apart than the slots allow. -/
structure Wf (r : Ring) : Prop where
  slots : r.slots.size = min r.written r.capacity
  taken_le : r.taken ≤ r.written
  written_le : r.written ≤ r.taken + r.capacity

theorem Wf.empty (capacity : Nat) : (Ring.empty capacity).Wf :=
  ⟨by simp [Ring.empty], Nat.le_refl _, by simp [Ring.empty]⟩

theorem Wf.size_le (h : r.Wf) : r.size ≤ r.capacity := by
  have := h.written_le
  unfold size
  omega

@[simp] theorem put_capacity (b : UInt8) : (r.put b).capacity = r.capacity := rfl

@[simp] theorem put_written (b : UInt8) : (r.put b).written = r.written + 1 := rfl

@[simp] theorem put_taken (b : UInt8) : (r.put b).taken = r.taken := rfl

/-- A byte goes into the slot of the write cursor and leaves the others alone. -/
theorem slot_put (h : r.Wf) (b : UInt8) (p : Nat) :
    (r.put b).slot p = if p % r.capacity = r.written % r.capacity then b else r.slot p := by
  have hpos := r.positive
  have hlt : r.written % r.capacity < r.capacity := Nat.mod_lt _ hpos
  have hslots := h.slots
  simp only [slot, put]
  split
  · rename_i hi
    split
    · rename_i hp
      simp [hp, Array.getD_eq_getD_getElem?, hi]
    · rename_i hp
      simp only [Array.getD_eq_getD_getElem?, Array.set!_eq_setIfInBounds]
      rw [Array.getElem?_setIfInBounds_ne (Ne.symm hp)]
  · rename_i hi
    -- the slots are still growing, so the cursor stands at their end
    have hw : r.written < r.capacity := by omega
    have hmod : r.written % r.capacity = r.written := Nat.mod_eq_of_lt hw
    have hsize : r.slots.size = r.written := by omega
    rw [hmod]
    simp only [Array.getD_eq_getD_getElem?, Array.getElem?_push, hsize]
    split <;> rfl

theorem Wf.put (h : r.Wf) (b : UInt8) (hroom : r.size < r.capacity) : (r.put b).Wf := by
  have hle := h.taken_le
  unfold Ring.size at hroom
  refine ⟨?_, by simp; omega, by simp; omega⟩
  have hslots := h.slots
  have hpos := r.positive
  have hlt : r.written % r.capacity < r.capacity := Nat.mod_lt _ hpos
  simp only [Ring.put]
  split
  · rename_i hi
    have hfull : r.capacity ≤ r.written := by
      rcases Nat.lt_or_ge r.written r.capacity with hw | hw
      · rw [Nat.mod_eq_of_lt hw] at hi
        omega
      · exact hw
    simp
    omega
  · rename_i hi
    have hgrow : r.written < r.capacity := by omega
    simp
    omega

theorem mod_ne_of_lt {p q n : Nat} (hpq : p < q) (hn : q < p + n) : p % n ≠ q % n := by
  intro h
  have hdvd : n ∣ q - p := Nat.dvd_of_mod_eq_zero (Nat.sub_mod_eq_zero_of_mod_eq h.symm)
  exact absurd (Nat.le_of_dvd (by omega) hdvd) (by omega)

/-- **A stored byte comes behind those already held.** -/
theorem toList_put (h : r.Wf) (b : UInt8) (hroom : r.size < r.capacity) :
    (r.put b).toList = r.toList ++ [b] := by
  have hle := h.taken_le
  have hsize : (r.put b).size = r.size + 1 := by
    simp only [size, put_written, put_taken]
    omega
  have hend : r.taken + r.size = r.written := by
    unfold size
    omega
  have hlast : (r.put b).slot (r.taken + r.size) = b := by
    rw [slot_put h, hend, if_pos rfl]
  have hinit : ∀ i ∈ List.range r.size, (r.put b).slot (r.taken + i) = r.slot (r.taken + i) := by
    intro i hi
    have hi := List.mem_range.mp hi
    rw [slot_put h, if_neg (mod_ne_of_lt (by omega) (by omega))]
  unfold toList
  rw [hsize, List.range_succ, List.map_append, put_taken, List.map_congr_left hinit]
  simp [hlast]

/-! ## Storing and taking -/

theorem free_put (b : UInt8) (h : r.Wf) (hroom : r.size < r.capacity) :
    (r.put b).free + 1 = r.free := by
  have hle := h.taken_le
  unfold size at hroom
  simp only [free, size, put_capacity, put_written, put_taken]
  omega

theorem foldl_put_spec : ∀ (data : List UInt8) (r : Ring), r.Wf → data.length ≤ r.free →
    (data.foldl put r).Wf ∧ (data.foldl put r).toList = r.toList ++ data ∧
      (data.foldl put r).capacity = r.capacity ∧
      (data.foldl put r).written = r.written + data.length ∧
      (data.foldl put r).taken = r.taken
  | [], r, h, _ => ⟨h, by simp, rfl, rfl, rfl⟩
  | b :: data, r, h, hfree => by
    simp only [List.length_cons] at hfree
    have hroom : r.size < r.capacity := by
      unfold free at hfree
      omega
    have hput := free_put b h hroom
    obtain ⟨hwf, hlist, hcap, hwritten, htaken⟩ :=
      foldl_put_spec data (r.put b) (h.put b hroom) (by omega)
    refine ⟨hwf, ?_, hcap, ?_, htaken⟩
    · rw [List.foldl_cons, hlist, toList_put h b hroom, List.append_assoc, List.singleton_append]
    · rw [List.foldl_cons, hwritten, put_written, List.length_cons]
      omega

theorem take_free_length (r : Ring) (data : List UInt8) : (data.take r.free).length ≤ r.free := by
  rw [List.length_take]
  omega

theorem Wf.store (h : r.Wf) (data : List UInt8) : (r.store data).Wf :=
  (foldl_put_spec _ r h (take_free_length r data)).1

theorem toList_store (h : r.Wf) (data : List UInt8) :
    (r.store data).toList = r.toList ++ data.take r.free :=
  (foldl_put_spec _ r h (take_free_length r data)).2.1

theorem store_cursors (h : r.Wf) (data : List UInt8) :
    (r.store data).capacity = r.capacity ∧
      (r.store data).written = r.written + min r.free data.length ∧
      (r.store data).taken = r.taken := by
  obtain ⟨-, -, hcap, hwritten, htaken⟩ := foldl_put_spec _ r h (take_free_length r data)
  exact ⟨hcap, by rw [store, hwritten, List.length_take], htaken⟩

theorem size_store (h : r.Wf) (data : List UInt8) :
    (r.store data).size = r.size + min r.free data.length := by
  obtain ⟨-, hwritten, htaken⟩ := store_cursors h data
  have hle := h.taken_le
  unfold size
  rw [hwritten, htaken]
  omega

@[simp] theorem length_toList (r : Ring) : r.toList.length = r.size := by
  simp [toList]

theorem peek_eq (r : Ring) (limit : Nat) : r.peek limit = r.toList.take limit := by
  rw [toList, ← List.map_take, List.take_range]
  rfl

theorem Wf.drop (h : r.Wf) (limit : Nat) : (r.drop limit).Wf := by
  have hle := h.taken_le
  have hwritten := h.written_le
  refine ⟨h.slots, ?_, ?_⟩ <;> simp only [Ring.drop, size] <;> omega

theorem size_drop (r : Ring) (limit : Nat) : (r.drop limit).size = r.size - limit := by
  simp only [size, drop]
  omega

theorem toList_drop (r : Ring) (limit : Nat) : (r.drop limit).toList = r.toList.drop limit := by
  apply List.ext_getElem
  · simp [size_drop]
  · intro i h₁ h₂
    simp only [length_toList, size_drop, List.length_drop] at h₁ h₂
    have hmin : min limit r.size = limit := by omega
    simp only [toList, List.getElem_map, List.getElem_range, List.getElem_drop]
    simp only [slot, Ring.drop, hmin, Nat.add_assoc]

end Ring

namespace Channel

variable {c : Channel}

/-- Nothing has come that a reader could wait for. -/
structure NothingToRead (c : Channel) : Prop where
  held : c.toList = []
  closed : c.closed = false
  terminated : c.terminated = false

/-- Bytes wait behind the ring only while it is full, and a reader waits only while nothing has come
that it could wait for. -/
structure Wf (c : Channel) : Prop where
  ring : c.ring.Wf
  overflow : c.overflow ≠ [] → c.ring.size = c.ring.capacity
  waiting : c.waiting = true → c.NothingToRead

theorem Wf.empty (capacity : Nat) : (Channel.empty capacity).Wf :=
  ⟨Ring.Wf.empty capacity, fun h => absurd rfl h, nofun⟩

theorem Wf.not_waiting_of_closed (h : c.Wf) (hclosed : c.closed = true) : c.waiting = false := by
  cases hwaiting : c.waiting with
  | false => rfl
  | true => cases (h.waiting hwaiting).closed.symm.trans hclosed

theorem Wf.not_waiting_of_held (h : c.Wf) (hheld : c.toList ≠ []) : c.waiting = false := by
  cases hwaiting : c.waiting with
  | false => rfl
  | true => exact absurd (h.waiting hwaiting).held hheld

/-- What the ring cannot take goes behind it, and nothing is put there while it has room. -/
theorem store_spec (h : c.ring.Wf) (data : List UInt8) :
    (c.ring.store data).toList ++ data.drop c.ring.free = c.ring.toList ++ data ∧
      (data.drop c.ring.free ≠ [] →
        (c.ring.store data).size = (c.ring.store data).capacity) := by
  constructor
  · rw [Ring.toList_store h, List.append_assoc, List.take_append_drop]
  · intro hrest
    have hlen : c.ring.free < data.length := by
      rcases Nat.lt_or_ge c.ring.free data.length with hlt | hge
      · exact hlt
      · exact absurd (List.drop_eq_nil_of_le hge) hrest
    have hsize := h.size_le
    rw [Ring.size_store h, (Ring.store_cursors h data).1]
    unfold Ring.free at hlen ⊢
    omega

theorem accept_waiting (c : Channel) (data : List UInt8) :
    (c.accept data).waiting = (c.waiting && data.isEmpty) := by
  unfold accept
  split <;> rfl

/-- **What is accepted comes behind everything that waits.** -/
theorem accept_spec (h : c.Wf) (data : List UInt8) :
    (c.accept data).Wf ∧ (c.accept data).toList = c.toList ++ data ∧
      (c.accept data).closed = c.closed ∧ (c.accept data).terminated = c.terminated := by
  have hends : (c.accept data).closed = c.closed ∧ (c.accept data).terminated = c.terminated := by
    unfold accept
    split <;> exact ⟨rfl, rfl⟩
  have hlist : (c.accept data).toList = c.toList ++ data := by
    unfold accept
    split
    · rename_i hempty
      have hnil : c.overflow = [] := List.isEmpty_iff.mp hempty
      simp only [toList, (store_spec h.ring data).1, hnil, List.append_nil]
    · simp only [toList, List.append_assoc]
  have hwaiting : (c.accept data).waiting = true → (c.accept data).NothingToRead := by
    intro hwaiting
    rw [accept_waiting, Bool.and_eq_true, List.isEmpty_iff] at hwaiting
    obtain ⟨hheld, hclosed, hterminated⟩ := h.waiting hwaiting.1
    exact ⟨by rw [hlist, hheld, hwaiting.2]; rfl, hends.1.trans hclosed, hends.2.trans hterminated⟩
  refine ⟨⟨?_, ?_, hwaiting⟩, hlist, hends⟩
  · unfold accept
    split
    · exact h.ring.store data
    · exact h.ring
  · unfold accept
    split
    · exact (store_spec h.ring data).2
    · rename_i hne
      exact fun _ => h.overflow fun he => hne (List.isEmpty_iff.mpr he)

/-- An open channel takes every write. -/
theorem write_open (hclosed : c.closed = false) (hterminated : c.terminated = false)
    (data : List UInt8) : c.write data = .ok (c.accept data) := by
  simp [write, hclosed, hterminated]

theorem Wf.close (h : c.Wf) : c.close.Wf := ⟨h.ring, h.overflow, nofun⟩

/-- A reader may wait at a channel that has nothing for it. -/
theorem Wf.await (h : c.Wf) (hidle : c.NothingToRead) : c.await.Wf :=
  ⟨h.ring, h.overflow, fun _ => ⟨hidle.held, hidle.closed, hidle.terminated⟩⟩

/-- **What is taken comes off the front**, and what waits behind the ring moves up. -/
theorem take_spec (h : c.ring.Wf) (limit : Nat) :
    (c.take limit).Wf ∧ (c.take limit).toList = c.ring.toList.drop limit ++ c.overflow := by
  obtain ⟨hlist, hfull⟩ := store_spec (c := { c with ring := c.ring.drop limit }) (h.drop limit) c.overflow
  refine ⟨⟨(h.drop limit).store c.overflow, hfull, nofun⟩, hlist.trans ?_⟩
  simp only [Ring.toList_drop]

/-- **A read that is not refused takes a piece off the front.** It finds nothing only at the end of
a closed channel, and waits only at an empty one. -/
theorem read_spec (h : c.Wf) (hterminated : c.terminated = false) {limit : Nat} (hlimit : 0 < limit) :
    (∃ data after, c.read limit = .bytes data after ∧ data ≠ [] ∧ c.toList = data ++ after.toList ∧
        after.Wf ∧ after.closed = c.closed ∧ after.terminated = false) ∨
      (c.read limit = .bytes [] c ∧ c.toList = [] ∧ c.closed = true) ∨
      (c.read limit = .blocked ∧ c.toList = [] ∧ c.closed = false) := by
  have hpos := c.ring.positive
  unfold read
  rw [if_neg (by simp [hterminated]), if_neg (by omega)]
  by_cases hsize : c.ring.size = 0
  · have hover : c.overflow = [] := by
      by_cases ho : c.overflow = []
      · exact ho
      · exact absurd (h.overflow ho) (by omega)
    have hring : c.ring.toList = [] := List.length_eq_zero_iff.mp (by simp [hsize])
    have hlist : c.toList = [] := by simp [toList, hring, hover]
    cases hclosed : c.closed with
    | true => exact Or.inr (Or.inl ⟨by simp [hsize], hlist, rfl⟩)
    | false => exact Or.inr (Or.inr ⟨by simp [hsize], hlist, rfl⟩)
  · refine Or.inl ⟨_, _, if_neg hsize, ?_, ?_, ?_, rfl, hterminated⟩
    · intro hnil
      have := congrArg List.length hnil
      rw [Ring.peek_eq, List.length_take, Ring.length_toList, List.length_nil] at this
      omega
    · rw [(take_spec h.ring limit).2, Ring.peek_eq, ← List.append_assoc, List.take_append_drop]
      rfl
    · exact (take_spec h.ring limit).1

/-- A read waits only at an open channel that holds nothing. -/
theorem read_eq_blocked (h : c.Wf) {limit : Nat} (hread : c.read limit = .blocked) :
    limit ≠ 0 ∧ c.NothingToRead := by
  have hterminated : c.terminated = false := by
    cases ht : c.terminated with
    | false => rfl
    | true => simp [read, ht] at hread
  have hlimit : limit ≠ 0 := by
    rintro rfl
    simp [read, hterminated] at hread
  obtain ⟨data, after, hbytes, -⟩ | ⟨hend, -, -⟩ | ⟨-, hheld, hclosed⟩ :=
    read_spec h hterminated (Nat.pos_of_ne_zero hlimit)
  · rw [hbytes] at hread
    cases hread
  · rw [hend] at hread
    cases hread
  · exact ⟨hlimit, hheld, hclosed, hterminated⟩

/-- **A reader that waits has to**: a read would find nothing. -/
theorem Wf.read_of_waiting (h : c.Wf) (hwaiting : c.waiting = true) {limit : Nat}
    (hlimit : 0 < limit) : c.read limit = .blocked := by
  obtain ⟨hheld, hclosed, hterminated⟩ := h.waiting hwaiting
  obtain ⟨data, after, -, hdata, hlist, -⟩ | ⟨-, -, hother⟩ | ⟨hblocked, -, -⟩ :=
    read_spec h hterminated hlimit
  · rw [hheld] at hlist
    exact absurd (List.append_eq_nil_iff.mp hlist.symm).1 hdata
  · cases hclosed.symm.trans hother
  · exact hblocked

/-- Whoever gets an answer does not wait. -/
theorem not_waiting_of_bytes {limit : Nat} {data : List UInt8} {after : Channel}
    (hwoken : c.waiting = false) (hread : c.read limit = .bytes data after) :
    after.waiting = false := by
  unfold read at hread
  split at hread
  · cases hread
  · split at hread
    · cases hread
      exact hwoken
    · split at hread
      · split at hread
        · cases hread
          exact hwoken
        · cases hread
      · cases hread
        rfl

end Channel

end Pipework
