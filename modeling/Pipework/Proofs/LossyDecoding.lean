import Pipework.Proofs.Utf8

/-!
# Lines of bytes that are not well formed

`decodeLossy` puts a character for every ill-formed piece, and still it never makes, hides or merges
a newline: a byte below 0x80 ends whatever piece stands before it, and begins one of its own
(`cutsAt_short`). So bytes may be cut into lines before or after they are decoded
(`LineBuffer.lines_eq_ofText`), whatever the bytes.

* `Lines.CutsAt` — a reading that can be cut at a symbol, and makes none of it.
* `Lines.split_map` — a reading that can be cut at the newline and at the carriage return keeps the
  lines.
-/

namespace Pipework

/-! ## Readings that can be cut -/

namespace Lines

variable {α β : Type} {f : List α → List β} {a nl cr : α} {a' nl' cr' : β} {s : List α}

/-- What stands before such a symbol and what stands behind it are read apart, the symbol is read as
one of its own, and no other symbol is. -/
structure CutsAt (f : List α → List β) (a : α) (a' : β) : Prop where
  cut : ∀ front rest, f (front ++ a :: rest) = f front ++ a' :: f rest
  only : ∀ s, a' ∈ f s → a ∈ s

/-- The last symbol is read as a carriage return only if it is one. -/
theorem CutsAt.getLast? (h : CutsAt f cr cr') (hnil : ∀ s, f s = [] ↔ s = []) :
    (f s).getLast? = some cr' ↔ s.getLast? = some cr := by
  constructor
  · intro hlast
    have hmem : cr ∈ s.reverse := List.mem_reverse.mpr (h.only s (List.mem_of_getLast? hlast))
    -- Behind its last carriage return a sequence is read without one.
    obtain ⟨behind, front, hreverse, hfree⟩ := List.eq_append_cons_of_mem hmem
    have hs : s = front.reverse ++ cr :: behind.reverse := by
      rw [← List.reverse_reverse s, hreverse]
      simp
    subst hs
    by_cases hnone : behind.reverse = []
    · rw [hnone]
      exact List.getLast?_concat
    · have hread : f behind.reverse ≠ [] := fun hempty => hnone ((hnil _).mp hempty)
      rw [h.cut, List.append_cons, List.getLast?_append_of_ne_nil _ hread] at hlast
      have hmore := h.only _ (List.mem_of_getLast? hlast)
      exact absurd (List.mem_reverse.mp hmore) hfree
  · intro hlast
    obtain ⟨front, rfl⟩ := List.getLast?_eq_some_iff.mp hlast
    rw [h.cut, (hnil []).mpr rfl]
    exact List.getLast?_concat

variable [BEq α] [LawfulBEq α] [BEq β] [LawfulBEq β]

/-- A carriage return is dropped before or after reading. -/
theorem CutsAt.dropReturn (h : CutsAt f cr cr') (hnil : ∀ s, f s = [] ↔ s = []) :
    f (Lines.dropReturn cr s) = Lines.dropReturn cr' (f s) := by
  unfold Lines.dropReturn
  by_cases hlast : s.getLast? = some cr
  · have hread := (h.getLast? hnil).mpr hlast
    rw [if_pos (by simpa using hlast), if_pos (by simpa using hread)]
    obtain ⟨front, rfl⟩ := List.getLast?_eq_some_iff.mp hlast
    rw [h.cut, (hnil []).mpr rfl, List.dropLast_concat, List.dropLast_concat]
  · have hread : (f s).getLast? ≠ some cr' := fun hread => hlast ((h.getLast? hnil).mp hread)
    rw [if_neg (by simpa using hlast), if_neg (by simpa using hread)]

/-- **Reading keeps the lines** if it can be cut at newlines and at carriage returns and reads nothing
only from nothing. -/
theorem split_map (hnl : CutsAt f nl nl') (hcr : CutsAt f cr cr') (hnil : ∀ s, f s = [] ↔ s = [])
    (s : List α) : (split nl cr s).map f = split nl' cr' (f s) := by
  generalize hlength : s.length = length
  induction length using Nat.strongRecOn generalizing s with
  | _ length ih =>
    by_cases hmem : nl ∈ s
    · obtain ⟨line, rest, rfl, hfree⟩ := List.eq_append_cons_of_mem hmem
      have hfree' : nl' ∉ f line := fun hread => hfree (hnl.only line hread)
      have hless : rest.length < length := by
        rw [← hlength, List.length_append, List.length_cons]
        omega
      rw [split_append hfree, List.map_cons, hcr.dropReturn hnil, ih _ hless rest rfl, hnl.cut,
        split_append hfree']
    · have hmem' : nl' ∉ f s := fun hread => hmem (hnl.only s hread)
      have hempty : (f s).isEmpty = s.isEmpty := by
        rw [Bool.eq_iff_iff, List.isEmpty_iff, List.isEmpty_iff]
        exact hnil s
      rw [split_last hmem, split_last hmem', hempty]
      split <;> rfl

end Lines

/-! ## Ill-formed pieces -/

namespace Utf8

variable {b a : UInt8} {bs xs ys : Bytes} {c : Char}

/-- How many bytes the piece at the front has. -/
def Front.width : Front → Nat
  | .char _ w | .broken w | .cut w => w

/-- What is put for the piece at the front. -/
def Front.put : Front → Char
  | .char c _ => c
  | .broken _ | .cut _ => '\uFFFD'

/-- A piece goes no further than the bytes do, and takes at least one. -/
theorem tails_width (low high : UInt8) (bits width n : Nat) (bs : Bytes) :
    width ≤ (tails low high bits width n bs).width ∧
      (tails low high bits width n bs).width ≤ width + bs.length := by
  induction n generalizing low high bits width bs with
  | zero => exact ⟨Nat.le_refl _, Nat.le_add_right _ _⟩
  | succ n ih =>
    cases bs with
    | nil => exact ⟨Nat.le_refl _, Nat.le_refl _⟩
    | cons x rest =>
      unfold tails
      split
      · obtain ⟨hleast, hmost⟩ := ih 0x80 0xBF (bits * 64 + (x.toNat - 0x80)) (width + 1) rest
        rw [List.length_cons]
        exact ⟨by omega, by omega⟩
      · exact ⟨Nat.le_refl _, Nat.le_add_right _ _⟩

theorem front_width (b : UInt8) (bs : Bytes) :
    1 ≤ (front b bs).width ∧ (front b bs).width ≤ bs.length + 1 := by
  unfold front
  split
  · exact ⟨Nat.le_refl _, Nat.le_add_left _ _⟩
  · split
    · rename_i l _
      obtain ⟨hleast, hmost⟩ := tails_width l.low l.high l.bits 1 l.tails bs
      exact ⟨hleast, by omega⟩
    · exact ⟨Nat.le_refl _, Nat.le_add_left _ _⟩

/-- **A byte below 0x80 ends the piece before it**, which is what it would be at the end of the bytes,
but that it counts as broken and not as cut. -/
theorem tails_before {low high : UInt8} {bits width n : Nat} (hlow : 0x80 ≤ low) (ha : a < 0x80)
    (xs ys : Bytes) :
    (tails low high bits width n (xs ++ a :: ys)).put = (tails low high bits width n xs).put ∧
      (tails low high bits width n (xs ++ a :: ys)).width =
        (tails low high bits width n xs).width := by
  induction n generalizing low high bits width xs with
  | zero => exact ⟨rfl, rfl⟩
  | succ n ih =>
    cases xs with
    | nil =>
      have hends : ¬ (low ≤ a ∧ a ≤ high) := fun hbounds =>
        absurd (UInt8.le_trans hlow hbounds.1) (UInt8.not_le.mpr ha)
      simp only [List.nil_append, tails, if_neg hends]
      exact ⟨rfl, rfl⟩
    | cons x rest =>
      simp only [List.cons_append, tails]
      split
      · exact ih (by decide) rest
      · exact ⟨rfl, rfl⟩

theorem front_before (ha : a < 0x80) (b : UInt8) (xs ys : Bytes) :
    (front b (xs ++ a :: ys)).put = (front b xs).put ∧
      (front b (xs ++ a :: ys)).width = (front b xs).width := by
  unfold front
  split
  · exact ⟨rfl, rfl⟩
  · split
    · rename_i l hl
      obtain ⟨n, hsound⟩ := lead?_sound hl
      exact tails_before hsound.low ha xs ys
    · exact ⟨rfl, rfl⟩

/-- A piece is read as a character below 0x80 only if it is the byte of that number. -/
theorem front_put_short (h : (front b bs).put.toNat < 0x80) :
    b < 0x80 ∧ (front b bs).put = Char.ofNat b.toNat := by
  cases hfront : front b bs with
  | char c w =>
    rw [hfront] at h
    obtain ⟨tail, rest, rfl, rfl, hpiece⟩ := front_piece hfront
    have hb : b < 0x80 := by
      rw [← UInt8.not_le]
      intro hge
      exact absurd (hpiece.long hge) (Nat.not_le.mpr h)
    exact ⟨hb, (hpiece.short hb).2⟩
  | broken w =>
    rw [hfront] at h
    have hlong : ¬ ('\uFFFD' : Char).toNat < 0x80 := by decide
    exact absurd h hlong
  | cut w =>
    rw [hfront] at h
    have hlong : ¬ ('\uFFFD' : Char).toNat < 0x80 := by decide
    exact absurd h hlong

/-! ## Whole texts -/

theorem scanLossy_cons (done : List Char) (b : UInt8) (bs : Bytes) :
    scanLossy done 0 (b :: bs) =
      scanLossy ((front b bs).put :: done) ((front b bs).width - 1) bs := by
  rw [scanLossy]
  cases front b bs <;> rfl

/-- What was read before stays in front. -/
theorem scanLossy_done (done : List Char) (skip : Nat) (bs : Bytes) :
    scanLossy done skip bs = done.reverse ++ scanLossy [] skip bs := by
  induction bs generalizing done skip with
  | nil =>
    cases skip <;> simp [scanLossy]
  | cons b bs ih =>
    cases skip with
    | zero =>
      rw [scanLossy_cons, scanLossy_cons, ih, ih [_]]
      simp
    | succ skip => exact ih done skip

theorem scanLossy_cut (ha : a < 0x80) (done : List Char) {skip : Nat} (hskip : skip ≤ xs.length) :
    scanLossy done skip (xs ++ a :: ys) =
      scanLossy done skip xs ++ Char.ofNat a.toNat :: scanLossy [] 0 ys := by
  induction xs generalizing done skip with
  | nil =>
    obtain rfl := Nat.le_zero.mp hskip
    have hfront : front a ys = .char (Char.ofNat a.toNat) 1 := if_pos ha
    rw [List.nil_append, scanLossy_cons, hfront]
    show scanLossy (Char.ofNat a.toNat :: done) 0 ys = done.reverse ++ _
    rw [scanLossy_done]
    simp
  | cons b xs ih =>
    cases skip with
    | zero =>
      obtain ⟨hput, hwidth⟩ := front_before ha b xs ys
      have hmost := (front_width b xs).2
      rw [List.cons_append, scanLossy_cons, scanLossy_cons, hput, hwidth]
      exact ih _ (by omega)
    | succ skip => exact ih done (Nat.le_of_succ_le_succ hskip)

/-- A character below 0x80 comes from the byte of its number. -/
theorem scanLossy_short {done : List Char} {skip : Nat} (hc : c ∈ scanLossy done skip bs)
    (hshort : c.toNat < 0x80) : c ∈ done ∨ ∃ a ∈ bs, c = Char.ofNat a.toNat ∧ a < 0x80 := by
  induction bs generalizing done skip with
  | nil =>
    have hdone : scanLossy done skip [] = done.reverse := by cases skip <;> rfl
    rw [hdone] at hc
    exact Or.inl (List.mem_reverse.mp hc)
  | cons b bs ih =>
    cases skip with
    | zero =>
      rw [scanLossy_cons] at hc
      rcases ih hc with hdone | ⟨a, ha, hca⟩
      · rcases List.mem_cons.mp hdone with rfl | hdone
        · obtain ⟨hb, hput⟩ := front_put_short hshort
          exact Or.inr ⟨b, List.mem_cons_self, hput, hb⟩
        · exact Or.inl hdone
      · exact Or.inr ⟨a, List.mem_cons_of_mem b ha, hca⟩
    | succ skip =>
      rcases ih hc with hdone | ⟨a, ha, hca⟩
      · exact Or.inl hdone
      · exact Or.inr ⟨a, List.mem_cons_of_mem b ha, hca⟩

/-- **Whatever stands around a byte below 0x80, it is read by itself** as the character of its number,
and only such a byte is. -/
theorem cutsAt_short (ha : a < 0x80) :
    Lines.CutsAt (scanLossy [] 0) a (Char.ofNat a.toNat) := by
  have hnat : ∀ x : UInt8, x < 0x80 → (Char.ofNat x.toNat).toNat = x.toNat := by
    intro x hx
    have hvalid : x.toNat < 0x80 := hx
    exact toNat_ofNat (by omega)
  refine ⟨fun xs ys => scanLossy_cut ha [] (Nat.zero_le _), fun bs hmem => ?_⟩
  have hshort : (Char.ofNat a.toNat).toNat < 0x80 := by
    rw [hnat a ha]
    exact ha
  obtain ⟨x, hx, hsame, hxshort⟩ := (scanLossy_short hmem hshort).resolve_left List.not_mem_nil
  have hvalue : a.toNat = x.toNat := by
    rw [← hnat a ha, hsame, hnat x hxshort]
  rwa [UInt8.toNat.inj hvalue]

/-- Every byte is part of some piece, and something is put for it. -/
theorem scanLossy_eq_nil : scanLossy [] 0 bs = [] ↔ bs = [] := by
  cases bs with
  | nil => exact iff_of_true rfl rfl
  | cons b bs =>
    rw [scanLossy_cons, scanLossy_done]
    simp

end Utf8

/-- **Bytes are cut into lines before or after they are decoded**, well formed or not. -/
theorem LineBuffer.lines_eq_ofText (bs : Bytes) :
    lines bs = (Lines.ofText (Utf8.decodeLossy bs)).map String.ofList := by
  have hsplit := Lines.split_map (Utf8.cutsAt_short (a := newline) (by decide))
    (Utf8.cutsAt_short (a := carriageReturn) (by decide)) (fun _ => Utf8.scanLossy_eq_nil) bs
  have htext : Lines.ofText (Utf8.decodeLossy bs) =
      Lines.split '\n' '\r' (Utf8.scanLossy [] 0 bs) := by
    rw [Lines.ofText, Utf8.decodeLossy, String.toList_ofList]
  rw [htext, lines]
  show List.map (String.ofList ∘ Utf8.scanLossy [] 0) _ = _
  rw [← List.map_map]
  exact congrArg (List.map String.ofList) hsplit

/-- What is read line by line from well-formed bytes are the lines of the text. -/
theorem Utf8.Encodes.lines_eq {bs : Bytes} {cs : List Char} (h : Encodes bs cs) :
    LineBuffer.lines bs = (Lines.split '\n' '\r' cs).map String.ofList := by
  rw [LineBuffer.lines_eq_ofText, h.decodeLossy, Lines.ofText, String.toList_ofList]

end Pipework
