import Mathlib.Algebra.Group.Nat.Defs
import Mathlib.Data.List.Forall2
import Pipework.Proofs.Lines

/-!
# Bytes that spell a text

Well-formed bytes fall into pieces of one character each (`Encodes`), and `decode?` reads exactly
these (`decode?_eq_ok`); there `decodeLossy` replaces nothing. A byte below 0x80 is a piece of its
own and stands for the character of its number, so bytes can be cut at newlines before or after they
are decoded (`Encodes.lines`).
-/

namespace Pipework

namespace Utf8

variable {b a : UInt8} {bs xs ys : Bytes} {c : Char} {cs : List Char}

/-! ## The first piece -/

/-- The bytes `b :: tail` are one character, whatever comes behind them. -/
structure Piece (b : UInt8) (tail : Bytes) (c : Char) : Prop where
  front : ∀ more, front b (tail ++ more) = .char c (tail.length + 1)
  tails : ∀ x ∈ tail, 0x80 ≤ x
  short : b < 0x80 → tail = [] ∧ c = Char.ofNat b.toNat
  long : 0x80 ≤ b → 0x80 ≤ c.toNat

theorem tails_char {low high : UInt8} {bits width n w : Nat} (hlow : 0x80 ≤ low)
    (h : Utf8.tails low high bits width (n + 1) bs = .char c w) :
    ∃ tail rest v, bs = tail ++ rest ∧ tail.length = n + 1 ∧ w = width + (n + 1) ∧
      (∀ more, Utf8.tails low high bits width (n + 1) (tail ++ more) = .char c w) ∧
      (∀ x ∈ tail, 0x80 ≤ x) ∧ c = Char.ofNat v ∧
      (bits * 64 + (low.toNat - 0x80)) * 64 ^ n ≤ v ∧
      v < (bits * 64 + (high.toNat - 0x80) + 1) * 64 ^ n := by
  induction n generalizing low high bits width bs with
  | zero =>
    cases bs with
    | nil => cases h
    | cons x rest =>
      unfold Utf8.tails at h
      split at h
      · rename_i hx
        rw [Utf8.tails, Front.char.injEq] at h
        obtain ⟨rfl, rfl⟩ := h
        have hl : low.toNat ≤ x.toNat := hx.1
        have hh : x.toNat ≤ high.toNat := hx.2
        refine ⟨[x], rest, _, rfl, rfl, rfl, fun more => ?_, ?_, rfl, ?_, ?_⟩
        · simp [Utf8.tails, hx]
        · intro y hy
          rw [List.mem_singleton.mp hy]
          exact UInt8.le_trans hlow hx.1
        · omega
        · omega
      · cases h
  | succ n ih =>
    cases bs with
    | nil => cases h
    | cons x rest =>
      unfold Utf8.tails at h
      split at h
      · rename_i hx
        have hl : low.toNat ≤ x.toNat := hx.1
        have hh : x.toNat ≤ high.toNat := hx.2
        have hx80 : 0x80 ≤ x := UInt8.le_trans hlow hx.1
        obtain ⟨tail, rest', v, rfl, hlength, rfl, hmore, htail, rfl, hge, hlt⟩ :=
          ih (by decide) h
        refine ⟨x :: tail, rest', v, rfl, congrArg (· + 1) hlength, by omega, fun more => ?_, ?_, rfl,
          ?_, ?_⟩
        · rw [List.cons_append, Utf8.tails, if_pos hx]
          exact hmore more
        · intro y hy
          rcases List.mem_cons.mp hy with rfl | hy
          · exact hx80
          · exact htail y hy
        · calc (bits * 64 + (low.toNat - 0x80)) * 64 ^ (n + 1)
              = (bits * 64 + (low.toNat - 0x80)) * 64 * 64 ^ n := by
                rw [Nat.pow_succ', Nat.mul_assoc]
            _ ≤ ((bits * 64 + (x.toNat - 0x80)) * 64 + (0x80 - 0x80)) * 64 ^ n :=
              Nat.mul_le_mul_right _ (by omega)
            _ ≤ v := hge
        · calc v < ((bits * 64 + (x.toNat - 0x80)) * 64 + (0xBF - 0x80) + 1) * 64 ^ n := hlt
            _ ≤ (bits * 64 + (high.toNat - 0x80) + 1) * 64 * 64 ^ n :=
              Nat.mul_le_mul_right _ (by omega)
            _ = (bits * 64 + (high.toNat - 0x80) + 1) * 64 ^ (n + 1) := by
              rw [Nat.pow_succ', Nat.mul_assoc]
      · cases h

/-- What a leading byte promises is a character, and none of those that are bytes by themselves. -/
structure Lead.Sound (l : Lead) (n : Nat) : Prop where
  owes : l.tails = n + 1
  low : 0x80 ≤ l.low
  long : 0x80 ≤ (l.bits * 64 + (l.low.toNat - 0x80)) * 64 ^ n
  valid : (l.bits * 64 + (l.high.toNat - 0x80) + 1) * 64 ^ n ≤ 0xD800 ∨
    0xDFFF < (l.bits * 64 + (l.low.toNat - 0x80)) * 64 ^ n ∧
      (l.bits * 64 + (l.high.toNat - 0x80) + 1) * 64 ^ n ≤ 0x110000

theorem lead?_sound {l : Lead} (h : lead? b = some l) : ∃ n, l.Sound n := by
  have hbyte : ∀ {low high : UInt8}, low ≤ b ∧ b ≤ high →
      low.toNat ≤ b.toNat ∧ b.toNat ≤ high.toNat := fun hb => hb
  unfold lead? at h
  split at h
  · rename_i hb
    obtain ⟨hl, hh⟩ : 0xC2 ≤ b.toNat ∧ b.toNat ≤ 0xDF := hbyte hb
    obtain rfl := Option.some.inj h
    refine ⟨0, rfl, UInt8.le_refl _, ?_, ?_⟩ <;> simp only [UInt8.reduceToNat] <;> omega
  split at h
  · obtain rfl := Option.some.inj h
    refine ⟨1, rfl, by decide, ?_, ?_⟩ <;> simp only [UInt8.reduceToNat] <;> omega
  split at h
  · obtain rfl := Option.some.inj h
    refine ⟨1, rfl, by decide, ?_, ?_⟩ <;> simp only [UInt8.reduceToNat] <;> omega
  split at h
  · rename_i hed hb
    obtain ⟨hl, hh⟩ : 0xE1 ≤ b.toNat ∧ b.toNat ≤ 0xEF := hbyte hb
    have hne : b.toNat ≠ 0xED := fun heq => hed (UInt8.toNat.inj heq)
    obtain rfl := Option.some.inj h
    refine ⟨1, rfl, UInt8.le_refl _, ?_, ?_⟩ <;> simp only [UInt8.reduceToNat] <;> omega
  split at h
  · obtain rfl := Option.some.inj h
    refine ⟨2, rfl, by decide, ?_, ?_⟩ <;> simp only [UInt8.reduceToNat] <;> omega
  split at h
  · rename_i hb
    obtain ⟨hl, hh⟩ : 0xF1 ≤ b.toNat ∧ b.toNat ≤ 0xF3 := hbyte hb
    obtain rfl := Option.some.inj h
    refine ⟨2, rfl, UInt8.le_refl _, ?_, ?_⟩ <;> simp only [UInt8.reduceToNat] <;> omega
  split at h
  · obtain rfl := Option.some.inj h
    refine ⟨2, rfl, UInt8.le_refl _, ?_, ?_⟩ <;> simp only [UInt8.reduceToNat] <;> omega
  · cases h

theorem toNat_ofNat {v : Nat} (h : v < 0xD800 ∨ 0xDFFF < v ∧ v < 0x110000) :
    (Char.ofNat v).toNat = v := by
  unfold Char.ofNat
  rw [dif_pos h]
  rfl

/-- **What is read first are the bytes of one piece**, and they are read alike wherever they stand. -/
theorem front_piece {w : Nat} (h : front b bs = .char c w) :
    ∃ tail rest, bs = tail ++ rest ∧ w = tail.length + 1 ∧ Piece b tail c := by
  unfold front at h
  split at h
  · rename_i hb
    rw [Front.char.injEq] at h
    obtain ⟨rfl, rfl⟩ := h
    refine ⟨[], bs, rfl, rfl, fun more => ?_, nofun, fun _ => ⟨rfl, rfl⟩, fun hge => ?_⟩
    · simp [front, hb]
    · exact absurd hb (UInt8.not_lt.mpr hge)
  · rename_i hb
    split at h
    · rename_i l hl
      obtain ⟨n, howes, hlow, hlong, hvalid⟩ := lead?_sound hl
      rw [howes] at h
      obtain ⟨tail, rest, v, rfl, hlength, rfl, hmore, htail, rfl, hge, hlt⟩ := tails_char hlow h
      refine ⟨tail, rest, rfl, by omega, fun more => ?_, htail, fun hlt => absurd hlt hb, fun _ => ?_⟩
      · unfold front
        rw [if_neg hb, hl, hlength]
        simp only [howes]
        rw [hmore more, Nat.add_comm]
      · rw [toNat_ofNat (by omega)]
        omega
    · cases h

/-! ## All pieces -/

/-- The bytes fall into pieces that are these characters. -/
inductive Encodes : Bytes → List Char → Prop where
  | nil : Encodes [] []
  | cons {b : UInt8} {tail rest : Bytes} {c : Char} {cs : List Char} (hpiece : Piece b tail c)
      (hrest : Encodes rest cs) : Encodes (b :: (tail ++ rest)) (c :: cs)

theorem scan?_skip (done : List Char) (tail rest : Bytes) : ∀ index,
    scan? done index tail.length (tail ++ rest) = scan? done (index + tail.length) 0 rest := by
  induction tail with
  | nil => exact fun _ => rfl
  | cons x tail ih =>
    intro index
    have hstep : scan? done index (x :: tail).length (x :: tail ++ rest) =
        scan? done (index + 1) tail.length (tail ++ rest) := rfl
    rw [hstep, ih, List.length_cons]
    congr 1
    omega

theorem scan?_of_encodes (h : Encodes bs cs) : ∀ done index,
    scan? done index 0 bs = .ok (done.reverse ++ cs) := by
  induction h with
  | nil =>
    intro done index
    simp [scan?]
  | @cons b tail rest c cs hpiece hrest ih =>
    intro done index
    have hfront := hpiece.front rest
    have hstep : scan? done index 0 (b :: (tail ++ rest)) =
        scan? (c :: done) (index + 1) tail.length (tail ++ rest) := by
      simp only [scan?, hfront, Nat.add_sub_cancel]
    rw [hstep, scan?_skip, ih, List.reverse_cons, List.append_assoc]
    rfl

theorem encodes_of_scan? (bs : Bytes) : ∀ {done index cs}, scan? done index 0 bs = .ok cs →
    ∃ text, cs = done.reverse ++ text ∧ Encodes bs text := by
  generalize hlength : bs.length = length
  induction length using Nat.strongRecOn generalizing bs with
  | _ length ih =>
    intro done index cs h
    cases bs with
    | nil =>
      simp only [scan?, Except.ok.injEq] at h
      exact ⟨[], by rw [h, List.append_nil], .nil⟩
    | cons b bs =>
      simp only [scan?] at h
      split at h
      · rename_i c w hfront
        obtain ⟨tail, rest, rfl, rfl, hpiece⟩ := front_piece hfront
        rw [Nat.add_sub_cancel, scan?_skip] at h
        have hless : rest.length < length := by
          rw [← hlength, List.length_cons, List.length_append]
          omega
        obtain ⟨text, rfl, hrest⟩ := ih rest.length hless rest rfl h
        exact ⟨c :: text, by simp, .cons hpiece hrest⟩
      · cases h
      · cases h

/-- **Bytes are decoded exactly when they spell a text**, and to that text. -/
theorem decode?_eq_ok {text : String} : decode? bs = .ok text ↔ Encodes bs text.toList := by
  unfold decode?
  constructor
  · intro h
    cases hscan : scan? [] 0 0 bs with
    | error why =>
      rw [hscan] at h
      cases h
    | ok cs =>
      rw [hscan] at h
      obtain ⟨text', rfl, hspells⟩ := encodes_of_scan? bs hscan
      cases h
      rwa [String.toList_ofList]
  · intro h
    rw [scan?_of_encodes h]
    exact congrArg Except.ok String.ofList_toList

theorem scanLossy_skip (done : List Char) (tail rest : Bytes) :
    scanLossy done tail.length (tail ++ rest) = scanLossy done 0 rest := by
  induction tail with
  | nil => rfl
  | cons x tail ih => exact ih

theorem scanLossy_of_encodes (h : Encodes bs cs) : ∀ done,
    scanLossy done 0 bs = done.reverse ++ cs := by
  induction h with
  | nil =>
    intro done
    simp [scanLossy]
  | @cons b tail rest c cs hpiece hrest ih =>
    intro done
    have hstep : scanLossy done 0 (b :: (tail ++ rest)) =
        scanLossy (c :: done) tail.length (tail ++ rest) := by
      simp only [scanLossy, hpiece.front rest, Nat.add_sub_cancel]
    rw [hstep, scanLossy_skip, ih, List.reverse_cons, List.append_assoc]
    rfl

/-- Where there is nothing to replace, nothing is. -/
theorem Encodes.decodeLossy (h : Encodes bs cs) : Utf8.decodeLossy bs = String.ofList cs := by
  rw [Utf8.decodeLossy, scanLossy_of_encodes h]
  rfl

/-! ## Cutting at short pieces -/

/-- A byte below 0x80 is a piece of its own, so what stands on either side of it is spelled out. -/
theorem Encodes.split (ha : a < 0x80) (h : Encodes (xs ++ a :: ys) cs) :
    ∃ before after, cs = before ++ Char.ofNat a.toNat :: after ∧ Encodes xs before ∧
      Encodes ys after := by
  generalize hbs : xs ++ a :: ys = bs at h
  induction h generalizing xs with
  | nil => simp at hbs
  | @cons b tail rest c cs hpiece hrest ih =>
    cases xs with
    | nil =>
      rw [List.nil_append, List.cons.injEq] at hbs
      obtain ⟨rfl, rfl⟩ := hbs
      obtain ⟨rfl, rfl⟩ := hpiece.short ha
      exact ⟨[], cs, rfl, .nil, hrest⟩
    | cons x xs =>
      rw [List.cons_append, List.cons.injEq] at hbs
      obtain ⟨rfl, hsame⟩ := hbs
      obtain ⟨more, rfl, rfl⟩ : ∃ more, xs = tail ++ more ∧ rest = more ++ a :: ys := by
        rcases List.append_eq_append_iff.mp hsame with ⟨more, rfl, hmore⟩ | ⟨more, rfl, hmore⟩
        · cases more with
          | nil => exact ⟨[], by simp, by simpa using hmore.symm⟩
          | cons y more =>
            obtain ⟨rfl, -⟩ := List.cons.inj hmore
            have hlong := hpiece.tails a (by simp)
            exact absurd ha (UInt8.not_lt.mpr hlong)
        · exact ⟨more, rfl, hmore⟩
      obtain ⟨before, after, rfl, hbefore, hafter⟩ := ih rfl
      exact ⟨c :: before, after, rfl, .cons hpiece hbefore, hafter⟩

/-- A byte below 0x80 between what spells two texts spells the character of its number. -/
theorem Encodes.join (ha : a < 0x80) (h : Encodes xs cs) (h' : Encodes ys cs') :
    Encodes (xs ++ a :: ys) (cs ++ Char.ofNat a.toNat :: cs') := by
  induction h with
  | nil =>
    have hfront : front a ys = .char (Char.ofNat a.toNat) 1 := if_pos ha
    obtain ⟨tail, rest, rfl, hwidth, hpiece⟩ := front_piece hfront
    obtain rfl : tail = [] := List.length_eq_zero_iff.mp (Nat.succ.inj hwidth).symm
    exact .cons hpiece h'
  | cons hpiece _ ih =>
    rw [List.cons_append, List.append_assoc]
    exact .cons hpiece ih

/-- A character below 0x80 is spelled by one byte, wherever it stands. -/
theorem Encodes.unsplit {before after : List Char} (ha : a < 0x80)
    (h : Encodes bs (before ++ Char.ofNat a.toNat :: after)) :
    ∃ xs ys, bs = xs ++ a :: ys ∧ Encodes xs before ∧ Encodes ys after := by
  generalize hcs : before ++ Char.ofNat a.toNat :: after = cs at h
  induction h generalizing before with
  | nil => simp at hcs
  | @cons b tail rest c cs hpiece hrest ih =>
    cases before with
    | nil =>
      rw [List.nil_append, List.cons.injEq] at hcs
      obtain ⟨hc, rfl⟩ := hcs
      have hvalid : a.toNat < 0x80 := ha
      have hnat : c.toNat = a.toNat := by
        rw [← hc, toNat_ofNat (by omega)]
      have hb : b < 0x80 := by
        rw [← UInt8.not_le]
        intro hge
        have hlong := hpiece.long hge
        omega
      obtain ⟨rfl, rfl⟩ := hpiece.short hb
      have hvalid' : b.toNat < 0x80 := hb
      rw [toNat_ofNat (by omega)] at hnat
      obtain rfl := UInt8.toNat.inj hnat
      exact ⟨[], rest, rfl, .nil, hrest⟩
    | cons c' before =>
      rw [List.cons_append, List.cons.injEq] at hcs
      obtain ⟨rfl, hsame⟩ := hcs
      obtain ⟨xs, ys, rfl, hxs, hys⟩ := ih hsame
      exact ⟨b :: (tail ++ xs), ys, by simp, .cons hpiece hxs, hys⟩

theorem Encodes.mem (ha : a < 0x80) (h : Encodes bs cs) : a ∈ bs ↔ Char.ofNat a.toNat ∈ cs := by
  constructor
  · intro hmem
    obtain ⟨xs, ys, rfl⟩ := List.append_of_mem hmem
    obtain ⟨before, after, rfl, -, -⟩ := h.split ha
    simp
  · intro hmem
    obtain ⟨before, after, rfl⟩ := List.append_of_mem hmem
    obtain ⟨xs, ys, rfl, -, -⟩ := h.unsplit ha
    simp

theorem Encodes.nil_iff (h : Encodes bs cs) : bs = [] ↔ cs = [] := by
  cases h <;> simp

/-! ## Lines -/

/-- A carriage return is dropped before or after decoding. -/
theorem Encodes.dropReturn (h : Encodes bs cs) :
    Encodes (Lines.dropReturn LineBuffer.carriageReturn bs) (Lines.dropReturn '\r' cs) := by
  have hshort : LineBuffer.carriageReturn < 0x80 := by decide
  unfold Lines.dropReturn
  by_cases hlast : bs.getLast? = some LineBuffer.carriageReturn
  · obtain ⟨xs, rfl⟩ := List.getLast?_eq_some_iff.mp hlast
    obtain ⟨before, after, rfl, hbefore, hafter⟩ := h.split hshort
    obtain rfl := hafter.nil_iff.mp rfl
    simpa [LineBuffer.carriageReturn] using hbefore
  · have hlast' : cs.getLast? ≠ some '\r' := by
      intro hcs
      obtain ⟨before, rfl⟩ := List.getLast?_eq_some_iff.mp hcs
      obtain ⟨xs, ys, rfl, -, hafter⟩ := h.unsplit hshort
      obtain rfl := hafter.nil_iff.mpr rfl
      exact hlast List.getLast?_concat
    rw [if_neg (by simpa using hlast), if_neg (by simpa using hlast')]
    exact h

/-- **The lines of well-formed bytes are the lines of the text**, each spelled out. -/
theorem Encodes.lines (h : Encodes bs cs) :
    List.Forall₂ Encodes (Lines.split LineBuffer.newline LineBuffer.carriageReturn bs)
      (Lines.split '\n' '\r' cs) := by
  have hshort : LineBuffer.newline < 0x80 := by decide
  generalize hlength : bs.length = length
  induction length using Nat.strongRecOn generalizing bs cs with
  | _ length ih =>
    by_cases hmem : LineBuffer.newline ∈ bs
    · obtain ⟨line, rest, rfl, hfree⟩ := List.eq_append_cons_of_mem hmem
      obtain ⟨before, after, rfl, hbefore, hafter⟩ := h.split hshort
      have hfree' : '\n' ∉ before := fun hmem' => hfree ((hbefore.mem hshort).mpr hmem')
      have hless : rest.length < length := by
        rw [← hlength, List.length_append, List.length_cons]
        omega
      have hnewline : Char.ofNat LineBuffer.newline.toNat = '\n' := rfl
      rw [Lines.split_append hfree, hnewline, Lines.split_append hfree']
      exact .cons hbefore.dropReturn (ih _ hless hafter rfl)
    · have hmem' : '\n' ∉ cs := fun hcs => hmem ((h.mem hshort).mpr hcs)
      rw [Lines.split_last hmem, Lines.split_last hmem']
      cases h with
      | nil => exact .nil
      | cons hpiece hrest => exact .cons (.cons hpiece hrest) .nil

end Utf8

end Pipework
