import Pipework.Builtin
import Pipework.FileStore
import Pipework.Proofs.Dict

/-!
# Snapshots of texts

A store writes itself out as an object of texts, and takes that back as it was; what it takes is
that or null (`FileStore.ofSnapshot_eq_ok`). Editing one file at a time leaves an object of texts
one: so does every built-in command, also where it stops halfway (`Builtin.run_texts`).
-/

namespace Pipework

/-! ## Editing -/

namespace Snapshot

/-- An object that has a text in every field. -/
def HoldsTexts : Snapshot → Prop
  | .object fields => ∀ e ∈ fields, ∃ text, e.2 = .text text
  | _ => False

variable {s : Snapshot}

theorem HoldsTexts.object (h : s.HoldsTexts) : ∃ fields, s = .object fields := by
  cases s with
  | object fields => exact ⟨fields, rfl⟩
  | _ => exact h.elim

/-- **Every file can be written to an object of texts**, which is one afterwards. -/
theorem HoldsTexts.write (h : s.HoldsTexts) (path content : String) :
    ∃ s', Snapshot.write s path content = .ok s' ∧ HoldsTexts s' := by
  obtain ⟨fields, rfl⟩ := h.object
  refine ⟨_, rfl, fun e he => ?_⟩
  rcases Dict.mem_of_insert he with rfl | hold
  · exact ⟨content, rfl⟩
  · exact h e hold

theorem HoldsTexts.remove (h : s.HoldsTexts) (path : String) :
    (Snapshot.remove s path).2.HoldsTexts := by
  obtain ⟨fields, rfl⟩ := h.object
  unfold Snapshot.remove
  simp only
  split
  · exact fun e he => h e (Dict.mem_of_erase he)
  · exact h

end Snapshot

/-! ## Stores -/

namespace FileStore

theorem snapshot_texts (files : FileStore) : files.snapshot.HoldsTexts := by
  intro e he
  obtain ⟨entry, -, rfl⟩ := List.mem_map.mp he
  exact ⟨entry.2, rfl⟩

theorem exists_of_texts {fields : List (String × Json)}
    (h : ∀ e ∈ fields, ∃ text, e.2 = .text text) :
    ∃ files : Dict String, fields = Dict.mapValues .text files := by
  induction fields with
  | nil => exact ⟨[], rfl⟩
  | cons entry rest ih =>
    obtain ⟨hentry, hrest⟩ := List.forall_mem_cons.mp h
    obtain ⟨files, rfl⟩ := ih hrest
    obtain ⟨path, value⟩ := entry
    obtain ⟨text, rfl⟩ : ∃ text, value = .text text := hentry
    exact ⟨(path, text) :: files, rfl⟩

/-- The files of an object are its fields, if all of them are texts. -/
theorem filesOf_eq_ok {fields : List (String × Json)} {files : List (String × String)} :
    filesOf fields = .ok files ↔ fields = Dict.mapValues .text files := by
  induction fields generalizing files with
  | nil =>
    refine ⟨fun h => by cases h; rfl, fun h => ?_⟩
    rw [List.map_eq_nil_iff.mp h.symm, filesOf]
  | cons entry rest ih =>
    obtain ⟨path, value⟩ := entry
    cases value with
    | text content =>
      cases hrest : filesOf rest with
      | ok more =>
        obtain rfl := ih.mp hrest
        simp only [filesOf, hrest]
        refine ⟨fun h => by cases h; rfl, fun h => ?_⟩
        obtain ⟨⟨path', content'⟩, files, rfl, hentry, hmore⟩ := List.map_eq_cons_iff.mp h.symm
        cases hentry
        rw [Except.ok.inj (hrest.symm.trans (ih.mpr hmore.symm))]
      | error why =>
        simp only [filesOf, hrest]
        refine ⟨nofun, fun h => ?_⟩
        obtain ⟨entry, files, rfl, -, hmore⟩ := List.map_eq_cons_iff.mp h.symm
        cases hrest.symm.trans (ih.mpr hmore.symm)
    | _ =>
      refine ⟨nofun, fun h => ?_⟩
      obtain ⟨entry, files, rfl, hentry, -⟩ := List.map_eq_cons_iff.mp h.symm
      cases hentry

/-- **A store takes over exactly what a store writes out, and null as no files at all.** -/
theorem ofSnapshot_eq_ok {s : Snapshot} {store : FileStore} :
    ofSnapshot s = .ok store ↔ s = store.snapshot ∨ s = .null ∧ store = .empty := by
  cases s with
  | null => exact ⟨fun h => .inr ⟨rfl, (Except.ok.inj h).symm⟩, fun h => by
      obtain h | ⟨-, rfl⟩ := h
      · cases h
      · rfl⟩
  | object fields =>
    obtain ⟨files⟩ := store
    simp only [ofSnapshot, snapshot, Json.textDict, Json.object.injEq, reduceCtorEq, false_and,
      or_false, ← filesOf_eq_ok]
    cases filesOf fields <;> simp [Except.map]
  | _ => exact ⟨nofun, fun h => by
      obtain h | ⟨h, -⟩ := h <;> cases h⟩

/-- **A store refuses no object of texts.** -/
theorem ofSnapshot_of_texts {s : Snapshot} (h : s.HoldsTexts) :
    ∃ files, ofSnapshot s = .ok files := by
  obtain ⟨fields, rfl⟩ := h.object
  obtain ⟨files, rfl⟩ := exists_of_texts h
  exact ⟨⟨files⟩, ofSnapshot_eq_ok.mpr (.inl rfl)⟩

theorem read?_snapshot (store : FileStore) (path : String) :
    Snapshot.read? store.snapshot path = store.read? path := by
  show (Dict.get? (Dict.mapValues Json.text store.files) path >>= Json.text?) = _
  rw [Dict.get?_mapValues]
  cases h : Dict.get? store.files path <;> simp [read?, h, Json.text?]

/-- A store that was taken over from a snapshot holds what the snapshot holds. -/
theorem read?_ofSnapshot {s : Snapshot} {store : FileStore} (h : ofSnapshot s = .ok store)
    (path : String) : store.read? path = Snapshot.read? s path := by
  obtain rfl | ⟨rfl, rfl⟩ := ofSnapshot_eq_ok.mp h
  · exact (read?_snapshot store path).symm
  · rfl

theorem accept_eq (store : FileStore) (s : Snapshot) :
    Filesystem.accept store s = ofSnapshot s := rfl

instance : LawfulFilesystem FileStore where
  read?_accepted h path := (read?_snapshot _ path).trans (read?_ofSnapshot h path)

end FileStore

/-! ## Built-in commands -/

namespace Builtin

open Snapshot

theorem store_texts (input : String) (paths : List String) : ∀ (append : Bool) {files : Snapshot},
    files.HoldsTexts → (store input append files paths).2.HoldsTexts := by
  induction paths with
  | nil => exact fun _ _ h => h
  | cons path rest ih =>
    intro append files h
    unfold store
    split
    · exact ih true h
    · simp only
      obtain ⟨after, hwrite, hafter⟩ := h.write path
        ((if append then (Snapshot.read? files path).getD "" else "") ++ input)
      rw [hwrite]
      exact ih append hafter

/-- What was removed before the path that is not there stays removed. -/
theorem removeAll_texts (paths : List String) : ∀ {files : Snapshot},
    files.HoldsTexts → (removeAll files paths).2.HoldsTexts := by
  induction paths with
  | nil => exact fun h => h
  | cons path rest ih =>
    intro files h
    have hremoved := h.remove path
    unfold removeAll
    split
    · rename_i heq
      rw [heq] at hremoved
      exact ih hremoved
    · rename_i heq
      rw [heq] at hremoved
      exact hremoved

/-- **A built-in leaves an object of texts of one**, whatever it is called with and however it
ends. -/
theorem run_texts (b : Builtin) (inv : Invocation) (input : String) (h : inv.files.HoldsTexts) :
    (b.run inv input).2.HoldsTexts := by
  cases b with
  | tee =>
    have hstored := store_texts input (inv.args.drop 1) false h
    simp only [run]
    split <;>
      (rename_i heq
       rw [heq] at hstored
       exact hstored)
  | rm =>
    simp only [run]
    split
    · exact h
    · exact removeAll_texts _ h
  | cat =>
    simp only [run]
    split <;> exact h
  | _ => exact h

end Builtin

end Pipework
