import Pipework.Proofs.Run.Steps
import Pipework.Proofs.Texts
import Pipework.Routine.Basic

/-!
# Editing a snapshot for a store

A stage edits its own copy of the files, a JSON value, and the store takes the copy over when the
stage ends. That comes to the same as editing the store itself: every use of a file gets the answer
that the store gives, and the edited snapshot is that of the edited store (`Edit.onSnapshot_snapshot`
for one use, `editSnapshot_snapshot` for any number). A value that holds no files is refused, and
the store stays as it was (`editing_agrees`).
-/

namespace Pipework

/-! ## Uses of files -/

/-- One use of a file. -/
inductive Edit where
  | read (path : String)
  | write (path content : String)
  | remove (path : String)
  deriving DecidableEq, Repr

/-- A use of a store: what it answers, and the store afterwards. A removal answers with what it
removed. -/
def Edit.onStore (store : FileStore) : Edit → Option String × FileStore
  | .read path => (store.read? path, store)
  | .write path content => (none, store.write path content)
  | .remove path => (store.read? path, store.erase path)

/-- A use of a snapshot. A write that is refused leaves the snapshot alone. -/
def Edit.onSnapshot (s : Snapshot) : Edit → Except Fault (Option String) × Snapshot
  | .read path => (.ok (Snapshot.read? s path), s)
  | .write path content =>
    match Snapshot.write s path content with
    | .ok s' => (.ok none, s')
    | .error why => (.error why, s)
  | .remove path => (.ok (Snapshot.remove s path).1, (Snapshot.remove s path).2)

/-- What a use makes of a map from paths to contents. -/
def Edit.onContents (contents : String → Option String) : Edit → String → Option String
  | .read _ => contents
  | .write path content => fun other => if path = other then some content else contents other
  | .remove path => fun other => if path = other then none else contents other

/-- All answers of a store, and the store in the end. -/
def editStore (store : FileStore) : List Edit → List (Option String) × FileStore
  | [] => ([], store)
  | e :: rest =>
    let (answers, after) := editStore (e.onStore store).2 rest
    ((e.onStore store).1 :: answers, after)

/-- All answers of a snapshot, and the snapshot in the end. -/
def editSnapshot (s : Snapshot) : List Edit → List (Except Fault (Option String)) × Snapshot
  | [] => ([], s)
  | e :: rest =>
    let (answers, after) := editSnapshot (e.onSnapshot s).2 rest
    ((e.onSnapshot s).1 :: answers, after)

variable {store : FileStore} {s : Snapshot}

theorem Edit.read?_onStore (h : store.files.Sorted) (e : Edit) :
    (e.onStore store).2.files.Sorted ∧ (e.onStore store).2.read? = e.onContents store.read? := by
  cases e with
  | read path => exact ⟨h, rfl⟩
  | write path content => exact ⟨h.insert path content, funext fun _ => Dict.get?_insert ..⟩
  | remove path => exact ⟨h.erase path, funext fun _ => Dict.get?_erase h path _⟩

/-- **A store is the map from paths to contents that its uses make it.** -/
theorem read?_editStore (h : store.files.Sorted) (edits : List Edit) :
    (editStore store edits).2.read? = edits.foldl Edit.onContents store.read? := by
  induction edits generalizing store with
  | nil => rfl
  | cons e rest ih =>
    obtain ⟨hsorted, hread⟩ := e.read?_onStore h
    rw [List.foldl_cons, ← hread]
    exact ih hsorted

/-- **A use of a snapshot is answered as the store would answer it**, and leaves the snapshot of
what the store would be. -/
theorem Edit.onSnapshot_snapshot (store : FileStore) (e : Edit) :
    e.onSnapshot store.snapshot = (.ok (e.onStore store).1, (e.onStore store).2.snapshot) := by
  cases e with
  | read path =>
    rw [onSnapshot, FileStore.read?_snapshot]
    rfl
  | write path content =>
    show (_, Json.object _) = (_, Json.object _)
    rw [Dict.insert_mapValues]
    rfl
  | remove path =>
    have hread := FileStore.read?_snapshot store path
    have hfield : Dict.get? (Dict.mapValues Json.text store.files) path =
      (store.read? path).map .text := Dict.get?_mapValues ..
    simp only [onSnapshot, onStore, Snapshot.remove, FileStore.snapshot, Json.textDict, hfield]
    cases hold : store.read? path with
    | none =>
      -- where there is nothing to remove the snapshot is handed back as it is
      rw [FileStore.erase, Dict.erase_of_get?_none hold]
      rfl
    | some content =>
      simp only [Option.map_some, Dict.erase_mapValues]
      rfl

theorem editSnapshot_snapshot (store : FileStore) (edits : List Edit) :
    editSnapshot store.snapshot edits =
      ((editStore store edits).1.map .ok, (editStore store edits).2.snapshot) := by
  induction edits generalizing store with
  | nil => rfl
  | cons e rest ih => simp only [editSnapshot, editStore, Edit.onSnapshot_snapshot, ih, List.map_cons]

/-! ## Refusals -/

/-- Why a store does not take a value over: the value is no object, or this is the first of its
fields that holds no text. -/
inductive FileStore.RefusalReason : Snapshot → Fault → Prop where
  | shape {s : Snapshot} (hnull : s ≠ .null) (hobject : ∀ fields, s ≠ .object fields) :
      RefusalReason s (.of ("snapshot must be an object, got " ++ s.render))
  | field (before : Dict String) (path : String) {value : Json} (after : List (String × Json))
      (hvalue : ∀ text, value ≠ .text text) :
      RefusalReason (.object (Dict.mapValues .text before ++ (path, value) :: after))
        (.of (path ++ ": expected string content, got " ++ value.render))

namespace FileStore

theorem filesOf_refused (before : Dict String) (path : String) {value : Json}
    (after : List (String × Json)) (hvalue : ∀ text, value ≠ .text text) :
    filesOf (Dict.mapValues .text before ++ (path, value) :: after) =
      .error (.of (path ++ ": expected string content, got " ++ value.render)) := by
  induction before with
  | nil =>
    cases value with
    | text text => exact absurd rfl (hvalue text)
    | _ => rfl
  | cons entry before ih =>
    obtain ⟨path', content⟩ := entry
    simp only [Dict.mapValues, List.map_cons, List.cons_append] at ih ⊢
    rw [filesOf, ih]

/-- The first field that holds no text. -/
theorem exists_first_of_not_texts {fields : List (String × Json)}
    (h : ¬ ∀ e ∈ fields, ∃ text, e.2 = .text text) :
    ∃ (before : Dict String) (path : String) (value : Json) (after : List (String × Json)),
      fields = Dict.mapValues .text before ++ (path, value) :: after ∧
        ∀ text, value ≠ .text text := by
  induction fields with
  | nil => exact absurd (List.forall_mem_nil _) h
  | cons entry rest ih =>
    obtain ⟨path, value⟩ := entry
    by_cases hvalue : ∃ text, value = .text text
    · obtain ⟨text, rfl⟩ := hvalue
      obtain ⟨before, path', value, after, rfl, hvalue⟩ :=
        ih fun hrest => h (List.forall_mem_cons.mpr ⟨⟨text, rfl⟩, hrest⟩)
      exact ⟨(path, text) :: before, path', value, after, rfl, hvalue⟩
    · exact ⟨[], path, value, rest, rfl, not_exists.mp hvalue⟩

/-- **What is neither null nor an object of texts is refused**, and the fault says what is wrong. -/
theorem ofSnapshot_refusalReason (hnull : s ≠ .null) (htexts : ¬ s.HoldsTexts) :
    ∃ why, RefusalReason s why ∧ ofSnapshot s = .error why := by
  cases s with
  | null => exact absurd rfl hnull
  | object fields =>
    obtain ⟨before, path, value, after, rfl, hvalue⟩ := exists_first_of_not_texts htexts
    refine ⟨_, .field before path after hvalue, ?_⟩
    rw [ofSnapshot, filesOf_refused before path after hvalue]
    rfl
  | _ => exact ⟨_, .shape hnull (fun fields h => by cases h), rfl⟩

end FileStore

/-! ## Stores and runs -/

/-- **Editing a snapshot comes to editing the store.** Every use of the snapshot that a store wrote
out is answered as the store itself would answer it; taken over, the edited snapshot makes the store
what the same uses would have made it, as a map from paths to contents. What was taken over is
written out again as it was, null as no files. Any other value is refused, and leaves the store of a
run as it is. -/
theorem editing_agrees {P : Type} [Program P] :
    (∀ (store : FileStore) (edits : List Edit),
      (editSnapshot store.snapshot edits).1 = (editStore store edits).1.map .ok ∧
      FileStore.ofSnapshot (editSnapshot store.snapshot edits).2 = .ok (editStore store edits).2 ∧
      (store.files.Sorted →
        (editStore store edits).2.read? = edits.foldl Edit.onContents store.read?) ∧
      ∀ r : Run P FileStore, (r.merge (some (editSnapshot store.snapshot edits).2)).session.files =
        (editStore store edits).2) ∧
    (∀ s : Snapshot, s.HoldsTexts →
      ∃ store, FileStore.ofSnapshot s = .ok store ∧ store.snapshot = s) ∧
    FileStore.ofSnapshot .null = .ok .empty ∧ FileStore.empty.snapshot = .object [] ∧
    ∀ s : Snapshot, s ≠ .null → ¬ s.HoldsTexts →
      ∃ why, FileStore.RefusalReason s why ∧ FileStore.ofSnapshot s = .error why ∧
        ∀ r : Run P FileStore, (r.merge (some s)).session.files = r.session.files := by
  have hmerge : ∀ (r : Run P FileStore) (s : Snapshot),
      (r.merge (some s)).session.files = Filesystem.after r.session.files (some s) := fun r s =>
    congrArg Run.Pipeline.files (Run.pipeline_merge r (some s))
  refine ⟨fun store edits => ?_, fun s htexts => ?_, rfl, rfl, fun s hnull htexts => ?_⟩
  · have htaken : FileStore.ofSnapshot (editStore store edits).2.snapshot =
        .ok (editStore store edits).2 := FileStore.ofSnapshot_eq_ok.mpr (.inl rfl)
    rw [editSnapshot_snapshot]
    refine ⟨rfl, htaken, fun hsorted => read?_editStore hsorted edits, fun r => ?_⟩
    simp only [hmerge, Filesystem.after, FileStore.accept_eq, htaken]
  · obtain ⟨store, hstore⟩ := FileStore.ofSnapshot_of_texts htexts
    obtain rfl | ⟨rfl, -⟩ := FileStore.ofSnapshot_eq_ok.mp hstore
    · exact ⟨store, hstore, rfl⟩
    · exact htexts.elim
  · obtain ⟨why, hwhy, hrefused⟩ := FileStore.ofSnapshot_refusalReason hnull htexts
    refine ⟨why, hwhy, hrefused, fun r => ?_⟩
    simp only [hmerge, Filesystem.after, FileStore.accept_eq, hrefused]

/-- One file is replaced by another, and one that is not there is removed too; a number is no
content. -/
theorem editing_agrees_replaced :
    (editSnapshot (.object [("a", .text "one")])
      [.write "b" "two", .remove "a", .read "a", .remove "c"]).1 =
        [.ok none, .ok (some "one"), .ok none, .ok none] ∧
    FileStore.ofSnapshot (editSnapshot (.object [("a", .text "one")])
      [.write "b" "two", .remove "a", .read "a", .remove "c"]).2 = .ok ⟨[("b", "two")]⟩ ∧
    Dict.Sorted [("a", "one")] ∧
    (FileStore.mk [("b", "two")]).read? = [.write "b" "two", .remove "a"].foldl Edit.onContents
      (FileStore.mk [("a", "one")]).read? ∧
    Snapshot.HoldsTexts (.object [("b", .text "two")]) ∧
    (∃ store, FileStore.ofSnapshot (.object [("b", .text "two")]) = .ok store ∧
      store.snapshot = .object [("b", .text "two")]) ∧
    Json.object [("a", .number 3)] ≠ .null ∧
    ¬ Snapshot.HoldsTexts (.object [("a", .number 3)]) ∧
    ∃ why, FileStore.ofSnapshot (.object [("a", .number 3)]) = .error why := by
  obtain ⟨hedits, htaken, -, -, hrefused⟩ := editing_agrees (P := Routine)
  obtain ⟨hanswers, hstore, -⟩ := hedits ⟨[("a", "one")]⟩
    [.write "b" "two", .remove "a", .read "a", .remove "c"]
  have hsorted : Dict.Sorted [("a", "one")] := List.pairwise_singleton ..
  have hread := (hedits ⟨[("a", "one")]⟩ [.write "b" "two", .remove "a"]).2.2.1 hsorted
  have htexts : Snapshot.HoldsTexts (.object [("b", .text "two")]) :=
    List.forall_mem_singleton.mpr ⟨"two", rfl⟩
  have hnull : Json.object [("a", .number 3)] ≠ .null := nofun
  have hnumber : ¬ Snapshot.HoldsTexts (.object [("a", .number 3)]) := fun h => by
    obtain ⟨text, h⟩ := List.forall_mem_singleton.mp h
    cases h
  obtain ⟨why, -, hwhy, -⟩ := hrefused _ hnull hnumber
  exact ⟨hanswers, hstore, hsorted, hread, htexts, htaken _ htexts, hnull, hnumber, why, hwhy⟩

end Pipework
