import Pipework.Proofs.Editing

/-!
# What built-in commands touch

A built-in gets the files as a snapshot and hands one back. Only two of them change it, and only at
the paths among their operands (`Builtin.touches`).

* `Builtin.store_snapshot` — storing the input: a path that is named once holds the input, behind
  what it held before if `-a` stands in front of it.
* `FileStore.without` — a store without some paths; `Builtin.removeAll_append` — removing paths that
  are all there, each of them once, comes to that, and goes on with what is left.
* `FileStore.removable_or_stops` — where a removal of any paths gets to.
-/

namespace Pipework

namespace FileStore

variable {store : FileStore} {path : String} {paths : List String}

theorem write_snapshot (store : FileStore) (path content : String) :
    Snapshot.write store.snapshot path content = .ok (store.write path content).snapshot :=
  congrArg (Except.ok ∘ Json.object) (Dict.insert_mapValues ..)

theorem remove_snapshot (store : FileStore) (path : String) :
    Snapshot.remove store.snapshot path = (store.read? path, (store.erase path).snapshot) := by
  have h := Edit.onSnapshot_snapshot store (.remove path)
  simp only [Edit.onSnapshot, Edit.onStore, Prod.mk.injEq, Except.ok.injEq] at h
  exact Prod.ext h.1 h.2

/-- The store that is left without some paths. -/
def without (store : FileStore) (paths : List String) : FileStore := paths.foldl erase store

theorem read?_without (h : store.files.Sorted) (paths : List String) (other : String) :
    (store.without paths).read? other = if other ∈ paths then none else store.read? other := by
  induction paths generalizing store with
  | nil => exact (if_neg List.not_mem_nil).symm
  | cons path rest ih =>
    have herase : (store.erase path).read? other = if path = other then none else store.read? other :=
      Dict.get?_erase h path other
    have hleft : (store.erase path).files.Sorted := h.erase path
    have hwithout : store.without (path :: rest) = (store.erase path).without rest := rfl
    rw [hwithout, ih hleft, herase]
    by_cases hrest : other ∈ rest
    · rw [if_pos hrest, if_pos (List.mem_cons_of_mem path hrest)]
    · simp only [hrest, if_false, List.mem_cons, or_false, eq_comm]

/-- Paths that can be removed one after the other: all of them are there, and none stands twice. -/
def Removable (store : FileStore) (paths : List String) : Prop :=
  paths.Nodup ∧ ∀ path ∈ paths, store.read? path ≠ none

/-- **Paths can all be removed, or up to the first that is not there**, be it that it never was or
that it is one of those in front. -/
theorem removable_or_stops (store : FileStore) (paths : List String) :
    store.Removable paths ∨ ∃ before path behind, paths = before ++ path :: behind ∧
      store.Removable before ∧ (store.read? path = none ∨ path ∈ before) := by
  induction paths using List.reverseRecOn with
  | nil => exact .inl ⟨.nil, nofun⟩
  | append_singleton init last ih =>
    obtain hinit | ⟨before, path, behind, rfl, hbefore, hpath⟩ := ih
    · by_cases hlast : store.read? last = none ∨ last ∈ init
      · exact .inr ⟨init, last, [], rfl, hinit, hlast⟩
      · obtain ⟨hthere, hnew⟩ := not_or.mp hlast
        refine .inl ⟨List.nodup_append.mpr ⟨hinit.1, List.nodup_singleton last, ?_⟩, ?_⟩
        · intro path hpath other hother heq
          exact hnew (List.mem_singleton.mp hother ▸ heq ▸ hpath)
        · exact List.forall_mem_append.mpr ⟨hinit.2, List.forall_mem_singleton.mpr hthere⟩
    · exact .inr ⟨before, path, behind ++ [last], List.append_assoc .., hbefore, hpath⟩

end FileStore

namespace Builtin

open Snapshot

variable {store : FileStore} {input : String}

/-! ## Storing -/

/-- **Storing succeeds in any store.** It leaves the paths alone that are not named; a path that is
named once holds the input, where `-a` is in force behind what it held. -/
theorem store_snapshot (input : String) (hsorted : store.files.Sorted) (append : Bool)
    (operands : List String) :
    ∃ after : FileStore, after.files.Sorted ∧
      Builtin.store input append store.snapshot operands = (.ok (), after.snapshot) ∧
      (∀ path ∉ operands, after.read? path = store.read? path) ∧
      ∀ before path behind, operands = before ++ path :: behind → path ≠ "-a" → path ∉ before →
        path ∉ behind → after.read? path =
          some ((if append ∨ "-a" ∈ before then (store.read? path).getD "" else "") ++ input) := by
  induction operands generalizing append store with
  | nil => exact ⟨store, hsorted, rfl, fun _ _ => rfl, fun before _ _ h => by cases before <;> cases h⟩
  | cons arg rest ih =>
    by_cases hflag : arg = "-a"
    · obtain ⟨after, hafter, hstore, hframe, honce⟩ := ih hsorted true
      refine ⟨after, hafter, ?_, fun path hpath => hframe path (List.not_mem_of_not_mem_cons hpath), ?_⟩
      · rw [Builtin.store, if_pos hflag, hstore]
      · rintro (_ | ⟨first, before⟩) path behind heq hpath hbefore hbehind
        · exact absurd ((List.cons.inj heq).1.symm.trans hflag) hpath
        · obtain ⟨rfl, rfl⟩ := List.cons.inj heq
          rw [honce before path behind rfl hpath (List.not_mem_of_not_mem_cons hbefore) hbehind,
            if_pos (.inl rfl), if_pos (.inr (hflag ▸ List.mem_cons_self))]
    · -- the file is written, and what is behind it finds every other path as it was
      have hread : ∀ content other, (store.write arg content).read? other =
          if arg = other then some content else store.read? other :=
        fun content other => Dict.get?_insert store.files arg other content
      have hwritten : (store.write arg ((if append then (store.read? arg).getD "" else "") ++
        input)).files.Sorted := hsorted.insert ..
      obtain ⟨after, hafter, hstore, hframe, honce⟩ := ih hwritten append
      refine ⟨after, hafter, ?_, ?_, ?_⟩
      · simp only [Builtin.store, hflag, if_false, FileStore.read?_snapshot,
          FileStore.write_snapshot, hstore]
      · intro path hpath
        obtain ⟨hne, hrest⟩ := List.ne_and_not_mem_of_not_mem_cons hpath
        rw [hframe path hrest, hread, if_neg hne.symm]
      · rintro (_ | ⟨first, before⟩) path behind heq hpath hbefore hbehind
        · obtain ⟨rfl, rfl⟩ := List.cons.inj heq
          rw [hframe arg hbehind, hread, if_pos rfl]
          simp only [List.not_mem_nil, or_false]
        · obtain ⟨rfl, rfl⟩ := List.cons.inj heq
          obtain ⟨hne, hbefore⟩ := List.ne_and_not_mem_of_not_mem_cons hbefore
          rw [honce before path behind rfl hpath hbefore hbehind, hread, if_neg hne.symm]
          simp only [List.mem_cons, Ne.symm hflag, false_or]

/-! ## Removing -/

/-- **Paths that can be removed are gone**, and the removal goes on with the rest. -/
theorem removeAll_append (hsorted : store.files.Sorted) {before : List String}
    (h : store.Removable before) (rest : List String) :
    removeAll store.snapshot (before ++ rest) = removeAll (store.without before).snapshot rest := by
  induction before generalizing store with
  | nil => rfl
  | cons path before ih =>
    obtain ⟨hnodup, hthere⟩ := h
    obtain ⟨hnew, hnodup⟩ := List.nodup_cons.mp hnodup
    obtain ⟨content, hcontent⟩ := Option.ne_none_iff_exists'.mp (hthere path List.mem_cons_self)
    have hleft : (store.erase path).Removable before := by
      refine ⟨hnodup, fun other hother => ?_⟩
      have hread : (store.erase path).read? other = if path = other then none else store.read? other :=
        Dict.get?_erase hsorted path other
      have hne : path ≠ other := fun heq => hnew (heq ▸ hother)
      rw [hread, if_neg hne]
      exact hthere other (List.mem_cons_of_mem path hother)
    rw [List.cons_append, removeAll, FileStore.remove_snapshot, hcontent]
    exact ih (hsorted.erase path) hleft

/-- The fault of a path that is not there to be removed. -/
def cannotRemove (path : String) : Fault :=
  .of ("cannot remove '" ++ path ++ "': No such file or directory")

/-- Where the next path is not there the removal ends. -/
theorem removeAll_stops {path : String} (h : store.read? path = none) (behind : List String) :
    removeAll store.snapshot (path :: behind) = (.error (cannotRemove path), store.snapshot) := by
  rw [removeAll, FileStore.remove_snapshot, h]
  exact congrArg (fun s : FileStore => (_, s.snapshot))
    (congrArg FileStore.mk (Dict.erase_of_get?_none h))

/-! ## Every built-in -/

/-- What a built-in that ended with a result and a snapshot has made of a snapshot. -/
structure FootprintSpec (b : Builtin) (operands : List String) (input : String) (files : Snapshot)
    (ended : Except Fault (Option String) × Snapshot) : Prop where
  texts : ended.2.HoldsTexts
  /-- A path that is not among the operands keeps its content. -/
  frame : ∀ path ∉ operands, read? ended.2 path = read? files path
  /-- All but two built-ins hand the snapshot back as it is, also where they fail. -/
  unchanged : b ≠ .tee → b ≠ .rm → ended.2 = files
  tee : b = .tee → ended.1 = .ok (output input)
  /-- A path that is named once holds the input, with `-a` in front of it behind its old content. -/
  stored : b = .tee → ∀ before path behind, operands = before ++ path :: behind → path ≠ "-a" →
    path ∉ before → path ∉ behind → read? ended.2 path =
      some ((if "-a" ∈ before then (read? files path).getD "" else "") ++ input)
  /-- A removal succeeds if there are operands, no two the same and all of them there. -/
  rm : b = .rm → ((∃ out, ended.1 = .ok out) ↔
    operands ≠ [] ∧ operands.Nodup ∧ ∀ path ∈ operands, read? files path ≠ none)
  /-- Then they are gone, and nothing else. -/
  removed : b = .rm → ∀ out, ended.1 = .ok out → out = none ∧
    ∀ path, read? ended.2 path = if path ∈ operands then none else read? files path
  /-- One that fails got to the first path that is not there any more or never was, and those in
  front of it are gone. -/
  stopped : b = .rm → ∀ why, ended.1 = .error why → operands = [] ∧ ended.2 = files ∨
    ∃ before path behind, operands = before ++ path :: behind ∧ before.Nodup ∧
      (∀ other ∈ before, read? files other ≠ none) ∧ (read? files path = none ∨ path ∈ before) ∧
      why = cannotRemove path ∧
      ∀ other, read? ended.2 other = if other ∈ before then none else read? files other

variable {b : Builtin} {operands : List String} {files : Snapshot}
  {result : Except Fault (Option String)}

/-- A built-in that is neither of the two and hands the snapshot back. -/
theorem FootprintSpec.of_unchanged (htexts : files.HoldsTexts) (htee : b ≠ .tee) (hrm : b ≠ .rm) :
    FootprintSpec b operands input files (result, files) where
  texts := htexts
  frame _ _ := rfl
  unchanged _ _ := rfl
  tee h := absurd h htee
  stored h := absurd h htee
  rm h := absurd h hrm
  removed h := absurd h hrm
  stopped h := absurd h hrm

theorem tee_ne_rm : Builtin.tee ≠ .rm := by decide

theorem footprintSpec_tee (hsorted : store.files.Sorted) (name : String) (operands : List String)
    (env : Dict String) (input : String) : FootprintSpec .tee operands input store.snapshot
      (Builtin.tee.run ⟨name :: operands, env, store.snapshot⟩ input) := by
  obtain ⟨after, -, hstore, hframe, honce⟩ := store_snapshot input hsorted false operands
  have hrun : Builtin.tee.run ⟨name :: operands, env, store.snapshot⟩ input =
      (.ok (output input), after.snapshot) := by
    simp only [run, List.drop_succ_cons, List.drop_zero, hstore]
  rw [hrun]
  refine
    { texts := after.snapshot_texts, frame := fun path hpath => ?_, unchanged := fun h =>
      absurd rfl h,
      tee := fun _ => rfl, stored := fun _ before path behind h hflag hbefore hbehind => ?_,
      rm := fun h => absurd h tee_ne_rm, removed := fun h => absurd h tee_ne_rm,
      stopped := fun h => absurd h tee_ne_rm }
  · rw [FileStore.read?_snapshot, FileStore.read?_snapshot, hframe path hpath]
  · rw [FileStore.read?_snapshot, FileStore.read?_snapshot,
      honce before path behind h hflag hbefore hbehind]
    simp only [Bool.false_eq_true, false_or]

theorem footprintSpec_rm (hsorted : store.files.Sorted) (name : String) (operands : List String)
    (env : Dict String) (input : String) : FootprintSpec .rm operands input store.snapshot
      (Builtin.rm.run ⟨name :: operands, env, store.snapshot⟩ input) := by
  have hleft : ∀ paths other, read? (store.without paths).snapshot other =
      if other ∈ paths then none else read? store.snapshot other := fun paths other => by
    rw [FileStore.read?_snapshot, FileStore.read?_snapshot, FileStore.read?_without hsorted]
  have htee : Builtin.rm ≠ .tee := tee_ne_rm.symm
  cases operands with
  | nil =>
    refine
      { texts := store.snapshot_texts, frame := fun _ _ => rfl, unchanged := fun _ _ => rfl,
        tee := fun h => absurd h htee, stored := fun h => absurd h htee,
        rm := fun _ => iff_of_false ?_ fun h => h.1 rfl, removed := ?_,
        stopped := fun _ _ _ => .inl ⟨rfl, rfl⟩ }
    · rintro ⟨_, ⟨⟩⟩
    · rintro _ _ ⟨⟩
  | cons first more =>
    have hrun : Builtin.rm.run ⟨name :: first :: more, env, store.snapshot⟩ input =
        removeAll store.snapshot (first :: more) := rfl
    rw [hrun]
    generalize hoperands : first :: more = operands
    have hsome : operands ≠ [] := hoperands ▸ List.cons_ne_nil first more
    clear hrun hoperands
    obtain hall | ⟨before, path, behind, rfl, hbefore, hpath⟩ := store.removable_or_stops operands
    · have hremove := removeAll_append hsorted hall []
      rw [List.append_nil] at hremove
      rw [hremove]
      refine
        { texts := (store.without operands).snapshot_texts, unchanged := fun _ h => absurd rfl h,
          tee := fun h => absurd h htee, stored := fun h => absurd h htee, stopped := ?_,
          frame := fun path hpath => (hleft operands path).trans (if_neg hpath),
          rm := fun _ => iff_of_true ⟨none, rfl⟩ ⟨hsome, hall.1, fun path hpath => ?_⟩,
          removed := fun _ out hout => ⟨(Except.ok.inj hout).symm, hleft operands⟩ }
      · rw [FileStore.read?_snapshot]
        exact hall.2 path hpath
      · rintro _ _ ⟨⟩
    · have hgone : (store.without before).read? path = none := by
        rw [FileStore.read?_without hsorted]
        exact ite_eq_left_iff.mpr fun hnew => hpath.resolve_right hnew
      rw [removeAll_append hsorted hbefore, removeAll_stops hgone]
      refine
        { texts := (store.without before).snapshot_texts, unchanged := fun _ h => absurd rfl h,
          tee := fun h => absurd h htee, stored := fun h => absurd h htee, removed := ?_,
          frame := fun other hother => (hleft before other).trans
            (if_neg (mt (List.mem_append_left _) hother)),
          rm := fun _ => iff_of_false ?_ ?_,
          stopped := fun _ why hwhy => .inr ⟨before, path, behind, rfl, hbefore.1, ?_⟩ }
      · rintro ⟨_, ⟨⟩⟩
      · rintro ⟨-, hnodup, hthere⟩
        obtain hmissing | htwice := hpath
        · exact hthere path (List.mem_append_right _ List.mem_cons_self)
            ((FileStore.read?_snapshot store path).trans hmissing)
        · exact (List.nodup_append.mp hnodup).2.2 path htwice path List.mem_cons_self rfl
      · rintro _ _ ⟨⟩
      · refine ⟨fun other hother => ?_, ?_, (Except.error.inj hwhy).symm, hleft before⟩
        · rw [FileStore.read?_snapshot]
          exact hbefore.2 other hother
        · rwa [FileStore.read?_snapshot]

/-- **A built-in touches no file that it does not name.** All but two leave every file alone, be it
that they succeed or fail. Of those two one stores its input, in files that it names, and the other
removes the files that it names up to the first that is not there. -/
theorem touches (b : Builtin) (name : String) (operands : List String) (env : Dict String)
    (input : String) {fields : Dict Json} (hsorted : fields.Sorted)
    (htexts : Snapshot.HoldsTexts (.object fields)) :
    FootprintSpec b operands input (.object fields)
      (b.run ⟨name :: operands, env, .object fields⟩ input) := by
  obtain ⟨files, rfl⟩ := FileStore.exists_of_texts htexts
  have hfiles : (FileStore.mk files).files.Sorted := Dict.sorted_mapValues.mp hsorted
  cases b with
  | tee => exact footprintSpec_tee hfiles name operands env input
  | rm => exact footprintSpec_rm hfiles name operands env input
  | cat =>
    simp only [run]
    split <;> exact .of_unchanged htexts (by decide) (by decide)
  | _ => exact .of_unchanged htexts (by decide) (by decide)

/-- The input goes to a new file and then behind an old one; of four removals the third, which names
the first file again, stops the rest. -/
theorem touches_twice :
    let files : Dict Json := [("a", .text "1"), ("b", .text "2"), ("c", .text "3")]
    Dict.Sorted files ∧ Snapshot.HoldsTexts (.object files) ∧
    read? (Builtin.tee.run ⟨["tee", "d", "-a", "b"], [], .object files⟩ "x").2 "b" = some "2x" ∧
    FootprintSpec .rm ["a", "b", "a", "c"] "x" (.object files)
      (.error (cannotRemove "a"), .object [("c", .text "3")]) := by
  intro files
  have hsorted : Dict.Sorted files := Dict.sorted_ofList files
  have htexts : Snapshot.HoldsTexts (.object files) := by
    simp [files, Snapshot.HoldsTexts]
  have htee := touches .tee "tee" ["d", "-a", "b"] [] "x" hsorted htexts
  have hrm := touches .rm "rm" ["a", "b", "a", "c"] [] "x" hsorted htexts
  exact ⟨hsorted, htexts, htee.stored rfl ["d", "-a"] "b" [] rfl (by decide) (by decide) (by decide),
    hrm⟩

end Builtin

end Pipework
