import Pipework.Proofs.Aliases

/-!
# Looking names up

What a command name stands for is decided by a look at one file at most. The file is named for the
name that is looked up, and a name with a slash in it or a dot in front names no file, so it lies
right in the modules directory and nowhere else (`Disk.right_in_join`). An alias goes before a
module and a module before a built-in. A file that is there and cannot be read is a fault: what
would come next is not asked (`looks_up`).

* `Inquiry.reads` — the files that an inquiry looks at (`reads_inquire`); nothing else of a disk has
  a part in the answer (`Inquiry.answer_congr`).
* `moduleSource_eq_some`, `moduleSource_eq_none`, `moduleSource_unreadable` — what comes of the look.
-/

namespace Pipework

namespace Disk

/-- A path leads into a directory and from there to something that lies right in it. -/
def DirectlyInside (dir path : String) : Prop :=
  baseOf path = baseOf dir ∧ ∃ file, file ≠ ".." ∧ components path = components dir ++ [file]

theorem components_of_plain {file : String} (hslash : '/' ∉ file.toList) (hsome : file ≠ "")
    (hhere : file ≠ ".") : components file = [file] := by
  rw [components, List.splitOn_eq_singleton hslash]
  simp [hsome, hhere]

/-- Behind a slash the components begin anew. -/
theorem components_slash (front behind : List Char) :
    components (String.ofList (front ++ '/' :: behind)) =
      components (String.ofList front) ++ components (String.ofList behind) := by
  simp only [components, String.toList_ofList, List.splitOn_append_cons_self, List.map_append,
    List.filter_append]

/-- **A name without a slash leads to what lies right in the directory that it is joined to.** -/
theorem right_in_join (dir : String) {file : String} (hslash : '/' ∉ file.toList)
    (hsome : file ≠ "") (hhere : file ≠ ".") (haround : file ≠ "..") :
    DirectlyInside dir (join dir file) := by
  have hrelative : file.toList.head? ≠ some '/' := fun h => hslash (List.mem_of_mem_head? h)
  have hplain := components_of_plain hslash hsome hhere
  rw [DirectlyInside, join, if_neg hrelative]
  split
  · rename_i hnone
    have hdir : dir = "" := String.isEmpty_iff.mp hnone
    subst hdir
    exact ⟨if_neg hrelative, file, haround, hplain⟩
  · rename_i hdir
    obtain ⟨c, front, hfront⟩ :=
      List.exists_cons_of_ne_nil (mt String.toList_eq_nil_iff.mp (mt String.isEmpty_iff.mpr hdir))
    split
    · rename_i hlast
      obtain ⟨before, hbefore⟩ := List.getLast?_eq_some_iff.mp hlast
      have hends : dir = String.ofList (before ++ ['/']) := by rw [← hbefore, String.ofList_toList]
      refine ⟨?_, file, haround, ?_⟩
      · simp only [baseOf, String.toList_append, hfront, List.cons_append, List.head?_cons]
      · have hpath : dir ++ file = String.ofList (before ++ '/' :: file.toList) := by
          rw [hends, ← String.toList_inj]
          simp
        have hnone : components (String.ofList []) = [] := rfl
        rw [hpath, hends, components_slash, components_slash, String.ofList_toList, hplain, hnone,
          List.append_nil]
    · refine ⟨?_, file, haround, ?_⟩
      · simp only [baseOf, String.toList_append, hfront, List.cons_append, List.head?_cons]
      · have hpath : dir ++ "/" ++ file = String.ofList (dir.toList ++ '/' :: file.toList) := by
          rw [← String.toList_inj]
          simp
        rw [hpath, components_slash, String.ofList_toList, String.ofList_toList, hplain]

end Disk

namespace Catalogue

variable {P : Type} {cat : Catalogue} {compile : Compiler P} {disk disk' : Disk} {r : Request}
  {name path : String} {bytes : Bytes}

/-! ## Which file -/

/-- A name that can be that of a module file. -/
structure ModuleName (name : String) : Prop where
  nonempty : name ≠ ""
  slash : '/' ∉ name.toList
  backslash : '\\' ∉ name.toList
  dot : name.toList.head? ≠ some '.'

theorem isModuleName_iff : isModuleName name = true ↔ ModuleName name := by
  simp only [isModuleName, Bool.and_eq_true, Bool.not_eq_true', List.isEmpty_eq_false_iff, ne_eq,
    String.toList_eq_nil_iff, List.contains_eq_mem, decide_eq_false_iff_not, bne_iff_ne]
  exact ⟨fun ⟨⟨⟨hsome, hslash⟩, hback⟩, hdot⟩ => ⟨hsome, hslash, hback, hdot⟩,
    fun ⟨hsome, hslash, hback, hdot⟩ => ⟨⟨⟨hsome, hslash⟩, hback⟩, hdot⟩⟩

theorem modulePath?_eq_some : cat.modulePath? name = some path ↔
    ∃ dir, cat.modulesDir = some dir ∧ ModuleName name ∧ path = Disk.join dir (name ++ ".cds") := by
  have hfile : name ++ "." ++ moduleExtension = name ++ ".cds" := String.append_assoc
  unfold modulePath?
  cases cat.modulesDir with
  | none => exact iff_of_false nofun nofun
  | some dir =>
    simp only [hfile, ← isModuleName_iff]
    split
    · rename_i hname
      rw [Option.some.injEq]
      exact ⟨fun h => ⟨dir, rfl, hname, h.symm⟩, fun ⟨_, hdir, _, h⟩ => by cases hdir; exact h.symm⟩
    · rename_i hname
      exact iff_of_false nofun fun ⟨_, _, h, _⟩ => hname h

/-- The file of a module lies right in the modules directory. -/
theorem ModuleName.right_in (h : ModuleName name) (dir : String) :
    Disk.DirectlyInside dir (Disk.join dir (name ++ ".cds")) := by
  have hend : (name ++ ".cds").toList.getLast? = some 's' := by
    rw [String.toList_append, List.getLast?_append_of_ne_nil _ (by decide)]
    rfl
  refine Disk.right_in_join dir ?_ ?_ ?_ ?_
  · rw [String.toList_append, List.mem_append, not_or]
    exact ⟨h.slash, by decide⟩
  all_goals
    intro heq
    rw [heq] at hend
    exact absurd hend (by decide)

/-- The name whose module is looked for: the command name of a request, or the first word of the line
that this name is an alias of. -/
def lookedUp? (cat : Catalogue) (r : Request) : Option String :=
  match r.args with
  | [] => none
  | name :: _ =>
    match cat.aliases.get? name with
    | some line => AliasWords.split? line >>= List.head?
    | none => some name

/-- The files that an inquiry looks at. -/
def Inquiry.reads {α : Type} : Inquiry α → List String
  | .settled _ => []
  | .file path _ => [path]

theorem reads_withModule {α : Type} (cat : Catalogue) (name : String)
    (go : Option Bytes → Except Fault α) :
    (cat.withModule name go).reads = (cat.modulePath? name).toList := by
  unfold withModule
  cases cat.modulePath? name <;> rfl

/-- **A request looks at the module of the name that is looked up for it**, and at no other file. -/
theorem reads_inquire (cat : Catalogue) (compile : Compiler P) (r : Request) :
    (cat.inquire compile r).reads = (cat.lookedUp? r >>= cat.modulePath?).toList := by
  obtain ⟨args, env⟩ := r
  cases args with
  | nil => rfl
  | cons name operands =>
    cases halias : cat.aliases.get? name with
    | none => simp only [inquire, lookedUp?, halias, inquireName, reads_withModule]; rfl
    | some line =>
      simp only [inquire, lookedUp?, halias, inquireAlias]
      rcases AliasWords.split? line with _ | _ | ⟨first, words⟩
      · rfl
      · rfl
      · exact reads_withModule cat first _

theorem mem_reads : path ∈ (cat.inquire compile r).reads ↔
    ∃ name, cat.lookedUp? r = some name ∧ cat.modulePath? name = some path := by
  rw [reads_inquire, Option.mem_toList, Option.bind_eq_bind, Option.bind_eq_some_iff]

/-- **An answer depends on nothing of a disk but the files that are looked at.** -/
theorem Inquiry.answer_congr {α : Type} {i : Inquiry α}
    (h : ∀ path ∈ i.reads, disk'.find path = disk.find path) : i.answer disk' = i.answer disk := by
  cases i with
  | settled answer => rfl
  | file path answer =>
    have hcontent : content disk' path = content disk path := by
      rw [content, content, h path List.mem_cons_self]
    rw [Inquiry.answer, Inquiry.answer, hcontent]

/-! ## What the look comes to -/

theorem moduleSource_eq_some : cat.moduleSource disk name = .ok (some bytes) ↔
    ∃ path, cat.modulePath? name = some path ∧ disk.find path = .file bytes := by
  unfold moduleSource
  cases cat.modulePath? name with
  | none => exact iff_of_false nofun nofun
  | some path =>
    simp only [Option.some.injEq, exists_eq_left', content]
    cases disk.find path <;> simp

theorem moduleSource_eq_none : cat.moduleSource disk name = .ok none ↔
    ∀ path, cat.modulePath? name = some path → disk.find path = .missing := by
  unfold moduleSource
  cases cat.modulePath? name with
  | none => exact iff_of_true rfl nofun
  | some path =>
    simp only [Option.some.injEq, forall_eq', content]
    cases disk.find path <;> simp

/-- Neither read nor missing: the fault says which file it is. -/
theorem moduleSource_unreadable (hpath : cat.modulePath? name = some path)
    (hthere : disk.find path ≠ .missing) (hread : ∀ bytes, disk.find path ≠ .file bytes) :
    ∃ why, cat.moduleSource disk name = .error why ∧ why.contexts = ["reading " ++ path] := by
  simp only [moduleSource, hpath, content]
  cases hfind : disk.find path with
  | file bytes => exact absurd hfind (hread bytes)
  | missing => exact absurd hfind hthere
  | directory => exact ⟨_, rfl, rfl⟩
  | refused message => exact ⟨_, rfl, rfl⟩

/-- A fault of the look is the answer, whether the name is that of the request or of its alias. -/
theorem find_of_error (hname : cat.lookedUp? r = some name) {why : Fault}
    (hfault : cat.moduleSource disk name = .error why) : cat.find compile disk r = .error why := by
  obtain ⟨args, env⟩ := r
  cases args with
  | nil => cases hname
  | cons command operands =>
    cases halias : cat.aliases.get? command with
    | none =>
      simp only [lookedUp?, halias, Option.some.injEq] at hname
      rw [find_plain halias, hname, hfault]
    | some line =>
      simp only [lookedUp?, halias] at hname
      rw [find_alias halias]
      cases hwords : AliasWords.split? line with
      | none => rw [hwords] at hname; cases hname
      | some all =>
        rw [hwords] at hname
        cases all with
        | nil => cases hname
        | cons first words =>
          obtain rfl : first = name := Option.some.inj hname
          simp only [targetOf, hfault]
          rfl

/-- Without a module the modules directory makes no difference. -/
theorem find_without (hnone : ∀ name, cat.lookedUp? r = some name →
    cat.moduleSource disk name = .ok none) :
    cat.find compile disk r = Catalogue.find ⟨none, cat.aliases⟩ compile disk r := by
  have hbare : ∀ name, (Catalogue.mk none cat.aliases).moduleSource disk name = .ok none :=
    fun name => rfl
  obtain ⟨args, env⟩ := r
  cases args with
  | nil => rfl
  | cons command operands =>
    cases halias : cat.aliases.get? command with
    | none =>
      have hmodule := hnone command (by simp only [lookedUp?, halias])
      have hsame : (Catalogue.mk none cat.aliases).aliases.get? command = none := halias
      rw [find_plain halias, find_plain hsame, hmodule, hbare]
    | some line =>
      have hsame : (Catalogue.mk none cat.aliases).aliases.get? command = some line := halias
      rw [find_alias halias, find_alias hsame]
      cases hwords : AliasWords.split? line with
      | none => rfl
      | some all =>
        cases all with
        | nil => rfl
        | cons first words =>
          have hmodule := hnone first (by simp only [lookedUp?, halias, hwords]; rfl)
          simp only [targetOf, hmodule, hbare]

/-! ## The whole look-up -/

/-- How a request is looked up in a catalogue. -/
structure LookupSpec (cat : Catalogue) (compile : Compiler P) (disk : Disk) (r : Request) :
    Prop where
  once : (cat.inquire compile r).reads.length ≤ 1
  /-- A file is looked at where there is a modules directory and the name that is looked up can be
  that of a module, and then it is that module. -/
  reads : ∀ path, path ∈ (cat.inquire compile r).reads ↔ ∃ dir name, cat.modulesDir = some dir ∧
    cat.lookedUp? r = some name ∧ ModuleName name ∧ path = Disk.join dir (name ++ ".cds")
  /-- It lies right in the modules directory. -/
  inside : ∀ path ∈ (cat.inquire compile r).reads, ∃ dir, cat.modulesDir = some dir ∧
    Disk.DirectlyInside dir path
  /-- Nothing else on the disk has a part in the answer. -/
  onlyThese : ∀ disk' : Disk, (∀ path ∈ (cat.inquire compile r).reads,
    disk'.find path = disk.find path) → cat.find compile disk' r = cat.find compile disk r
  /-- Where no file is looked at, or there is none, the answer is that of a catalogue without a
  modules directory. -/
  without : (∀ path ∈ (cat.inquire compile r).reads, disk.find path = .missing) →
    cat.find compile disk r = Catalogue.find ⟨none, cat.aliases⟩ compile disk r
  /-- A file that is there and cannot be read is a fault. -/
  unreadable : ∀ path ∈ (cat.inquire compile r).reads, disk.find path ≠ .missing →
    (∀ bytes, disk.find path ≠ .file bytes) →
      ∃ why, cat.find compile disk r = .error why ∧ why.contexts = ["reading " ++ path]
  /-- An alias goes before everything that its name stands for otherwise: the answer is a stage of
  the words of its line, or a fault. -/
  aliased : ∀ name args line, r.args = name :: args → cat.aliases.get? name = some line →
    ∀ answer, cat.find compile disk r = .ok answer ↔
      ∃ first words e, AliasWords.split? line = some (first :: words) ∧
        cat.Executes compile disk first e ∧ answer = .stage ⟨first :: words ++ args, r.env, e⟩
  /-- A module goes before a built-in. -/
  module : ∀ name args, r.args = name :: args → cat.aliases.get? name = none →
    ∀ path bytes, path ∈ (cat.inquire compile r).reads → disk.find path = .file bytes →
      cat.find compile disk r = .ok (.source bytes)
  /-- A built-in is found where the name is no alias and has no module. -/
  builtin : ∀ name args, r.args = name :: args → cat.aliases.get? name = none →
    (∀ path ∈ (cat.inquire compile r).reads, disk.find path = .missing) →
      cat.find compile disk r =
        match Builtin.named? name with
        | some b => .ok (.callback b.callback)
        | none => .error (.of "command not found")

/-- **A request looks at no file but one module that lies right in the modules directory**, and goes by
aliases first, then by modules and by built-ins last; nothing that fails is passed over. -/
theorem looks_up (cat : Catalogue) (compile : Compiler P) (disk : Disk) (r : Request) :
    cat.LookupSpec compile disk r := by
  have hreads : ∀ path, path ∈ (cat.inquire compile r).reads ↔ ∃ dir name,
      cat.modulesDir = some dir ∧ cat.lookedUp? r = some name ∧ ModuleName name ∧
        path = Disk.join dir (name ++ ".cds") := by
    intro path
    simp only [mem_reads, modulePath?_eq_some]
    exact ⟨fun ⟨name, hname, dir, hdir, hpath⟩ => ⟨dir, name, hdir, hname, hpath⟩,
      fun ⟨dir, name, hdir, hname, hpath⟩ => ⟨name, hname, dir, hdir, hpath⟩⟩
  have hmissing : (∀ path ∈ (cat.inquire compile r).reads, disk.find path = .missing) →
      ∀ name, cat.lookedUp? r = some name → cat.moduleSource disk name = .ok none :=
    fun hnone name hname => moduleSource_eq_none.mpr fun path hpath =>
      hnone path (mem_reads.mpr ⟨name, hname, hpath⟩)
  refine
    { once := ?_, reads := hreads, inside := ?_, onlyThese := fun disk' h => Inquiry.answer_congr h,
      without := fun hnone => find_without (hmissing hnone), unreadable := ?_, aliased := ?_,
      module := ?_, builtin := ?_ }
  · rw [reads_inquire]
    cases cat.lookedUp? r >>= cat.modulePath? with
    | none => exact Nat.zero_le 1
    | some path => exact Nat.le_refl 1
  · intro path hpath
    obtain ⟨dir, name, hdir, -, hname, rfl⟩ := (hreads path).mp hpath
    exact ⟨dir, hdir, hname.right_in dir⟩
  · intro path hpath hthere hread
    obtain ⟨name, hname, hmodule⟩ := mem_reads.mp hpath
    obtain ⟨why, hfault, hwhy⟩ := moduleSource_unreadable hmodule hthere hread
    exact ⟨why, find_of_error hname hfault, hwhy⟩
  · rintro name args line hargs halias answer
    obtain ⟨_, env⟩ := r
    cases hargs
    rw [find_alias halias]
    rcases hwords : AliasWords.split? line with _ | _ | ⟨first, words⟩
    · exact iff_of_false nofun nofun
    · exact iff_of_false nofun nofun
    · simp only [← targetOf_eq_ok]
      cases htarget : cat.targetOf compile disk first with
      | error why =>
        refine iff_of_false nofun ?_
        rintro ⟨_, _, e, ⟨⟩, he, -⟩
        cases htarget.symm.trans he
      | ok e =>
        refine ⟨fun h => ⟨first, words, e, rfl, htarget, (Except.ok.inj h).symm⟩, ?_⟩
        rintro ⟨_, _, e', ⟨⟩, he, rfl⟩
        cases htarget.symm.trans he
        rfl
  · rintro name args hargs hplain path bytes hpath hfile
    obtain ⟨_, env⟩ := r
    cases hargs
    obtain ⟨looked, hname, hmodule⟩ := mem_reads.mp hpath
    simp only [lookedUp?, hplain, Option.some.injEq] at hname
    subst hname
    rw [find_plain hplain, moduleSource_eq_some.mpr ⟨path, hmodule, hfile⟩]
  · rintro name args hargs hplain hnone
    obtain ⟨_, env⟩ := r
    cases hargs
    have hname : cat.lookedUp? ⟨name :: args, env⟩ = some name := by simp only [lookedUp?, hplain]
    have hsource := hmissing hnone name hname
    exact (find_plain hplain args env).trans (hsource ▸ rfl)

/-- The first word of an alias line names the module, and a name with a slash in it names none. -/
example :
    let cat : Catalogue := ⟨some "m", [("up", "../x y"), ("w", "wc -l")]⟩
    (["w", "up", "../x", ".x", "x"].map fun name =>
      (cat.inquire (P := Unit) (fun _ _ => .ok ()) ⟨[name], []⟩).reads) =
        [["m/wc.cds"], [], [], [], ["m/x.cds"]] := by
  decide +kernel

end Catalogue

end Pipework
