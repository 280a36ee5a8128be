import Pipework.Proofs.Resolving
import Pipework.Settings.Session

/-!
# Aliases

An alias stands for the words of its line. A request for it becomes the stage that a request for
those words becomes, if the first of them is no alias itself (`AliasSpec.direct`), and what else is
in the table of aliases makes no difference (`AliasSpec.unchained`). What a name that is looked up
as no alias executes is said once, for both ways of finding it (`Catalogue.Executes`).

* `command_plain`, `command_alias` — what a command becomes whose name is no alias, and one whose name
  is.
* `alias_expands` — all that an alias comes to, its faults included.
-/

namespace Pipework

variable {P : Type} {cat : Catalogue} {compile : Compiler P} {disk : Disk} {console : Console}

namespace Catalogue

/-- The resolver that asks a catalogue, with the compiler that the catalogue has for its targets. -/
def resolver (cat : Catalogue) (compile : Compiler P) (disk : Disk) (console : Console) :
    Resolver P := ⟨fun _ => cat.find compile disk, some compile, console⟩

example (s : Settings) (compile : Compiler P) (disk : Disk) (console : Console) :
    s.resolver compile disk console = s.catalogue.resolver compile disk console := rfl

/-- The source of the module of a name, none where there is no module. -/
def moduleSource (cat : Catalogue) (disk : Disk) (name : String) : Except Fault (Option Bytes) :=
  match cat.modulePath? name with
  | none => .ok none
  | some path => content disk path

/-- What a name executes that is looked up as no alias: the program of its module, or else a
built-in. -/
inductive Executes (cat : Catalogue) (compile : Compiler P) (disk : Disk) (name : String) :
    Executable P → Prop where
  | program {source : Bytes} {p : P} (hmodule : cat.moduleSource disk name = .ok (some source))
      (hprogram : compile name source = .ok p) :
      Executes cat compile disk name (.program p source.length)
  | builtin {b : Builtin} (hmodule : cat.moduleSource disk name = .ok none)
      (hnamed : Builtin.named? name = some b) :
      Executes cat compile disk name (.callback b.callback)

theorem answer_withModule {α : Type} (cat : Catalogue) (disk : Disk) (name : String)
    (go : Option Bytes → Except Fault α) :
    (cat.withModule name go).answer disk =
      match cat.moduleSource disk name with
      | .ok found => go found
      | .error why => .error why := by
  unfold withModule moduleSource
  cases cat.modulePath? name <;> rfl

variable {past : List Request} {name line first : String} {words : List String}

/-- What the target of an alias executes, or why it executes nothing. -/
def targetOf (cat : Catalogue) (compile : Compiler P) (disk : Disk) (name : String) :
    Except Fault (Executable P) :=
  match cat.moduleSource disk name with
  | .ok found => target compile name found
  | .error why => .error why

theorem targetOf_eq_ok {e : Executable P} :
    cat.targetOf compile disk name = .ok e ↔ cat.Executes compile disk name e := by
  unfold targetOf
  constructor
  · intro h
    cases hmodule : cat.moduleSource disk name with
    | error why =>
      rw [hmodule] at h
      cases h
    | ok found =>
      simp only [hmodule, target] at h
      cases found with
      | some source =>
        cases hprogram : compile name source with
        | error why =>
          simp only [hprogram] at h
          cases h
        | ok p =>
          simp only [hprogram] at h
          cases h
          exact .program hmodule hprogram
      | none =>
        cases hnamed : Builtin.named? name with
        | none =>
          simp only [hnamed] at h
          cases h
        | some b =>
          simp only [hnamed] at h
          cases h
          exact .builtin hmodule hnamed
  · rintro (⟨hmodule, hprogram⟩ | ⟨hmodule, hnamed⟩)
    · simp only [hmodule, target, hprogram]
      rfl
    · simp only [hmodule, target, hnamed]

/-! ## What a command becomes -/

variable (compile disk console) in
/-- The words of a command have no say in the environment of its request. -/
theorem request_eq (cat : Catalogue) (name other : String) (args others : List String)
    (env : Dict String) (rs rs' : Redirects) :
    (cat.resolver compile disk console).request (.mk name args env rs) =
      ⟨name :: args,
        ((cat.resolver compile disk console).request (.mk other others env rs')).env⟩ := by
  unfold Resolver.request
  cases (cat.resolver compile disk console).console.size <;> rfl

/-- A command becomes what the catalogue answers to its words and its environment. -/
theorem command_eq (args : List String) (env : Dict String) (rs : Redirects) :
    ((cat.resolver compile disk console).command past (.mk name args env rs)).2 =
      (cat.resolver compile disk console).stage name
        ⟨name :: args, ((cat.resolver compile disk console).request (.mk name args env rs)).env⟩
        (cat.find compile disk
          ⟨name :: args,
            ((cat.resolver compile disk console).request (.mk name args env rs)).env⟩) := by
  rw [← request_eq compile disk console cat name name args args env rs rs]
  rfl

/-- What a request for a name that is no alias is answered. -/
theorem find_plain (hplain : cat.aliases.get? name = none) (args : List String) (env : Dict String) :
    cat.find compile disk ⟨name :: args, env⟩ =
      match cat.moduleSource disk name with
      | .error why => .error why
      | .ok (some source) => .ok (.source source)
      | .ok none =>
        match Builtin.named? name with
        | some b => .ok (.callback b.callback)
        | none => .error (.of "command not found") := by
  simp only [find, inquire, hplain, inquireName, answer_withModule]
  rcases cat.moduleSource disk name with why | ⟨_ | source⟩ <;> rfl

/-- **A name that is no alias becomes a stage of its own words.** -/
theorem command_plain (hplain : cat.aliases.get? name = none) (args : List String) (env : Dict String)
    (rs : Redirects) (s : Stage P) :
    ((cat.resolver compile disk console).command past (.mk name args env rs)).2 = .ok s ↔
      ∃ e, cat.Executes compile disk name e ∧
        s = ⟨name :: args,
          ((cat.resolver compile disk console).request (.mk name args env rs)).env, e⟩ := by
  rw [command_eq, find_plain hplain]
  constructor
  · intro h
    cases hmodule : cat.moduleSource disk name with
    | error why =>
      rw [hmodule] at h
      cases h
    | ok found =>
      cases found with
      | some source =>
        cases hprogram : compile name source with
        | error why =>
          simp only [hmodule, Resolver.stage, resolver, hprogram] at h
          cases h
        | ok p =>
          simp only [hmodule, Resolver.stage, resolver, hprogram] at h
          cases h
          exact ⟨_, .program hmodule hprogram, rfl⟩
      | none =>
        cases hnamed : Builtin.named? name with
        | none =>
          simp only [hmodule, hnamed, Resolver.stage] at h
          cases h
        | some b =>
          simp only [hmodule, hnamed, Resolver.stage] at h
          cases h
          exact ⟨_, .builtin hmodule hnamed, rfl⟩
  · rintro ⟨e, ⟨hmodule, hprogram⟩ | ⟨hmodule, hnamed⟩, rfl⟩
    · simp only [hmodule, Resolver.stage, resolver, hprogram]
    · simp only [hmodule, hnamed, Resolver.stage]

/-- What a request for an alias is answered. -/
theorem find_alias (halias : cat.aliases.get? name = some line) (args : List String)
    (env : Dict String) :
    cat.find compile disk ⟨name :: args, env⟩ =
      match AliasWords.split? line with
      | none => .error (.of ("alias " ++ quoted name ++ ": unbalanced quotes"))
      | some [] => .error (.of ("alias " ++ quoted name ++ " is empty"))
      | some (first :: words) =>
        (cat.targetOf compile disk first).map fun e => .stage ⟨first :: words ++ args, env, e⟩ := by
  simp only [find, inquire, halias, inquireAlias]
  cases AliasWords.split? line with
  | none => rfl
  | some all =>
    cases all with
    | nil => rfl
    | cons first words =>
      simp only [answer_withModule, targetOf]
      cases cat.moduleSource disk first <;> rfl

/-- **An alias becomes a stage of the words of its line**, with those of the request behind them. -/
theorem command_alias (halias : cat.aliases.get? name = some line)
    (hwords : AliasWords.split? line = some (first :: words)) (args : List String)
    (env : Dict String) (rs : Redirects) (s : Stage P) :
    ((cat.resolver compile disk console).command past (.mk name args env rs)).2 = .ok s ↔
      ∃ e, cat.Executes compile disk first e ∧
        s = ⟨first :: words ++ args,
          ((cat.resolver compile disk console).request (.mk name args env rs)).env, e⟩ := by
  simp only [command_eq, find_alias halias, hwords, ← targetOf_eq_ok]
  cases cat.targetOf compile disk first with
  | error why =>
    constructor
    · nofun
    · rintro ⟨e, ⟨⟩, -⟩
  | ok e =>
    constructor
    · rintro ⟨⟩
      exact ⟨e, rfl, rfl⟩
    · rintro ⟨_, ⟨⟩, rfl⟩
      rfl

/-- What a request for an alias comes to, given the line that the alias stands for. -/
structure AliasSpec (cat : Catalogue) (compile : Compiler P) (disk : Disk) (console : Console)
    (past : List Request) (name line : String) (args : List String) (env : Dict String)
    (rs : Redirects) : Prop where
  /-- The stage has the words of the line and those of the request behind them, the environment of
  the request, and what the first word executes. -/
  stage : ∀ first words, AliasWords.split? line = some (first :: words) → ∀ s,
    ((cat.resolver compile disk console).command past (.mk name args env rs)).2 = .ok s ↔
      ∃ e, cat.Executes compile disk first e ∧
        s = ⟨first :: words ++ args,
          ((cat.resolver compile disk console).request (.mk name args env rs)).env, e⟩
  /-- It is the stage of the command that the words make, if the first of them is no alias: where one
  of the two becomes a stage, so does the other. -/
  direct : ∀ first words rs', AliasWords.split? line = some (first :: words) →
    cat.aliases.get? first = none → ∀ s,
      ((cat.resolver compile disk console).command past (.mk name args env rs)).2 = .ok s ↔
        ((cat.resolver compile disk console).command past
          (.mk first (words ++ args) env rs')).2 = .ok s
  /-- A line that is not to be split is a fault. -/
  unbalanced : AliasWords.split? line = none →
    ((cat.resolver compile disk console).command past (.mk name args env rs)).2 =
      .error (.unresolved name ("alias " ++ quoted name ++ ": unbalanced quotes"))
  /-- So is a line without words. -/
  empty : AliasWords.split? line = some [] →
    ((cat.resolver compile disk console).command past (.mk name args env rs)).2 =
      .error (.unresolved name ("alias " ++ quoted name ++ " is empty"))
  /-- So is one whose first word executes nothing, whatever the name of the alias would. -/
  unknown : ∀ first words, AliasWords.split? line = some (first :: words) →
    (∀ e, ¬ cat.Executes compile disk first e) →
      ∃ why, ((cat.resolver compile disk console).command past (.mk name args env rs)).2 =
        .error (.unresolved name why)
  /-- No other alias has a say in it, not even one that the first word names. -/
  unchained : ∀ other : Catalogue, other.modulesDir = cat.modulesDir →
    other.aliases.get? name = some line →
      ((other.resolver compile disk console).command past (.mk name args env rs)).2 =
        ((cat.resolver compile disk console).command past (.mk name args env rs)).2

/-- **A request for an alias is one for the words of its line.** It becomes the stage that those
words become as a command, or a fault, and aliases do not stand for one another. -/
theorem alias_expands (compile : Compiler P) (disk : Disk) (console : Console) (past : List Request)
    (halias : cat.aliases.get? name = some line) (args : List String) (env : Dict String)
    (rs : Redirects) : cat.AliasSpec compile disk console past name line args env rs where
  stage first words hwords := command_alias halias hwords args env rs
  direct := by
    intro first words rs' hwords hplain s
    rw [command_alias halias hwords, command_plain hplain,
      request_eq compile disk console cat name first args (words ++ args) env rs rs']
    rfl
  unbalanced hwords := by
    simp only [command_eq, find_alias halias, hwords]
    rfl
  empty hwords := by
    simp only [command_eq, find_alias halias, hwords]
    rfl
  unknown := by
    intro first words hwords hnone
    simp only [command_eq, find_alias halias, hwords]
    cases htarget : cat.targetOf compile disk first with
    | error why => exact ⟨_, rfl⟩
    | ok e => exact absurd (targetOf_eq_ok.mp htarget) (hnone e)
  unchained := by
    intro other hdir hother
    obtain ⟨dir, aliases⟩ := other
    subst hdir
    simp only [command_eq, find_alias halias, find_alias hother]
    rfl

/-- An alias of a built-in, and an alias of that alias under the name of another built-in. -/
def counting : Catalogue := ⟨none, [("count", "wc -l"), ("echo", "count")]⟩

theorem alias_expands_counting :
    ((counting.resolver (fun _ _ => .ok ()) ⟨[]⟩ .none).command [] (.mk "count" ["-w"] [] .nil)).2 =
      .ok ⟨["wc", "-l", "-w"], [], .callback Builtin.wc.callback⟩ ∧
    ((counting.resolver (fun _ _ => .ok ()) ⟨[]⟩ .none).command []
      (.mk "wc" ["-l", "-w"] [] .nil)).2 =
      .ok ⟨["wc", "-l", "-w"], [], .callback Builtin.wc.callback⟩ ∧
    ∃ why, ((counting.resolver (fun _ _ => .ok ()) ⟨[]⟩ .none).command []
      (.mk "echo" ["hi"] [] .nil)).2 = .error (.unresolved "echo" why) := by
  have hcount : counting.AliasSpec (fun _ _ => .ok ())
    ⟨[]⟩ .none [] "count" "wc -l" ["-w"] [] .nil :=
    alias_expands _ _ _ _ rfl _ _ _
  have hecho : counting.AliasSpec (fun _ _ => .ok ()) ⟨[]⟩ .none [] "echo" "count" ["hi"] [] .nil :=
    alias_expands _ _ _ _ rfl _ _ _
  have hwc : counting.Executes (fun _ _ => .ok ()) ⟨[]⟩ "wc" (.callback Builtin.wc.callback) :=
    .builtin rfl (by decide)
  have hstage := (hcount.stage "wc" ["-l"] (by decide) _).mpr ⟨_, hwc, rfl⟩
  refine ⟨hstage, (hcount.direct "wc" ["-l"] .nil (by decide) rfl _).mp hstage, ?_⟩
  refine hecho.unknown "count" [] (by decide) ?_
  rintro e (⟨hmodule, -⟩ | ⟨-, hnamed⟩)
  · cases hmodule
  · rw [show Builtin.named? "count" = none by decide] at hnamed
    cases hnamed

end Catalogue

end Pipework
