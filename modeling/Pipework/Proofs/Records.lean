import Mathlib.Logic.Relation
import Pipework.Command.Record
import Pipework.Proofs.Dict
import Pipework.Proofs.Results

/-!
# Reading and writing records

Which value is the record of which statement is said without the bound that reading is given
(`Command.RecordOf`, `Statement.RecordOf`). A command is read from its own record and from those of
the commands that it pipes into (`PipesTo`), so what is wrong with a record is wrong with some
command that is reached by pipes (`RecordError`).

* `ofJson?_eq_some` — reading finds the statement of a record, and the bound is always enough.
* `ofJson?_eq_none` — reading refuses what is flawed, at any depth, and nothing else.
* `recordOf_toJson` — what is written is a record of what was written.
* `records_exact` — all of it together.
-/

namespace Pipework

namespace Command

variable {j j' k tag body : Json} {fields : List (String × Json)} {items : List Json} {key : String}

/-! ## Records of commands -/

/-- A list field of a command holds these items, or it is absent and there are none. -/
def ListField (j : Json) (key : String) (items : List Json) : Prop :=
  j.entry? keys key = some (.array items) ∨ j.entry? keys key = none ∧ items = []

/-- The environment of a command has these entries, or it is absent and there are none. -/
def EnvField (j : Json) (entries : List (String × Json)) : Prop :=
  j.entry? keys "env" = some (.object entries) ∨ j.entry? keys "env" = none ∧ entries = []

/-- A word is a record whose value is a text. -/
def WordRecord (j : Json) (s : String) : Prop := j.entry? ["value"] "value" = some (.text s)

/-- Variables and their words. -/
structure EnvRecords (entries : List (String × Json)) (env : Dict String) : Prop where
  words : ∀ e ∈ entries, ∃ s, WordRecord e.2 s
  same : ∀ key s, env.get? key = some s ↔ ∃ w, Dict.get? entries key = some w ∧ WordRecord w s
  sorted : env.Sorted

mutual
/-- The record of a command: other fields may stand beside those that are looked at, and all but the
name may be absent. -/
inductive RecordOf : Json → Command → Prop where
  | mk {j w : Json} {words items : List Json} {entries : List (String × Json)} {name : String}
      {args : List String} {env : Dict String} {redirects : Redirects}
      (hname : j.entry? keys "command" = some w) (hword : WordRecord w name)
      (hargs : ListField j "args" words) (hwords : List.Forall₂ WordRecord words args)
      (henv : EnvField j entries) (hentries : EnvRecords entries env)
      (hredirects : ListField j "redirects" items) (hitems : RedirectRecordsOf items redirects) :
      RecordOf j (.mk name args env redirects)

/-- The records of redirects, in order. -/
inductive RedirectRecordsOf : List Json → Redirects → Prop where
  | nil : RedirectRecordsOf [] .nil
  | pipe {r tag body k : Json} {items : List Json} {next : Command} {rest : Redirects}
      (htag : r.tagged? = some (tag, body)) (hkind : Redirects.kind? tag = some .pipe)
      (hnext : body.entry? ["command"] "command" = some k) (hread : RecordOf k next)
      (hrest : RedirectRecordsOf items rest) : RedirectRecordsOf (r :: items) (.pipe next rest)
  | file {r tag body w : Json} {items : List Json} {op target : String} {rest : Redirects}
      (htag : r.tagged? = some (tag, body)) (hkind : Redirects.kind? tag = some .file)
      (hop : body.entry? ["op", "target"] "op" = some (.text op))
      (htarget : body.entry? ["op", "target"] "target" = some w) (hword : WordRecord w target)
      (hrest : RedirectRecordsOf items rest) :
      RedirectRecordsOf (r :: items) (.file op target rest)
end

/-- A record is what its fields are. -/
theorem RecordOf.congr {c : Command} (h : ∀ key ∈ keys, j.entry? keys key = j'.entry? keys key)
    (hread : RecordOf j c) : RecordOf j' c := by
  obtain ⟨hname, hword, hargs, hwords, henv, hentries, hredirects, hitems⟩ := hread
  rw [h "command" (by decide)] at hname
  rw [ListField, h "args" (by decide)] at hargs
  rw [EnvField, h "env" (by decide)] at henv
  rw [ListField, h "redirects" (by decide)] at hredirects
  exact .mk hname hword hargs hwords henv hentries hredirects hitems

/-! ## Reading -/

theorem text?_eq_some {j : Json} {s : String} : j.text? = some s ↔ j = .text s := by
  cases j <;> simp [Json.text?]

theorem wordOfJson?_eq_some {j : Json} {s : String} : wordOfJson? j = some s ↔ WordRecord j s := by
  simp only [wordOfJson?, WordRecord, Option.bind_eq_bind, Option.bind_eq_some_iff, text?_eq_some,
    exists_eq_right]

theorem wordsOfJson?_eq_some {args : List String} :
    wordsOfJson? items = some args ↔ List.Forall₂ WordRecord items args := by
  induction items generalizing args with
  | nil =>
    rw [List.forall₂_nil_left_iff, wordsOfJson?, Option.some.injEq, eq_comm]
  | cons w items ih =>
    rw [List.forall₂_cons_left_iff, wordsOfJson?]
    simp only [Option.bind_eq_bind, Option.bind_eq_some_iff, Option.pure_def, Option.some.injEq, ih,
      wordOfJson?_eq_some]
    constructor
    · rintro ⟨s, hs, rest, hrest, rfl⟩
      exact ⟨s, rest, hs, hrest, rfl⟩
    · rintro ⟨s, rest, hs, hrest, rfl⟩
      exact ⟨s, hs, rest, hrest, rfl⟩

theorem itemsOrNone?_eq_some : itemsOrNone? j key = some items ↔ ListField j key items := by
  unfold itemsOrNone? ListField
  cases j.entry? keys key with
  | none => simp [eq_comm]
  | some v => cases v <;> simp

theorem EnvRecords.unique {entries : List (String × Json)} {env env' : Dict String}
    (h : EnvRecords entries env) (h' : EnvRecords entries env') : env = env' :=
  h.sorted.ext h'.sorted fun key => Option.ext fun s => (h.same key s).trans (h'.same key s).symm

theorem envRecords_nil : EnvRecords [] [] :=
  ⟨nofun, fun _ _ => ⟨nofun, fun ⟨_, hw, _⟩ => nomatch hw⟩, Dict.sorted_nil⟩

/-- The first entry of a variable decides. -/
theorem EnvRecords.cons {entries : List (String × Json)} {env : Dict String} {w : Json} {s : String}
    (hword : WordRecord w s) (h : EnvRecords entries env) :
    EnvRecords ((key, w) :: entries) (env.insert key s) where
  words := List.forall_mem_cons.mpr ⟨⟨s, hword⟩, h.words⟩
  same := by
    intro other s'
    rw [Dict.get?_insert, Dict.get?]
    split
    · simp only [Option.some.injEq, exists_eq_left']
      constructor
      · rintro rfl
        exact hword
      · intro hword'
        cases hword.symm.trans hword'
        rfl
    · exact h.same other s'
  sorted := h.sorted.insert key s

theorem envOfJson?_sound {entries : List (String × Json)} {env : Dict String}
    (h : envOfJson? entries = some env) : EnvRecords entries env := by
  induction entries generalizing env with
  | nil =>
    cases h
    exact envRecords_nil
  | cons entry entries ih =>
    obtain ⟨key, w⟩ := entry
    simp only [envOfJson?, Option.bind_eq_bind, Option.bind_eq_some_iff, Option.pure_def,
      Option.some.injEq] at h
    obtain ⟨s, hs, env', henv', rfl⟩ := h
    exact (ih henv').cons (wordOfJson?_eq_some.mp hs)

theorem exists_envOfJson? {entries : List (String × Json)}
    (h : ∀ e ∈ entries, ∃ s, WordRecord e.2 s) : ∃ env, envOfJson? entries = some env := by
  induction entries with
  | nil => exact ⟨[], rfl⟩
  | cons entry entries ih =>
    obtain ⟨⟨s, hs⟩, hrest⟩ := List.forall_mem_cons.mp h
    obtain ⟨env, henv⟩ := ih hrest
    refine ⟨env.insert entry.1 s, ?_⟩
    simp only [envOfJson?, wordOfJson?_eq_some.mpr hs, henv]
    rfl

theorem envOfJson?_eq_some {entries : List (String × Json)} {env : Dict String} :
    envOfJson? entries = some env ↔ EnvRecords entries env := by
  refine ⟨envOfJson?_sound, fun h => ?_⟩
  obtain ⟨env', henv'⟩ := exists_envOfJson? h.words
  rw [henv', (envOfJson?_sound henv').unique h]

theorem envOrNone?_eq_some {env : Dict String} :
    envOrNone? j = some env ↔ ∃ entries, EnvField j entries ∧ EnvRecords entries env := by
  unfold envOrNone? EnvField
  cases j.entry? keys "env" with
  | none => simp [← envOfJson?_eq_some, envOfJson?]
  | some v => cases v <;> simp [← envOfJson?_eq_some]

/-! ## Depth -/

theorem depth_le_of_mem (h : k ∈ items) : depth k ≤ depth.depthItems items := by
  induction items with
  | nil => cases h
  | cons j items ih =>
    rw [depth.depthItems]
    rcases List.mem_cons.mp h with rfl | hmem
    · exact Nat.le_max_left _ _
    · exact Nat.le_trans (ih hmem) (Nat.le_max_right _ _)

theorem depth_le_of_get? (h : Dict.get? fields key = some k) :
    depth k ≤ depth.depthFields fields := by
  induction fields with
  | nil => cases h
  | cons entry fields ih =>
    obtain ⟨key', j⟩ := entry
    rw [Dict.get?] at h
    rw [depth.depthFields]
    split at h
    · cases h
      exact Nat.le_max_left _ _
    · exact Nat.le_trans (ih h) (Nat.le_max_right _ _)

/-- A field of a record is not so deep as the record. -/
theorem depth_lt_of_entry? {keys : List String} (h : j.entry? keys key = some k) :
    depth k < depth j := by
  cases j with
  | object fields =>
    rw [depth]
    exact Nat.lt_succ_of_le (depth_le_of_get? h)
  | array items =>
    rw [Json.entry?] at h
    split at h
    · rw [depth]
      have hmem := Dict.mem_of_get? h
      exact Nat.lt_succ_of_le (depth_le_of_mem (List.of_mem_zip hmem).2)
    · cases h
  | _ => cases h

theorem depth_le_of_tagged? (h : j.tagged? = some (tag, body)) : depth body ≤ depth j := by
  cases j with
  | object fields =>
    obtain ⟨_, _, heq⟩ := Option.map_eq_some_iff.mp h
    cases heq
    exact Nat.le_refl _
  | array items =>
    cases items with
    | nil => cases h
    | cons first items =>
      cases h
      rw [depth, depth, depth.depthItems]
      exact Nat.succ_le_succ (Nat.le_max_right _ _)
  | _ => cases h

/-! ## Reading -/

theorem ofJsonWithin?_sound {fuel : Nat}
    (hredirects : ∀ items rs, redirectsOfJsonWithin? fuel items = some rs →
      RedirectRecordsOf items rs)
    {c : Command} (h : ofJsonWithin? fuel j = some c) : RecordOf j c := by
  rw [ofJsonWithin?] at h
  simp only [Option.bind_eq_bind, Option.bind_eq_some_iff, Option.pure_def, Option.some.injEq,
    itemsOrNone?_eq_some, wordsOfJson?_eq_some, wordOfJson?_eq_some, envOrNone?_eq_some] at h
  obtain ⟨name, ⟨w, hname, hword⟩, args, ⟨words, hargs, hwords⟩, env, ⟨entries, henv, hentries⟩, rs,
    ⟨items, hitems, hrs⟩, rfl⟩ := h
  exact .mk hname hword hargs hwords henv hentries hitems (hredirects items rs hrs)

theorem redirectsOfJsonWithin?_sound {fuel : Nat}
    (hprev : ∀ fuel', fuel = fuel' + 1 → ∀ k c, ofJsonWithin? fuel' k = some c → RecordOf k c)
    {rs : Redirects} (h : redirectsOfJsonWithin? fuel items = some rs) :
    RedirectRecordsOf items rs := by
  induction items generalizing rs with
  | nil =>
    rw [redirectsOfJsonWithin?] at h
    cases h
    exact .nil
  | cons r items ih =>
    rw [redirectsOfJsonWithin?] at h
    simp only [Option.bind_eq_bind, Option.bind_eq_some_iff] at h
    obtain ⟨tail, htail, ⟨tag, body⟩, htag, h⟩ := h
    cases hkind : Redirects.kind? tag with
    | none => simp [hkind] at h
    | some kind =>
      cases kind with
      | pipe =>
        cases fuel with
        | zero => simp [hkind] at h
        | succ fuel =>
          simp only [hkind, Option.bind_eq_some_iff, Option.pure_def, Option.some.injEq] at h
          obtain ⟨next, ⟨k, hnext, hread⟩, rfl⟩ := h
          exact .pipe htag hkind hnext (hprev fuel rfl k next hread) (ih htail)
      | file =>
        simp only [hkind, Option.bind_eq_some_iff, Option.pure_def, Option.some.injEq,
          text?_eq_some, exists_eq_right, wordOfJson?_eq_some] at h
        obtain ⟨op, hop, target, ⟨w, htarget, hword⟩, rfl⟩ := h
        exact .file htag hkind hop htarget hword (ih htail)

theorem recordOf_of_ofJsonWithin? (fuel : Nat) (j : Json) (c : Command)
    (h : ofJsonWithin? fuel j = some c) : RecordOf j c := by
  induction fuel generalizing j c with
  | zero =>
    refine ofJsonWithin?_sound (fun _ _ => redirectsOfJsonWithin?_sound ?_) h
    rintro _ ⟨⟩
  | succ fuel ih =>
    refine ofJsonWithin?_sound (fun _ _ => redirectsOfJsonWithin?_sound ?_) h
    rintro _ ⟨⟩
    exact ih

mutual
/-- A record is read within its depth. -/
theorem RecordOf.read {j : Json} {c : Command} (h : RecordOf j c) (fuel : Nat)
    (hfuel : depth j ≤ fuel) : ofJsonWithin? fuel j = some c := by
  cases h with
  | @mk _ _ _ items _ _ _ _ _ hname hword hargs hwords henv hentries hredirects hitems =>
    have hshallow : ∀ r ∈ items, depth r < fuel := by
      intro r hr
      rcases hredirects with hlisted | ⟨-, rfl⟩
      · have hless := depth_lt_of_entry? hlisted
        have hle := depth_le_of_mem hr
        rw [depth] at hless
        omega
      · cases hr
    have hread := RedirectRecordsOf.read hitems fuel hshallow
    rw [ofJsonWithin?]
    simp only [Option.bind_eq_bind, Option.bind_eq_some_iff, Option.pure_def, Option.some.injEq,
      itemsOrNone?_eq_some, wordsOfJson?_eq_some, wordOfJson?_eq_some, envOrNone?_eq_some]
    exact ⟨_, ⟨_, hname, hword⟩, _, ⟨_, hargs, hwords⟩, _, ⟨_, henv, hentries⟩, _,
      ⟨_, hredirects, hread⟩, rfl⟩

theorem RedirectRecordsOf.read {items : List Json} {rs : Redirects} (h : RedirectRecordsOf items rs)
    (fuel : Nat) (hfuel : ∀ r ∈ items, depth r < fuel) :
    redirectsOfJsonWithin? fuel items = some rs := by
  cases h with
  | nil => rw [redirectsOfJsonWithin?]
  | pipe htag hkind hnext hread hrest =>
    obtain ⟨hr, hitems⟩ := List.forall_mem_cons.mp hfuel
    have hless := depth_lt_of_entry? hnext
    have hle := depth_le_of_tagged? htag
    obtain ⟨fuel, rfl⟩ : ∃ n, fuel = n + 1 := ⟨fuel - 1, by omega⟩
    have htail := RedirectRecordsOf.read hrest (fuel + 1) hitems
    have hnext' := RecordOf.read hread fuel (by omega)
    rw [redirectsOfJsonWithin?, htail]
    simp only [Option.bind_eq_bind, Option.bind_some, htag, hkind, hnext, hnext', Option.pure_def]
  | file htag hkind hop htarget hword hrest =>
    obtain ⟨-, hitems⟩ := List.forall_mem_cons.mp hfuel
    have htail := RedirectRecordsOf.read hrest fuel hitems
    rw [redirectsOfJsonWithin?, htail]
    simp only [Option.bind_eq_bind, Option.bind_some, htag, hkind, hop, htarget,
      wordOfJson?_eq_some.mpr hword, Json.text?, Option.pure_def]
end

/-- **Reading finds the command of a record**, and nothing else is read. -/
theorem ofJson?_eq_some {c : Command} : ofJson? j = some c ↔ RecordOf j c :=
  ⟨recordOf_of_ofJsonWithin? _ j c, fun h => h.read _ (Nat.le_refl _)⟩

/-! ## Flaws -/

/-- A redirect pipes into a command, as their records are. -/
def RedirectPipesTo (r k : Json) : Prop :=
  ∃ tag body, r.tagged? = some (tag, body) ∧ Redirects.kind? tag = some .pipe ∧
    body.entry? ["command"] "command" = some k

/-- A command pipes into another, as their records are. -/
def PipesTo (j k : Json) : Prop :=
  ∃ items, j.entry? keys "redirects" = some (.array items) ∧ ∃ r ∈ items, RedirectPipesTo r k

/-- What can be wrong with a redirect itself. -/
inductive RedirectRecordError (r : Json) : Prop where
  | untagged (htag : r.tagged? = none)
  | unknown {tag body : Json} (htag : r.tagged? = some (tag, body))
      (hkind : Redirects.kind? tag = none)
  | next {tag body : Json} (htag : r.tagged? = some (tag, body))
      (hkind : Redirects.kind? tag = some .pipe)
      (hnext : body.entry? ["command"] "command" = none)
  | op {tag body : Json} (htag : r.tagged? = some (tag, body))
      (hkind : Redirects.kind? tag = some .file)
      (hop : ∀ s, body.entry? ["op", "target"] "op" ≠ some (.text s))
  | target {tag body : Json} (htag : r.tagged? = some (tag, body))
      (hkind : Redirects.kind? tag = some .file)
      (htarget : ∀ w, body.entry? ["op", "target"] "target" = some w → ∀ s, ¬ WordRecord w s)

/-- What can be wrong with a command itself: its name is missing or no word, or a field that is there
is of another kind or holds something that is flawed. -/
inductive RecordError (j : Json) : Prop where
  | name (hname : ∀ w, j.entry? keys "command" = some w → ∀ s, ¬ WordRecord w s)
  | args {field : Json} (hfield : j.entry? keys "args" = some field)
      (hargs : ∀ words, field = .array words → ∃ w ∈ words, ∀ s, ¬ WordRecord w s)
  | env {field : Json} (hfield : j.entry? keys "env" = some field)
      (henv : ∀ entries, field = .object entries → ∃ e ∈ entries, ∀ s, ¬ WordRecord e.2 s)
  | redirects {field : Json} (hfield : j.entry? keys "redirects" = some field)
      (hredirects : ∀ items, field = .array items → ∃ r ∈ items, RedirectRecordError r)

theorem PipesTo.depth_lt (h : PipesTo j k) : depth k < depth j := by
  obtain ⟨items, hitems, r, hr, tag, body, htag, -, hnext⟩ := h
  have hless := depth_lt_of_entry? hitems
  rw [depth] at hless
  calc depth k < depth body := depth_lt_of_entry? hnext
    _ ≤ depth r := depth_le_of_tagged? htag
    _ ≤ depth.depthItems items := depth_le_of_mem hr
    _ ≤ depth j := by omega

/-- A redirect that is a pipe can only lack its command. -/
theorem RedirectRecordError.of_pipe {r : Json} (h : RedirectRecordError r)
    (htag : r.tagged? = some (tag, body)) (hkind : Redirects.kind? tag = some .pipe) :
    body.entry? ["command"] "command" = none := by
  cases h with
  | untagged hnone => cases htag.symm.trans hnone
  | unknown htag' hkind' =>
    cases htag.symm.trans htag'
    cases hkind.symm.trans hkind'
  | next htag' _ hnext =>
    cases htag.symm.trans htag'
    exact hnext
  | op htag' hkind' _ =>
    cases htag.symm.trans htag'
    cases hkind.symm.trans hkind'
  | target htag' hkind' _ =>
    cases htag.symm.trans htag'
    cases hkind.symm.trans hkind'

/-- A redirect to a file can only have a flaw in one of its two fields. -/
theorem RedirectRecordError.of_file {r : Json} (h : RedirectRecordError r)
    (htag : r.tagged? = some (tag, body)) (hkind : Redirects.kind? tag = some .file) :
    (∀ s, body.entry? ["op", "target"] "op" ≠ some (.text s)) ∨
      ∀ w, body.entry? ["op", "target"] "target" = some w → ∀ s, ¬ WordRecord w s := by
  cases h with
  | untagged hnone => cases htag.symm.trans hnone
  | unknown htag' hkind' =>
    cases htag.symm.trans htag'
    cases hkind.symm.trans hkind'
  | next htag' hkind' _ =>
    cases htag.symm.trans htag'
    cases hkind.symm.trans hkind'
  | op htag' _ hop =>
    cases htag.symm.trans htag'
    exact Or.inl hop
  | target htag' _ htarget =>
    cases htag.symm.trans htag'
    exact Or.inr htarget

/-- Redirects that are read are without flaws, and so are the commands that they pipe into. -/
theorem RedirectRecordsOf.sound {rs : Redirects} (h : RedirectRecordsOf items rs) :
    ∀ r ∈ items, ¬ RedirectRecordError r ∧ ∀ k, RedirectPipesTo r k → ∃ c, RecordOf k c := by
  induction items generalizing rs with
  | nil => nofun
  | cons r items ih =>
    cases h with
    | pipe htag hkind hnext hread hrest =>
      refine List.forall_mem_cons.mpr ⟨⟨fun hflaw => ?_, ?_⟩, ih hrest⟩
      · cases hnext.symm.trans (hflaw.of_pipe htag hkind)
      · rintro k ⟨tag', body', htag', -, hnext'⟩
        cases htag.symm.trans htag'
        cases hnext.symm.trans hnext'
        exact ⟨_, hread⟩
    | file htag hkind hop htarget hword hrest =>
      refine List.forall_mem_cons.mpr ⟨⟨fun hflaw => ?_, ?_⟩, ih hrest⟩
      · rcases hflaw.of_file htag hkind with hop' | htarget'
        · exact hop' _ hop
        · exact htarget' _ htarget _ hword
      · rintro k ⟨tag', body', htag', hkind', -⟩
        cases htag.symm.trans htag'
        cases hkind.symm.trans hkind'

theorem RecordOf.piped {c : Command} (h : RecordOf j c) (hpipes : PipesTo j k) :
    ∃ d, RecordOf k d := by
  obtain ⟨items, hitems, r, hr, hinto⟩ := hpipes
  cases h with
  | mk hname hword hargs hwords henv hentries hredirects hread =>
    rcases hredirects with hlisted | ⟨hnone, -⟩
    · cases hlisted.symm.trans hitems
      exact (hread.sound r hr).2 k hinto
    · cases hnone.symm.trans hitems

/-- Every command that is reached by pipes is read with the first. -/
theorem RecordOf.reached {c : Command} (h : RecordOf j c)
    (hreach : Relation.ReflTransGen PipesTo j k) : ∃ d, RecordOf k d := by
  induction hreach with
  | refl => exact ⟨c, h⟩
  | tail _ hpipes ih =>
    obtain ⟨d, hd⟩ := ih
    exact hd.piped hpipes

theorem RecordOf.not_recordError {c : Command} (h : RecordOf j c) : ¬ RecordError j := by
  cases h with
  | mk hname hword hargs hwords henv hentries hredirects hread =>
    rintro (hname' | ⟨hfield, hargs'⟩ | ⟨hfield, henv'⟩ | ⟨hfield, hredirects'⟩)
    · exact hname' _ hname _ hword
    · rcases hargs with hlisted | ⟨hnone, -⟩
      · cases hlisted.symm.trans hfield
        obtain ⟨w, hw, hflaw⟩ := hargs' _ rfl
        obtain ⟨s, hs⟩ := exists_forall₂_iff.mp ⟨_, hwords⟩ w hw
        exact hflaw s hs
      · cases hnone.symm.trans hfield
    · rcases henv with hlisted | ⟨hnone, -⟩
      · cases hlisted.symm.trans hfield
        obtain ⟨e, he, hflaw⟩ := henv' _ rfl
        obtain ⟨s, hs⟩ := hentries.words e he
        exact hflaw s hs
      · cases hnone.symm.trans hfield
    · rcases hredirects with hlisted | ⟨hnone, -⟩
      · cases hlisted.symm.trans hfield
        obtain ⟨r, hr, hflaw⟩ := hredirects' _ rfl
        exact (hread.sound r hr).1 hflaw
      · cases hnone.symm.trans hfield

/-- Redirects without flaws are read, if the commands that they pipe into are. -/
theorem exists_redirectRecordsOf
    (h : ∀ r ∈ items, ¬ RedirectRecordError r ∧ ∀ k, RedirectPipesTo r k → ∃ c, RecordOf k c) :
    ∃ rs, RedirectRecordsOf items rs := by
  induction items with
  | nil => exact ⟨.nil, .nil⟩
  | cons r items ih =>
    obtain ⟨⟨hsound, hpipes⟩, hrest⟩ := List.forall_mem_cons.mp h
    obtain ⟨rest, hrest⟩ := ih hrest
    cases htag : r.tagged? with
    | none => exact (hsound (.untagged htag)).elim
    | some tagged =>
      obtain ⟨tag, body⟩ := tagged
      cases hkind : Redirects.kind? tag with
      | none => exact (hsound (.unknown htag hkind)).elim
      | some kind =>
        cases kind with
        | pipe =>
          cases hnext : body.entry? ["command"] "command" with
          | none => exact (hsound (.next htag hkind hnext)).elim
          | some k =>
            obtain ⟨next, hread⟩ := hpipes k ⟨tag, body, htag, hkind, hnext⟩
            exact ⟨_, .pipe htag hkind hnext hread hrest⟩
        | file =>
          by_contra hnone
          refine hsound (.target htag hkind fun w htarget target hword => ?_)
          refine hsound (.op htag hkind fun op hop => ?_)
          exact hnone ⟨_, .file htag hkind hop htarget hword hrest⟩

/-- A list field that is a list of sound items or absent has sound items. -/
theorem exists_listField {Q : Json → Prop}
    (h : ∀ field, j.entry? keys key = some field → ∃ items, field = .array items ∧ ∀ w ∈ items, Q w) :
    ∃ items, ListField j key items ∧ ∀ w ∈ items, Q w := by
  cases hfield : j.entry? keys key with
  | none => exact ⟨[], Or.inr ⟨hfield, rfl⟩, nofun⟩
  | some field =>
    obtain ⟨items, rfl, hitems⟩ := h field hfield
    exact ⟨items, Or.inl hfield, hitems⟩

/-- **A command without flaws is read, if the commands that it pipes into are.** -/
theorem exists_recordOf (hsound : ¬ RecordError j) (hpipes : ∀ k, PipesTo j k → ∃ d, RecordOf k d) :
    ∃ c, RecordOf j c := by
  obtain ⟨w, hname, name, hword⟩ :
      ∃ w, j.entry? keys "command" = some w ∧ ∃ name, WordRecord w name := by
    by_contra hnone
    exact hsound (.name fun w hw s hs => hnone ⟨w, hw, s, hs⟩)
  obtain ⟨words, hargs, hwords⟩ : ∃ words, ListField j "args" words ∧
    ∀ w ∈ words, ∃ s, WordRecord w s := by
    refine exists_listField fun field hfield => ?_
    by_contra hnone
    refine hsound (.args hfield fun words heq => ?_)
    by_contra hwords
    push Not at hwords
    exact hnone ⟨words, heq, hwords⟩
  obtain ⟨entries, henv, hentries⟩ :
      ∃ entries, EnvField j entries ∧ ∀ e ∈ entries, ∃ s, WordRecord e.2 s := by
    cases hfield : j.entry? keys "env" with
    | none => exact ⟨[], Or.inr ⟨hfield, rfl⟩, nofun⟩
    | some field =>
      by_contra hnone
      refine hsound (.env hfield fun entries heq => ?_)
      by_contra hentries
      push Not at hentries
      exact hnone ⟨entries, Or.inl (heq ▸ hfield), hentries⟩
  obtain ⟨items, hredirects, hitems⟩ : ∃ items, ListField j "redirects" items ∧
      ∀ r ∈ items, ¬ RedirectRecordError r ∧ ∀ k, RedirectPipesTo r k → ∃ c, RecordOf k c := by
    refine exists_listField fun field hfield => ?_
    by_contra hnone
    refine hsound (.redirects hfield fun items heq => ?_)
    by_contra hitems
    push Not at hitems
    exact hnone ⟨items, heq, fun r hr =>
      ⟨hitems r hr, fun k hk => hpipes k ⟨items, heq ▸ hfield, r, hr, hk⟩⟩⟩
  obtain ⟨args, hargWords⟩ := exists_forall₂_iff.mpr hwords
  obtain ⟨env, henvRead⟩ := exists_envOfJson? hentries
  obtain ⟨rs, hrs⟩ := exists_redirectRecordsOf hitems
  exact ⟨_, .mk hname hword hargs hargWords henv (envOfJson?_eq_some.mp henvRead) hredirects hrs⟩

/-- **What is flawed is refused, at any depth**, and nothing else is. -/
theorem ofJson?_eq_none :
    ofJson? j = none ↔ ∃ k, Relation.ReflTransGen PipesTo j k ∧ RecordError k := by
  constructor
  · intro hnone
    by_contra hsound
    push Not at hsound
    have hread : ∃ c, RecordOf j c := by
      clear hnone
      induction hdepth : depth j using Nat.strongRecOn generalizing j with
      | _ n ih =>
        subst hdepth
        refine exists_recordOf (hsound j .refl) fun k hk => ?_
        exact ih _ hk.depth_lt (fun m hm => hsound m (.head hk hm)) rfl
    obtain ⟨c, hc⟩ := hread
    cases hnone.symm.trans (ofJson?_eq_some.mpr hc)
  · rintro ⟨k, hreach, hflaw⟩
    by_contra hsome
    obtain ⟨c, hc⟩ := Option.ne_none_iff_exists'.mp hsome
    obtain ⟨d, hd⟩ := (ofJson?_eq_some.mp hc).reached hreach
    exact hd.not_recordError hflaw

/-! ## Writing -/

mutual
/-- The environments of a command and of all commands that it pipes into have their entries in
order. -/
def EnvOrdered : Command → Prop
  | .mk _ _ env redirects => env.Sorted ∧ RedirectsEnvOrdered redirects

def RedirectsEnvOrdered : Redirects → Prop
  | .nil => True
  | .pipe next rest => next.EnvOrdered ∧ RedirectsEnvOrdered rest
  | .file _ _ rest => RedirectsEnvOrdered rest
end

mutual
theorem RecordOf.envOrdered {j : Json} {c : Command} (h : RecordOf j c) : c.EnvOrdered := by
  cases h with
  | mk hname hword hargs hwords henv hentries hredirects hread =>
    exact ⟨hentries.sorted, RedirectRecordsOf.envOrdered hread⟩

theorem RedirectRecordsOf.envOrdered {items : List Json} {rs : Redirects}
    (h : RedirectRecordsOf items rs) : RedirectsEnvOrdered rs := by
  cases h with
  | nil => trivial
  | pipe htag hkind hnext hread hrest =>
    exact ⟨RecordOf.envOrdered hread, RedirectRecordsOf.envOrdered hrest⟩
  | file htag hkind hop htarget hword hrest =>
    rw [RedirectsEnvOrdered]
    exact RedirectRecordsOf.envOrdered hrest
end

theorem wordRecord_wordToJson (s : String) : WordRecord (wordToJson s) s := rfl

theorem wordsOf_map (args : List String) : List.Forall₂ WordRecord (args.map wordToJson) args := by
  induction args with
  | nil => exact .nil
  | cons s args ih => exact .cons (wordRecord_wordToJson s) ih

theorem envRecords_mapValues {env : Dict String} (h : env.Sorted) :
    EnvRecords (env.mapValues wordToJson) env where
  words := by
    intro e he
    obtain ⟨⟨key, s⟩, -, rfl⟩ := List.mem_map.mp he
    exact ⟨s, wordRecord_wordToJson s⟩
  same := by
    intro key s
    rw [Dict.get?_mapValues]
    cases Dict.get? env key with
    | none => simp
    | some s' =>
      simp only [Option.some.injEq, Option.map_some, exists_eq_left']
      constructor
      · rintro rfl
        exact wordRecord_wordToJson s'
      · intro hword
        cases (wordRecord_wordToJson s').symm.trans hword
        rfl
  sorted := h

mutual
/-- **What is written of a command is a record of it.** -/
theorem recordOf_toJson : ∀ c : Command, c.EnvOrdered → RecordOf c.toJson c
  | .mk name args env redirects, ⟨henv, hredirects⟩ => by
    rw [toJson]
    exact .mk rfl (wordRecord_wordToJson name) (Or.inl rfl) (wordsOf_map args) (Or.inl rfl)
      (envRecords_mapValues henv) (Or.inl rfl) (redirectRecordsOf_toJson redirects hredirects)

theorem redirectRecordsOf_toJson : ∀ rs : Redirects, RedirectsEnvOrdered rs →
    RedirectRecordsOf (redirectsToJson rs) rs
  | .nil, _ => by
    rw [redirectsToJson]
    exact .nil
  | .pipe next rest, ⟨hnext, hrest⟩ => by
    rw [redirectsToJson]
    exact .pipe rfl rfl rfl (recordOf_toJson next hnext) (redirectRecordsOf_toJson rest hrest)
  | .file op target rest, hrest => by
    rw [redirectsToJson]
    exact .file rfl rfl rfl rfl (wordRecord_wordToJson target) (redirectRecordsOf_toJson rest hrest)
end

/-- A record of a command that has all its fields. -/
def HasAllFields (j : Json) : Prop :=
  ∃ fields, j = .object fields ∧ ∀ key ∈ keys, (Dict.get? fields key).isSome

theorem hasAllFields_toJson (c : Command) : HasAllFields c.toJson := by
  obtain ⟨name, args, env, redirects⟩ := c
  rw [toJson]
  refine ⟨_, rfl, ?_⟩
  simp [keys, Dict.get?]

/-- What a redirect pipes into was written of a command. -/
theorem exists_of_redirectPipesTo (rs : Redirects) {r : Json} (hr : r ∈ redirectsToJson rs)
    (h : RedirectPipesTo r k) : ∃ d : Command, k = d.toJson := by
  match rs with
  | .nil =>
    rw [redirectsToJson] at hr
    cases hr
  | .pipe next rest =>
    rw [redirectsToJson] at hr
    rcases List.mem_cons.mp hr with rfl | hr
    · obtain ⟨tag, body, htag, -, hnext⟩ := h
      cases htag
      cases hnext
      exact ⟨next, rfl⟩
    · exact exists_of_redirectPipesTo rest hr h
  | .file op target rest =>
    rw [redirectsToJson] at hr
    rcases List.mem_cons.mp hr with rfl | hr
    · obtain ⟨tag, body, htag, hkind, -⟩ := h
      cases htag
      cases hkind
    · exact exists_of_redirectPipesTo rest hr h

theorem PipesTo.of_toJson {c : Command} (h : PipesTo c.toJson k) : ∃ d : Command, k = d.toJson := by
  obtain ⟨name, args, env, redirects⟩ := c
  obtain ⟨items, hitems, r, hr, hinto⟩ := h
  rw [toJson] at hitems
  cases hitems
  exact exists_of_redirectPipesTo redirects hr hinto

/-- All commands that were written with a command were written of one. -/
theorem exists_of_reached {c : Command} (h : Relation.ReflTransGen PipesTo c.toJson k) :
    ∃ d : Command, k = d.toJson := by
  induction h with
  | refl => exact ⟨c, rfl⟩
  | tail _ hpipes ih =>
    obtain ⟨d, rfl⟩ := ih
    exact hpipes.of_toJson

end Command

namespace Statement

variable {j : Json} {s : Statement}

/-- The record of a statement. Its tag is a text. -/
inductive RecordOf (j : Json) : Statement → Prop where
  | command {body : Json} {c : Command} (htag : j.tagged? = some (.text "command", body))
      (hread : Command.RecordOf body c) : RecordOf j (.command c)
  | unsupported {body : Json} {construct : String}
      (htag : j.tagged? = some (.text "unsupported", body))
      (hkind : body.entry? ["kind"] "kind" = some (.text construct)) :
      RecordOf j (.unsupported construct)

/-- What can be wrong with a record, at any depth. -/
inductive RecordError (j : Json) : Prop where
  | untagged (htag : j.tagged? = none)
  | unknown {tag body : Json} (htag : j.tagged? = some (tag, body))
      (hcommand : tag ≠ .text "command") (hunsupported : tag ≠ .text "unsupported")
  | command {body k : Json} (htag : j.tagged? = some (.text "command", body))
      (hreach : Relation.ReflTransGen Command.PipesTo body k) (hflaw : Command.RecordError k)
  | kind {body : Json} (htag : j.tagged? = some (.text "unsupported", body))
      (hkind : ∀ construct, body.entry? ["kind"] "kind" ≠ some (.text construct))

/-- Every value is the record of a statement that it is read as, or it is flawed. -/
theorem recordOf_or_recordError (j : Json) :
    (∃ s, RecordOf j s ∧ ofJson? j = some s) ∨ RecordError j ∧ ofJson? j = none := by
  unfold ofJson?
  split
  · rename_i body htag
    cases hread : Command.ofJson? body with
    | some c => exact Or.inl ⟨_, .command htag (Command.ofJson?_eq_some.mp hread), rfl⟩
    | none =>
      obtain ⟨k, hreach, hflaw⟩ := Command.ofJson?_eq_none.mp hread
      exact Or.inr ⟨.command htag hreach hflaw, rfl⟩
  · rename_i body htag
    cases hread : body.entry? ["kind"] "kind" >>= Json.text? with
    | some construct =>
      simp only [Option.bind_eq_bind, Option.bind_eq_some_iff, Command.text?_eq_some,
        exists_eq_right] at hread
      exact Or.inl ⟨_, .unsupported htag hread, rfl⟩
    | none =>
      refine Or.inr ⟨.kind htag fun construct hkind => ?_, rfl⟩
      rw [hkind] at hread
      cases hread
  · rename_i hcommand hunsupported
    refine Or.inr ⟨?_, rfl⟩
    cases htag : j.tagged? with
    | none => exact .untagged htag
    | some tagged =>
      obtain ⟨tag, body⟩ := tagged
      refine .unknown htag ?_ ?_
      · rintro rfl
        exact hcommand body htag
      · rintro rfl
        exact hunsupported body htag

/-- **Reading finds the statement of a record**, and nothing else is read. -/
theorem ofJson?_eq_some : ofJson? j = some s ↔ RecordOf j s := by
  constructor
  · intro h
    obtain ⟨s', hread, hs'⟩ | ⟨-, hnone⟩ := recordOf_or_recordError j
    · cases h.symm.trans hs'
      exact hread
    · cases h.symm.trans hnone
  · rintro (⟨htag, hread⟩ | ⟨htag, hkind⟩)
    · simp only [ofJson?, htag, Command.ofJson?_eq_some.mpr hread, Option.map_some]
    · simp only [ofJson?, htag, hkind, Option.bind_eq_bind, Option.bind_some, Json.text?,
        Option.map_some]

theorem RecordOf.not_recordError (h : RecordOf j s) : ¬ RecordError j := by
  cases h with
  | command htag hread =>
    rintro (hnone | ⟨htag', hcommand, -⟩ | ⟨htag', hreach, hflaw⟩ | ⟨htag', -⟩)
    · cases htag.symm.trans hnone
    · cases htag.symm.trans htag'
      exact hcommand rfl
    · cases htag.symm.trans htag'
      obtain ⟨d, hd⟩ := hread.reached hreach
      exact hd.not_recordError hflaw
    · exact absurd (htag.symm.trans htag') (by simp)
  | unsupported htag hkind =>
    rintro (hnone | ⟨htag', -, hunsupported⟩ | ⟨htag', -⟩ | ⟨htag', hkind'⟩)
    · cases htag.symm.trans hnone
    · cases htag.symm.trans htag'
      exact hunsupported rfl
    · exact absurd (htag.symm.trans htag') (by simp)
    · cases htag.symm.trans htag'
      exact hkind' _ hkind

/-- **A flawed record is refused**, and nothing else is. -/
theorem ofJson?_eq_none : ofJson? j = none ↔ RecordError j := by
  obtain ⟨s, hread, hs⟩ | ⟨hflaw, hnone⟩ := recordOf_or_recordError j
  · rw [hs]
    exact ⟨nofun, fun hflaw => (hread.not_recordError hflaw).elim⟩
  · exact ⟨fun _ => hflaw, fun _ => hnone⟩

def EnvOrdered : Statement → Prop
  | .command c => c.EnvOrdered
  | .unsupported _ => True

theorem RecordOf.envOrdered (h : RecordOf j s) : s.EnvOrdered := by
  cases h with
  | command htag hread => exact hread.envOrdered
  | unsupported htag hkind => trivial

/-- A record that has all its fields, and so have those of all commands that are reached by pipes. -/
inductive HasAllFields (j : Json) : Prop where
  | command {fields : List (String × Json)} (hj : j = .object fields)
      (htag : Dict.get? fields "type" = some (.text "command"))
      (hreached : ∀ k, Relation.ReflTransGen Command.PipesTo j k → Command.HasAllFields k) :
        HasAllFields j
  | unsupported {fields : List (String × Json)} (hj : j = .object fields)
      (htag : Dict.get? fields "type" = some (.text "unsupported"))
      (hkind : (Dict.get? fields "kind").isSome) : HasAllFields j

/-- The record of a statement that is a command, beside that of the command. -/
theorem exists_toJson (c : Command) : ∃ fields, toJson (.command c) = .object fields ∧
    Dict.get? fields "type" = some (.text "command") ∧
    ∀ key ∈ Command.keys, c.toJson.entry? Command.keys key = Dict.get? fields key := by
  obtain ⟨name, args, env, redirects⟩ := c
  refine ⟨_, by rw [toJson, Command.toJson], ?_, ?_⟩
  · rw [Dict.get?_insert, if_pos rfl]
  · intro key hkey
    rw [Command.toJson, Dict.get?_insert, if_neg]
    · rfl
    · rintro rfl
      revert hkey
      decide

theorem recordOf_toJson (h : s.EnvOrdered) : RecordOf s.toJson s := by
  cases s with
  | command c =>
    obtain ⟨fields, hj, htag, hsame⟩ := exists_toJson c
    have htagged : (toJson (.command c)).tagged? = some (.text "command", .object fields) := by
      rw [hj, Json.tagged?, htag, Option.map_some]
    exact .command htagged ((Command.recordOf_toJson c h).congr hsame)
  | unsupported construct => exact .unsupported rfl rfl

theorem hasAllFields_toJson (s : Statement) : HasAllFields s.toJson := by
  cases s with
  | command c =>
    obtain ⟨fields, hj, htag, hsame⟩ := exists_toJson c
    refine .command hj htag fun k hreach => ?_
    rw [hj] at hreach
    -- The statement has a tag that the command lacks; below it their records are the same.
    rcases hreach.cases_head with rfl | ⟨m, ⟨items, hitems, hpipes⟩, hrest⟩
    · obtain ⟨fields', hfields', hall⟩ := Command.hasAllFields_toJson c
      refine ⟨fields, rfl, fun key hkey => ?_⟩
      rw [← hsame key hkey, hfields']
      exact hall key hkey
    · have hm : Command.PipesTo c.toJson m :=
        ⟨items, (hsame "redirects" (by decide)).trans hitems, hpipes⟩
      obtain ⟨d, rfl⟩ := Command.exists_of_reached (hrest.head hm)
      exact Command.hasAllFields_toJson d
  | unsupported construct => exact .unsupported rfl rfl rfl

/-- How statements and records belong together. -/
structure RecordSpec (s : Statement) (j : Json) : Prop where
  /-- A statement is read back from what is written of it, if its environments are in order. -/
  written : ofJson? s.toJson = some s ↔ s.EnvOrdered
  /-- It is read from its records: fields that may be absent are empty then, and others do not
  matter. -/
  read : ofJson? j = some s ↔ RecordOf j s
  /-- What is read is in order, so it is read back from what is written of it. -/
  rewritten : ofJson? j = some s → ofJson? s.toJson = some s
  /-- What is written has all its fields. -/
  complete : HasAllFields s.toJson
  /-- A value that is no record of any statement has a flaw, in itself or in a command that is reached
  by pipes; and one with a flaw is refused. -/
  refused : ofJson? j = none ↔ RecordError j

/-- **Statements are read from their records, and from nothing else.** What is written of one is a
record of it. -/
theorem records_exact (s : Statement) (j : Json) : RecordSpec s j where
  written := ⟨fun h => (ofJson?_eq_some.mp h).envOrdered,
    fun h => ofJson?_eq_some.mpr (recordOf_toJson h)⟩
  read := ofJson?_eq_some
  rewritten h := ofJson?_eq_some.mpr (recordOf_toJson (ofJson?_eq_some.mp h).envOrdered)
  complete := hasAllFields_toJson s
  refused := ofJson?_eq_none

/-- **Inside a command a tag may be a number.** Zero is the number of pipes, so the redirect of this
record is one. -/
theorem numbered_tag_read :
    ofJson? (.object
      [("command", Command.wordToJson "a"),
        ("redirects", .array [.object
          [("command", .object [("command", Command.wordToJson "b")]), ("type", .number 0)]]),
        ("type", .text "command")]) =
      some (.command (.mk "a" [] [] (.pipe (.mk "b" [] [] .nil) .nil))) := by
  have hnext : Command.RecordOf (.object [("command", Command.wordToJson "b")])
      (.mk "b" [] [] .nil) :=
    .mk rfl rfl (Or.inr ⟨rfl, rfl⟩) .nil (Or.inr ⟨rfl, rfl⟩) Command.envRecords_nil
      (Or.inr ⟨rfl, rfl⟩) .nil
  refine ofJson?_eq_some.mpr (.command rfl ?_)
  exact .mk rfl rfl (Or.inr ⟨rfl, rfl⟩) .nil (Or.inr ⟨rfl, rfl⟩) Command.envRecords_nil (Or.inl rfl)
    (.pipe rfl rfl rfl hnext .nil)

end Statement

end Pipework
