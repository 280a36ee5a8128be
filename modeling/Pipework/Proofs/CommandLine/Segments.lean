import Pipework.CommandLine.Parse
import Pipework.Proofs.Chains
import Pipework.Proofs.Results
import Pipework.Resolve
import Pipework.Proofs.Resolving

/-!
# What becomes of the segments of a pipeline

A segment says a command: assignments, a name and arguments (`wordsAndEnvOf`). The chain of a line
that was read holds what its segments say up to the first segment with a file redirect, and nothing
of those behind it: their pipe comes to stand behind a file, where the chain does not look
(`chain_of_segments`).
So a pipeline runs whole exactly when none of its segments but the last has a file redirect.

* `readSegment_wordsAndEnv`, `readSegment_redirects` — what a segment comes to.
-/

namespace Pipework

namespace CommandLine

/-! ## What a segment says -/

/-- The words of a segment, but for those that redirects take. -/
def ownWords : List Token → List (List Char × Bool)
  | [] => []
  | .redirect _ :: .word _ _ :: rest => ownWords rest
  | .word text quoted :: rest => (text, quoted) :: ownWords rest
  | _ :: rest => ownWords rest

/-- The assignment that a word is, unless it starts with a quote. -/
def assigned? : List Char × Bool → Option (String × String)
  | (_, true) => none
  | (text, false) => assignment? text

/-- The words of the command: those from the first on that is no assignment. -/
def commandWords (words : List (List Char × Bool)) : List String :=
  (words.dropWhile fun w => (assigned? w).isSome).map fun w => String.ofList w.1

/-- The assignments in front of the command. -/
def assignments (words : List (List Char × Bool)) : List (String × String) :=
  (words.takeWhile fun w => (assigned? w).isSome).filterMap assigned?

/-- The command that a segment says. Of two assignments to one name the later counts. -/
def wordsAndEnvOf (segment : List Token) : List String × Dict String :=
  (commandWords (ownWords segment), .ofList (assignments (ownWords segment)))

def hasFile (segment : List Token) : Bool :=
  segment.any fun
    | .redirect _ => true
    | _ => false

variable {s : Segment} {segment : List Token} {c : Command}

theorem Segment.addWord_assigned {text : List Char} {quoted : Bool} {e : String × String}
    (hs : s.words = []) (he : assigned? (text, quoted) = some e) :
    s.addWord text quoted = { s with env := s.env.insert e.1 e.2 } := by
  cases quoted with
  | true => cases he
  | false =>
    have he : assignment? text = some e := he
    simp only [addWord, hs, he]

theorem Segment.addWord_wordsAndEnv {text : List Char} {quoted : Bool}
    (h : s.words ≠ [] ∨ assigned? (text, quoted) = none) :
    s.addWord text quoted = { s with words := String.ofList text :: s.words } := by
  unfold addWord
  split
  · rename_i name value hs hassigned
    have he : assigned? (text, false) = some (name, value) := hassigned
    rcases h with hwords | hnone
    · exact absurd hs hwords
    · cases he.symm.trans hnone
  · rfl

/-- A segment is a command once it has a word. -/
theorem Segment.wordsAndEnv_of_command (h : s.command = .ok c) :
    c.wordsAndEnv = (s.words.reverse, s.env) ∧ c.redirects = s.redirects := by
  unfold command at h
  split at h
  · cases h
  · rename_i name args hwords
    cases h
    rw [hwords]
    exact ⟨rfl, rfl⟩

/-- Once the command is found every word of the segment is an argument. -/
theorem readSegment_begun (hs : s.words ≠ []) (h : readSegment s segment = .ok c) :
    c.wordsAndEnv =
    (s.words.reverse ++ (ownWords segment).map fun w => String.ofList w.1, s.env) := by
  fun_induction readSegment s segment with
  | case1 s =>
    rw [(Segment.wordsAndEnv_of_command h).1]
    exact congrArg (·, s.env) (List.append_nil _).symm
  | case2 s text quoted rest ih =>
    rw [Segment.addWord_wordsAndEnv (Or.inl hs)] at h ih
    rw [ih (List.cons_ne_nil _ _) h, ownWords, List.map_cons, List.reverse_cons, List.append_assoc]
    rfl
  | case3 s op target quoted rest ih => exact ih hs h
  | case4 => cases h
  | case5 s token rest hword htaken hredirect ih =>
    rw [ih hs h]
    cases token with
    | word text quoted => exact (hword text quoted rfl).elim
    | redirect op => exact (hredirect op rfl).elim
    | _ => rfl

/-- **A segment that is read becomes the command that it says.** -/
theorem readSegment_unbegun (hs : s.words = []) (h : readSegment s segment = .ok c) :
    c.wordsAndEnv = (commandWords (ownWords segment),
      (assignments (ownWords segment)).foldl (fun d e => d.insert e.1 e.2) s.env) := by
  fun_induction readSegment s segment with
  | case1 s =>
    rw [(Segment.wordsAndEnv_of_command h).1, hs]
    rfl
  | case2 s text quoted rest ih =>
    cases he : assigned? (text, quoted) with
    | some e =>
      rw [Segment.addWord_assigned hs he] at h ih
      rw [ih hs h]
      simp [ownWords, commandWords, assignments, he]
    | none =>
      rw [Segment.addWord_wordsAndEnv (Or.inr he)] at h
      rw [readSegment_begun (List.cons_ne_nil _ _) h]
      simp [ownWords, commandWords, assignments, he, hs]
  | case3 s op target quoted rest ih => exact ih hs h
  | case4 => cases h
  | case5 s token rest hword htaken hredirect ih =>
    rw [ih hs h]
    cases token with
    | word text quoted => exact (hword text quoted rfl).elim
    | redirect op => exact (hredirect op rfl).elim
    | _ => rfl

theorem readSegment_wordsAndEnv (h : readSegment .empty segment = .ok c) :
    c.wordsAndEnv = wordsAndEnvOf segment :=
  readSegment_unbegun rfl h

/-! ## What redirects a segment has -/

theorem hasFile_cons (token : Token) (rest : List Token) :
    hasFile (token :: rest) = (hasFile [token] || hasFile rest) := by
  simp [hasFile]

/-- Redirects pile up behind each other and none of them is a pipe. -/
theorem readSegment_redirects (hs : ∀ next rest, s.redirects ≠ .pipe next rest)
    (h : readSegment s segment = .ok c) : (∀ next rest, c.redirects ≠ .pipe next rest) ∧
      (c.redirects = .nil ↔ s.redirects = .nil ∧ hasFile segment = false) := by
  fun_induction readSegment s segment with
  | case1 s =>
    rw [(Segment.wordsAndEnv_of_command h).2]
    exact ⟨hs, (and_iff_left rfl).symm⟩
  | case2 s text quoted rest ih =>
    have hkeep : (s.addWord text quoted).redirects = s.redirects := by
      unfold Segment.addWord
      split <;> rfl
    rw [hkeep] at ih
    rw [hasFile_cons]
    exact ih hs h
  | case3 s op target quoted rest ih =>
    obtain ⟨op', target', rest', hfile⟩ :
        ∃ op' target' rest', (s.addFile op target).redirects = .file op' target' rest' := by
      unfold Segment.addFile
      cases hr : s.redirects with
      | nil => exact ⟨op, _, .nil, rfl⟩
      | pipe next rest => exact absurd hr (hs next rest)
      | file op' target' rest' => exact ⟨op', target', _, rfl⟩
    obtain ⟨hunpiped, hnone⟩ := ih (by rw [hfile]; exact nofun) h
    refine ⟨hunpiped, iff_of_false (fun hnil => ?_) (fun hclear => ?_)⟩
    · rw [hfile] at hnone
      exact absurd (hnone.mp hnil).1 nofun
    · exact absurd hclear.2 nofun
  | case4 => cases h
  | case5 s token rest hword htaken hredirect ih =>
    rw [hasFile_cons]
    cases token with
    | word text quoted => exact (hword text quoted rfl).elim
    | redirect op => exact (hredirect op rfl).elim
    | _ => exact ih hs h

/-- **A segment becomes one command**, whose redirects are those to files. -/
theorem readSegment_single (h : readSegment .empty segment = .ok c) :
    c.chain.map Command.wordsAndEnv = [wordsAndEnvOf segment] ∧
    (c.lastRedirects = .nil ↔ hasFile segment = false) := by
  obtain ⟨hunpiped, hnone⟩ := readSegment_redirects (s := .empty) nofun h
  have hsaid := readSegment_wordsAndEnv h
  obtain ⟨name, args, env, redirects⟩ := c
  cases redirects with
  | pipe next rest => exact absurd rfl (hunpiped next rest)
  | nil => exact ⟨congrArg (· :: []) hsaid, hnone.trans (and_iff_right rfl)⟩
  | file op target rest => exact ⟨congrArg (· :: []) hsaid, hnone.trans (and_iff_right rfl)⟩

/-! ## Pipelines -/

/-- The segments up to the first with a file redirect, that one included. -/
def uptoFile : List (List Token) → List (List Token)
  | [] => []
  | segment :: rest => if hasFile segment then [segment] else segment :: uptoFile rest

/-- Nothing is left out when only the last segment may have a file redirect. -/
theorem uptoFile_length_eq_iff (segments : List (List Token)) :
    (uptoFile segments).length = segments.length ↔
      ∀ segment ∈ segments.dropLast, hasFile segment = false := by
  induction segments with
  | nil => simp [uptoFile]
  | cons segment rest ih =>
    cases rest with
    | nil => simp [uptoFile]
    | cons next rest =>
      rw [List.dropLast_cons_cons, List.forall_mem_cons, ← ih, uptoFile]
      cases hasFile segment <;> simp

theorem uptoFile_eq_self {segments : List (List Token)}
    (h : ∀ segment ∈ segments.dropLast, hasFile segment = false) : uptoFile segments = segments := by
  induction segments with
  | nil => rfl
  | cons segment rest ih =>
    cases rest with
    | nil => simp [uptoFile]
    | cons next rest =>
      rw [List.dropLast_cons_cons, List.forall_mem_cons] at h
      rw [uptoFile, h.1, ih h.2]
      rfl

/-- **The segments behind a pipe join the chain until one with a file redirect has joined it.** -/
theorem readPipeline_wordsAndEnv : ∀ {segments : List (List Token)} {head : Command},
    readPipeline head segments = .ok c →
      c.chain.map Command.wordsAndEnv = head.chain.map Command.wordsAndEnv ++
        if head.lastRedirects = .nil then (uptoFile segments).map wordsAndEnvOf else []
  | [], head, h => by
    cases h
    simp [uptoFile]
  | segment :: rest, head, h => by
    unfold readPipeline at h
    split at h
    · rename_i next hnext
      obtain ⟨hsaid, hending⟩ := readSegment_single hnext
      have hrest := readPipeline_wordsAndEnv h
      by_cases hopen : head.lastRedirects = .nil
      · obtain ⟨hchain, htail⟩ := Command.wordsAndEnv_pipeInto (t := next) hopen
        rw [hrest, hchain, htail, hsaid, if_pos hopen, uptoFile, List.append_assoc]
        cases hf : hasFile segment with
        | true => simp [hending, hf]
        | false => simp [hending.mpr hf]
      · obtain ⟨hchain, htail⟩ := Command.wordsAndEnv_pipeInto_blocked (t := next) hopen
        rw [hrest, hchain, if_neg hopen, if_neg htail]
    · cases h

theorem readStatement_wordsAndEnv {statement : List Token}
    (h : readStatement statement = .ok (.command c)) :
    c.chain.map Command.wordsAndEnv = (uptoFile (statement.splitOn .pipe)).map wordsAndEnvOf := by
  unfold readStatement at h
  split at h
  · cases h
  · split at h
    · cases h
    · rename_i first rest hsplit
      rw [hsplit]
      split at h
      · rename_i head hhead
        obtain ⟨hsaid, hending⟩ := readSegment_single hhead
        cases hpipeline : readPipeline head rest with
        | error why =>
          rw [hpipeline] at h
          cases h
        | ok c' =>
          rw [hpipeline] at h
          cases h
          rw [readPipeline_wordsAndEnv hpipeline, hsaid, uptoFile]
          cases hf : hasFile first with
          | true => simp [hending, hf]
          | false => simp [hending.mpr hf]
      · cases h

/-- A line that gives one statement has only one that is not empty. -/
theorem parse_single {line : String} {statement : Statement} (h : parse line = .ok [statement]) :
    ∃ tokens only, Token.ofLine line.toList = .ok tokens ∧ statements tokens = [only] ∧
      readStatement only = .ok statement := by
  unfold parse at h
  split at h
  · rename_i tokens htokens
    obtain ⟨only, others, hread, hothers, hstatements⟩ :=
      List.forall₂_cons_right_iff.mp (mapM_eq_ok.mp h)
    rw [List.forall₂_nil_right_iff.mp hothers] at hstatements
    exact ⟨tokens, only, htokens, hstatements, hread⟩
  · cases h

end CommandLine

/-! ## Stages -/

namespace Resolver

variable {P : Type} {r : Resolver P} {effects : List Effect} {stages : List (Stage P)}

/-- A stage is what the catalogue has for its command. -/
def FoundStage (r : Resolver P) (q : Inquiry) (s : Stage P) : Prop :=
  r.stage q.command.name (r.request q.command) (r.answer q) = .ok s

/-- **Every command of a chain that is resolved becomes a stage**, in order. -/
theorem chain_foundStage {past : List Request} {commands : List Command}
    (h : r.chain past commands = (effects, .ok stages)) :
    List.Forall₂ r.FoundStage (r.asked past commands) stages := by
  induction commands generalizing effects stages with
  | nil =>
    cases h
    exact .nil
  | cons c rest ih =>
    unfold chain at h
    split at h
    · cases h
    · rename_i before found hrest
      split at h
      · cases h
      · rename_i more stage hstage
        cases h
        exact .cons (congrArg Prod.snd hstage) (ih hrest)

end Resolver

namespace CommandLine

/-- **A line that is one command runs what its segments say, up to the first with a file redirect.**
That is all of them exactly when none but the last has one. Each command of the chain becomes one
stage. -/
theorem chain_of_segments {line : String} {c : Command} (hparse : parse line = .ok [.command c]) :
    ∃ tokens statement, Token.ofLine line.toList = .ok tokens ∧ statements tokens = [statement] ∧
      c.chain.map Command.wordsAndEnv = (uptoFile (statement.splitOn .pipe)).map wordsAndEnvOf ∧
      (c.chain.map Command.wordsAndEnv = (statement.splitOn .pipe).map wordsAndEnvOf ↔
        ∀ segment ∈ (statement.splitOn .pipe).dropLast, hasFile segment = false) ∧
      ∀ {P : Type} (r : Resolver P) past effects stages,
        r.statements past [.command c] = (effects, .ok stages) →
          List.Forall₂ r.FoundStage (r.asked past c.chain) stages := by
  obtain ⟨tokens, statement, htokens, hstatement, hread⟩ := parse_single hparse
  have hchain := readStatement_wordsAndEnv hread
  refine ⟨tokens, statement, htokens, hstatement, hchain, ⟨fun hall => ?_, fun hclear => ?_⟩,
    fun r past effects stages h => Resolver.chain_foundStage h⟩
  · rw [← uptoFile_length_eq_iff]
    have hlength := congrArg List.length (hchain.symm.trans hall)
    rwa [List.length_map, List.length_map] at hlength
  · rw [hchain, uptoFile_eq_self hclear]

/-- A pipeline with assignments and with a file redirect on its last segment. -/
def fileLast : Command :=
  .mk "a" ["y"] [("X", "1")] (.pipe (.mk "b" [] [] (.file ">" "f" .nil)) .nil)

theorem chain_of_segments_fileLast :
    parse "X=1 a y | b > f" = .ok [.command fileLast] ∧
    fileLast.chain.map Command.wordsAndEnv = [(["a", "y"], [("X", "1")]), (["b"], [])] ∧
    ∃ tokens statement, Token.ofLine "X=1 a y | b > f".toList = .ok tokens ∧
      statements tokens = [statement] ∧
      fileLast.chain.map Command.wordsAndEnv =
      (uptoFile (statement.splitOn .pipe)).map wordsAndEnvOf ∧
      (fileLast.chain.map Command.wordsAndEnv = (statement.splitOn .pipe).map wordsAndEnvOf ↔
        ∀ segment ∈ (statement.splitOn .pipe).dropLast, hasFile segment = false) ∧
      ∀ {P : Type} (r : Resolver P) past effects stages,
        r.statements past [.command fileLast] = (effects, .ok stages) →
          List.Forall₂ r.FoundStage (r.asked past fileLast.chain) stages :=
  ⟨rfl, rfl, chain_of_segments rfl⟩

/-- The pipe behind a file redirect leads nowhere: the second command is left out. -/
theorem chain_drops_behind_file :
    ¬ ∀ (line : String) (c : Command) (tokens statement : List Token),
      parse line = .ok [.command c] → Token.ofLine line.toList = .ok tokens →
        statements tokens = [statement] →
          c.chain.map Command.wordsAndEnv = (statement.splitOn .pipe).map wordsAndEnvOf := by
  intro h
  have hline := h "a > f | b"
    (.mk "a" [] [] (.file ">" "f" (.pipe (.mk "b" [] [] .nil) .nil)))
    [.word ['a'] false, .redirect ">", .word ['f'] false, .pipe, .word ['b'] false]
    [.word ['a'] false, .redirect ">", .word ['f'] false, .pipe, .word ['b'] false]
    rfl rfl rfl
  exact absurd hline (by decide)

end CommandLine

end Pipework
