import Mathlib.Data.List.Forall2
import Pipework.Command.Basic

/-!
# Chains of commands

Hanging a command at a chain goes down the pipes that come first among the redirects and adds one
where they end. All that stands on the way is found again in its place (`SameUpToTail`). Where the
last command has no redirects, the chain of the other command follows, and it makes no difference
whether a third is hung at both or first at the second (`pipeInto_appends`). Where it has some, the
first is to a file, and the chain does not look for a pipe behind it.

* `alongChain`, `chain_follows` — a chain as it is walked, from each command to the one it pipes
  into.
* `sameUpToTail_pipeInto`, `chain_pipeInto` — what becomes of one command of a chain, and of the
  chain.
* `pipeInto_assoc_iff` — chains are hung at a chain in any order exactly if it is open at its end.
-/

namespace Pipework

/-- One of the redirects of a command. -/
inductive Redirect where
  | pipe (next : Command)
  | file (operator target : String)

/-- The redirects of a command in their order. -/
def Redirects.list : Redirects → List Redirect
  | .nil => []
  | .pipe next rest => .pipe next :: rest.list
  | .file op target rest => .file op target :: rest.list

theorem Redirects.list_append : ∀ r s : Redirects, (r.append s).list = r.list ++ s.list
  | .nil, _ => rfl
  | .pipe next rest, s => congrArg (Redirect.pipe next :: ·) (list_append rest s)
  | .file op target rest, s => congrArg (Redirect.file op target :: ·) (list_append rest s)

/-- The same redirect where `tail` has been hung at the chain that it leads into. -/
def Redirect.extend (tail : Command) : Redirect → Redirect
  | .pipe next => .pipe (next.pipeInto tail)
  | .file op target => .file op target

namespace Command

variable {a b c t : Command}

/-- What a command says of itself; its redirects are left out. -/
def wordsAndEnv (c : Command) : List String × Dict String := (c.words, c.env)

/-- The redirects of the last command of the chain. -/
def lastRedirects : Command → Redirects
  | .mk _ _ _ (.pipe next _) => next.lastRedirects
  | .mk _ _ _ redirects => redirects

/-- The last command of the chain has no redirects. -/
def EndsWithoutRedirect (c : Command) : Prop := ∀ last ∈ c.chain.getLast?, last.redirects = .nil

/-! ## The chain -/

/-- Induction along a chain. It ends at a command without redirects, or at one whose first redirect
is to a file. -/
@[elab_as_elim]
theorem alongChain {motive : Command → Prop}
    (bare : ∀ name args env, motive (.mk name args env .nil))
    (file : ∀ name args env op target rest, motive (.mk name args env (.file op target rest)))
    (pipe : ∀ name args env next rest, motive next → motive (.mk name args env (.pipe next rest))) :
    ∀ c, motive c
  | .mk name args env .nil => bare name args env
  | .mk name args env (.file op target rest) => file name args env op target rest
  | .mk name args env (.pipe next rest) =>
    pipe name args env next rest (alongChain bare file pipe next)

theorem chain_ne_nil (c : Command) : c.chain ≠ [] := by
  induction c using alongChain <;> exact List.cons_ne_nil _ _

/-- The chain begins with the command and goes on from each command to the one it pipes into. -/
theorem chain_follows (c : Command) :
    c.chain[0]? = some c ∧ ∀ i, c.chain[i + 1]? = c.chain[i]?.bind piped? := by
  induction c using alongChain with
  | bare name args env =>
    refine ⟨rfl, fun i => ?_⟩
    cases i <;> rfl
  | file name args env op target rest =>
    refine ⟨rfl, fun i => ?_⟩
    cases i <;> rfl
  | pipe name args env next rest ih =>
    refine ⟨rfl, fun i => ?_⟩
    cases i with
    | zero => exact ih.1
    | succ i => exact ih.2 i

theorem getLast?_chain (c : Command) : c.chain.getLast?.map redirects = some c.lastRedirects := by
  induction c using alongChain with
  | bare name args env => rfl
  | file name args env op target rest => rfl
  | pipe name args env next rest ih =>
    obtain ⟨last, hlast, hending⟩ := Option.map_eq_some_iff.mp ih
    rw [chain, List.getLast?_cons, hlast, lastRedirects, ← hending]
    rfl

theorem endsWithoutRedirect_iff : c.EndsWithoutRedirect ↔ c.lastRedirects = .nil := by
  obtain ⟨last, hlast, hending⟩ := Option.map_eq_some_iff.mp c.getLast?_chain
  rw [EndsWithoutRedirect, hlast, ← hending]
  exact ⟨fun h => h last rfl, fun h _ hmem => Option.some.inj hmem ▸ h⟩

/-! ## Hanging a command at it -/

/-- A command of a chain is still what it was, now that `tail` hangs at the chain. -/
structure SameUpToTail (tail c c' : Command) : Prop where
  name : c'.name = c.name
  args : c'.args = c.args
  env : c'.env = c.env
  /-- Every redirect stands in its place, and the chain that a pipe in front leads into has `tail`
  behind it. Where there is no such pipe one into `tail` comes last. -/
  redirects : c'.redirects.list = c.redirects.list.modifyHead (Redirect.extend tail) ++
    if c.piped?.isSome then [] else [.pipe tail]

theorem sameUpToTail_pipeInto (t c : Command) : SameUpToTail t c (c.pipeInto t) := by
  obtain ⟨name, args, env, redirects⟩ := c
  cases redirects with
  | nil => exact ⟨rfl, rfl, rfl, rfl⟩
  | pipe next rest => exact ⟨rfl, rfl, rfl, (List.append_nil _).symm⟩
  | file op target rest => exact ⟨rfl, rfl, rfl, Redirects.list_append (.file op target rest) _⟩

theorem SameUpToTail.wordsAndEnv {c' : Command} (h : SameUpToTail t c c') :
    c'.wordsAndEnv = c.wordsAndEnv := by
  rw [Command.wordsAndEnv, Command.wordsAndEnv, words, words, h.name, h.args, h.env]

/-- **Hanging a chain at another one makes it longer by that chain if nothing stands at its end.**
Behind a file redirect the chain does not look for a pipe. -/
theorem chain_pipeInto (c t : Command) :
    (c.pipeInto t).chain =
      c.chain.map (·.pipeInto t) ++ if c.lastRedirects = .nil then t.chain else [] := by
  induction c using alongChain with
  | bare name args env => rfl
  | file name args env op target rest => rfl
  | pipe name args env next rest ih =>
    rw [pipeInto, chain, ih, chain, List.map_cons, pipeInto, List.cons_append, lastRedirects]

theorem lastRedirects_pipeInto (c t : Command) :
    (c.pipeInto t).lastRedirects =
      if c.lastRedirects = .nil then t.lastRedirects
      else c.lastRedirects.append (.pipe t .nil) := by
  induction c using alongChain with
  | bare name args env => rfl
  | file name args env op target rest => rfl
  | pipe name args env next rest ih => exact ih

theorem map_wordsAndEnv_map_pipeInto (t : Command) (commands : List Command) :
    (commands.map (·.pipeInto t)).map wordsAndEnv = commands.map wordsAndEnv := by
  rw [List.map_map]
  exact List.map_congr_left fun c _ => (sameUpToTail_pipeInto t c).wordsAndEnv

/-- **A command comes behind the chain if nothing else does.** -/
theorem wordsAndEnv_pipeInto (h : c.lastRedirects = .nil) :
    (c.pipeInto t).chain.map wordsAndEnv = c.chain.map wordsAndEnv ++ t.chain.map wordsAndEnv ∧
      (c.pipeInto t).lastRedirects = t.lastRedirects := by
  rw [chain_pipeInto, lastRedirects_pipeInto, if_pos h, if_pos h, List.map_append,
    map_wordsAndEnv_map_pipeInto]
  exact ⟨rfl, rfl⟩

theorem wordsAndEnv_pipeInto_blocked (h : c.lastRedirects ≠ .nil) :
    (c.pipeInto t).chain.map wordsAndEnv = c.chain.map wordsAndEnv ∧
    (c.pipeInto t).lastRedirects ≠ .nil := by
  rw [chain_pipeInto, lastRedirects_pipeInto, if_neg h, if_neg h, List.append_nil,
    map_wordsAndEnv_map_pipeInto]
  refine ⟨rfl, ?_⟩
  cases hending : c.lastRedirects with
  | nil => exact absurd hending h
  | pipe next rest => exact nofun
  | file op target rest => exact nofun

/-! ## Hanging several at it -/

/-- **Chains are hung at a chain in any order exactly where nothing stands behind it.** Behind a
file the second pipe comes next to the first, or else at the end of the chain that it leads into. -/
theorem pipeInto_assoc_iff :
    (a.pipeInto b).pipeInto c = a.pipeInto (b.pipeInto c) ↔ a.lastRedirects = .nil := by
  induction a using alongChain with
  | bare name args env => exact iff_of_true rfl rfl
  | pipe name args env next rest ih =>
    rw [lastRedirects, ← ih]
    simp only [pipeInto, mk.injEq, Redirects.pipe.injEq, true_and, and_true]
  | file name args env op target rest =>
    -- on the left the file has two pipes behind it, on the right one
    refine iff_of_false (fun heq => ?_) nofun
    have hlength := congrArg (fun n : Command => n.redirects.list.length) heq
    simp [pipeInto, Command.redirects, Redirects.append, Redirects.list, Redirects.list_append]
      at hlength

theorem lastRedirects_foldl_pipeInto {others : List Command} (ha : a.lastRedirects = .nil)
    (hothers : ∀ c ∈ others, c.lastRedirects = .nil) :
    (others.foldl pipeInto a).lastRedirects = .nil := by
  induction others generalizing a with
  | nil => exact ha
  | cons c others ih =>
    obtain ⟨hc, hothers⟩ := List.forall_mem_cons.mp hothers
    exact ih ((wordsAndEnv_pipeInto ha).2.trans hc) hothers

theorem foldl_pipeInto (ha : a.lastRedirects = .nil) (b : Command) (others : List Command) :
    others.foldl pipeInto (a.pipeInto b) = a.pipeInto (others.foldl pipeInto b) := by
  induction others generalizing b with
  | nil => rfl
  | cons c others ih => rw [List.foldl_cons, pipeInto_assoc_iff.mpr ha, ih, List.foldl_cons]

/-- **A chain takes up another at its end, and several in any order, exactly if it ends open.** The
commands of the first come out as they were, every redirect in its place, and those of the second
behind them. Of three chains any two can be joined first, whatever stands behind the second. -/
theorem pipeInto_appends (a b c : Command) :
    ((∃ front, List.Forall₂ (SameUpToTail b) a.chain front ∧
        (a.pipeInto b).chain = front ++ b.chain) ↔
        a.EndsWithoutRedirect) ∧
      ((a.pipeInto b).pipeInto c = a.pipeInto (b.pipeInto c) ↔ a.EndsWithoutRedirect) := by
  rw [endsWithoutRedirect_iff]
  refine ⟨⟨?_, fun hopen => ?_⟩, pipeInto_assoc_iff⟩
  · rintro ⟨front, hkept, hchain⟩
    by_contra hblocked
    rw [chain_pipeInto, if_neg hblocked, List.append_nil] at hchain
    have hlength : a.chain.length = front.length + b.chain.length := by
      simpa using congrArg List.length hchain
    have hfront : a.chain.length = front.length := hkept.length_eq
    have hbehind : 0 < b.chain.length := List.length_pos_iff.mpr b.chain_ne_nil
    omega
  · refine ⟨a.chain.map (·.pipeInto b), ?_, by rw [chain_pipeInto, if_pos hopen]⟩
    exact List.forall₂_map_right_iff.mpr
      (List.forall₂_same.mpr fun n _ => sameUpToTail_pipeInto b n)

/-- A redirect behind the pipe of the first command stays behind it. -/
example :
    (Command.mk "a" [] [] (.pipe (.mk "b" ["-x"] [] .nil) (.file ">" "f" .nil))).pipeInto
        (.mk "c" [] [("E", "1")] .nil) =
      .mk "a" [] [] (.pipe (.mk "b" ["-x"] [] (.pipe (.mk "c" [] [("E", "1")] .nil) .nil))
        (.file ">" "f" .nil)) :=
  rfl

end Command

end Pipework
