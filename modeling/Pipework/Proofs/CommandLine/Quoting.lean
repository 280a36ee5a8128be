import Mathlib.Data.List.TakeWhile
import Pipework.Proofs.CommandLine.Grammar

/-!
# Writing words in quotes

Any text can be a word of a line: between single quotes with the inner ones written `'\''`, or
between double quotes with a backslash before what means something there. What is written so is read
back as it was (`parse_written`).

* `Token.read_single`, `Token.read_double` — the reader comes out of the quotes with the text.
* `Token.TokenizesTo` — text that is cut into tokens whatever is around it, put together at a space
  (`TokenizesTo.append`) and at a pipe (`TokenizesTo.pipe`).
* `segmentDenotes_written`, `foldl_pipeInto_toCommand` — what the tokens of a written line mean.
-/

namespace Pipework

namespace Token

/-! ## Quoted text -/

/-- A single quote leaves the quotes, stands there escaped and enters them again. -/
def singleEscape (c : Char) : List Char := if c = '\'' then ['\'', '\\', '\'', '\''] else [c]

def singleQuoted (text : List Char) : List Char := '\'' :: (text.flatMap singleEscape ++ ['\''])

def doubleEscape (c : Char) : List Char := if c ∈ ['"', '\\', '$', '\x60'] then ['\\', c] else [c]

def doubleQuoted (text : List Char) : List Char := '"' :: (text.flatMap doubleEscape ++ ['"'])

/-- The word being read once `text` has been added to it. -/
def Draft.take (d : Draft) (text : List Char) : Draft :=
  { d with reversed := text.reverse ++ d.reversed }

theorem Draft.take_cons (d : Draft) (c : Char) (text : List Char) :
    d.take (c :: text) = Draft.take { d with reversed := c :: d.reversed } text := by
  simp [take]

variable {done : List Token} {draft : Option Draft}

theorem read_single (d : Draft) (text rest : List Char) :
    read done (some d) .single (text.flatMap singleEscape ++ '\'' :: rest) =
      read done (some (d.take text)) .bare rest := by
  induction text generalizing d with
  | nil => rfl
  | cons c text ih =>
    rw [List.flatMap_cons, List.append_assoc, Draft.take_cons, ← ih, singleEscape]
    split
    · rename_i hc
      subst hc
      rfl
    · rename_i hc
      exact if_neg hc

theorem read_double (d : Draft) (text rest : List Char) :
    read done (some d) .double (text.flatMap doubleEscape ++ '"' :: rest) =
      read done (some (d.take text)) .bare rest := by
  induction text generalizing d with
  | nil => rfl
  | cons c text ih =>
    rw [List.flatMap_cons, List.append_assoc, Draft.take_cons, ← ih, doubleEscape]
    split
    · rename_i hc
      have hescapable : isEscapable c = true := by simpa [isEscapable, or_assoc] using hc
      exact if_pos hescapable
    · rename_i hc
      simp only [List.mem_cons, not_or] at hc
      exact (if_neg hc.1).trans (if_neg hc.2.1)

end Token

/-- The two kinds of quotes. -/
inductive Quotes where
  | single
  | double
  deriving DecidableEq, Repr

/-- A word and the quotes it is written in. -/
structure QuotedWord where
  text : String
  quotes : Quotes
  deriving DecidableEq, Repr

def QuotedWord.written (w : QuotedWord) : String :=
  match w.quotes with
  | .single => String.ofList (Token.singleQuoted w.text.toList)
  | .double => String.ofList (Token.doubleQuoted w.text.toList)

/-- However empty or odd the text, the word that is read is a quoted one. -/
def QuotedWord.token (w : QuotedWord) : Token := .word w.text.toList true

namespace Token

variable {done : List Token} {draft : Option Draft}

/-- Quoted text joins the word being read or begins one. -/
theorem read_written (w : QuotedWord) (rest : List Char) :
    read done draft .bare (w.written.toList ++ rest) =
      read done (some ((draft.getD ⟨[], true⟩).take w.text.toList)) .bare rest := by
  obtain ⟨text, quotes⟩ := w
  cases quotes with
  | single =>
    rw [QuotedWord.written, String.toList_ofList, singleQuoted, List.cons_append,
      List.append_assoc]
    exact read_single _ _ _
  | double =>
    rw [QuotedWord.written, String.toList_ofList, doubleQuoted, List.cons_append,
      List.append_assoc]
    exact read_double _ _ _

/-! ## Text that is cut into tokens whatever is around it -/

/-- **Before a space and at the end of a line the text comes to these tokens.** -/
structure TokenizesTo (text : List Char) (tokens : List Token) : Prop where
  space : ∀ done rest, read done none .bare (text ++ ' ' :: rest) =
    read (tokens.reverse ++ done) none .bare rest
  last : ∀ done, read done none .bare text = .ok (done.reverse ++ tokens)

variable {text text' : List Char} {tokens tokens' : List Token}

theorem TokenizesTo.ofLine (h : TokenizesTo text tokens) : ofLine text = .ok tokens := h.last []

theorem tokenizesTo_written (w : QuotedWord) : TokenizesTo w.written.toList [w.token] where
  space done rest := by
    rw [read_written]
    simp [read, isSeparator, close, Draft.take, QuotedWord.token]
  last done := by
    rw [← List.append_nil w.written.toList, read_written]
    simp [read, close, Draft.take, QuotedWord.token]

theorem tokenizesTo_pipe : TokenizesTo ['|'] [.pipe] where
  space _ _ := rfl
  last done := by simp [read, isSeparator, close]

/-- Texts with a space between them are cut each by itself. -/
theorem TokenizesTo.append (h : TokenizesTo text tokens) (h' : TokenizesTo text' tokens') :
    TokenizesTo (text ++ ' ' :: text') (tokens ++ tokens') where
  space done rest := by
    rw [List.append_assoc, List.cons_append, h.space, h'.space, List.reverse_append,
      List.append_assoc]
  last done := by
    rw [h.space, h'.last, List.reverse_append, List.reverse_reverse, List.append_assoc]

theorem TokenizesTo.pipe (h : TokenizesTo text tokens) (h' : TokenizesTo text' tokens') :
    TokenizesTo (text ++ " | ".toList ++ text') (tokens ++ [.pipe] ++ tokens') := by
  rw [List.append_assoc, List.append_assoc]
  exact h.append (tokenizesTo_pipe.append h')

/-- Texts that are one token each, with spaces between them. -/
theorem tokenizesTo_pieces {pieces : List String} {tokens : List Token}
    (h : List.Forall₂ (fun piece token => TokenizesTo piece.toList [token]) pieces tokens)
    (hpieces : pieces ≠ []) : TokenizesTo (" ".intercalate pieces).toList tokens := by
  induction h with
  | nil => exact absurd rfl hpieces
  | cons hfirst hothers ih =>
    cases hothers with
    | nil => simpa using hfirst
    | cons => simpa using hfirst.append (ih (List.cons_ne_nil _ _))

theorem tokenizesTo_words (words : List QuotedWord) :
    List.Forall₂ (fun piece token => TokenizesTo piece.toList [token])
      (words.map QuotedWord.written) (words.map QuotedWord.token) :=
  List.forall₂_map_left_iff.mpr (List.forall₂_map_right_iff.mpr
    (List.forall₂_same.mpr fun w _ => tokenizesTo_written w))

end Token

/-! ## Commands and pipelines of quoted words -/

/-- A command with its arguments, each word with its quotes. -/
structure QuotedCommand where
  name : QuotedWord
  args : List QuotedWord
  deriving DecidableEq, Repr

namespace QuotedCommand

def words (c : QuotedCommand) : List QuotedWord := c.name :: c.args

/-- The words with spaces between them. -/
def written (c : QuotedCommand) : String := " ".intercalate (c.words.map QuotedWord.written)

def tokens (c : QuotedCommand) : List Token := c.words.map QuotedWord.token

/-- The command with these words, that has no environment and no redirects. -/
def toCommand (c : QuotedCommand) : Command :=
  .mk c.name.text (c.args.map QuotedWord.text) [] .nil

/-- The command of these words piped into the next, and so on to the last. -/
def pipeline (c : QuotedCommand) : List QuotedCommand → Command
  | [] => c.toCommand
  | next :: others =>
    .mk c.name.text (c.args.map QuotedWord.text) [] (.pipe (next.pipeline others) .nil)

theorem tokenizesTo_command (c : QuotedCommand) : Token.TokenizesTo c.written.toList c.tokens :=
  Token.tokenizesTo_pieces (Token.tokenizesTo_words c.words) (List.cons_ne_nil _ _)

theorem tokenizesTo_commands (first : QuotedCommand) (others : List QuotedCommand) :
    Token.TokenizesTo (" | ".intercalate ((first :: others).map written)).toList
      ([.pipe].intercalate ((first :: others).map tokens)) := by
  induction others generalizing first with
  | nil => simpa using first.tokenizesTo_command
  | cons next others ih => simpa using first.tokenizesTo_command.pipe (ih next)

/-- No operator stands among the tokens. -/
theorem mem_tokens {c : QuotedCommand} {token : Token} (h : token ∈ c.tokens) :
    ∃ text, token = .word text true := by
  obtain ⟨w, -, rfl⟩ := List.mem_map.mp h
  exact ⟨_, rfl⟩

end QuotedCommand

namespace CommandLine

/-! ## What the tokens mean -/

/-- The token of a word, with whether the word starts with a quote. -/
def wordToken (w : List Char × Bool) : Token := .word w.1 w.2

theorem ownWords_words (ws : List (List Char × Bool)) : ownWords (ws.map wordToken) = ws := by
  induction ws with
  | nil => rfl
  | cons w ws ih => exact congrArg (w :: ·) ih

theorem files_words (ws : List (List Char × Bool)) : files (ws.map wordToken) = [] := by
  induction ws with
  | nil => rfl
  | cons w ws ih => exact ih

theorem redirectsHaveTargets_words (ws : List (List Char × Bool)) :
    RedirectsHaveTargets (ws.map wordToken) := by
  induction ws with
  | nil => exact fun before op behind h => by cases before <;> cases h
  | cons w ws ih => exact redirectsHaveTargets_word.mpr ih

/-- **Words alone are a command once one of them is no assignment.** -/
theorem segmentDenotes_words {ws : List (List Char × Bool)} {name : String} {args : List String}
    (h : commandWords ws = name :: args) :
    SegmentDenotes (ws.map wordToken) (.mk name args (.ofList (assignments ws)) .nil) where
  wellFormed := by
    refine ⟨redirectsHaveTargets_words ws, ?_⟩
    rw [ownWords_words]
    by_contra hall
    have hassigned : ∀ w ∈ ws, (assigned? w).isSome = true := fun w hw =>
      Option.isSome_iff_ne_none.mpr fun hnone => hall ⟨w, hw, hnone⟩
    rw [commandWords, List.dropWhile_eq_nil_iff.mpr hassigned] at h
    cases h
  wordsAndEnv := by rw [wordsAndEnvOf, ownWords_words, h]; rfl
  redirects := by rw [files_words]; rfl

theorem tokens_eq_words (ws : List QuotedWord) :
    ws.map QuotedWord.token = (ws.map fun w => (w.text.toList, true)).map wordToken := by
  rw [List.map_map]
  rfl

/-- What stands in quotes is no assignment. -/
theorem commandWords_quoted (ws : List QuotedWord) :
    commandWords (ws.map fun w => (w.text.toList, true)) = ws.map QuotedWord.text ∧
      assignments (ws.map fun w => (w.text.toList, true)) = [] := by
  cases ws with
  | nil => exact ⟨rfl, rfl⟩
  | cons w ws =>
    have hquoted : assigned? (w.text.toList, true) = none := rfl
    simp [commandWords, assignments, hquoted, Function.comp_def]

/-- **A quoted word is the command whatever it looks like**, and those behind it its arguments. -/
theorem segmentDenotes_written (c : QuotedCommand) : SegmentDenotes c.tokens c.toCommand := by
  obtain ⟨hwords, hnone⟩ := commandWords_quoted c.words
  have hsays := segmentDenotes_words hwords
  rw [hnone, ← tokens_eq_words] at hsays
  exact hsays

theorem pipeInto_pipeline (first last : QuotedCommand) (others : List QuotedCommand) :
    (first.pipeline others).pipeInto last.toCommand = first.pipeline (others ++ [last]) := by
  induction others generalizing first with
  | nil => rfl
  | cons next others ih =>
    have hnext := ih next
    simp only [QuotedCommand.pipeline, Command.pipeInto, List.cons_append, hnext]

/-- Hung at the tail one after the other, the commands are nested each in the one before it. -/
theorem foldl_pipeInto_toCommand (first : QuotedCommand) (others : List QuotedCommand) :
    (others.map QuotedCommand.toCommand).foldl Command.pipeInto first.toCommand =
      first.pipeline others := by
  induction others using List.reverseRecOn with
  | nil => rfl
  | append_singleton others last ih =>
    rw [List.map_append, List.foldl_append, ih]
    exact pipeInto_pipeline first last others

theorem chain_pipeline (first : QuotedCommand) (others : List QuotedCommand) :
    (first.pipeline others).chain.map Command.wordsAndEnv =
      (first :: others).map fun c => (c.words.map QuotedWord.text, []) := by
  induction others generalizing first with
  | nil => rfl
  | cons next others ih =>
    have hnext := ih next
    rw [QuotedCommand.pipeline, Command.chain, List.map_cons, hnext]
    rfl

theorem redirects_of_mem_chain {first : QuotedCommand} {others : List QuotedCommand} {c : Command}
    (h : c ∈ (first.pipeline others).chain) :
    c.redirects = .nil ∨ ∃ next, c.redirects = .pipe next .nil := by
  induction others generalizing first with
  | nil =>
    cases List.mem_singleton.mp h
    exact Or.inl rfl
  | cons next others ih =>
    rcases List.mem_cons.mp h with rfl | h
    · exact Or.inr ⟨_, rfl⟩
    · exact ih h

theorem mem_intercalate_tokens {first : QuotedCommand} {others : List QuotedCommand} {token : Token}
    (h : token ∈ [Token.pipe].intercalate ((first :: others).map QuotedCommand.tokens)) :
    token = .pipe ∨ ∃ text, token = .word text true := by
  induction others generalizing first with
  | nil => exact Or.inr (QuotedCommand.mem_tokens (by simpa using h))
  | cons next others ih =>
    rw [List.map_cons, List.map_cons, List.intercalate_cons_cons, List.append_assoc] at h
    rcases List.mem_append.mp h with h | h
    · exact Or.inr (QuotedCommand.mem_tokens h)
    · rcases List.mem_cons.mp h with h | h
      · exact Or.inl h
      · exact ih h

/-- The tokens of written commands are one statement, to be cut at the pipes between them. -/
theorem statements_written (first : QuotedCommand) (others : List QuotedCommand) :
    let tokens := [.pipe].intercalate ((first :: others).map QuotedCommand.tokens)
    statements tokens = [tokens] ∧ (∀ construct, .foreign construct ∉ tokens) ∧
      tokens.splitOn .pipe = (first :: others).map QuotedCommand.tokens := by
  intro tokens
  have hword : first.name.token ∈ tokens := by
    cases others <;> simp [tokens, QuotedCommand.tokens, QuotedCommand.words]
  have hsemicolon : .semicolon ∉ tokens := fun h => by
    rcases mem_intercalate_tokens h with h | ⟨text, h⟩ <;> cases h
  refine ⟨?_, fun construct h => ?_, List.splitOn_intercalate Token.pipe ?_ (List.cons_ne_nil _ _)⟩
  · rw [statements, List.splitOn_eq_singleton hsemicolon]
    exact List.filter_cons_of_pos (by simpa using List.ne_nil_of_mem hword)
  · rcases mem_intercalate_tokens h with h | ⟨text, h⟩ <;> cases h
  · rintro segment hmem hpipe
    obtain ⟨c, -, rfl⟩ := List.mem_map.mp hmem
    obtain ⟨text, h⟩ := QuotedCommand.mem_tokens hpipe
    cases h

/-! ## Lines -/

/-- **What is written in quotes is read back.** Of any words, each in quotes of either kind, joined to
commands by spaces and to a pipeline by ` | `, the line is one statement: the commands with these
words in this order, each piped into the next, with no environment and no other redirect. -/
theorem parse_written (first : QuotedCommand) (others : List QuotedCommand) :
    parse (" | ".intercalate ((first :: others).map QuotedCommand.written)) =
        .ok [.command (first.pipeline others)] ∧
      (first.pipeline others).chain.map Command.wordsAndEnv =
        (first :: others).map (fun c => (c.words.map QuotedWord.text, [])) ∧
      ∀ c ∈ (first.pipeline others).chain,
        c.redirects = .nil ∨ ∃ next, c.redirects = .pipe next .nil := by
  refine ⟨?_, chain_pipeline first others, fun c => redirects_of_mem_chain⟩
  obtain ⟨hstatements, hforeign, hsegments⟩ := statements_written first others
  refine parse_eq_ok.mpr ⟨_, (QuotedCommand.tokenizesTo_commands first others).ofLine, ?_⟩
  rw [hstatements]
  refine .cons ?_ .nil
  rw [← foldl_pipeInto_toCommand]
  refine .pipeline hforeign ?_
  rw [hsegments]
  have hsays : List.Forall₂ SegmentDenotes ((first :: others).map QuotedCommand.tokens)
      ((first :: others).map QuotedCommand.toCommand) :=
    List.forall₂_map_left_iff.mpr (List.forall₂_map_right_iff.mpr
      (List.forall₂_same.mpr fun c _ => segmentDenotes_written c))
  exact hsays

/-- Words that would be an assignment, nothing at all, a comment and an expansion. -/
example : parse "'A=1' \"\" | 'it'\\''s' \"#\\$\"" =
    .ok [.command (QuotedCommand.pipeline ⟨⟨"A=1", .single⟩, [⟨"", .double⟩]⟩
      [⟨⟨"it's", .single⟩, [⟨"#$", .double⟩]⟩])] := by
  rfl

end CommandLine

end Pipework
