import Pipework.Pattern.Machine
import Pipework.Pattern.Reach
import Pipework.Pattern.Reader

/-!
# Patterns

A pattern is read into a tree, its flags are worked in, and the result says which lines match.
-/

namespace Pipework

open Unicode (RangeSet)

structure Pattern where
  expr : Pattern.Expr

namespace Pattern

/-- The flags that matter for what a part means. -/
structure Flags where
  ignoreCase : Bool
  multiLine : Bool
  dotAll : Bool
  swapGreed : Bool
  unicode : Bool
  crlf : Bool

namespace Flags

def setFlag (value : Bool) (m : Flags) : Flag → Flags
  | .ignoreCase => { m with ignoreCase := value }
  | .multiLine => { m with multiLine := value }
  | .dotAll => { m with dotAll := value }
  | .unicode => { m with unicode := value }
  | .crlf => { m with crlf := value }
  | .swapGreed => { m with swapGreed := value }
  | .verbose => m

def switch (m : Flags) (s : Switches) : Flags :=
  s.off.foldl (setFlag false) (s.on.foldl (setFlag true) m)

def fold (m : Flags) (s : RangeSet) : RangeSet :=
  if m.ignoreCase then (if m.unicode then s.folded else CharSet.foldedAscii s) else s

def look (m : Flags) : Anchor → Look
  | .lineStart =>
    if !m.multiLine then .textStart else if m.crlf then .lineStartCrlf else .lineStart
  | .lineEnd => if !m.multiLine then .textEnd else if m.crlf then .lineEndCrlf else .lineEnd
  | .textStart => .textStart
  | .textEnd => .textEnd
  | .boundary => .boundary m.unicode
  | .notBoundary => .notBoundary m.unicode
  | .wordStart => .wordStart m.unicode
  | .wordEnd => .wordEnd m.unicode
  | .wordStartHalf => .wordStartHalf m.unicode
  | .wordEndHalf => .wordEndHalf m.unicode

/-- Without Unicode, a negated class would match parts of characters. -/
def negate (m : Flags) (span : Span) (negated : Bool) (s : RangeSet) : Except Defect RangeSet :=
  if negated && !m.unicode then .error ⟨.invalidUtf8, span, none⟩
  else .ok (CharSet.negatedIf negated s)

def shorthand (m : Flags) (span : Span) (kind : Shorthand) (negated : Bool) :
    Except Defect RangeSet :=
  m.negate span negated (if m.unicode then CharSet.shorthand kind else CharSet.asciiShorthand kind)

def property (m : Flags) (span : Span) (name : PropertyName) (negated : Bool) :
    Except Defect RangeSet :=
  if !m.unicode then .error ⟨.unicodeNotAllowed, span, none⟩
  else match CharSet.property? name with
    | .ok s => .ok (CharSet.negatedIf negated (m.fold s))
    | .error flaw => .error ⟨flaw, span, none⟩

/-- A character inside a class. -/
def member (m : Flags) (l : Literal) : Except Defect Char :=
  if m.unicode || l.char.toNat < 128 then .ok l.char
  else .error ⟨if l.isByte then .invalidUtf8 else .unicodeNotAllowed, l.span, none⟩

/-- The set of a class without its own folding and negation. -/
def classSet (m : Flags) : ClassNode → Except Defect RangeSet
  | .literal l => (m.member l).map .single
  | .range _ first last => do
    let a ← m.member first
    let b ← m.member last
    pure (.range a b)
  | .posix span name negated => m.negate span negated (m.fold (CharSet.posix name))
  | .shorthand span kind negated => m.shorthand span kind negated
  | .property span name negated => m.property span name negated
  | .bracketed span negated inner => do
    let s ← m.classSet inner
    m.negate span negated (m.fold s)
  | .union _ items => unionSet m items
  | .binary _ op left right => do
    let a ← m.classSet left
    let b ← m.classSet right
    pure (CharSet.apply op (m.fold a) (m.fold b))
where
  unionSet (m : Flags) : List ClassNode → Except Defect RangeSet
    | [] => .ok ∅
    | item :: rest => do
      let a ← m.classSet item
      let b ← unionSet m rest
      pure (a ∪ b)

def dot (m : Flags) (span : Span) : Except Defect RangeSet :=
  if !m.unicode then .error ⟨.invalidUtf8, span, none⟩
  else if m.dotAll then .ok .all
  else if m.crlf then .ok (RangeSet.ofChars ['\n', '\r']).complement
  else .ok (RangeSet.single '\n').complement

end Flags

mutual
/-- What a part means, and the flags for the parts behind it. -/
def Node.expr (m : Flags) : Node → Except Defect (Expr × Flags)
  | .flags _ switches => .ok (.empty, m.switch switches)
  | .literal l =>
    if !m.unicode && l.isByte && 128 ≤ l.char.toNat then .error ⟨.invalidUtf8, l.span, none⟩
    else .ok (.ofSet (m.fold (.single l.char)), m)
  | .dot span => (m.dot span).map fun s => (.ofSet s, m)
  | .anchor _ kind => .ok (.look (m.look kind), m)
  | .shorthand span kind negated =>
    (m.shorthand span kind negated).map fun s => (.ofSet s, m)
  | .property span name negated => (m.property span name negated).map fun s => (.ofSet s, m)
  | .bracketed span negated inner => do
    let s ← m.classSet (.bracketed span negated inner)
    pure (.ofSet s, m)
  | .repeated _ least most greedy item => do
    let (e, _) ← item.expr m
    pure (e.repeated least most (greedy != m.swapGreed), m)
  | .group _ number switches inner => do
    let (e, _) ← inner.expr (m.switch switches)
    match number with
    | some n => pure (.group n e, m)
    | none => pure (e, m)
  | .concat _ items => do
    let (es, m) ← Node.exprs m items
    pure (.concat es, m)
  | .alternation _ branches => do
    let (es, m) ← Node.exprs m branches
    pure (.alternation es, m)

def Node.exprs (m : Flags) : List Node → Except Defect (List Expr × Flags)
  | [] => .ok ([], m)
  | node :: rest => do
    let (e, m) ← node.expr m
    let (es, m) ← Node.exprs m rest
    pure (e :: es, m)
end

/-- What a text matches when it is a pattern. -/
def read (text : List Char) (ignoreCase : Bool) : Except Defect Expr := do
  let (expr, _) ← (← Node.ofText text).expr ⟨ignoreCase, false, false, false, true, false⟩
  pure expr

/-- Why a pattern is refused, in words. -/
def compile (text : String) (ignoreCase : Bool) : Except String Pattern :=
  match read text.toList ignoreCase with
  | .error defect => .error (defect.notice text.toList)
  | .ok expr =>
    if expr.isSmall then .ok ⟨expr⟩
    else .error s!"Compiled regex exceeds size limit of {Machine.limit} bytes."

def isMatch (p : Pattern) (line : String) : Bool := p.expr.isMatch line.toList

end Pattern

end Pipework
