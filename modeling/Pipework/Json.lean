import Pipework.Dict

/-!
# JSON values

The values that snapshots and command trees are written as. Objects hold their fields in key order.
`render` writes a value without spaces; only what JSON requires is escaped.
-/

namespace Pipework

inductive Json where
  | null
  | bool (b : Bool)
  | number (n : Int)
  /-- The number `units / 10 ^ places`, written with a point. -/
  | fraction (units : Int) (places : Nat)
  | text (s : String)
  | array (items : List Json)
  | object (fields : List (String × Json))
  deriving Inhabited

namespace Json

/-! ## Equality -/

mutual
def decEq : (a b : Json) → Decidable (a = b)
  | .null, .null => isTrue rfl
  | .bool a, .bool b => decidable_of_iff (a = b) (by simp)
  | .number a, .number b => decidable_of_iff (a = b) (by simp)
  | .fraction a p, .fraction b q => decidable_of_iff (a = b ∧ p = q) (by simp)
  | .text a, .text b => decidable_of_iff (a = b) (by simp)
  | .array a, .array b =>
    match decEqItems a b with
    | isTrue h => isTrue (by rw [h])
    | isFalse h => isFalse (by simpa using h)
  | .object a, .object b =>
    match decEqFields a b with
    | isTrue h => isTrue (by rw [h])
    | isFalse h => isFalse (by simpa using h)
  | .null, .bool _ | .null, .number _ | .null, .fraction _ _
  | .null, .text _ | .null, .array _ | .null, .object _
  | .bool _, .null | .bool _, .number _ | .bool _, .fraction _ _
  | .bool _, .text _ | .bool _, .array _ | .bool _, .object _
  | .number _, .null | .number _, .bool _ | .number _, .fraction _ _
  | .number _, .text _ | .number _, .array _ | .number _, .object _
  | .fraction _ _, .null | .fraction _ _, .bool _ | .fraction _ _, .number _
  | .fraction _ _, .text _ | .fraction _ _, .array _ | .fraction _ _, .object _
  | .text _, .null | .text _, .bool _ | .text _, .number _
  | .text _, .fraction _ _ | .text _, .array _ | .text _, .object _
  | .array _, .null | .array _, .bool _ | .array _, .number _
  | .array _, .fraction _ _ | .array _, .text _ | .array _, .object _
  | .object _, .null | .object _, .bool _ | .object _, .number _
  | .object _, .fraction _ _ | .object _, .text _ | .object _, .array _ => isFalse (by simp)

def decEqItems : (a b : List Json) → Decidable (a = b)
  | [], [] => isTrue rfl
  | [], _ :: _ | _ :: _, [] => isFalse (by simp)
  | a :: as, b :: bs =>
    match decEq a b, decEqItems as bs with
    | isTrue h, isTrue hs => isTrue (by rw [h, hs])
    | isFalse h, _ => isFalse (by simp [h])
    | _, isFalse hs => isFalse (by simp [hs])

def decEqFields : (a b : List (String × Json)) → Decidable (a = b)
  | [], [] => isTrue rfl
  | [], _ :: _ | _ :: _, [] => isFalse (by simp)
  | (k, a) :: as, (l, b) :: bs =>
    match decEq a b, decEqFields as bs with
    | isTrue h, isTrue hs => decidable_of_iff (k = l) (by simp [h, hs])
    | isFalse h, _ => isFalse (by simp [h])
    | _, isFalse hs => isFalse (by simp [hs])
end

instance : DecidableEq Json := decEq

/-! ## Writing -/

def hexDigit (n : Nat) : Char := if n < 10 then Char.ofNat (48 + n) else Char.ofNat (87 + n)

def escapeChar (c : Char) : List Char :=
  match c with
  | '"' => ['\\', '"']
  | '\\' => ['\\', '\\']
  | '\n' => ['\\', 'n']
  | '\r' => ['\\', 'r']
  | '\t' => ['\\', 't']
  | '\x08' => ['\\', 'b']
  | '\x0c' => ['\\', 'f']
  | c =>
    if c.toNat < 32 then ['\\', 'u', '0', '0', hexDigit (c.toNat / 16), hexDigit (c.toNat % 16)]
    else [c]

/-- A point stands before the last `places` digits; needless zeros at the end are left out. -/
def renderFraction (units : Int) (places : Nat) : String :=
  let digits := (toString units.natAbs).toList
  let digits := List.replicate (places + 1 - digits.length) '0' ++ digits
  let whole := digits.take (digits.length - places)
  let part := ((digits.drop (digits.length - places)).reverse.dropWhile (· == '0')).reverse
  (if units < 0 then "-" else "") ++ String.ofList whole ++ "." ++
    (if part.isEmpty then "0" else String.ofList part)

def quote (s : String) : String := String.ofList ('"' :: s.toList.flatMap escapeChar ++ ['"'])

mutual
def render : Json → String
  | .null => "null"
  | .bool b => if b then "true" else "false"
  | .number n => toString n
  | .fraction units places => renderFraction units places
  | .text s => quote s
  | .array items => "[" ++ ",".intercalate (renderItems items) ++ "]"
  | .object fields => "\x7b" ++ ",".intercalate (renderFields fields) ++ "\x7d"

def renderItems : List Json → List String
  | [] => []
  | j :: rest => render j :: renderItems rest

def renderFields : List (String × Json) → List String
  | [] => []
  | (k, j) :: rest => (quote k ++ ":" ++ render j) :: renderFields rest
end

/-! ## Building and reading -/

def ofFields (fields : List (String × Json)) : Json := .object (Dict.ofList fields)

def texts (items : List String) : Json := .array (items.map .text)

def textDict (d : Dict String) : Json := .object (Dict.mapValues .text d)

/-- The field of an object; nothing for any other value. -/
def field? (j : Json) (key : String) : Option Json :=
  match j with
  | .object fields => Dict.get? fields key
  | _ => none

def text? : Json → Option String
  | .text s => some s
  | _ => none

end Json

end Pipework
