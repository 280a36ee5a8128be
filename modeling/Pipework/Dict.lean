/-!
# Dictionaries

Finite maps from text to values, kept as lists of entries in the order of their keys. The order on
keys is that of their code points, which is also the order of their UTF-8 bytes.
-/

namespace Pipework

abbrev Dict (α : Type) := List (String × α)

namespace Dict

variable {α β : Type}

def get? : Dict α → String → Option α
  | [], _ => none
  | (k, v) :: rest, key => if k = key then some v else get? rest key

def insert (key : String) (value : α) : Dict α → Dict α
  | [] => [(key, value)]
  | (k, v) :: rest =>
    if key < k then (key, value) :: (k, v) :: rest
    else if key = k then (key, value) :: rest
    else (k, v) :: insert key value rest

def erase (key : String) : Dict α → Dict α
  | [] => []
  | (k, v) :: rest => if k = key then rest else (k, v) :: erase key rest

/-- Later entries win. -/
def ofList (entries : List (String × α)) : Dict α :=
  entries.foldl (fun d e => insert e.1 e.2 d) []

def keys (d : Dict α) : List String := d.map (·.1)

def mapValues (f : α → β) (d : Dict α) : Dict β := d.map fun e => (e.1, f e.2)

/-- Every entry stands before those with greater keys, and no key stands twice. -/
def Sorted (d : Dict α) : Prop := d.Pairwise (·.1 < ·.1)

end Dict

end Pipework
