/-!
# Names

Names of variables: an ASCII letter or an underscore, then letters, digits and underscores.
-/

namespace Pipework.Name

def isStart (c : Char) : Bool := c.isAlpha || c == '_'

def isPart (c : Char) : Bool := c.isAlphanum || c == '_'

def isName : List Char → Bool
  | [] => false
  | c :: rest => isStart c && rest.all isPart

theorem isPart_of_isStart {c : Char} (h : isStart c = true) : isPart c = true := by
  unfold isStart at h
  unfold isPart Char.isAlphanum
  grind

theorem isPart_of_isName {name : List Char} (h : isName name = true) :
    ∀ c ∈ name, isPart c = true := by
  cases name with
  | nil => exact fun _ hc => absurd hc List.not_mem_nil
  | cons c rest =>
    obtain ⟨hstart, hrest⟩ := Bool.and_eq_true_iff.mp h
    exact List.forall_mem_cons.mpr ⟨isPart_of_isStart hstart, List.all_eq_true.mp hrest⟩

end Pipework.Name
