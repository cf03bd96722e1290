/-!
Things kept under names, in the order in which the names were first written. Writing a name again
keeps its place.
-/
namespace GuildCards

abbrev Keyed (α : Type) := List (String × α)

namespace Keyed
variable {α : Type}

def get? : Keyed α → String → Option α
  | [], _ => none
  | (k, a) :: as, name => if k = name then some a else get? as name

def names (as : Keyed α) : List String := as.map (·.1)

def put (name : String) (a : α) : Keyed α → Keyed α
  | [] => [(name, a)]
  | (k, b) :: as => if k = name then (k, a) :: as else (k, b) :: put name a as

def erase (as : Keyed α) (name : String) : Keyed α := as.filter fun a => a.1 ≠ name

@[simp] theorem get?_nil (name : String) : get? ([] : Keyed α) name = none := rfl

theorem get?_cons (k : String) (a : α) (as : Keyed α) (name : String) :
    get? ((k, a) :: as) name = if k = name then some a else get? as name := rfl

@[simp] theorem get?_put (name : String) (a : α) (as : Keyed α) (other : String) :
    get? (put name a as) other = if name = other then some a else get? as other := by
  induction as with
  | nil => simp [put, get?_cons]
  | cons p as ih =>
    obtain ⟨k, b⟩ := p
    by_cases h : k = name
    · subst h
      by_cases h' : k = other <;> simp [put, get?_cons, h']
    · by_cases h' : k = other
      · subst h'
        simp [put, get?_cons, h, Ne.symm h]
      · simp [put, get?_cons, h, h', ih]

@[simp] theorem get?_erase (as : Keyed α) (name other : String) :
    get? (erase as name) other = if other = name then none else get? as other := by
  induction as with
  | nil => simp [erase]
  | cons p as ih =>
    obtain ⟨k, b⟩ := p
    by_cases h : k = name
    · subst h
      have : erase ((k, b) :: as) k = erase as k := by simp [erase]
      rw [this, ih, get?_cons]
      by_cases h' : other = k
      · simp [h']
      · simp [h', Ne.symm h']
    · have : erase ((k, b) :: as) name = (k, b) :: erase as name := by simp [erase, h]
      rw [this, get?_cons, get?_cons, ih]
      by_cases h' : k = other
      · subst h'
        simp [h]
      · simp [h']

end Keyed
end GuildCards
