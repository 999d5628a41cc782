/-!
# Slots

A slot is a name with something in it. Putting something into a slot replaces what was there.
-/
namespace CodeIndex

/-- Things under names. -/
abbrev Slots (α : Type) := List (String × α)

namespace Slots

variable {α : Type}

def get? (slots : Slots α) (name : String) : Option α := slots.lookup name

def erase (slots : Slots α) (name : String) : Slots α := slots.filter (·.1 != name)

def put (slots : Slots α) (name : String) (value : α) : Slots α := (name, value) :: slots.erase name

def without (slots : Slots α) (gone : α → Bool) : Slots α := slots.filter fun entry => !gone entry.2

@[simp] theorem get?_nil (name : String) : get? ([] : Slots α) name = none := rfl

@[simp] theorem get?_put (slots : Slots α) (name : String) (value : α) :
    (slots.put name value).get? name = some value := by
  simp [get?, put]

@[simp] theorem get?_erase (slots : Slots α) (name : String) :
    (slots.erase name).get? name = none := by
  simp only [get?, erase, List.lookup_eq_none_iff, List.mem_filter]
  rintro entry ⟨_, h⟩
  have h : entry.1 ≠ name := by simpa using h
  simpa using h.symm

end Slots

end CodeIndex
