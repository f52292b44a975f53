namespace RenderTemplate

/-- Values under keys that are all different. They are kept in the order in which the keys were
first set. -/
structure Dictionary (α : Type) where
  entries : List (String × α) := []
  distinct : (entries.map (·.1)).Nodup := by simp
deriving Repr

namespace Dictionary

variable {α : Type}

instance [DecidableEq α] : DecidableEq (Dictionary α) := fun first second =>
  if same : first.entries = second.entries then
    .isTrue (by cases first; cases second; simp_all)
  else .isFalse fun equal => same (by rw [equal])

/-- The value under a key. -/
def get? (dictionary : Dictionary α) (key : String) : Option α :=
  dictionary.entries.lookup key

/-- Entries with the value under one key replaced. -/
def replace (key : String) (value : α) (entries : List (String × α)) : List (String × α) :=
  entries.map fun entry => if entry.1 = key then (key, value) else entry

/-- Replacing the value of an entry leaves the keys and their order alone. -/
theorem keys_replace (key : String) (value : α) (entries : List (String × α)) :
    (replace key value entries).map (·.1) = entries.map (·.1) := by
  induction entries with
  | nil => rfl
  | cons entry entries ih =>
    simp only [replace, List.map_cons, List.cons.injEq] at ih ⊢
    refine ⟨?_, ih⟩
    split
    · next same => exact same.symm
    · rfl

/-- The dictionary with a value under a key, in place of one that was there before. -/
def set (dictionary : Dictionary α) (key : String) (value : α) : Dictionary α :=
  if known : key ∈ dictionary.entries.map (·.1) then
    ⟨replace key value dictionary.entries, by rw [keys_replace]; exact dictionary.distinct⟩
  else
    ⟨dictionary.entries ++ [(key, value)], by
      simp only [List.map_append, List.map_cons, List.map_nil]
      exact List.nodup_append.mpr ⟨dictionary.distinct, by simp, by
        intro first member second last
        rw [List.mem_singleton] at last
        rintro rfl
        exact known (last ▸ member)⟩⟩

end Dictionary

end RenderTemplate
