/-!
# `MailMerge.Dictionary`: named values in order of their names

Property values and functions are looked up by exact name and listed in ascending order of names.
A later entry of a name replaces an earlier one.

* `Dictionary.get?_insert`: inserting changes what its own name finds and nothing else.
* `Dictionary.mem_names_iff`: the names listed are those that find something.
-/

set_option autoImplicit false

namespace MailMerge

/-- Values under distinct names, in ascending order of the names. -/
structure Dictionary (α : Type) where
  entries : List (String × α)
  ascending : (entries.map (·.1)).Pairwise (· < ·)

namespace Dictionary

variable {α : Type}

/-- Puts a value into entries in ascending order. -/
def insertEntry (name : String) (value : α) : List (String × α) → List (String × α)
  | [] => [(name, value)]
  | entry :: entries =>
    if name < entry.1 then (name, value) :: entry :: entries
    else if name = entry.1 then (name, value) :: entries
    else entry :: insertEntry name value entries

theorem mem_map_insertEntry (name : String) (value : α) (entries : List (String × α)) (n : String) :
    n ∈ (insertEntry name value entries).map (·.1) ↔ n = name ∨ n ∈ entries.map (·.1) := by
  induction entries with
  | nil => simp [insertEntry]
  | cons entry entries ih =>
    by_cases hlt : name < entry.1
    · simp [insertEntry, hlt]
    · by_cases heq : name = entry.1
      · simp [insertEntry, heq]
      · simp only [insertEntry, if_neg hlt, if_neg heq, List.map_cons, List.mem_cons, ih]
        exact or_left_comm

theorem ascending_insertEntry (name : String) (value : α) (entries : List (String × α))
    (h : (entries.map (·.1)).Pairwise (· < ·)) :
    ((insertEntry name value entries).map (·.1)).Pairwise (· < ·) := by
  induction entries with
  | nil => simp [insertEntry]
  | cons entry entries ih =>
    rw [List.map_cons, List.pairwise_cons] at h
    by_cases hlt : name < entry.1
    · simp only [insertEntry, if_pos hlt, List.map_cons, List.pairwise_cons, List.mem_cons]
      refine ⟨?_, h.1, h.2⟩
      rintro n (rfl | hn)
      · exact hlt
      · exact String.lt_trans hlt (h.1 n hn)
    · by_cases heq : name = entry.1
      · simp only [insertEntry, if_neg hlt, if_pos heq, List.map_cons, List.pairwise_cons]
        exact ⟨fun n hn => heq ▸ h.1 n hn, h.2⟩
      · simp only [insertEntry, if_neg hlt, if_neg heq, List.map_cons, List.pairwise_cons]
        refine ⟨fun n hn => ?_, ih h.2⟩
        rcases (mem_map_insertEntry name value entries n).1 hn with rfl | hn
        · exact Std.not_le.1 fun hle => heq (String.le_antisymm hle (String.not_lt.1 hlt))
        · exact h.1 n hn

/-- No entries. -/
def empty : Dictionary α := ⟨[], .nil⟩

instance : Inhabited (Dictionary α) := ⟨empty⟩

/-- A value under a name, in place of an earlier one. -/
def insert (d : Dictionary α) (name : String) (value : α) : Dictionary α :=
  ⟨insertEntry name value d.entries, ascending_insertEntry name value d.entries d.ascending⟩

/-- Several values inserted in order. -/
def insertMany (d : Dictionary α) (pairs : List (String × α)) : Dictionary α :=
  pairs.foldl (fun d pair => d.insert pair.1 pair.2) d

/-- The dictionary of pairs, of which later ones win. -/
def ofList (pairs : List (String × α)) : Dictionary α := empty.insertMany pairs

/-- The value under a name. -/
def get? (d : Dictionary α) (name : String) : Option α :=
  (d.entries.find? (·.1 = name)).map (·.2)

/-- Whether there is a value under a name. -/
def contains (d : Dictionary α) (name : String) : Bool := (d.get? name).isSome

/-- The names, in ascending order. -/
def names (d : Dictionary α) : List String := d.entries.map (·.1)

/-- The count of names. -/
def size (d : Dictionary α) : Nat := d.entries.length

theorem find?_insertEntry (name : String) (value : α) (entries : List (String × α)) (n : String) :
    (insertEntry name value entries).find? (·.1 = n) =
      if n = name then some (name, value) else entries.find? (·.1 = n) := by
  induction entries with
  | nil => by_cases h : n = name <;> simp [insertEntry, h, eq_comm]
  | cons entry entries ih =>
    by_cases hlt : name < entry.1
    · by_cases h : n = name
      · simp [insertEntry, hlt, h]
      · simp [insertEntry, hlt, h, Ne.symm h]
    · by_cases heq : name = entry.1
      · by_cases h : n = name
        · simp [insertEntry, heq, h]
        · have h' : ¬entry.1 = n := heq ▸ Ne.symm h
          simp [insertEntry, heq, h', heq ▸ h]
      · by_cases h : entry.1 = n
        · have h' : ¬n = name := fun e => heq (e ▸ h.symm)
          rw [insertEntry, if_neg hlt, if_neg heq]
          simp [h, h']
        · simpa [insertEntry, hlt, heq, h] using ih

theorem get?_insert (d : Dictionary α) (name : String) (value : α) (n : String) :
    (d.insert name value).get? n = if n = name then some value else d.get? n := by
  simp only [get?, insert, find?_insertEntry]
  split <;> simp

theorem mem_names_iff (d : Dictionary α) (name : String) :
    name ∈ d.names ↔ d.contains name = true := by
  simp [names, contains, get?]

end Dictionary

end MailMerge
