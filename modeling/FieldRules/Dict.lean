/-!
# Dictionaries (`crates/validator/src/registry.rs:24-78`)

A dictionary holds at most one value under a name. Putting a value under a name that is taken replaces the
value and keeps its place; a new name goes last.
-/

namespace FieldRules

/-- Replaces the value under a name, or adds the name at the end. -/
def putEntry {α : Type} (name : String) (value : α) : List (String × α) → List (String × α)
  | [] => [(name, value)]
  | entry :: rest =>
    if entry.1 = name then (name, value) :: rest else entry :: putEntry name value rest

theorem mem_keys_putEntry {α : Type} {name x : String} {value : α} {entries : List (String × α)} :
    x ∈ (putEntry name value entries).map Prod.fst ↔ x = name ∨ x ∈ entries.map Prod.fst := by
  induction entries with
  | nil => simp [putEntry]
  | cons entry rest ih =>
    simp only [putEntry]
    split
    · next h => subst h; simp
    · simp only [List.map_cons, List.mem_cons, ih]
      grind

theorem nodup_keys_putEntry {α : Type} {name : String} {value : α} {entries : List (String × α)}
    (h : (entries.map Prod.fst).Nodup) : ((putEntry name value entries).map Prod.fst).Nodup := by
  induction entries with
  | nil => simp [putEntry]
  | cons entry rest ih =>
    simp only [List.map_cons, List.nodup_cons] at h
    simp only [putEntry]
    split
    · next heq => subst heq; simpa using h
    · next hne =>
      simp only [List.map_cons, List.nodup_cons]
      refine ⟨?_, ih h.2⟩
      rw [mem_keys_putEntry]
      exact fun hm => hm.elim hne h.1

/-- Values under names, no name twice. -/
structure Dict (α : Type) where
  entries : List (String × α)
  nodup : (entries.map Prod.fst).Nodup

namespace Dict

variable {α : Type}

def empty : Dict α :=
  ⟨[], .nil⟩

instance : Inhabited (Dict α) :=
  ⟨empty⟩

def insert (name : String) (value : α) (dict : Dict α) : Dict α :=
  ⟨putEntry name value dict.entries, nodup_keys_putEntry dict.nodup⟩

def erase (name : String) (dict : Dict α) : Dict α :=
  ⟨dict.entries.filter fun entry => entry.1 != name,
    dict.nodup.sublist (List.filter_sublist.map _)⟩

def find? (name : String) (dict : Dict α) : Option α :=
  dict.entries.lookup name

def contains (name : String) (dict : Dict α) : Bool :=
  (dict.find? name).isSome

def size (dict : Dict α) : Nat :=
  dict.entries.length

def names (dict : Dict α) : List String :=
  dict.entries.map Prod.fst

/-- A dictionary of the given entries; of two under one name the later one stays. -/
def ofList (entries : List (String × α)) : Dict α :=
  entries.foldl (fun dict entry => dict.insert entry.1 entry.2) empty

theorem find?_insert (name x : String) (value : α) (dict : Dict α) :
    (dict.insert name value).find? x = if x = name then some value else dict.find? x := by
  obtain ⟨entries, _⟩ := dict
  simp only [find?, insert]
  induction entries with
  | nil =>
    by_cases h : x = name
    · simp [putEntry, h]
    · have : (x == name) = false := by simpa using h
      simp [putEntry, List.lookup_cons, h, this]
  | cons entry rest ih =>
    obtain ⟨key, old⟩ := entry
    simp only [putEntry]
    split
    · next h =>
      subst h
      by_cases hx : x = key
      · simp [hx]
      · have : (x == key) = false := by simpa using hx
        simp [List.lookup_cons, hx, this]
    · next h =>
      by_cases hx : x = key
      · subst hx; simp [h]
      · have : (x == key) = false := by simpa using hx
        simp only [List.lookup_cons, this]
        exact ih (by simp_all)

theorem find?_erase (name x : String) (dict : Dict α) :
    (dict.erase name).find? x = if x = name then none else dict.find? x := by
  obtain ⟨entries, _⟩ := dict
  simp only [find?, erase]
  induction entries with
  | nil => simp
  | cons entry rest ih =>
    replace ih := ih (by simp_all)
    obtain ⟨key, value⟩ := entry
    by_cases h : key = name
    · subst h
      by_cases hx : x = key
      · subst hx; simpa using ih
      · have : (x == key) = false := by simpa using hx
        simpa [List.lookup_cons, hx, this] using ih
    · rw [List.filter_cons_of_pos (by simpa using h)]
      by_cases hx : x = key
      · subst hx; simp [h]
      · have : (x == key) = false := by simpa using hx
        simp only [List.lookup_cons, this, ih]

end Dict

end FieldRules
