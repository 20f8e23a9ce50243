/-!
# Sets of error codes (`crates/validator/src/engine.rs:123-145`, `builders/common.rs:48-70`)

A set of codes is kept as a strictly increasing list, so that two sets with the same members are equal and
the order in which codes are shown is the order of their characters.
-/

namespace FieldRules

/-- Puts a code into a strictly increasing list, unless it is there. -/
def insertCode (code : String) : List String → List String
  | [] => [code]
  | other :: rest =>
    if code < other then code :: other :: rest
    else if code = other then other :: rest
    else other :: insertCode code rest

theorem mem_insertCode {code x : String} {codes : List String} :
    x ∈ insertCode code codes ↔ x = code ∨ x ∈ codes := by
  induction codes with
  | nil => simp [insertCode]
  | cons other rest ih =>
    simp only [insertCode]
    split
    · simp
    · split
      · next h => subst h; simp
      · simp only [List.mem_cons, ih]
        grind

theorem pairwise_insertCode {code : String} {codes : List String}
    (increasing : codes.Pairwise (· < ·)) : (insertCode code codes).Pairwise (· < ·) := by
  induction codes with
  | nil => simp [insertCode]
  | cons other rest ih =>
    obtain ⟨above, tail⟩ := List.pairwise_cons.1 increasing
    simp only [insertCode]
    split
    · next h =>
      refine List.pairwise_cons.2 ⟨?_, increasing⟩
      intro x hx
      rcases List.mem_cons.1 hx with rfl | hx
      · exact h
      · exact String.lt_trans h (above x hx)
    · split
      · exact increasing
      · next h h' =>
        refine List.pairwise_cons.2 ⟨?_, ih tail⟩
        intro x hx
        rcases mem_insertCode.1 hx with rfl | hx
        · by_cases h'' : other < x
          · exact h''
          · exact absurd (String.le_antisymm (String.not_lt.1 h'') (String.not_lt.1 h)) h'
        · exact above x hx

structure CodeSet where
  /-- The members in increasing order. -/
  codes : List String
  increasing : codes.Pairwise (· < ·)
  deriving DecidableEq

namespace CodeSet

def empty : CodeSet :=
  ⟨[], .nil⟩

def insert (code : String) (set : CodeSet) : CodeSet :=
  ⟨insertCode code set.codes, pairwise_insertCode set.increasing⟩

instance : Membership String CodeSet :=
  ⟨fun set code => code ∈ set.codes⟩

instance (code : String) (set : CodeSet) : Decidable (code ∈ set) :=
  inferInstanceAs (Decidable (code ∈ set.codes))

def ofList (codes : List String) : CodeSet :=
  codes.foldr insert empty

def union (a b : CodeSet) : CodeSet :=
  a.codes.foldr insert b

/-- The set with one more member, if it is a code at all: the empty text is none. -/
def insertNonempty (code : String) (set : CodeSet) : CodeSet :=
  if code.isEmpty then set else set.insert code

theorem mem_def {code : String} {set : CodeSet} : code ∈ set ↔ code ∈ set.codes :=
  Iff.rfl

theorem not_mem_empty (code : String) : ¬ code ∈ empty := by
  simp [mem_def, empty]

theorem mem_insert {code x : String} {set : CodeSet} : x ∈ set.insert code ↔ x = code ∨ x ∈ set :=
  mem_insertCode

theorem mem_foldr_insert {x : String} {codes : List String} {set : CodeSet} :
    x ∈ codes.foldr insert set ↔ x ∈ codes ∨ x ∈ set := by
  induction codes with
  | nil => simp
  | cons code codes ih => simp [mem_insert, ih, or_assoc]

theorem mem_ofList {x : String} {codes : List String} : x ∈ ofList codes ↔ x ∈ codes := by
  simp [ofList, mem_foldr_insert, not_mem_empty]

theorem mem_union {x : String} {a b : CodeSet} : x ∈ a.union b ↔ x ∈ a ∨ x ∈ b :=
  mem_foldr_insert

theorem mem_insertNonempty {code x : String} {set : CodeSet} :
    x ∈ set.insertNonempty code ↔ x = code ∧ code ≠ "" ∨ x ∈ set := by
  unfold insertNonempty
  by_cases h : code = ""
  · simp [h]
  · simp [h, mem_insert]

/-- Two sets with the same members are equal. -/
theorem ext_mem {a b : CodeSet} (h : ∀ x, x ∈ a ↔ x ∈ b) : a = b := by
  have unique : ∀ {l₁ l₂ : List String}, l₁.Pairwise (· < ·) → l₂.Pairwise (· < ·) →
      (∀ x, x ∈ l₁ ↔ x ∈ l₂) → l₁ = l₂ := by
    intro l₁
    induction l₁ with
    | nil =>
      intro l₂ _ _ h
      cases l₂ with
      | nil => rfl
      | cons y ys => exact absurd ((h y).2 (by simp)) (by simp)
    | cons x xs ih =>
      intro l₂ h₁ h₂ h
      cases l₂ with
      | nil => exact absurd ((h x).1 (by simp)) (by simp)
      | cons y ys =>
        obtain ⟨xAbove, hxs⟩ := List.pairwise_cons.1 h₁
        obtain ⟨yAbove, hys⟩ := List.pairwise_cons.1 h₂
        have hxy : x = y := by
          rcases List.mem_cons.1 ((h x).1 (by simp)) with hx | hx
          · exact hx
          · rcases List.mem_cons.1 ((h y).2 (by simp)) with hy | hy
            · exact hy.symm
            · exact absurd (xAbove y hy) (String.lt_asymm (yAbove x hx))
        subst hxy
        refine congrArg (x :: ·) (ih hxs hys fun z => ?_)
        have hz := h z
        simp only [List.mem_cons] at hz
        constructor
        · intro hm
          rcases hz.1 (.inr hm) with rfl | hm'
          · exact absurd (xAbove z hm) (String.lt_irrefl z)
          · exact hm'
        · intro hm
          rcases hz.2 (.inr hm) with rfl | hm'
          · exact absurd (yAbove z hm) (String.lt_irrefl z)
          · exact hm'
  obtain ⟨as, ha⟩ := a
  obtain ⟨bs, hb⟩ := b
  have : as = bs := unique ha hb h
  subst this
  rfl

end CodeSet

end FieldRules
