import Dimensional.Quantity

/-!
Registries: quantities in the order of their registration, each once, with what is recorded of each.
The dimensionless quantity always comes first.
-/

set_option autoImplicit false

namespace Dimensional

structure Registry (β : Type) where
  entries : List (Quantity × β)
  distinct : (entries.map (·.1)).Nodup
  pureFirst : (entries.map (·.1)).head? = some Quantity.dimensionless

namespace Registry

variable {β γ : Type}

/-- The registered quantities. -/
def quantities (registry : Registry β) : List Quantity := registry.entries.map (·.1)

def lookup? (registry : Registry β) (quantity : Quantity) : Option β :=
  registry.entries.lookup quantity

/-- The number of quantities that are not dimensionless. -/
def rank (registry : Registry β) : Nat :=
  (registry.quantities.filter fun quantity => !quantity.isDimensionless).length

/-- The registry of the dimensionless quantity alone. -/
def single (content : β) : Registry β where
  entries := [(Quantity.dimensionless, content)]
  distinct := by simp
  pureFirst := rfl

/-- Replaces the entry of a quantity, or adds it at the end. -/
def putIn (quantity : Quantity) (content : β) : List (Quantity × β) → List (Quantity × β)
  | [] => [(quantity, content)]
  | (known, old) :: rest =>
    if known = quantity then (known, content) :: rest
    else (known, old) :: putIn quantity content rest

theorem quantities_putIn (quantity : Quantity) (content : β) (entries : List (Quantity × β)) :
    (putIn quantity content entries).map (·.1) =
      if quantity ∈ entries.map (·.1) then entries.map (·.1)
      else entries.map (·.1) ++ [quantity] := by
  induction entries with
  | nil => simp [putIn]
  | cons entry rest ih =>
    rcases entry with ⟨known, old⟩
    unfold putIn
    by_cases equal : known = quantity
    · simp [equal]
    · have apart : quantity ≠ known := Ne.symm equal
      simp only [equal, ↓reduceIte, List.map_cons, ih, List.mem_cons, apart, false_or]
      split <;> simp

theorem lookup_putIn_self (quantity : Quantity) (content : β) (entries : List (Quantity × β)) :
    (putIn quantity content entries).lookup quantity = some content := by
  induction entries with
  | nil => simp [putIn]
  | cons entry rest ih =>
    rcases entry with ⟨known, old⟩
    unfold putIn
    by_cases equal : known = quantity
    · simp [equal]
    · have apart : (quantity == known) = false := by simpa using Ne.symm equal
      simp only [equal, ↓reduceIte, List.lookup_cons, apart]
      exact ih

theorem lookup_putIn_other (quantity other : Quantity) (content : β)
    (entries : List (Quantity × β)) (different : other ≠ quantity) :
    (putIn quantity content entries).lookup other = entries.lookup other := by
  induction entries with
  | nil =>
    have apart : (other == quantity) = false := by simpa using different
    simp [putIn, List.lookup_cons, apart]
  | cons entry rest ih =>
    rcases entry with ⟨known, old⟩
    unfold putIn
    by_cases equal : known = quantity
    · have apart : (other == known) = false := by simpa [equal] using different
      simp [equal, List.lookup_cons, show (other == quantity) = false by simpa using different]
    · simp only [equal, ↓reduceIte, List.lookup_cons, ih]

/-- A quantity that is registered again keeps its place; a new one comes last. -/
def put (registry : Registry β) (quantity : Quantity) (content : β) : Registry β where
  entries := putIn quantity content registry.entries
  distinct := by
    rw [quantities_putIn]
    split
    · exact registry.distinct
    · next absent =>
      rw [List.nodup_append]
      refine ⟨registry.distinct, by simp, ?_⟩
      intro known inside new fresh equal
      simp only [List.mem_singleton] at fresh
      exact absent (fresh ▸ equal ▸ inside)
  pureFirst := by
    have first := registry.pureFirst
    rw [quantities_putIn]
    split
    · exact first
    · rw [List.head?_append, first]
      rfl

/-- Records something else of each quantity. -/
def map (registry : Registry β) (change : β → γ) : Registry γ where
  entries := registry.entries.map fun entry => (entry.1, change entry.2)
  distinct := by simpa [Function.comp_def] using registry.distinct
  pureFirst := by simpa [Function.comp_def] using registry.pureFirst

@[simp] theorem quantities_map (registry : Registry β) (change : β → γ) :
    (registry.map change).quantities = registry.quantities := by
  simp [quantities, map, Function.comp_def]

@[simp] theorem rank_map (registry : Registry β) (change : β → γ) :
    (registry.map change).rank = registry.rank := by
  simp [rank]

@[simp] theorem lookup?_put_self (registry : Registry β) (quantity : Quantity) (content : β) :
    (registry.put quantity content).lookup? quantity = some content :=
  lookup_putIn_self quantity content registry.entries

theorem lookup?_put_other (registry : Registry β) (quantity other : Quantity) (content : β)
    (different : other ≠ quantity) :
    (registry.put quantity content).lookup? other = registry.lookup? other :=
  lookup_putIn_other quantity other content registry.entries different

theorem quantities_put (registry : Registry β) (quantity : Quantity) (content : β) :
    (registry.put quantity content).quantities =
      if quantity ∈ registry.quantities then registry.quantities
      else registry.quantities ++ [quantity] :=
  quantities_putIn quantity content registry.entries

theorem dimensionless_mem (registry : Registry β) :
    Quantity.dimensionless ∈ registry.quantities :=
  List.mem_of_mem_head? registry.pureFirst

end Registry

end Dimensional
