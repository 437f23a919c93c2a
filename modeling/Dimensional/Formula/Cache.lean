/-!
Caches of what texts were made into. `Cache` is one of bounded size that forgets what was used
longest ago: entries are kept with the most recent one first, each key once.
-/

set_option autoImplicit false

namespace Dimensional.Formula

/-- What is asked of a cache. Looking something up may count as a use of it, so `get` gives the
cache afterwards too. -/
class TextCache (κ : Type) (β : outParam Type) where
  /-- A cache without entries, for at most so many of them. -/
  fresh : Nat → κ
  get : κ → String → Option β × κ
  put : κ → String → β → κ
  clear : κ → κ

structure Cache (β : Type) where
  capacity : Nat
  entries : List (String × β)

namespace Cache

variable {β : Type}

def empty (capacity : Nat) : Cache β := ⟨capacity, []⟩

def size (cache : Cache β) : Nat := cache.entries.length

/-- The keys, the most recently used one first. -/
def keys (cache : Cache β) : List String := cache.entries.map (·.1)

def find? (cache : Cache β) (key : String) : Option β := cache.entries.lookup key

/-- All entries but that of a key. -/
def without (key : String) (entries : List (String × β)) : List (String × β) :=
  entries.filter fun entry => entry.1 != key

/-- Makes an entry the most recent one, and drops the oldest ones beyond the capacity. -/
def put (cache : Cache β) (key : String) (content : β) : Cache β :=
  { cache with entries := ((key, content) :: without key cache.entries).take cache.capacity }

/-- What is stored under a key, which is then the one used last. -/
def get (cache : Cache β) (key : String) : Option β × Cache β :=
  match cache.find? key with
  | some content => (some content, cache.put key content)
  | none => (none, cache)

def clear (cache : Cache β) : Cache β := { cache with entries := [] }

instance : TextCache (Cache β) β := ⟨empty, get, put, clear⟩

@[simp] theorem size_clear (cache : Cache β) : cache.clear.size = 0 := rfl

theorem size_put_le (cache : Cache β) (key : String) (content : β) :
    (cache.put key content).size ≤ cache.capacity := by
  simp only [put, size, List.length_take]
  exact Nat.min_le_left _ _

end Cache

end Dimensional.Formula
