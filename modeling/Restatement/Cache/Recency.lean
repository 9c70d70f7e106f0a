import Restatement.Number.Binary64

/-!
Bounded stores that give up the entry left alone for longest. Reading an entry and writing it both
count as touching it; asking whether it is there does not.
-/

namespace Restatement

abbrev Capacity := { size : Nat // 0 < size }

def Capacity.ofInt? (size : Int) : Option Capacity :=
  if h : 0 < size.toNat then some ⟨size.toNat, h⟩ else none

/-- Entries stand in the order of their last touch, the oldest first. -/
structure Recency (κ ν : Type) where
  capacity : Capacity
  entries : List (κ × ν)
  hits : Nat
  misses : Nat
  deriving DecidableEq, Repr

namespace Recency

variable {κ ν : Type} [DecidableEq κ]

def empty (capacity : Capacity) : Recency κ ν := ⟨capacity, [], 0, 0⟩

def keys (store : Recency κ ν) : List κ := store.entries.map (·.1)

def size (store : Recency κ ν) : Nat := store.entries.length

def find? (store : Recency κ ν) (key : κ) : Option ν := store.entries.lookup key

def contains (store : Recency κ ν) (key : κ) : Bool := (store.find? key).isSome

def others (store : Recency κ ν) (key : κ) : List (κ × ν) :=
  store.entries.filter fun entry => entry.1 ≠ key

def get (store : Recency κ ν) (key : κ) : Option ν × Recency κ ν :=
  match store.find? key with
  | some value =>
      (some value,
        { store with entries := store.others key ++ [(key, value)], hits := store.hits + 1 })
  | none => (none, { store with misses := store.misses + 1 })

/-- Writes an entry. A new key in a full store takes the place of the oldest one, which is
returned. -/
def insert (store : Recency κ ν) (key : κ) (value : ν) : Option κ × Recency κ ν :=
  if store.contains key then
    (none, { store with entries := store.others key ++ [(key, value)] })
  else if store.capacity.val ≤ store.size then
    (store.keys.head?, { store with entries := store.entries.tail ++ [(key, value)] })
  else (none, { store with entries := store.entries ++ [(key, value)] })

def erase (store : Recency κ ν) (key : κ) : Recency κ ν :=
  { store with entries := store.others key }

def clear (store : Recency κ ν) : Recency κ ν := empty store.capacity

def hitRate (store : Recency κ ν) : Binary64 :=
  let total := store.hits + store.misses
  if total = 0 then .ofInt 0 else .quotient store.hits total

end Recency

end Restatement
