/-!
# Tables that keep their order

A table from texts to values that lists its entries in the order in which
their keys were first written.  Writing a key again changes the value and
leaves the entry where it stands; a key that is erased and written again goes
to the end.

* `OrderedTable.insert`, `OrderedTable.erase`, `OrderedTable.get?` — the operations;
* `OrderedTable.update` — a table overridden by another, entry by entry.
-/

namespace CodeMetrics

/-- A table whose entries keep the order in which their keys were first written. -/
structure OrderedTable (β : Type _) where
  entries : List (String × β) := []
deriving Repr, DecidableEq, Inhabited

namespace OrderedTable

variable {β : Type _}

/-- The table without entries. -/
def empty : OrderedTable β := {}

/-- The keys in order. -/
def keys (t : OrderedTable β) : List String := t.entries.map (·.1)

/-- The values in the order of their keys. -/
def values (t : OrderedTable β) : List β := t.entries.map (·.2)

/-- The number of entries. -/
def size (t : OrderedTable β) : Nat := t.entries.length

/-- The value under a key. -/
def get? (t : OrderedTable β) (key : String) : Option β :=
  (t.entries.find? (fun e => e.1 == key)).map (·.2)

/-- Whether the table has an entry for a key. -/
def contains (t : OrderedTable β) (key : String) : Bool := (t.get? key).isSome

/-- Writes an entry into a list of entries: in place of the entry with its key, or at the end. -/
def put (key : String) (value : β) : List (String × β) → List (String × β)
  | [] => [(key, value)]
  | e :: rest => if e.1 = key then (key, value) :: rest else e :: put key value rest

/-- Writes a value under a key. -/
def insert (t : OrderedTable β) (key : String) (value : β) : OrderedTable β :=
  ⟨put key value t.entries⟩

/-- Removes the entry of a key. -/
def erase (t : OrderedTable β) (key : String) : OrderedTable β :=
  ⟨t.entries.filter (·.1 != key)⟩

/-- Writes every entry of `u` into `t`, in order. -/
def update (t u : OrderedTable β) : OrderedTable β :=
  u.entries.foldl (fun t e => t.insert e.1 e.2) t

/-- The table of a list of pairs, the last pair of a key giving its value. -/
def ofList (pairs : List (String × β)) : OrderedTable β :=
  pairs.foldl (fun t e => t.insert e.1 e.2) empty

@[simp] theorem get?_empty (key : String) : (empty : OrderedTable β).get? key = none := rfl

theorem find?_put (key other : String) (value : β) (es : List (String × β)) :
    ((put key value es).find? (fun e => e.1 == other)).map (·.2) =
      if other = key then some value else (es.find? (fun e => e.1 == other)).map (·.2) := by
  induction es with
  | nil => grind [put]
  | cons e rest ih => grind [put]

@[simp] theorem get?_insert (t : OrderedTable β) (key other : String) (value : β) :
    (t.insert key value).get? other = if other = key then some value else t.get? other :=
  find?_put key other value t.entries

end OrderedTable

end CodeMetrics
