/-!
# WlanAdmin.Domain.CodeRange

Tables over code points: ranges in increasing order, each with a value.
-/

namespace WlanAdmin.Domain

/-- A range of code points that share a value. -/
structure CodeRange (α : Type) where
  first : Nat
  last : Nat
  value : α

abbrev CodeTable (α : Type) := Array (CodeRange α)

namespace CodeTable

variable {α : Type}

/-- The table of ranges that stand in rows. -/
def ofRows (rows : List (List (CodeRange α))) : CodeTable α := rows.flatten.toArray

/-- The last index from `low` on and below `high` whose range starts at a code point or before,
where there is one; `low` otherwise. -/
def seek (table : CodeTable α) (code low high : Nat) : Nat :=
  if low + 1 < high then
    let middle := (low + high) / 2
    if (table[middle]?).any fun range => range.first ≤ code then seek table code middle high
    else seek table code low middle
  else low
termination_by high - low

/-- The range that a code point is in. Nothing is gained by unfolding a search in a large table. -/
@[irreducible] def find? (table : CodeTable α) (code : Nat) : Option (CodeRange α) :=
  (table[table.seek code 0 table.size]?).filter fun range =>
    range.first ≤ code && code ≤ range.last

/-- The value of a code point. -/
def get? (table : CodeTable α) (code : Nat) : Option α := (table.find? code).map CodeRange.value

end CodeTable
end WlanAdmin.Domain
