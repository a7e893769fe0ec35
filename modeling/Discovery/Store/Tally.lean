/-!
A tally of a store's size that is brought up to date in batches.

Between two settlements the tally shows the number of entries that the last one
found, whatever was dropped since. It settles when it is asked to, and of
itself once a batch of lookups or a batch of removals is outstanding.

* `Tally.settled`: the tally that shows a given number of entries;
* `Tally.lookup`, `Tally.removal`: one more of either, after the settlement
  that a full batch brings.
-/

namespace Discovery

/-- The number of entries at the last settlement, and the lookups and the
removals since. -/
structure Tally where
  counted : Nat
  lookups : Nat
  removals : Nat
  deriving DecidableEq, Repr

namespace Tally

/-- So many outstanding lookups, or removals, bring a settlement. -/
def batch : Nat := 64

/-- A tally that has just been settled. -/
def settled (held : Nat) : Tally := ⟨held, 0, 0⟩

/-- The tally, settled if a full batch is outstanding. -/
def due (t : Tally) (outstanding held : Nat) : Tally :=
  if batch ≤ outstanding then settled held else t

/-- One more lookup, in a store that holds a number of entries. -/
def lookup (t : Tally) (held : Nat) : Tally :=
  let t := t.due t.lookups held
  { t with lookups := t.lookups + 1 }

/-- One more removal, from a store that holds a number of entries before it. -/
def removal (t : Tally) (held : Nat) : Tally :=
  let t := t.due t.removals held
  { t with removals := t.removals + 1 }

end Tally

end Discovery
