import Discovery.Store.Run
/-!
The cache that a store is built on, with a timer of its own.

The timer counts for how long each entry has been held, whatever the clock of
the store reads. Once that comes to the time to live of an entry, the backing
cache hides it, and from then on it may give it up at any moment.

* `Store.elapse`: the store once the timer has run on;
* `Store.reclaim`: the store once what is hidden under some keys was given up;
* `Store.TimerLags`: the timer is not ahead of the clock of the store, so that
  what is hidden has expired;
* `Store.Move`: an operation on the store, or a move of its backing cache;
* `Store.move`: what it answers, what it does to the store, and what it logs.
-/

namespace Discovery

variable {κ ν : Type}

/-- The entry once the timer has run on by some nanoseconds. -/
def Entry.elapse (e : Entry κ ν) (nanos : Nat) : Entry κ ν := { e with age := e.age + nanos }

namespace Store

/-- The store once the timer of its backing cache has run on. -/
def elapse (s : Store κ ν) (nanos : Nat) : Store κ ν :=
  { s with entries := s.entries.map (·.elapse nanos) }

/-- The timer of the backing cache is not ahead of the clock of the store: of no
entry does less of the time to live remain by the timer than remains until the
deadline by the clock. -/
def TimerLags (s : Store κ ν) : Prop :=
  ∀ e ∈ s.entries, e.deadline.toNanos + e.age ≤ s.clock.now.toNanos + e.ttl.toNanos

instance (s : Store κ ν) : Decidable s.TimerLags :=
  inferInstanceAs (Decidable (∀ e ∈ s.entries, _ ≤ _))

/-- What is hidden by a timer that is not ahead has expired. -/
theorem TimerLags.deadline_le {s : Store κ ν} {e : Entry κ ν} (h : s.TimerLags)
    (he : e ∈ s.entries) (hhidden : ¬ e.Shown) : e.deadline ≤ s.clock.now := by
  have hlags := h e he
  rw [Entry.Shown] at hhidden
  rw [Instant.le_iff_toNanos_le]
  omega

/-- A move of a store: an operation on it, or something that its backing cache
does of itself. -/
inductive Move (κ ν : Type)
  | op (op : Op κ ν)
  | elapse (nanos : Nat)
  | reclaim (keys : List κ)
  deriving DecidableEq, Repr

/-- What an entry becomes by a move that does not make it leave. -/
def Move.carry : Move κ ν → Entry κ ν → Entry κ ν
  | .elapse nanos, e => e.elapse nanos
  | .op _, e | .reclaim _, e => e

variable [DecidableEq κ]

/-- The store once its backing cache has given up what it hides under some
keys. It counts what is left. -/
def reclaim (s : Store κ ν) (keys : List κ) : Store κ ν :=
  { s with entries := s.entries.filter fun e => e.Shown ∨ e.key ∉ keys }.settle

/-- The answer, the effect and the events of a move. The backing cache moves
without a word. -/
def move : Move κ ν → Action Event (Store κ ν) (Except ClockFault (Option ν))
  | .op op => act op
  | .elapse nanos => do
      .modify (·.elapse nanos)
      pure (.ok none)
  | .reclaim keys => do
      .modify (·.reclaim keys)
      pure (.ok none)

/-! ### The effect of each move -/

@[simp] theorem move_op (op : Op κ ν) : move (.op op) = act op := rfl

@[simp] theorem move_elapse_state (nanos : Nat) (s : Store κ ν) :
    (move (.elapse nanos) s).state = s.elapse nanos := rfl

@[simp] theorem move_reclaim_state (keys : List κ) (s : Store κ ν) :
    (move (.reclaim keys) s).state = s.reclaim keys := rfl

end Store

end Discovery
