import Discovery.Log.Event
import Discovery.Time.Timer
/-!
What a computation leaves behind when it also calls out and waits.

* `Happening`: an event, a call to the outside together with its answer, or a
  wait;
* `Happening.events`, `Happening.calls`, `Happening.waited`: the three parts
  of a trail, each in order.
-/

namespace Discovery

/-- One item of a trail, with calls of type `χ`. -/
inductive Happening (χ : Type)
  | event (e : Event)
  | call (c : χ)
  | wait (d : Duration)
  deriving DecidableEq, Repr

namespace Happening

variable {χ : Type}

/-- The event of an item. -/
def event? : Happening χ → Option Event
  | event e => some e
  | _ => none

/-- The call of an item. -/
def call? : Happening χ → Option χ
  | call c => some c
  | _ => none

/-- The wait of an item. -/
def wait? : Happening χ → Option Duration
  | wait d => some d
  | _ => none

/-- The events of a trail. -/
def events (trail : List (Happening χ)) : List Event := trail.filterMap event?

/-- The calls of a trail. -/
def calls (trail : List (Happening χ)) : List χ := trail.filterMap call?

/-- The waits of a trail. -/
def waits (trail : List (Happening χ)) : List Duration := trail.filterMap wait?

/-- How long a trail's waits take together, each of them on a timer. -/
def waited (trail : List (Happening χ)) : Duration :=
  ((waits trail).map Timer.span).foldl Duration.plus .zero

/-! ### Laws -/

@[simp] theorem events_append (l r : List (Happening χ)) :
    events (l ++ r) = events l ++ events r := List.filterMap_append

@[simp] theorem calls_append (l r : List (Happening χ)) :
    calls (l ++ r) = calls l ++ calls r := List.filterMap_append

@[simp] theorem events_map_event (l : List Event) :
    events (l.map (event : Event → Happening χ)) = l := by
  induction l with
  | nil => rfl
  | cons e rest ih => simpa [events, event?] using ih

@[simp] theorem calls_map_event (l : List Event) :
    calls (l.map (event : Event → Happening χ)) = [] := by
  induction l with
  | nil => rfl
  | cons e rest ih => simp [calls, call?]

end Happening

end Discovery
