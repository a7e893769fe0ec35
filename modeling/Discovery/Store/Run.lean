import Discovery.Action
import Discovery.Store.Basic
/-!
Runs of operations on a store.

* `Store.Op`: one operation, the movements of the clock included;
* `Store.act`: what it answers, what it does to the store, and what it logs;
* `Store.run`: the store after a list of operations.
-/

namespace Discovery.Store

/-- An operation on a store. -/
inductive Op (κ ν : Type)
  | add (key : κ) (value : ν) (ttl : Duration)
  | get (key : κ)
  | remove (key : κ)
  | advance (d : Duration)
  | misread (skews : List Int)
  deriving DecidableEq, Repr

variable {κ ν : Type} [DecidableEq κ]

/-- The answer, the effect and the events of an operation. Only the clock can
refuse one. -/
def act : Op κ ν → Action Event (Store κ ν) (Except ClockFault (Option ν))
  | .add key value ttl => do
      .leave (← .read (·.addEvents ttl))
      let written ← .modifyGet (·.add key value ttl)
      pure (written.map fun () => none)
  | .get key => .modifyGet (·.get key)
  | .remove key => do
      .modify (·.remove key)
      pure (.ok none)
  | .advance d => .modifyGet fun s =>
      match s.advance d with
      | .ok moved => (.ok none, moved)
      | .error fault => (.error fault, s)
  | .misread skews => do
      .modify (·.misread skews)
      pure (.ok none)

/-- The answers, the effect and the events of a list of operations. -/
def acts (ops : List (Op κ ν)) :
    Action Event (Store κ ν) (List (Except ClockFault (Option ν))) :=
  .each act ops

/-- The store after a list of operations. -/
def run (ops : List (Op κ ν)) (s : Store κ ν) : Store κ ν := (acts ops s).state

@[simp] theorem run_nil (s : Store κ ν) : run [] s = s := rfl

@[simp] theorem run_cons (op : Op κ ν) (ops : List (Op κ ν)) (s : Store κ ν) :
    run (op :: ops) s = run ops (act op s).state := rfl

theorem run_append (l r : List (Op κ ν)) (s : Store κ ν) :
    run (l ++ r) s = run r (run l s) := Action.each_append_state act l r s

/-! ### The effect of each operation -/

@[simp] theorem act_add_state (key : κ) (value : ν) (ttl : Duration) (s : Store κ ν) :
    (act (.add key value ttl) s).state = (s.add key value ttl).2 := rfl

@[simp] theorem act_get (key : κ) (s : Store κ ν) :
    act (.get key) s = ⟨(s.get key).1, (s.get key).2, []⟩ := rfl

@[simp] theorem act_remove_state (key : κ) (s : Store κ ν) :
    (act (.remove key) s).state = s.remove key := rfl

end Discovery.Store
