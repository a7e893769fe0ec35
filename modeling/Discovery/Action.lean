/-!
Computations over a state that leave a trail of what they did on the way.

* `Action`: a function of the state to an answer, a new state and a trail;
* `Action.bind_apply`: of two computations in a row the trails follow one
  another;
* `Action.within`: a computation over a part of a state, as one over the
  whole;
* `Action.each`: one computation for each item of a list, in order;
* `Action.turns`: the items of a list, each with the state that it is met in;
* `Action.keeps_each`: what every item keeps holds at every turn and at the
  end;
* `Action.Takes`: a computation leads from what holds of a state and of the
  trail so far to what holds of its answer, of the state and of the trail.
-/

namespace Discovery

/-- What a computation comes to. -/
structure Outcome (ω σ α : Type) where
  answer : α
  state : σ
  trail : List ω
  deriving DecidableEq, Repr

/-- A computation over a state `σ` with an answer in `α`, which leaves items
of `ω` behind in the order in which they come about. -/
def Action (ω σ α : Type) : Type := σ → Outcome ω σ α

namespace Action

variable {ω σ τ ι α β : Type}

/-! ### Sequencing -/

instance : Monad (Action ω σ) where
  pure a s := ⟨a, s, []⟩
  bind x f s :=
    let first := x s
    let second := f first.answer first.state
    ⟨second.answer, second.state, first.trail ++ second.trail⟩

@[simp] theorem pure_apply (a : α) (s : σ) :
    (pure a : Action ω σ α) s = ⟨a, s, []⟩ := rfl

@[simp] theorem bind_apply (x : Action ω σ α) (f : α → Action ω σ β) (s : σ) :
    (x >>= f) s =
      ⟨(f (x s).answer (x s).state).answer, (f (x s).answer (x s).state).state,
        (x s).trail ++ (f (x s).answer (x s).state).trail⟩ := rfl

@[simp] theorem map_apply (f : α → β) (x : Action ω σ α) (s : σ) :
    (f <$> x) s = ⟨f (x s).answer, (x s).state, (x s).trail⟩ := by
  show (x >>= fun a => pure (f a)) s = _
  simp

/-! ### State and trail -/

/-- A computation given by what it does to the state; it leaves no trail. -/
def modifyGet (f : σ → α × σ) : Action ω σ α := fun s => ⟨(f s).1, (f s).2, []⟩

/-- A new state in place of the old one. -/
def modify (f : σ → σ) : Action ω σ Unit := fun s => ⟨(), f s, []⟩

/-- The state, or something read off it. -/
def read (f : σ → α) : Action ω σ α := fun s => ⟨f s, s, []⟩

/-- Items left on the trail. -/
def leave (items : List ω) : Action ω σ Unit := fun s => ⟨(), s, items⟩

@[simp] theorem modifyGet_apply (f : σ → α × σ) (s : σ) :
    (modifyGet f : Action ω σ α) s = ⟨(f s).1, (f s).2, []⟩ := rfl

@[simp] theorem modify_apply (f : σ → σ) (s : σ) :
    (modify f : Action ω σ Unit) s = ⟨(), f s, []⟩ := rfl

@[simp] theorem read_apply (f : σ → α) (s : σ) :
    (read f : Action ω σ α) s = ⟨f s, s, []⟩ := rfl

@[simp] theorem leave_apply (items : List ω) (s : σ) :
    (leave items : Action ω σ Unit) s = ⟨(), s, items⟩ := rfl

/-- A computation over a part of the state, its trail items turned into those
of the whole. -/
def within (part : σ → τ) (replace : σ → τ → σ) (item : ι → ω) (x : Action ι τ α) :
    Action ω σ α := fun s =>
  let o := x (part s)
  ⟨o.answer, replace s o.state, o.trail.map item⟩

@[simp] theorem within_apply (part : σ → τ) (replace : σ → τ → σ) (item : ι → ω)
    (x : Action ι τ α) (s : σ) :
    within part replace item x s =
      ⟨(x (part s)).answer, replace s (x (part s)).state,
        (x (part s)).trail.map item⟩ := rfl

/-! ### Lists of computations -/

/-- One computation for each item of a list, in order, with all answers. -/
def each (f : ι → Action ω σ α) : List ι → Action ω σ (List α)
  | [] => pure []
  | i :: rest => do
      let a ← f i
      let as ← each f rest
      pure (a :: as)

/-- The first item of a list comes before the others. -/
theorem each_cons_apply (f : ι → Action ω σ α) (i : ι) (rest : List ι) (s : σ) :
    each f (i :: rest) s =
      ⟨(f i s).answer :: (each f rest (f i s).state).answer, (each f rest (f i s).state).state,
        (f i s).trail ++ (each f rest (f i s).state).trail⟩ := by
  simp [each]

/-- A list in two parts is done in two parts. -/
theorem each_append_state (f : ι → Action ω σ α) (l r : List ι) (s : σ) :
    (each f (l ++ r) s).state = (each f r (each f l s).state).state := by
  induction l generalizing s with
  | nil => rfl
  | cons i rest ih => simpa [each] using ih (f i s).state

/-- The items of a list, each with the state that it is met in when its turn
comes. -/
def turns (f : ι → Action ω σ α) : List ι → σ → List (ι × σ)
  | [], _ => []
  | i :: rest, s => (i, s) :: turns f rest (f i s).state

@[simp] theorem turns_nil (f : ι → Action ω σ α) (s : σ) : turns f [] s = [] := rfl

@[simp] theorem turns_cons (f : ι → Action ω σ α) (i : ι) (rest : List ι) (s : σ) :
    turns f (i :: rest) s = (i, s) :: turns f rest (f i s).state := rfl

/-- Only the items of a list have turns. -/
theorem mem_of_mem_turns {f : ι → Action ω σ α} {l : List ι} {s : σ} {t : ι × σ}
    (h : t ∈ turns f l s) : t.1 ∈ l := by
  induction l generalizing s with
  | nil => cases h
  | cons i rest ih =>
      rcases List.mem_cons.mp h with rfl | h
      · exact List.mem_cons_self ..
      · exact List.mem_cons_of_mem i (ih h)

/-- Every item of a list has a turn. -/
theorem exists_mem_turns {l : List ι} {i : ι} (h : i ∈ l) (f : ι → Action ω σ α) (s : σ) :
    ∃ t, (i, t) ∈ turns f l s := by
  induction l generalizing s with
  | nil => cases h
  | cons j rest ih =>
      rcases List.mem_cons.mp h with rfl | h
      · exact ⟨s, List.mem_cons_self ..⟩
      · obtain ⟨t, ht⟩ := ih h (f j s).state
        exact ⟨t, List.mem_cons_of_mem _ ht⟩

/-- The answers of a list are those given at its turns. -/
theorem each_answer (f : ι → Action ω σ α) (l : List ι) (s : σ) :
    (each f l s).answer = (turns f l s).map fun t => (f t.1 t.2).answer := by
  induction l generalizing s with
  | nil => rfl
  | cons i rest ih => simpa [each] using ih (f i s).state

/-- The trail of a list is what was left at its turns. -/
theorem each_trail (f : ι → Action ω σ α) (l : List ι) (s : σ) :
    (each f l s).trail = (turns f l s).flatMap fun t => (f t.1 t.2).trail := by
  induction l generalizing s with
  | nil => rfl
  | cons i rest ih => simpa [each] using ih (f i s).state

/-- What every item of a list keeps holds at every turn and at the end. -/
theorem keeps_each {I : σ → Prop} {f : ι → Action ω σ α} {l : List ι}
    (h : ∀ i ∈ l, ∀ s, I s → I (f i s).state) {s : σ} (hs : I s) :
    (∀ t ∈ turns f l s, I t.2) ∧ I (each f l s).state := by
  induction l generalizing s with
  | nil => exact ⟨nofun, hs⟩
  | cons i rest ih =>
      have hnext := h i (List.mem_cons_self ..) s hs
      obtain ⟨hturns, hend⟩ :=
        ih (fun j hj => h j (List.mem_cons_of_mem i hj)) hnext
      refine ⟨fun t ht => ?_, by simpa [each] using hend⟩
      rcases List.mem_cons.mp ht with rfl | ht
      · exact hs
      · exact hturns t ht

/-! ### Assertions -/

/-- From a state and a trail so far with `P`, a computation comes to an answer,
a state and a trail with `Q`. -/
def Takes (P : σ → List ω → Prop) (x : Action ω σ α) (Q : α → σ → List ω → Prop) : Prop :=
  ∀ s w, P s w → Q (x s).answer (x s).state (w ++ (x s).trail)

namespace Takes

variable {P : σ → List ω → Prop} {M : α → σ → List ω → Prop} {Q : β → σ → List ω → Prop}

/-- An answer given at once changes nothing. -/
theorem pure {b : β} (h : ∀ s w, P s w → Q b s w) : Takes P (pure b) Q := by
  intro s w hs
  simpa using h s w hs

/-- Of two computations in a row, the second starts from where the first one
leads. -/
theorem bind {x : Action ω σ α} {f : α → Action ω σ β} (hx : Takes P x M)
    (hf : ∀ a, Takes (M a) (f a) Q) : Takes P (x >>= f) Q := by
  intro s w hs
  simpa [List.append_assoc] using hf _ _ _ (hx s w hs)

/-- Items left on the trail come at its end. -/
theorem leave {items : List ω} {Q : Unit → σ → List ω → Prop}
    (h : ∀ s w, P s w → Q () s (w ++ items)) : Takes P (leave items) Q := h

end Takes

end Action

end Discovery
