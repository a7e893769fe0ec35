/-!
Finite maps from names, held as a list in ascending order of the names.

* `Dictionary.get?` / `Dictionary.insert`: looking a name up, and binding it;
* `Dictionary.get?_insert`: a name is bound to what it was bound to last;
* `Dictionary.ext_get?`: a dictionary is known by what its names are bound to.
-/

namespace Discovery

/-- Names with values, each name once, in ascending order of the names. -/
structure Dictionary (α : Type) where
  entries : List (String × α)
  ascending : entries.Pairwise fun a b => a.1 < b.1
  deriving DecidableEq, Repr

namespace Dictionary

variable {α : Type}

/-! ### Binding a name -/

/-- A list in ascending order of names with one name bound anew. -/
def insertEntry (name : String) (value : α) : List (String × α) → List (String × α)
  | [] => [(name, value)]
  | (key, old) :: rest =>
      if name < key then (name, value) :: (key, old) :: rest
      else if name = key then (name, value) :: rest
      else (key, old) :: insertEntry name value rest

theorem mem_insertEntry {name : String} {value : α} {l : List (String × α)}
    {e : String × α} (h : e ∈ insertEntry name value l) : e = (name, value) ∨ e ∈ l := by
  induction l with
  | nil => simpa [insertEntry] using h
  | cons head rest ih =>
      rw [insertEntry] at h
      split at h
      · simpa using h
      · split at h
        · rcases List.mem_cons.mp h with h | h
          · exact Or.inl h
          · exact Or.inr (List.mem_cons_of_mem _ h)
        · rcases List.mem_cons.mp h with h | h
          · exact Or.inr (h ▸ List.mem_cons_self)
          · exact (ih h).imp id (List.mem_cons_of_mem _)

theorem lt_of_not_lt_of_ne {a b : String} (h : ¬ a < b) (hne : a ≠ b) : b < a :=
  String.not_le.mp fun hle => hne (String.le_antisymm hle (String.not_lt.mp h))

/-- Binding a name keeps the order. -/
theorem pairwise_insertEntry (name : String) (value : α) {l : List (String × α)}
    (h : l.Pairwise fun a b => a.1 < b.1) :
    (insertEntry name value l).Pairwise fun a b => a.1 < b.1 := by
  induction l with
  | nil => simp [insertEntry]
  | cons head rest ih =>
      have hrest : ∀ e ∈ rest, head.1 < e.1 := fun _ => List.rel_of_pairwise_cons h
      rw [insertEntry]
      split
      · next hlt =>
          refine List.Pairwise.cons (fun e he => ?_) h
          rcases List.mem_cons.mp he with rfl | he
          · exact hlt
          · exact String.lt_trans hlt (hrest e he)
      · split
        · next heq => exact List.Pairwise.cons (fun e he => heq ▸ hrest e he) h.of_cons
        · next hlt hne =>
            refine List.Pairwise.cons (fun e he => ?_) (ih h.of_cons)
            rcases mem_insertEntry he with rfl | he
            · exact lt_of_not_lt_of_ne hlt hne
            · exact hrest e he

/-! ### Operations -/

/-- The dictionary with no names. -/
def empty : Dictionary α := ⟨[], List.Pairwise.nil⟩

instance : Inhabited (Dictionary α) := ⟨empty⟩

/-- The dictionary with one name bound anew. -/
def insert (d : Dictionary α) (name : String) (value : α) : Dictionary α :=
  ⟨insertEntry name value d.entries, pairwise_insertEntry name value d.ascending⟩

/-- The dictionary of a list of bindings, the later of two for one name
winning. -/
def ofList (bindings : List (String × α)) : Dictionary α :=
  bindings.foldl (fun d b => d.insert b.1 b.2) empty

/-- What a name is bound to. -/
def get? (d : Dictionary α) (name : String) : Option α := d.entries.lookup name

/-! ### Laws -/

theorem lookup_cons_eq (e : String × α) (l : List (String × α)) (asked : String) :
    (e :: l).lookup asked = if asked = e.1 then some e.2 else l.lookup asked := by
  rw [List.lookup_cons]
  by_cases h : asked = e.1
  · rw [if_pos h, beq_iff_eq.mpr h]
  · rw [if_neg h, beq_false_of_ne h]

theorem lookup_insertEntry (name asked : String) (value : α) (l : List (String × α)) :
    (insertEntry name value l).lookup asked
      = if asked = name then some value else l.lookup asked := by
  induction l with
  | nil => simp only [insertEntry, lookup_cons_eq]
  | cons head rest ih =>
      rw [insertEntry]
      split
      · simp only [lookup_cons_eq]
      · split
        · next heq => simp only [lookup_cons_eq, ← heq]; split <;> rfl
        · next hne =>
            simp only [lookup_cons_eq, ih]
            split
            · next h => rw [if_neg fun e : asked = name => hne (e ▸ h)]
            · rfl

/-- A name is bound to what it was bound to last. -/
theorem get?_insert (d : Dictionary α) (name asked : String) (value : α) :
    (d.insert name value).get? asked
      = if asked = name then some value else d.get? asked :=
  lookup_insertEntry name asked value d.entries

theorem lookup_eq_none_of_lt {l : List (String × α)} {name : String}
    (h : ∀ e ∈ l, name < e.1) : l.lookup name = none := by
  induction l with
  | nil => rfl
  | cons head rest ih =>
      have hne : name ≠ head.1 := fun e =>
        String.lt_irrefl head.1 (e ▸ h head List.mem_cons_self)
      rw [lookup_cons_eq, if_neg hne]
      exact ih fun e he => h e (List.mem_cons_of_mem _ he)

/-- A name below the first of a list is not bound in it. -/
theorem lookup_cons_eq_none_of_lt {e : String × α} {l : List (String × α)} {name : String}
    (h : (e :: l).Pairwise fun a b => a.1 < b.1) (hlt : name < e.1) :
    (e :: l).lookup name = none :=
  lookup_eq_none_of_lt fun e' he' => by
    rcases List.mem_cons.mp he' with rfl | he'
    · exact hlt
    · exact String.lt_trans hlt (List.rel_of_pairwise_cons h he')

/-- Two lists in ascending order that bind every name alike are equal. -/
theorem eq_of_lookup_eq {l r : List (String × α)}
    (hl : l.Pairwise fun a b => a.1 < b.1) (hr : r.Pairwise fun a b => a.1 < b.1)
    (h : ∀ name, l.lookup name = r.lookup name) : l = r := by
  induction l generalizing r with
  | nil =>
      cases r with
      | nil => rfl
      | cons b bs => exact absurd (h b.1) (by simp [lookup_cons_eq])
  | cons a as ih =>
      cases r with
      | nil => exact absurd (h a.1) (by simp [lookup_cons_eq])
      | cons b bs =>
          have ha := h a.1
          have hb := h b.1
          rw [lookup_cons_eq, if_pos rfl] at ha
          rw [lookup_cons_eq b, if_pos rfl] at hb
          have hkey : a.1 = b.1 := by
            apply Classical.byContradiction
            intro hne
            by_cases hlt : a.1 < b.1
            · rw [lookup_cons_eq_none_of_lt hr hlt] at ha
              cases ha
            · rw [lookup_cons_eq_none_of_lt hl (lt_of_not_lt_of_ne hlt hne)] at hb
              cases hb
          rw [lookup_cons_eq, if_pos hkey, Option.some.injEq] at ha
          have hhead : a = b := Prod.ext hkey ha
          subst hhead
          congr 1
          apply ih hl.of_cons hr.of_cons
          intro name
          have hn := h name
          rw [lookup_cons_eq, lookup_cons_eq] at hn
          split at hn
          · next e =>
              rw [e, lookup_eq_none_of_lt fun e he => List.rel_of_pairwise_cons hl he,
                lookup_eq_none_of_lt fun e he => List.rel_of_pairwise_cons hr he]
          · exact hn

/-- A dictionary is known by what its names are bound to. -/
theorem ext_get? {d e : Dictionary α} (h : ∀ name, d.get? name = e.get? name) : d = e := by
  cases d with
  | mk l hl =>
    cases e with
    | mk r hr =>
      have : l = r := eq_of_lookup_eq hl hr h
      subst this
      rfl

end Dictionary

end Discovery
