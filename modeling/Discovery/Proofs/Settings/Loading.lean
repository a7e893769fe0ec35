import Discovery.Proofs.Settings.Bounds
import Discovery.Proofs.Settings.Numeral
/-!
What settings come of variables.

* `Variable.scale`, `Variable.Fits`: the unit that a variable counts in, and the numbers that
  its setting can be;
* `Variable.Says`: what the text of a variable comes to, a number, none, or a fault;
* `Variable.says_iff`: it comes to just one of them, which is what is read;
* `Settings.number`, `Settings.set`: the number that a setting is, and a setting changed;
* `Settings.loadFrom_of_ok`, `Settings.loadFrom_of_fault`: variables in turn, up to the first
  fault;
* `Settings.load_eq_iff`: all six of them.
-/

namespace Discovery

namespace Variable

lemma mem_all (var : Variable) : var ∈ all := by
  cases var <;> decide

lemma nodup_all : all.Nodup := by decide

variable {var : Variable} {text : Option String} {raw : String} {v : ℕ}
  {result : Except Fault (Option ℕ)}

/-! ### Texts of variables -/

/-- What a variable counts: nanoseconds in a second or in a millisecond, or things. -/
def scale : Variable → ℕ
  | .namespaceTtl | .serviceTtl => 1000000000
  | .endpointTtl | .pollInterval => 1000000
  | .cacheCapacity | .pollAttempts => 1

/-- A number is one that the setting of a variable can be. -/
def Fits (var : Variable) (v : ℕ) : Prop :=
  match var with
  | .namespaceTtl | .serviceTtl | .endpointTtl => v * var.scale ≤ Store.maxTtl.toNanos
  | .pollAttempts => v < UInt32.size
  | .cacheCapacity | .pollInterval => True

instance (v : ℕ) : (var : Variable) → Decidable (var.Fits v)
  | .namespaceTtl | .serviceTtl | .endpointTtl => Nat.decLe _ _
  | .pollAttempts => Nat.decLt _ _
  | .cacheCapacity | .pollInterval => .isTrue trivial

/-- What is wrong with a number that does not fit. -/
def unfit (var : Variable) (v : ℕ) : Fault :=
  match var with
  | .pollAttempts => .notPositive .pollAttempts (toString v)
  | var => .ttlTooLarge var

/-- What the text of a variable comes to. -/
inductive Says (var : Variable) : Option String → Except Fault (Option ℕ) → Prop
  | unset : Says var none (.ok none)
  | blank {raw : String} (hblank : Blank raw) : Says var (some raw) (.ok none)
  | number {raw : String} {v : ℕ} (hspells : Spells raw v) (hpos : 0 < v)
      (hlt : v < UInt64.size) (hfits : var.Fits v) : Says var (some raw) (.ok (some v))
  | unfit {raw : String} {v : ℕ} (hspells : Spells raw v) (hpos : 0 < v)
      (hlt : v < UInt64.size) (hfits : ¬ var.Fits v) : Says var (some raw) (.error (var.unfit v))
  | garbled {raw : String} (hblank : ¬ Blank raw)
      (hnone : ∀ v, Spells raw v → ¬ (0 < v ∧ v < UInt64.size)) :
      Says var (some raw) (.error (.notPositive var raw))

/-- Every text comes to something. -/
lemma exists_result (var : Variable) (text : Option String) : ∃ result, var.Says text result := by
  cases text with
  | none => exact ⟨_, .unset⟩
  | some raw =>
      by_cases hblank : Blank raw
      · exact ⟨_, .blank hblank⟩
      by_cases hnumber : ∃ v, Spells raw v ∧ 0 < v ∧ v < UInt64.size
      · obtain ⟨v, hspells, hpos, hlt⟩ := hnumber
        by_cases hfits : var.Fits v
        · exact ⟨_, .number hspells hpos hlt hfits⟩
        · exact ⟨_, .unfit hspells hpos hlt hfits⟩
      · exact ⟨_, .garbled hblank fun v hspells hv => hnumber ⟨v, hspells, hv⟩⟩

/-- The number that is read of a variable, if its setting can be that. -/
def reading (var : Variable) (text : Option String) : Except Fault (Option ℕ) := do
  match ← var.positive text with
  | none => .ok none
  | some n => if var.Fits n.toNat then .ok (some n.toNat) else .error (var.unfit n.toNat)

lemma positive_of_blank (h : Blank raw) : var.positive (some raw) = .ok none := by
  rw [positive, if_pos (List.isEmpty_iff.mpr (Text.trim_eq_nil_iff.mpr h))]

lemma positive_of_spells (hspells : Spells raw v) (hpos : 0 < v) (hlt : v < UInt64.size) :
    var.positive (some raw) = .ok (some (UInt64.ofNat v)) := by
  have hblank : (Text.trim raw.toList).isEmpty = false :=
    List.isEmpty_eq_false_iff.mpr fun h => hspells.not_blank (Text.trim_eq_nil_iff.mp h)
  simp [positive, hblank, spells_iff.mp hspells, hpos, hlt]

lemma positive_of_garbled (hblank : ¬ Blank raw)
    (hnone : ∀ v, Spells raw v → ¬ (0 < v ∧ v < UInt64.size)) :
    var.positive (some raw) = .error (.notPositive var raw) := by
  have hblank : (Text.trim raw.toList).isEmpty = false :=
    List.isEmpty_eq_false_iff.mpr fun h => hblank (Text.trim_eq_nil_iff.mp h)
  cases hdigits : signedDigits? (Text.trim raw.toList) with
  | none => simp [positive, hblank, hdigits]
  | some v => simp [positive, hblank, hdigits, hnone v (spells_iff.mpr hdigits)]

lemma reading_eq (h : var.Says text result) : var.reading text = result := by
  cases h with
  | unset => rfl
  | blank hblank =>
      rw [reading, positive_of_blank hblank]
      rfl
  | number hspells hpos hlt hfits =>
      rw [reading, positive_of_spells hspells hpos hlt]
      simp [bind, Except.bind, UInt64.toNat_ofNat_of_lt' hlt, hfits]
  | unfit hspells hpos hlt hfits =>
      rw [reading, positive_of_spells hspells hpos hlt]
      simp [bind, Except.bind, UInt64.toNat_ofNat_of_lt' hlt, hfits]
  | garbled hblank hnone =>
      rw [reading, positive_of_garbled hblank hnone]
      rfl

/-- The text of a variable comes to what is read of it, and to nothing else. -/
lemma says_iff : var.Says text result ↔ var.reading text = result := by
  refine ⟨reading_eq, ?_⟩
  rintro rfl
  obtain ⟨result, h⟩ := exists_result var text
  rwa [reading_eq h]

end Variable

/-! ### Settings -/

namespace Settings

variable {s s' : Settings} {var other : Variable} {vars : List Variable} {text : Option String}
  {lookup lookup' : String → Option String} {n : UInt64}

/-- The number that the setting of a variable is; times are counted in nanoseconds. -/
def number (s : Settings) : Variable → ℕ
  | .cacheCapacity => s.cache.capacity.toNat
  | .namespaceTtl => s.cache.namespaceTtl.toNanos
  | .serviceTtl => s.cache.serviceTtl.toNanos
  | .endpointTtl => s.cache.endpointTtl.toNanos
  | .pollInterval => s.cleanup.interval.toNanos
  | .pollAttempts => s.cleanup.attempts.toNat

/-- Settings are known by their numbers. -/
lemma number_injective : Function.Injective number := by
  intro s s' h
  obtain ⟨⟨capacity, namespaceTtl, serviceTtl, endpointTtl⟩, interval, attempts⟩ := s
  obtain ⟨⟨capacity', namespaceTtl', serviceTtl', endpointTtl'⟩, interval', attempts'⟩ := s'
  obtain rfl : capacity = capacity' := UInt64.toNat_inj.mp (congrFun h .cacheCapacity)
  obtain rfl : namespaceTtl = namespaceTtl' := Duration.toNanos_inj (congrFun h .namespaceTtl)
  obtain rfl : serviceTtl = serviceTtl' := Duration.toNanos_inj (congrFun h .serviceTtl)
  obtain rfl : endpointTtl = endpointTtl' := Duration.toNanos_inj (congrFun h .endpointTtl)
  obtain rfl : interval = interval' := Duration.toNanos_inj (congrFun h .pollInterval)
  obtain rfl : attempts = attempts' := UInt32.toNat_inj.mp (congrFun h .pollAttempts)
  rfl

/-- Settings with that of one variable changed. -/
def set (s : Settings) (n : UInt64) : Variable → Settings
  | .cacheCapacity => { s with cache.capacity := n }
  | .namespaceTtl => { s with cache.namespaceTtl := .ofSecs n }
  | .serviceTtl => { s with cache.serviceTtl := .ofSecs n }
  | .endpointTtl => { s with cache.endpointTtl := .ofMillis n }
  | .pollInterval => { s with cleanup.interval := .ofMillis n }
  | .pollAttempts => { s with cleanup.attempts := n.toUInt32 }

lemma number_set_self (h : var.Fits n.toNat) :
    (s.set n var).number var = n.toNat * var.scale := by
  cases var with
  | cacheCapacity => exact (Nat.mul_one _).symm
  | namespaceTtl | serviceTtl => exact Duration.toNanos_ofSecs n
  | endpointTtl | pollInterval => exact Duration.toNanos_ofMillis n
  | pollAttempts =>
      have hlt : n.toNat < UInt32.size := h
      show n.toUInt32.toNat = n.toNat * 1
      rw [UInt64.toNat_toUInt32, Nat.mod_eq_of_lt hlt, Nat.mul_one]

lemma number_set_of_ne (h : other ≠ var) : (s.set n var).number other = s.number other := by
  cases var <;> cases other <;> first | exact absurd rfl h | rfl

/-- A time to live is accepted just when its number fits. -/
lemma ttl_eq {unit : UInt64 → Duration} (hnumber : var.positive text = .ok (some n))
    (hunit : (unit n).toNanos = n.toNat * var.scale)
    (hfits : var.Fits n.toNat ↔ n.toNat * var.scale ≤ Store.maxTtl.toNanos) :
    var.ttl unit text =
      if var.Fits n.toNat then .ok (some (unit n)) else .error (.ttlTooLarge var) := by
  have hlt : Store.maxTtl < unit n ↔ ¬ var.Fits n.toNat := by
    rw [hfits, Duration.lt_iff_toNanos_lt, hunit, not_le]
  simp only [Variable.ttl, hnumber, bind, Except.bind, hlt, ite_not]

/-- A number that fits is what the setting of its variable becomes. -/
lemma assign_of_positive (s : Settings) (hnumber : var.positive text = .ok (some n)) :
    s.assign var text =
      if var.Fits n.toNat then .ok (s.set n var) else .error (var.unfit n.toNat) := by
  cases var with
  | cacheCapacity | pollInterval | pollAttempts =>
      rw [assign, hnumber]
      rfl
  | namespaceTtl | serviceTtl =>
      rw [assign, ttl_eq hnumber (Duration.toNanos_ofSecs n) Iff.rfl]
      split <;> rfl
  | endpointTtl =>
      rw [assign, ttl_eq hnumber (Duration.toNanos_ofMillis n) Iff.rfl]
      split <;> rfl

/-- Settings are changed by what is read of a variable, and by that only. -/
lemma assign_eq (s : Settings) (var : Variable) (text : Option String) :
    s.assign var text = (var.reading text).map fun value =>
      value.elim s fun v => s.set (.ofNat v) var := by
  rw [Variable.reading]
  rcases hnumber : var.positive text with fault | _ | n
  · cases var <;> simp [assign, Variable.ttl, hnumber, bind, Except.bind, Except.map]
  · cases var <;> simp [assign, Variable.ttl, hnumber, bind, Except.bind, Except.map]
  · rw [assign_of_positive s hnumber]
    by_cases hfits : var.Fits n.toNat <;> simp [bind, Except.bind, Except.map, hfits]

/-- A variable that is not faulty makes its setting the number that it says, if it says one,
and leaves the others as they are. -/
lemma assign_of_ok {value : Option ℕ} (h : var.Says text (.ok value)) (s : Settings) :
    ∃ s', s.assign var text = .ok s' ∧
      s'.number var = (value.map (· * var.scale)).getD (s.number var) ∧
      ∀ other, other ≠ var → s'.number other = s.number other := by
  refine ⟨value.elim s fun v => s.set (.ofNat v) var, ?_, ?_⟩
  · rw [assign_eq, Variable.says_iff.mp h]
    rfl
  · cases h with
    | unset | blank => exact ⟨rfl, fun _ _ => rfl⟩
    | @number raw v hspells hpos hlt hfits =>
        have hn : (UInt64.ofNat v).toNat = v := UInt64.toNat_ofNat_of_lt' hlt
        refine ⟨?_, fun other hother => number_set_of_ne hother⟩
        exact (number_set_self (hn.symm ▸ hfits)).trans (by rw [hn]; rfl)

/-! ### Variables in turn -/

/-- Variables that are not faulty are all asked for. Each setting is the number that its variable
says, or what it was. -/
lemma loadFrom_of_ok {values : Variable → Option ℕ} (hvars : vars.Nodup)
    (h : ∀ var ∈ vars, var.Says (lookup var.name) (.ok (values var))) (s : Settings) :
    ∃ s', loadFrom lookup vars s = (vars, .ok s') ∧ ∀ var, s'.number var =
      if var ∈ vars then ((values var).map (· * var.scale)).getD (s.number var)
      else s.number var := by
  induction vars generalizing s with
  | nil => exact ⟨s, rfl, by simp⟩
  | cons var rest ih =>
      obtain ⟨hvalue, hrest⟩ := List.forall_mem_cons.mp h
      obtain ⟨hvar, hnodup⟩ := List.nodup_cons.mp hvars
      obtain ⟨next, hassign, hself, hothers⟩ := assign_of_ok hvalue s
      obtain ⟨last, hload, hnumber⟩ := ih hnodup hrest next
      refine ⟨last, by simp [loadFrom, hassign, hload], fun other => ?_⟩
      rw [hnumber]
      by_cases hother : other = var
      · subst hother
        simp [hvar, hself]
      · simp [hother, hothers other hother]

/-- Of the variables that are asked for, the first faulty one is the last. -/
lemma loadFrom_of_fault {before after : List Variable} {fault : Fault}
    (hbefore : ∀ other ∈ before, ∃ value, other.Says (lookup other.name) (.ok value))
    (hvar : var.Says (lookup var.name) (.error fault)) (s : Settings) :
    loadFrom lookup (before ++ var :: after) s = (before ++ [var], .error fault) := by
  induction before generalizing s with
  | nil =>
      rw [List.nil_append, loadFrom, assign_eq, Variable.says_iff.mp hvar]
      rfl
  | cons other rest ih =>
      obtain ⟨⟨value, hvalue⟩, hrest⟩ := List.forall_mem_cons.mp hbefore
      rw [List.cons_append, loadFrom, assign_eq, Variable.says_iff.mp hvalue]
      simp [Except.map, ih hrest]

/-- Of variables, none is faulty, or one of them is the first. -/
lemma exists_first_fault (lookup : String → Option String) (vars : List Variable) :
    (∀ var ∈ vars, ∃ value, var.Says (lookup var.name) (.ok value)) ∨
      ∃ before var after fault, vars = before ++ var :: after ∧
        (∀ other ∈ before, ∃ value, other.Says (lookup other.name) (.ok value)) ∧
        var.Says (lookup var.name) (.error fault) := by
  induction vars with
  | nil => exact .inl nofun
  | cons var rest ih =>
      obtain ⟨fault | value, hvalue⟩ := var.exists_result (lookup var.name)
      · exact .inr ⟨[], var, rest, fault, rfl, nofun, hvalue⟩
      rcases ih with hrest | ⟨before, other, after, fault, rfl, hbefore, hother⟩
      · exact .inl (List.forall_mem_cons.mpr ⟨⟨value, hvalue⟩, hrest⟩)
      · exact .inr ⟨var :: before, other, after, fault, rfl,
          List.forall_mem_cons.mpr ⟨⟨value, hvalue⟩, hbefore⟩, hother⟩

/-- Nothing but what is asked for matters. -/
lemma loadFrom_congr
    (h : ∀ var ∈ (loadFrom lookup vars s).1, lookup' var.name = lookup var.name) :
    loadFrom lookup' vars s = loadFrom lookup vars s := by
  induction vars generalizing s with
  | nil => rfl
  | cons var rest ih =>
      have hvar : lookup' var.name = lookup var.name := by
        refine h var ?_
        rw [loadFrom]
        split <;> exact List.mem_cons_self ..
      rw [loadFrom, loadFrom, hvar]
      cases hassign : s.assign var (lookup var.name) with
      | error fault => rfl
      | ok next =>
          have hrest := ih (s := next) fun other hother => h other (by
            simpa [loadFrom, hassign] using .inr hother)
          simp only [hrest]

/-! ### All variables -/

/-- If no variable is faulty, each setting is the number that its variable says, or the standard
one. -/
lemma load_of_ok {values : Variable → Option ℕ}
    (h : ∀ var : Variable, var.Says (lookup var.name) (.ok (values var))) :
    ∃ s, load lookup = (Variable.all, .ok s) ∧
      ∀ var, s.number var = ((values var).map (· * var.scale)).getD (standard.number var) := by
  obtain ⟨s, hload, hnumber⟩ :=
    loadFrom_of_ok Variable.nodup_all (fun var _ => h var) standard
  exact ⟨s, hload, fun var => by rw [hnumber, if_pos var.mem_all]⟩

/-- A variable says a number, or that it is not set, or it is faulty, and just one of these. If
none of the six is faulty, all of them are asked for in turn, and each setting is the number that
its variable says, or the standard one; such settings are within the bounds. Otherwise the first
faulty variable is the last that is asked for, and its fault is the answer. Nothing else is
asked for. -/
theorem load_eq_iff (lookup : String → Option String) :
    (∀ var : Variable, ∃! result, var.Says (lookup var.name) result) ∧
    (∀ asked s, load lookup = (asked, .ok s) ↔
      asked = [.cacheCapacity, .namespaceTtl, .serviceTtl, .endpointTtl, .pollInterval,
        .pollAttempts] ∧
      ∀ var : Variable, ∃ value, var.Says (lookup var.name) (.ok value) ∧
        s.number var = (value.map (· * var.scale)).getD (standard.number var)) ∧
    (∀ asked fault, load lookup = (asked, .error fault) ↔
      ∃ before var after, Variable.all = before ++ var :: after ∧ asked = before ++ [var] ∧
        (∀ other ∈ before, ∃ value, other.Says (lookup other.name) (.ok value)) ∧
        var.Says (lookup var.name) (.error fault)) ∧
    (∀ s, (load lookup).2 = .ok s → s.Bounded) ∧
    ∀ lookup', (∀ var ∈ (load lookup).1, lookup' var.name = lookup var.name) →
      load lookup' = load lookup := by
  refine ⟨fun var => ?_, fun asked s => ⟨fun h => ?_, ?_⟩, fun asked fault => ⟨fun h => ?_, ?_⟩,
    fun s h => bounded_load h, fun lookup' h => loadFrom_congr h⟩
  · exact ⟨_, Variable.says_iff.mpr rfl, fun result h => (Variable.says_iff.mp h).symm⟩
  · rcases exists_first_fault lookup Variable.all with
      hall | ⟨before, var, after, fault, hvars, hbefore, hvar⟩
    · choose values hvalues using fun var => hall var (Variable.mem_all var)
      obtain ⟨s', hload, hnumber⟩ := load_of_ok hvalues
      cases h.symm.trans hload
      exact ⟨rfl, fun var => ⟨values var, hvalues var, hnumber var⟩⟩
    · rw [load, hvars, loadFrom_of_fault hbefore hvar] at h
      cases h
  · rintro ⟨rfl, hall⟩
    choose values hvalues hnumber using hall
    obtain ⟨s', hload, hnumber'⟩ := load_of_ok hvalues
    obtain rfl : s' = s := number_injective (funext fun var => by rw [hnumber, hnumber'])
    exact hload
  · rcases exists_first_fault lookup Variable.all with
      hall | ⟨before, var, after, fault', hvars, hbefore, hvar⟩
    · choose values hvalues using fun var => hall var (Variable.mem_all var)
      obtain ⟨s', hload, -⟩ := load_of_ok hvalues
      cases h.symm.trans hload
    · rw [load, hvars, loadFrom_of_fault hbefore hvar] at h
      cases h
      exact ⟨before, var, after, hvars, rfl, hbefore, hvar⟩
  · rintro ⟨before, var, after, hvars, rfl, hbefore, hvar⟩
    rw [load, hvars, loadFrom_of_fault hbefore hvar]

/-- A second more than a year is too long, with blanks around it, a plus sign and a zero. -/
example : load (fun name => if name = Variable.serviceTtl.name then some " +031536001\n" else none) =
    ([.cacheCapacity, .namespaceTtl, .serviceTtl], .error (.ttlTooLarge .serviceTtl)) := by
  decide

end Settings

end Discovery
