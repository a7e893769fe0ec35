import Discovery.Proofs.Settings.Loading
/-!
Settings written into variables, and read back.

* `Style`, `Style.write`: a number in decimal digits, with zeros in front, a plus sign and blanks
  around it, or without;
* `Slot`, `Slot.text`: what a variable is set to, if it is;
* `Variable.limit`, `Settings.count`: the largest number of a variable, and the number of a setting,
  both in the unit of the variable;
* `Settings.Writable`: settings that numbers of their variables can stand for;
* `Settings.writable_of_load`: these are all the settings that are ever read;
* `Settings.load_write`: they are read back, and what is not written is standard.
-/

namespace Discovery

/-! ### Numbers -/

/-- Zeros in front of the digits of a number change nothing. -/
lemma Decimal.natural?_replicate_append (zeros v : ℕ) :
    natural? (List.replicate zeros '0' ++ Nat.toDigits 10 v) = some v := by
  induction zeros with
  | zero => exact natural?_toDigits v
  | succ zeros ih =>
      have hne : List.replicate zeros '0' ++ Nat.toDigits 10 v ≠ [] :=
        List.append_ne_nil_of_right_ne_nil _ Nat.toDigits_ne_nil
      rw [List.replicate_succ, List.cons_append, natural?_zero_cons hne, ih]

/-- How a number is written: the blanks around it, whether it has a plus sign, and the zeros in
front of its digits. -/
structure Style where
  before : List Char
  plus : Bool
  zeros : ℕ
  after : List Char
  blank_before : ∀ c ∈ before, Text.isBlank c
  blank_after : ∀ c ∈ after, Text.isBlank c

namespace Style

/-- The sign and the digits of a number. -/
def numeral (style : Style) (v : ℕ) : List Char :=
  let digits := List.replicate style.zeros '0' ++ Nat.toDigits 10 v
  if style.plus then '+' :: digits else digits

/-- The text of a number. -/
def write (style : Style) (v : ℕ) : String :=
  String.ofList (style.before ++ style.numeral v ++ style.after)

/-- A number in digits and nothing else. -/
def bare : Style := ⟨[], false, 0, [], nofun, nofun⟩

lemma numeral_worth (style : Style) (v : ℕ) : Numeral (style.numeral v) v := by
  obtain ⟨hne, hdigits, hvalue⟩ :=
    Decimal.natural?_eq_some_iff.mp (Decimal.natural?_replicate_append style.zeros v)
  rw [numeral]
  split
  · simpa only [hvalue] using Numeral.signed hne hdigits
  · simpa only [hvalue] using Numeral.plain hne hdigits

/-- In every style, the text of a number spells that number. -/
lemma spells_write (style : Style) (v : ℕ) : Spells (style.write v) v :=
  ⟨style.before, style.numeral v, style.after, String.toList_ofList, style.blank_before,
    style.blank_after, style.numeral_worth v⟩

end Style

/-! ### Variables -/

/-- What is done with a variable: it is left alone, set to blanks, or to its number. -/
inductive Slot
  | unset
  | blank (raw : String) (hblank : Blank raw)
  | written (style : Style)

namespace Slot

/-- Whether the variable is set to its number. -/
def holds : Slot → Bool
  | unset | blank .. => false
  | written _ => true

/-- The text of a variable with a given number. -/
def text (slot : Slot) (v : ℕ) : Option String :=
  match slot with
  | unset => none
  | blank raw _ => some raw
  | written style => some (style.write v)

end Slot

namespace Variable

variable {var : Variable} {v : ℕ}

/-- The largest number of a variable: all that 64 bits hold, a year in seconds or in milliseconds,
or all that 32 bits hold. -/
def limit : Variable → ℕ
  | cacheCapacity | pollInterval => 18446744073709551615
  | namespaceTtl | serviceTtl => 31536000
  | endpointTtl => 31536000000
  | pollAttempts => 4294967295

lemma le_limit_iff : v ≤ var.limit ↔ v < UInt64.size ∧ var.Fits v := by
  have hyear : Store.maxTtl.toNanos = 31536000000000000 := by decide
  cases var with
  | cacheCapacity | pollInterval => simp only [limit, Fits, UInt64.size, and_true]; omega
  | namespaceTtl | serviceTtl | endpointTtl =>
      simp only [limit, Fits, scale, hyear, UInt64.size]; omega
  | pollAttempts => simp only [limit, Fits, UInt64.size, UInt32.size]; omega

/-- A number that a variable says is within its limit. -/
lemma le_limit_of_says {text : Option String} (h : var.Says text (.ok (some v))) :
    1 ≤ v ∧ v ≤ var.limit := by
  cases h with
  | number hspells hpos hlt hfits => exact ⟨hpos, le_limit_iff.mpr ⟨hlt, hfits⟩⟩

/-- Whatever is done with a variable, it says the number that it is set to, or none. -/
lemma says_text (hpos : 1 ≤ v) (hle : v ≤ var.limit) (slot : Slot) :
    var.Says (slot.text v) (.ok (if slot.holds then some v else none)) := by
  obtain ⟨hlt, hfits⟩ := le_limit_iff.mp hle
  cases slot with
  | unset => exact .unset
  | blank raw hblank => exact .blank hblank
  | written style => exact .number (style.spells_write v) hpos hlt hfits

end Variable

/-! ### Settings -/

namespace Settings

variable {s : Settings} {var : Variable} {lookup : String → Option String}

/-- The number of a setting, in the unit of its variable. -/
def count (s : Settings) (var : Variable) : ℕ := s.number var / var.scale

/-- Settings that are whole numbers in the units of their variables, from one up to the limits. -/
structure Writable (s : Settings) : Prop where
  whole : ∀ var, s.number var = s.count var * var.scale
  pos : ∀ var, 1 ≤ s.count var
  le_limit : ∀ var, s.count var ≤ var.limit

/-- Settings of which some are given, and the others are standard. -/
def filledIn (s : Settings) (given : Variable → Bool) : Settings :=
  let source (var : Variable) : Settings := if given var then s else standard
  { cache.capacity := (source .cacheCapacity).cache.capacity
    cache.namespaceTtl := (source .namespaceTtl).cache.namespaceTtl
    cache.serviceTtl := (source .serviceTtl).cache.serviceTtl
    cache.endpointTtl := (source .endpointTtl).cache.endpointTtl
    cleanup.interval := (source .pollInterval).cleanup.interval
    cleanup.attempts := (source .pollAttempts).cleanup.attempts }

lemma number_filledIn (s : Settings) (given : Variable → Bool) (var : Variable) :
    (s.filledIn given).number var = if given var then s.number var else standard.number var := by
  rw [← apply_ite fun source : Settings => source.number var]
  cases var <;> rfl

lemma filledIn_eq_self {given : Variable → Bool} (h : ∀ var, given var) : s.filledIn given = s :=
  number_injective (funext fun var => by rw [number_filledIn, if_pos (h var)])

lemma Writable.of_counts
    (h : ∀ var, ∃ v, s.number var = v * var.scale ∧ 1 ≤ v ∧ v ≤ var.limit) : s.Writable := by
  have hcount : ∀ var, s.number var = s.count var * var.scale ∧ 1 ≤ s.count var ∧
      s.count var ≤ var.limit := by
    intro var
    obtain ⟨v, hnumber, hpos, hle⟩ := h var
    have hscale : 0 < var.scale := by cases var <;> decide
    have hv : s.count var = v := by rw [count, hnumber, Nat.mul_div_cancel _ hscale]
    rw [hv]
    exact ⟨hnumber, hpos, hle⟩
  exact ⟨fun var => (hcount var).1, fun var => (hcount var).2.1, fun var => (hcount var).2.2⟩

/-- Settings that are accepted can be written out. -/
lemma writable_of_load (h : (load lookup).2 = .ok s) : s.Writable := by
  refine .of_counts fun var => ?_
  rcases exists_first_fault lookup Variable.all with
    hall | ⟨before, faulty, after, fault, hvars, hbefore, hfaulty⟩
  · choose values hvalues using fun var => hall var (Variable.mem_all var)
    obtain ⟨s', hload, hnumber⟩ := load_of_ok hvalues
    cases h.symm.trans (congrArg Prod.snd hload)
    rw [hnumber]
    cases hvalue : values var with
    | none => exact ⟨standard.count var, by cases var <;> decide⟩
    | some v => exact ⟨v, rfl, Variable.le_limit_of_says (hvalue ▸ hvalues var)⟩
  · rw [load, hvars, loadFrom_of_fault hbefore hfaulty] at h
    cases h

/-- Settings that can be written out are read back. Each number may have blanks around it, a plus
sign and zeros in front; a setting whose variable is not set, or is set to blanks, is the standard
one. -/
theorem load_write (hs : s.Writable) (slots : Variable → Slot)
    (hlookup : ∀ var : Variable, lookup var.name = (slots var).text (s.count var)) :
    load lookup = (Variable.all, .ok (s.filledIn fun var => (slots var).holds)) ∧
    ((∀ var, (slots var).holds) → load lookup = (Variable.all, .ok s)) := by
  have hsays : ∀ var : Variable, var.Says (lookup var.name)
      (.ok (if (slots var).holds then some (s.count var) else none)) := by
    intro var
    rw [hlookup]
    exact Variable.says_text (hs.pos var) (hs.le_limit var) (slots var)
  obtain ⟨s', hload, hnumber⟩ := load_of_ok hsays
  have heq : s' = s.filledIn fun var => (slots var).holds := by
    refine number_injective (funext fun var => ?_)
    rw [hnumber, number_filledIn, hs.whole]
    cases (slots var).holds <;> rfl
  rw [hload, heq]
  exact ⟨rfl, fun hall => by rw [filledIn_eq_self hall]⟩

/-- The largest settings, two of which are left standard: one is written with a wide blank, a plus
sign and two zeros. -/
theorem load_write_largest :
    load (fun name =>
      if name = Variable.cacheCapacity.name then some "\u3000+0018446744073709551615\n"
      else if name = Variable.serviceTtl.name then some "\t"
      else if name = Variable.endpointTtl.name then some "31536000000"
      else if name = Variable.pollInterval.name then some "18446744073709551615"
      else if name = Variable.pollAttempts.name then some "4294967295"
      else none) =
    (Variable.all, .ok ⟨⟨18446744073709551615, .ofSecs 120, .ofSecs 120, .ofSecs 31536000⟩,
      .ofMillis 18446744073709551615, 4294967295⟩) := by
  have hs : Writable ⟨⟨18446744073709551615, .ofSecs 31536000, .ofSecs 31536000,
      .ofMillis 31536000000⟩, .ofMillis 18446744073709551615, 4294967295⟩ :=
    ⟨fun var => by cases var <;> decide, fun var => by cases var <;> decide,
      fun var => by cases var <;> decide⟩
  refine (load_write hs
    (fun var =>
      if var = .cacheCapacity then .written ⟨['\u3000'], true, 2, ['\n'],
        List.all_eq_true.mp (by decide), List.all_eq_true.mp (by decide)⟩
      else if var = .namespaceTtl then .unset
      else if var = .serviceTtl then .blank "\t" (List.all_eq_true.mp (by decide))
      else .written .bare)
    fun var => ?_).1
  cases var <;> decide

end Settings

end Discovery
