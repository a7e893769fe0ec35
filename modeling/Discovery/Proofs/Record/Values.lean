import Discovery.Record.Codec.Endpoint
import Discovery.Record.Codec.Namespace
import Mathlib.Tactic
/-!
The values that records are made of, and what they are read as.

* `Dictionary.get?_eq_some_iff`, `Dictionary.get?_ofList`: names are bound to what the entries
  say, and the bindings of a list, if it has no name twice, to what the list says;
* `Decode.text_eq_ok_iff` and its likes: a value of a plain type is read just when it is written
  that way;
* `Json.Names`: a value that is a name, alone or as the one member of an object, bound to null;
* `ServiceType.decode_eq_ok_iff`, `NamespaceType.decode_eq_ok_iff`: variants are read off names.
-/

namespace Discovery

/-! ### Dictionaries -/

namespace Dictionary

variable {α : Type} {name : String} {value : α} {l : List (String × α)}

lemma nodup_entries (d : Dictionary α) : (d.entries.map Prod.fst).Nodup := by
  refine List.pairwise_map.mpr (d.ascending.imp fun {a b} hlt heq => ?_)
  rw [heq] at hlt
  exact String.lt_irrefl _ hlt

lemma lookup_eq_some_iff (h : (l.map Prod.fst).Nodup) :
    l.lookup name = some value ↔ (name, value) ∈ l := by
  induction l with
  | nil => simp
  | cons e rest ih =>
      obtain ⟨hnot, hrest⟩ := List.nodup_cons.mp h
      rw [lookup_cons_eq, List.mem_cons]
      split
      · next hname =>
          subst hname
          have hmem : (e.1, value) ∉ rest := fun hmem =>
            hnot (List.mem_map.mpr ⟨_, hmem, rfl⟩)
          simp only [Option.some.injEq, Prod.ext_iff, true_and, hmem, or_false, eq_comm]
      · next hname => simp only [Prod.ext_iff, hname, false_and, false_or, ih hrest]

/-- A name is bound to what its entry says. -/
lemma get?_eq_some_iff {d : Dictionary α} : d.get? name = some value ↔ (name, value) ∈ d.entries :=
  lookup_eq_some_iff d.nodup_entries

lemma get?_foldl_insert (d : Dictionary α) (h : (l.map Prod.fst).Nodup) :
    (l.foldl (fun d b => d.insert b.1 b.2) d).get? name = (l.lookup name).or (d.get? name) := by
  induction l generalizing d with
  | nil => rfl
  | cons e rest ih =>
      obtain ⟨hnot, hrest⟩ := List.nodup_cons.mp h
      rw [List.foldl_cons, ih _ hrest, get?_insert, lookup_cons_eq]
      split
      · next hname =>
          have hnone : rest.lookup name = none := by
            refine Option.eq_none_iff_forall_ne_some.mpr fun value hvalue => hnot ?_
            rw [← hname]
            exact List.mem_map.mpr ⟨_, (lookup_eq_some_iff hrest).mp hvalue, rfl⟩
          rw [hnone, Option.none_or, Option.some_or]
      · rfl

/-- A list that has no name twice binds each name as it says. -/
lemma get?_ofList (h : (l.map Prod.fst).Nodup) : (ofList l).get? name = l.lookup name := by
  rw [ofList, get?_foldl_insert _ h]
  exact Option.or_none

/-- A dictionary is that of its own entries. -/
lemma ofList_entries (d : Dictionary α) : ofList d.entries = d :=
  ext_get? fun _ => get?_ofList d.nodup_entries

/-- A list in ascending order of its names is the entries of its dictionary. -/
lemma entries_ofList (h : l.Pairwise fun a b => a.1 < b.1) : (ofList l).entries = l :=
  congrArg entries (ofList_entries ⟨l, h⟩)

end Dictionary

/-! ### Plain values -/

namespace Decode

variable {α β : Type} {v : Json}

/-- Reading in two steps succeeds just when both do. -/
lemma bind_eq_ok_iff {x : Decoded α} {f : α → Decoded β} {b : β} :
    (x >>= f) = .ok b ↔ ∃ a, x = .ok a ∧ f a = .ok b := by
  cases x <;> simp [bind, Except.bind]

lemma map_eq_ok_iff {x : Decoded α} {f : α → β} {b : β} :
    x.map f = .ok b ↔ ∃ a, x = .ok a ∧ f a = b := by
  cases x <;> simp [Except.map]

/-- A member is read if it is not there, or if its value can be read. -/
lemma field?_eq_ok_iff {m : Dictionary Json} {name : String} {decode : Json → Decoded α}
    {o : Option α} : field? m name decode = .ok o ↔ (m.get? name = none ∧ o = none) ∨
      ∃ v a, m.get? name = some v ∧ decode v = .ok a ∧ o = some a := by
  rw [field?]
  cases m.get? name with
  | none => simp [@eq_comm _ o]
  | some v => simp [map_eq_ok_iff, @eq_comm _ o]

lemma text_eq_ok_iff {s : String} : text v = .ok s ↔ v = .str s := by
  cases v <;> simp [text]

lemma flag_eq_ok_iff {b : Bool} : flag v = .ok b ↔ v = .bool b := by
  cases v <;> simp [flag]

lemma word16_eq_ok_iff {n : UInt16} : word16 v = .ok n ↔ v = .int n.toNat := by
  cases v with
  | int k =>
      have hlt := n.toNat_lt
      simp only [word16, Json.int.injEq]
      split
      · next h =>
          have hk : (UInt16.ofNat k.toNat).toNat = k.toNat :=
            UInt16.toNat_ofNat_of_lt' (by simp only [UInt16.size]; omega)
          rw [Except.ok.injEq, ← UInt16.toNat_inj, hk]
          omega
      · next h =>
          simp only [reduceCtorEq, false_iff]
          omega
  | _ => simp [word16]

lemma int64_eq_ok_iff {n : Int64} : int64 v = .ok n ↔ v = .int n.toInt := by
  cases v with
  | int k =>
      have hle := n.le_toInt
      have hlt := n.toInt_lt
      simp only [int64, Json.int.injEq]
      split
      · next h =>
          rw [Except.ok.injEq, ← Int64.toInt_inj, Int64.toInt_ofInt_of_le (by omega) (by omega)]
      · next h =>
          simp only [reduceCtorEq, false_iff]
          omega
  | _ => simp [int64]

lemma optionalText_eq_ok_iff {o : Option String} : optionalText v = .ok o ↔ v = .ofOption o := by
  cases v <;> cases o <;> simp [optionalText, text, Json.ofOption, Except.map]

lemma texts_eq_ok_iff {l : List (String × Json)} {r : List (String × String)} :
    texts l = .ok r ↔ l = r.map fun e => (e.1, .str e.2) := by
  induction l generalizing r with
  | nil => cases r <;> simp [texts]
  | cons e rest ih =>
      simp only [texts, bind_eq_ok_iff, text_eq_ok_iff, ih, Except.ok.injEq]
      constructor
      · rintro ⟨s, hs, r, rfl, rfl⟩
        rw [List.map_cons, ← hs]
      · intro h
        cases r with
        | nil => cases h
        | cons e' r =>
            cases h
            exact ⟨_, rfl, r, rfl, rfl⟩

lemma exists_texts_iff {l : List (String × Json)} :
    (∃ r, texts l = .ok r) ↔ ∀ e ∈ l, ∃ s, e.2 = .str s := by
  induction l with
  | nil => simp [texts]
  | cons e rest ih =>
      rw [List.forall_mem_cons, ← ih]
      simp only [texts, bind_eq_ok_iff, text_eq_ok_iff, Except.ok.injEq]
      exact ⟨fun ⟨_, s, hs, r, hr, _⟩ => ⟨⟨s, hs⟩, r, hr⟩,
        fun ⟨⟨s, hs⟩, r, hr⟩ => ⟨_, s, hs, r, hr, rfl⟩⟩

/-- An object of strings is read as what it binds its names to. -/
lemma textMap_eq_ok_iff {d : Dictionary String} : textMap v = .ok d ↔
    ∃ members, v = .obj members ∧
      (Dictionary.ofList members).entries = d.entries.map fun e => (e.1, .str e.2) := by
  cases v with
  | obj members =>
      simp only [textMap, map_eq_ok_iff, texts_eq_ok_iff]
      constructor
      · rintro ⟨r, hentries, rfl⟩
        have hascending := (Dictionary.ofList members).ascending
        rw [hentries, List.pairwise_map] at hascending
        exact ⟨members, rfl, by rw [hentries, Dictionary.entries_ofList hascending]⟩
      · rintro ⟨_, hmembers, hentries⟩
        cases hmembers
        exact ⟨d.entries, hentries, d.ofList_entries⟩
  | _ => simp [textMap]

end Decode

/-! ### Variants -/

/-- A value that is a name: a string, or an object that binds just this name, to null. -/
def Json.Names (v : Json) (name : String) : Prop :=
  v = .str name ∨
    ∃ members, v = .obj members ∧ (Dictionary.ofList members).entries = [(name, .null)]

namespace Decode

variable {v : Json} {name : String} {content : Option Json}

lemma unit_eq_ok_iff : unit content = .ok () ↔ content = none ∨ content = some .null := by
  rcases content with _ | v
  · simp [unit]
  · cases v <;> simp [unit]

/-- A variant without content is read off its name. -/
lemma exists_variant_iff :
    (∃ content, variant v = .ok (name, content) ∧ unit content = .ok ()) ↔ v.Names name := by
  cases v with
  | str s => simp [variant, unit_eq_ok_iff, Json.Names]
  | obj members =>
      simp only [variant, unit_eq_ok_iff, Json.Names, reduceCtorEq, false_or, Json.obj.injEq]
      constructor
      · rintro ⟨content, hvariant, hcontent⟩
        split at hvariant
        · next hentries =>
            cases hvariant
            cases hcontent.resolve_left nofun
            exact ⟨members, rfl, hentries⟩
        · cases hvariant
      · rintro ⟨_, rfl, hentries⟩
        exact ⟨some .null, by rw [hentries], .inr rfl⟩
  | _ => simp [variant, Json.Names]

end Decode

lemma ServiceType.named?_eq_some_iff {name : String} {t : ServiceType} :
    named? name = some t ↔ t.label = name := by
  by_cases hc : ServiceType.clusterSetIp.label = name
  · subst hc
    cases t <;> decide
  · by_cases hh : ServiceType.headless.label = name
    · subst hh
      cases t <;> decide
    · cases t <;> simp [named?, hc, hh]

/-- A way of exposing a service is read off its own name. -/
lemma ServiceType.decode_eq_ok_iff {v : Json} {t : ServiceType} :
    decode v = .ok t ↔ v.Names t.label := by
  rw [← Decode.exists_variant_iff, decode, Decode.bind_eq_ok_iff]
  constructor
  · rintro ⟨⟨name, content⟩, hvariant, h⟩
    dsimp only at h
    split at h
    · cases h
    · next t' hname =>
        obtain ⟨_, hunit, h⟩ := Decode.bind_eq_ok_iff.mp h
        cases h
        exact ⟨content, ServiceType.named?_eq_some_iff.mp hname ▸ hvariant, hunit⟩
  · rintro ⟨content, hvariant, hunit⟩
    refine ⟨_, hvariant, ?_⟩
    simp [ServiceType.named?_eq_some_iff.mpr rfl, hunit, bind, Except.bind]

/-- The type of a namespace is read off any name. -/
lemma NamespaceType.decode_eq_ok_iff {v : Json} {t : NamespaceType} :
    decode v = .ok t ↔ ∃ name, v.Names name ∧ named name = t := by
  simp only [← Decode.exists_variant_iff, decode, Decode.bind_eq_ok_iff, Except.ok.injEq]
  constructor
  · rintro ⟨⟨name, content⟩, hvariant, _, hunit, hname⟩
    exact ⟨name, ⟨content, hvariant, hunit⟩, hname⟩
  · rintro ⟨name, ⟨content, hvariant, hunit⟩, hname⟩
    exact ⟨_, hvariant, (), hunit, hname⟩

end Discovery
