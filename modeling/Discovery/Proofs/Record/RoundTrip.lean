import Discovery.Proofs.Record.Contents
/-!
Writing records and reading them back.

* `rewritten`: what a value is read as, written anew;
* `RoundTrips`: what is written is read back, so that rewriting brings a value into a normal form;
* `get?_ofList_eq_lookup`: the cells of an object that was written are its members;
* `Namespace.decode_encode`, `Port.decode_encode`, `Endpoint.decode_encode`: records are read back;
* `records_round_trip`: records and their variants make the round trip.
-/

namespace Discovery

/-! ### Normal forms -/

/-- What a value is read as, written anew. -/
def rewritten {α : Type} (encode : α → Json) (decode : Json → Decoded α) (v : Json) :
    Decoded Json :=
  (decode v).map encode

/-- What is written is read back. Once it is rewritten, a value is read as before, and it does not
change when it is rewritten again; two values are rewritten alike just when they are read alike. -/
structure RoundTrips {α : Type} (encode : α → Json) (decode : Json → Decoded α) : Prop where
  decode_encode : ∀ a, decode (encode a) = .ok a
  decode_rewritten : ∀ v w, rewritten encode decode v = .ok w → decode w = decode v
  rewritten_rewritten : ∀ v w,
    rewritten encode decode v = .ok w → rewritten encode decode w = .ok w
  rewritten_eq_iff : ∀ v w,
    rewritten encode decode v = rewritten encode decode w ↔ decode v = decode w

section

variable {α β : Type} {encode : α → Json} {decode : Json → Decoded α}

lemma Decode.map_injective {f : α → β} (hf : Function.Injective f) :
    Function.Injective fun x : Decoded α => x.map f := by
  intro x y h
  cases x <;> cases y <;>
    simp only [Except.map, Except.ok.injEq, Except.error.injEq, reduceCtorEq] at h ⊢
  · exact h
  · exact hf h

lemma injective_of_decode_encode (h : ∀ a, decode (encode a) = .ok a) :
    Function.Injective encode := by
  intro a b hab
  exact Except.ok.inj (by rw [← h a, ← h b, hab])

/-- All of the round trip follows from what is written being read back. -/
lemma RoundTrips.of_decode_encode (h : ∀ a, decode (encode a) = .ok a) :
    RoundTrips encode decode := by
  have hread (v w : Json) (hw : rewritten encode decode v = .ok w) : decode w = decode v := by
    obtain ⟨a, hv, rfl⟩ := Decode.map_eq_ok_iff.mp hw
    rw [h, hv]
  refine ⟨h, hread, fun v w hw => ?_, fun v w => ?_⟩
  · rw [rewritten, hread v w hw]
    exact hw
  · exact (Decode.map_injective (injective_of_decode_encode h)).eq_iff

end

/-! ### Variants -/

lemma ServiceType.decode_encode (t : ServiceType) : decode t.encode = .ok t :=
  decode_eq_ok_iff.mpr (.inl rfl)

lemma NamespaceType.named_label (t : NamespaceType) : named t.label = t := by
  cases t <;> decide

lemma NamespaceType.decode_encode (t : NamespaceType) : decode t.encode = .ok t :=
  decode_eq_ok_iff.mpr ⟨t.label, .inl rfl, t.named_label⟩

/-! ### Records -/

lemma Shape.nodup_names (shape : Shape) : (shape.fields.map Field.name).Nodup := by
  cases shape <;> decide

/-- An object that has just the fields of a record for members, in their order, binds each to what
it says. -/
lemma get?_ofList_eq_lookup (shape : Shape) {members : List (String × Json)}
    (h : members.map Prod.fst = shape.fields.map Field.name) :
    (Dictionary.ofList members).get? = (members.lookup ·) :=
  funext fun _ => Dictionary.get?_ofList (h ▸ shape.nodup_names)

lemma Namespace.decode_encode (ns : Namespace) : decode ns.encode = .ok ns := by
  refine ofMembers_eq_ok_iff.mpr ?_
  rw [get?_ofList_eq_lookup .namespaceRecord rfl]
  refine ⟨.given ?_, .given ?_, .given ?_⟩
  · exact Decode.text_eq_ok_iff.mpr rfl
  · exact Decode.text_eq_ok_iff.mpr rfl
  · exact ns.type.decode_encode

lemma Port.decode_encode (p : Port) : decode p.encode = .ok p := by
  refine ofMembers_eq_ok_iff.mpr ?_
  rw [get?_ofList_eq_lookup .port rfl]
  refine ⟨.given ?_, .given ?_, .given ?_, .given ?_⟩
  · exact Decode.text_eq_ok_iff.mpr rfl
  · exact (Decode.word16_eq_ok_iff (v := .int p.number.toNat)).mpr rfl
  · exact Decode.text_eq_ok_iff.mpr rfl
  · exact Decode.text_eq_ok_iff.mpr rfl

/-- Attributes are written in the order of their names, so none hides another. -/
lemma Endpoint.textMap_encodeAttributes (d : Dictionary String) :
    Decode.textMap (encodeAttributes d) = .ok d := by
  have hascending : (d.entries.map fun e => (e.1, Json.str e.2)).Pairwise fun a b => a.1 < b.1 :=
    List.pairwise_map.mpr d.ascending
  exact Decode.textMap_eq_ok_iff.mpr ⟨_, rfl, Dictionary.entries_ofList hascending⟩

lemma Endpoint.decode_encode (e : Endpoint) : decode e.encode = .ok e := by
  refine ofMembers_eq_ok_iff.mpr ?_
  rw [get?_ofList_eq_lookup .endpoint rfl]
  refine ⟨.given ?_, .given ?_, .given ?_, .given ?_, .given ?_, .given ?_, .given ?_, .given ?_,
    .given ?_, .given ?_, .given ?_, .given ?_⟩
  · exact Decode.text_eq_ok_iff.mpr rfl
  · exact Decode.text_eq_ok_iff.mpr rfl
  · exact e.endpointPort.decode_encode
  · exact e.servicePort.decode_encode
  · exact Decode.text_eq_ok_iff.mpr rfl
  · exact Decode.text_eq_ok_iff.mpr rfl
  · exact e.serviceType.decode_encode
  · exact Decode.int64_eq_ok_iff.mpr rfl
  · exact Decode.flag_eq_ok_iff.mpr rfl
  · exact Decode.optionalText_eq_ok_iff.mpr rfl
  · exact Decode.optionalText_eq_ok_iff.mpr rfl
  · exact textMap_encodeAttributes e.attributes

/-- Namespaces, ports and endpoints, and the variants in them, are read back as they were written,
and values that are read are rewritten in a normal form. -/
theorem records_round_trip :
    RoundTrips NamespaceType.encode NamespaceType.decode ∧
    RoundTrips ServiceType.encode ServiceType.decode ∧
    RoundTrips Namespace.encode Namespace.decode ∧ RoundTrips Port.encode Port.decode ∧
    RoundTrips Endpoint.encode Endpoint.decode :=
  ⟨.of_decode_encode NamespaceType.decode_encode, .of_decode_encode ServiceType.decode_encode,
    .of_decode_encode Namespace.decode_encode, .of_decode_encode Port.decode_encode,
    .of_decode_encode Endpoint.decode_encode⟩

end Discovery
