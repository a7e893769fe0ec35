import Discovery.Proofs.Record.Contents
/-!
The object form and the array form of records.

* `Field.Matches`, `Shape.Corresponds`: an object and an array that give each field of a record the
  same content;
* `Port.Reworded`, `Port.Alike`: ports that differ only in members that are no fields, and ports
  of which one may be an object and the other an array;
* `Shape.Agree`: records that differ only in members that are no fields, of their own or of ports;
* `FormsAlike`: an array is read as the objects are that it corresponds to, arrays of other lengths
  are not read, and members that are no fields do not matter;
* `ReadOffCells`: a record that is read field by field, for which all this follows;
* `forms_alike`: the forms of all records are alike.
-/

namespace Discovery

/-! ### Records with the same contents -/

/-- Two values that give a field the same content: one value or, for a port, two that do so. -/
def FieldType.Alike (ports : Json → Json → Prop) : FieldType → Json → Json → Prop
  | port => ports
  | text | optionalText | flag | word16 | int64 | textMap | serviceType | namespaceType => Eq

/-- A member and an item that give a field the same content. Null stands in an array for a text
that is left out; attributes can be left out of both. -/
inductive Field.Matches (ports : Json → Json → Prop) (f : Field) : Option Json → Option Json → Prop
  | both {v w : Json} (h : f.type.Alike ports v w) : Matches ports f (some v) (some w)
  | null (h : f.type = .optionalText) : Matches ports f none (some .null)
  | neither (h : f.type = .textMap) : Matches ports f none none

/-- The members of an object and the items of an array that give each field the same content. -/
structure Shape.Corresponds (ports : Json → Json → Prop) (shape : Shape)
    (members : List (String × Json)) (items : List Json) : Prop where
  length_le : items.length ≤ shape.size
  matches_item : ∀ f ∈ shape.fields,
    f.Matches ports ((Dictionary.ofList members).get? f.name) (shape.item items f.name)

/-- Two values for a port of which the second is the first or differs from it only in members that
are no fields. -/
inductive Port.Reworded : Json → Json → Prop
  | refl (v : Json) : Reworded v v
  | obj {members members' : List (String × Json)}
      (h : ∀ f ∈ Shape.port.fields,
        (Dictionary.ofList members).get? f.name = (Dictionary.ofList members').get? f.name) :
      Reworded (.obj members) (.obj members')

/-- Two values for a port of which the second is the first reworded, or the first in the other
form. -/
inductive Port.Alike : Json → Json → Prop
  | reworded {v w : Json} (h : Reworded v w) : Alike v w
  | toArr {members : List (String × Json)} {items : List Json}
      (h : Shape.port.Corresponds Eq members items) : Alike (.obj members) (.arr items)
  | toObj {members : List (String × Json)} {items : List Json}
      (h : Shape.port.Corresponds Eq members items) : Alike (.arr items) (.obj members)

/-- The cells of two records that give each field the same value, but for the members of ports that
are no fields. -/
def Shape.Agree (shape : Shape) (cell cell' : String → Option Json) : Prop :=
  ∀ f ∈ shape.fields, Option.Rel (f.type.Alike Port.Reworded) (cell f.name) (cell' f.name)

/-- A record in array form is read as in the object forms that correspond to it, unless it has too
few or too many items. What is read, or why nothing is, does not depend on members that are no
fields. -/
structure FormsAlike {α : Type} (decode : Json → Decoded α) (shape : Shape) : Prop where
  arr_eq_ok_iff : ∀ members items a, shape.Corresponds Port.Alike members items →
    (decode (.arr items) = .ok a ↔ decode (.obj members) = .ok a)
  exists_error : ∀ items, ¬ shape.Fits items → ∃ err, decode (.arr items) = .error err
  obj_congr : ∀ members members',
    shape.Agree (Dictionary.ofList members).get? (Dictionary.ofList members').get? →
      decode (.obj members) = decode (.obj members')
  arr_congr : ∀ items items', items.length = items'.length →
    shape.Agree (shape.item items) (shape.item items') → decode (.arr items) = decode (.arr items')

/-! ### Records read field by field -/

/-- A record that is read off its cells, in either form. -/
structure ReadOffCells {α : Type} (decode : Json → Decoded α) (shape : Shape)
    (given : (String → Option Json) → α → Prop) : Prop where
  obj_eq_ok_iff : ∀ {members a},
    decode (.obj members) = .ok a ↔ given (Dictionary.ofList members).get? a
  arr_eq_ok_iff : ∀ {items a},
    decode (.arr items) = .ok a ↔ shape.Fits items ∧ given (shape.item items) a
  given_of_reads : ∀ {cell cell' a}, given cell a →
    (∀ f ∈ shape.fields, ∀ b, f.type.Reads (cell f.name) b → f.type.Reads (cell' f.name) b) →
      given cell' a
  error?_obj : ∀ members, firstError? shape.fieldsByName shape.fields (.ofList members) =
    Decode.error? (decode (.obj members))
  arr_congr : ∀ {items items'}, items.length = items'.length →
    (∀ f ∈ shape.fields, (shape.item items f.name).map f.type.decode =
      (shape.item items' f.name).map f.type.decode) → decode (.arr items) = decode (.arr items')

/-! ### Fields with the same contents -/

section

variable {t : FieldType} {f : Field} {shape : Shape} {items items' : List Json}
  {m m' : Dictionary Json} {i : ℕ} {v w : Json} {cell cell' : Option Json}
  {ports : Json → Json → Prop}

lemma FieldType.reads_congr (h : cell.map t.decode = cell'.map t.decode) {a : t.Value} :
    t.Reads cell a ↔ t.Reads cell' a := by
  cases cell <;> cases cell' <;> simp_all [reads_some_iff]

lemma Field.fault?_congr
    (h : (m.get? f.name).map f.type.decode = (m'.get? f.name).map f.type.decode) :
    f.fault? m = f.fault? m' := by
  have hbind := congrArg (·.bind Decode.error?) h
  simp only [Option.bind_map] at hbind
  exact hbind

lemma Field.missing?_congr
    (h : (m.get? f.name).map f.type.decode = (m'.get? f.name).map f.type.decode) :
    f.missing? m = f.missing? m' := by
  have hnone := congrArg Option.isNone h
  simp only [Option.isNone_map] at hnone
  rw [missing?, missing?, hnone]

lemma firstError?_congr {read declared : List Field}
    (hread : ∀ f ∈ read, f.fault? m = f.fault? m')
    (hdeclared : ∀ f ∈ declared, f.missing? m = f.missing? m') :
    firstError? read declared m = firstError? read declared m' := by
  have hfaults : read.map (·.fault? m) = read.map (·.fault? m') := List.map_congr_left hread
  have hmissing : declared.map (·.missing? m) = declared.map (·.missing? m') :=
    List.map_congr_left hdeclared
  have hfirst (l : List Field) (g : Field → Option DecodeError) :
      l.findSome? g = (l.map g).findSome? id := by rw [List.findSome?_map, Function.id_comp]
  rw [firstError?, firstError?, hfirst read, hfirst read, hfaults, hfirst declared,
    hfirst declared, hmissing]

lemma Decode.element_congr (h : items[i]?.map t.decode = items'[i]?.map t.decode) :
    element shape items i t.decode = element shape items' i t.decode := by
  rw [element, element]
  cases hi : items[i]? <;> cases hi' : items'[i]? <;> simp_all

lemma Endpoint.attributesItem_congr
    (h : items[11]?.map (FieldType.decode .textMap) = items'[11]?.map (FieldType.decode .textMap)) :
    attributesItem items = attributesItem items' := by
  rw [attributesItem, attributesItem]
  cases hi : items[11]? <;> cases hi' : items'[11]? <;> simp_all [FieldType.decode]

lemma Decode.bind_eq_bind {α β : Type} {x y : Decoded α} {k l : α → Decoded β} (h : x = y)
    (hkl : ∀ a, k a = l a) : (x >>= k) = (y >>= l) := by
  rw [h, funext hkl]

/-- Values that are read alike, and fail alike, are read the same. -/
lemma Decode.eq_of_ok_iff {α : Type} {x y : Decoded α} (hok : ∀ a, x = .ok a ↔ y = .ok a)
    (herror : error? x = error? y) : x = y := by
  cases x with
  | ok a => exact ((hok a).mp rfl).symm
  | error err => exact (error?_eq_some_iff.mp herror.symm).symm

/-- A field is read alike off values with the same content. -/
lemma FieldType.Alike.decode_eq_ok_iff
    (hports : ∀ v w, ports v w → ∀ p, Port.decode v = .ok p ↔ Port.decode w = .ok p)
    (h : t.Alike ports v w) (a : t.Value) : t.decode v = .ok a ↔ t.decode w = .ok a := by
  cases t with
  | port => exact hports v w h a
  | _ =>
      cases h
      rfl

/-- A field is read alike off a member and an item that match. -/
lemma Field.Matches.reads_iff {member item : Option Json}
    (hports : ∀ v w, ports v w → ∀ p, Port.decode v = .ok p ↔ Port.decode w = .ok p)
    (h : f.Matches ports member item) (a : f.type.Value) :
    f.type.Reads member a ↔ f.type.Reads item a := by
  obtain ⟨name, type, required⟩ := f
  cases h with
  | both h =>
      rw [FieldType.reads_some_iff, FieldType.reads_some_iff]
      exact h.decode_eq_ok_iff hports a
  | null h =>
      cases h
      rw [FieldType.reads_none_iff, FieldType.reads_some_iff]
      exact Option.some_inj.trans (Except.ok.injEq none a ▸ Iff.rfl)
  | neither h => rfl

/-- Only attributes can be left out of an array. -/
lemma Field.Matches.exists_item {member item : Option Json} (h : f.Matches ports member item)
    (ht : f.type ≠ .textMap) : ∃ v, item = some v := by
  cases h with
  | both h => exact ⟨_, rfl⟩
  | null h => exact ⟨_, rfl⟩
  | neither h => exact absurd h ht

lemma Shape.Corresponds.fits {members : List (String × Json)}
    (h : shape.Corresponds ports members items) : shape.Fits items := by
  have hlt (f : Field) (hf : f ∈ shape.fields) (ht : f.type ≠ .textMap) :
      shape.fields.findIdx (·.name = f.name) < items.length := by
    obtain ⟨v, hv⟩ := (h.matches_item f hf).exists_item ht
    exact (List.getElem?_eq_some_iff.mp hv).1
  refine ⟨?_, h.length_le⟩
  -- The last field that is not the attributes has an item, and its place bounds the length.
  cases shape with
  | namespaceRecord => exact hlt ⟨"namespace_type", .namespaceType, true⟩ (by decide) (by decide)
  | port => exact hlt ⟨"protocol", .text, true⟩ (by decide) (by decide)
  | endpoint => exact hlt ⟨"nodename", .optionalText, false⟩ (by decide) (by decide)

end

namespace ReadOffCells

variable {α : Type} {decode : Json → Decoded α} {shape : Shape}
  {given : (String → Option Json) → α → Prop} {ports : Json → Json → Prop}

lemma arr_iff_obj (h : ReadOffCells decode shape given)
    (hports : ∀ v w, ports v w → ∀ p, Port.decode v = .ok p ↔ Port.decode w = .ok p)
    {members : List (String × Json)} {items : List Json}
    (hc : shape.Corresponds ports members items) (a : α) :
    decode (.arr items) = .ok a ↔ decode (.obj members) = .ok a := by
  rw [h.arr_eq_ok_iff, and_iff_right hc.fits, h.obj_eq_ok_iff]
  constructor
  · intro g
    exact h.given_of_reads g fun f hf b => ((hc.matches_item f hf).reads_iff hports b).mpr
  · intro g
    exact h.given_of_reads g fun f hf b => ((hc.matches_item f hf).reads_iff hports b).mp

lemma exists_error (h : ReadOffCells decode shape given) {items : List Json}
    (hfits : ¬ shape.Fits items) : ∃ err, decode (.arr items) = .error err := by
  cases hitems : decode (.arr items) with
  | error err => exact ⟨err, rfl⟩
  | ok a => exact absurd (h.arr_eq_ok_iff.mp hitems).1 hfits

lemma obj_congr (h : ReadOffCells decode shape given) {members members' : List (String × Json)}
    (hcells : ∀ f ∈ shape.fields, ((Dictionary.ofList members).get? f.name).map f.type.decode =
      ((Dictionary.ofList members').get? f.name).map f.type.decode) :
    decode (.obj members) = decode (.obj members') := by
  refine Decode.eq_of_ok_iff (fun a => ?_) ?_
  · rw [h.obj_eq_ok_iff, h.obj_eq_ok_iff]
    constructor
    · intro g
      exact h.given_of_reads g fun f hf b => (FieldType.reads_congr (hcells f hf)).mp
    · intro g
      exact h.given_of_reads g fun f hf b => (FieldType.reads_congr (hcells f hf)).mpr
  · rw [← h.error?_obj, ← h.error?_obj]
    refine firstError?_congr (fun f hf => ?_) fun f hf => ?_
    · exact Field.fault?_congr (hcells f ((Shape.perm_fieldsByName shape).mem_iff.mp hf))
    · exact Field.missing?_congr (hcells f hf)

end ReadOffCells

/-! ### Namespaces -/

lemma Namespace.ofItems_congr {items items' : List Json} (hlength : items.length = items'.length)
    (h : ∀ f ∈ Shape.namespaceRecord.fields,
      (Shape.namespaceRecord.item items f.name).map f.type.decode =
        (Shape.namespaceRecord.item items' f.name).map f.type.decode) :
    ofItems items = ofItems items' := by
  simp only [Shape.fields, List.forall_mem_cons] at h
  obtain ⟨hid, hname, htype, -⟩ := h
  refine Decode.bind_eq_bind (Decode.element_congr hid) fun id => ?_
  refine Decode.bind_eq_bind (Decode.element_congr hname) fun name => ?_
  refine Decode.bind_eq_bind (Decode.element_congr htype) fun type => ?_
  rw [Decode.noMore, Decode.noMore, hlength]

lemma Namespace.readOffCells : ReadOffCells decode .namespaceRecord Given where
  obj_eq_ok_iff := ofMembers_eq_ok_iff
  arr_eq_ok_iff := ofItems_eq_ok_iff
  given_of_reads := Given.of_reads
  error?_obj := fun _ => firstError?_eq _
  arr_congr := ofItems_congr

/-! ### Ports -/

lemma Port.ofItems_congr {items items' : List Json} (hlength : items.length = items'.length)
    (h : ∀ f ∈ Shape.port.fields, (Shape.port.item items f.name).map f.type.decode =
      (Shape.port.item items' f.name).map f.type.decode) :
    ofItems items = ofItems items' := by
  simp only [Shape.fields, List.forall_mem_cons] at h
  obtain ⟨hname, hnumber, htarget, hprotocol, -⟩ := h
  refine Decode.bind_eq_bind (Decode.element_congr hname) fun name => ?_
  refine Decode.bind_eq_bind (Decode.element_congr hnumber) fun number => ?_
  refine Decode.bind_eq_bind (Decode.element_congr htarget) fun target => ?_
  refine Decode.bind_eq_bind (Decode.element_congr hprotocol) fun protocol => ?_
  rw [Decode.noMore, Decode.noMore, hlength]

lemma Port.readOffCells : ReadOffCells decode .port Given where
  obj_eq_ok_iff := ofMembers_eq_ok_iff
  arr_eq_ok_iff := ofItems_eq_ok_iff
  given_of_reads := Given.of_reads
  error?_obj := fun _ => firstError?_eq _
  arr_congr := ofItems_congr

/-! ### Endpoints -/

lemma Endpoint.ofItems_congr {items items' : List Json} (hlength : items.length = items'.length)
    (h : ∀ f ∈ Shape.endpoint.fields, (Shape.endpoint.item items f.name).map f.type.decode =
      (Shape.endpoint.item items' f.name).map f.type.decode) :
    ofItems items = ofItems items' := by
  simp only [Shape.fields, List.forall_mem_cons] at h
  obtain ⟨hid, hip, hendpointPort, hservicePort, hclusterId, hclusterSetId, hserviceType,
    hexportedAt, hready, hhostname, hnodename, hattributes, -⟩ := h
  refine Decode.bind_eq_bind (Decode.element_congr hid) fun id => ?_
  refine Decode.bind_eq_bind (Decode.element_congr hip) fun ip => ?_
  refine Decode.bind_eq_bind (Decode.element_congr hendpointPort) fun endpointPort => ?_
  refine Decode.bind_eq_bind (Decode.element_congr hservicePort) fun servicePort => ?_
  refine Decode.bind_eq_bind (Decode.element_congr hclusterId) fun clusterId => ?_
  refine Decode.bind_eq_bind (Decode.element_congr hclusterSetId) fun clusterSetId => ?_
  refine Decode.bind_eq_bind (Decode.element_congr hserviceType) fun serviceType => ?_
  refine Decode.bind_eq_bind (Decode.element_congr hexportedAt) fun exportedAt => ?_
  refine Decode.bind_eq_bind (Decode.element_congr hready) fun ready => ?_
  refine Decode.bind_eq_bind (Decode.element_congr hhostname) fun hostname => ?_
  refine Decode.bind_eq_bind (Decode.element_congr hnodename) fun nodename => ?_
  refine Decode.bind_eq_bind (attributesItem_congr hattributes) fun attributes => ?_
  rw [Decode.noMore, Decode.noMore, hlength]

lemma Endpoint.readOffCells : ReadOffCells decode .endpoint Given where
  obj_eq_ok_iff := ofMembers_eq_ok_iff
  arr_eq_ok_iff := ofItems_eq_ok_iff
  given_of_reads := Given.of_reads
  error?_obj := fun _ => firstError?_eq _
  arr_congr := ofItems_congr

/-! ### The forms of records -/

section

variable {t : FieldType} {v w : Json} {cell cell' : Option Json}

/-- A port is read the same, or fails for the same reason, whatever its other members are. -/
lemma Port.Reworded.decode_eq (h : Reworded v w) : decode v = decode w := by
  cases h with
  | refl => rfl
  | obj h => exact readOffCells.obj_congr fun f hf => by rw [h f hf]

lemma Port.Alike.decode_eq_ok_iff (h : Alike v w) (p : Port) :
    decode v = .ok p ↔ decode w = .ok p := by
  have heq (v w : Json) (hvw : v = w) (p : Port) : decode v = .ok p ↔ decode w = .ok p := by
    rw [hvw]
  cases h with
  | reworded h => rw [h.decode_eq]
  | toArr h => exact (readOffCells.arr_iff_obj heq h p).symm
  | toObj h => exact readOffCells.arr_iff_obj heq h p

lemma FieldType.Alike.decode_eq (h : t.Alike Port.Reworded v w) : t.decode v = t.decode w := by
  cases t with
  | port => exact Port.Reworded.decode_eq h
  | _ =>
      cases h
      rfl

lemma FieldType.map_decode_eq (h : Option.Rel (t.Alike Port.Reworded) cell cell') :
    cell.map t.decode = cell'.map t.decode := by
  cases h with
  | none => rfl
  | some h => rw [Option.map_some, Option.map_some, h.decode_eq]

end

/-- The forms of a record are alike if it is read field by field. -/
lemma ReadOffCells.formsAlike {α : Type} {decode : Json → Decoded α} {shape : Shape}
    {given : (String → Option Json) → α → Prop} (h : ReadOffCells decode shape given) :
    FormsAlike decode shape where
  arr_eq_ok_iff := fun _ _ a hc => h.arr_iff_obj (fun _ _ halike => halike.decode_eq_ok_iff) hc a
  exists_error := fun _ => h.exists_error
  obj_congr := fun _ _ hagree => h.obj_congr fun f hf => FieldType.map_decode_eq (hagree f hf)
  arr_congr := fun _ _ hlength hagree =>
    h.arr_congr hlength fun f hf => FieldType.map_decode_eq (hagree f hf)

/-- The object form and the array form of namespaces, ports and endpoints are read alike. -/
theorem forms_alike : FormsAlike Namespace.decode .namespaceRecord ∧ FormsAlike Port.decode .port ∧
    FormsAlike Endpoint.decode .endpoint :=
  ⟨Namespace.readOffCells.formsAlike, Port.readOffCells.formsAlike,
    Endpoint.readOffCells.formsAlike⟩

/-- An endpoint without optional members is read alike off an object, of which one port is an array,
and off an array with null in their places. -/
theorem forms_alike_sparse :
    Endpoint.decode (.obj [("id", .str "ep-1"), ("ip", .str "10.0.0.1"),
        ("endpoint_port", .obj [("name", .str "web"), ("port", .int 80), ("protocol", .str "TCP"),
          ("target_port", .str "8080"), ("app_protocol", .str "h2")]),
        ("service_port", .arr [.str "web", .int 80, .str "8080", .str "TCP"]),
        ("cluster_id", .str "a"), ("cluster_set_id", .str "b"), ("service_type", .str "Headless"),
        ("service_export_creation_timestamp", .int (-1)), ("ready", .bool true), ("zone", .null)]) =
      .ok { Endpoint.new "ep-1" "10.0.0.1" 80 with
        endpointPort := ⟨"web", 80, "8080", "TCP"⟩, servicePort := ⟨"web", 80, "8080", "TCP"⟩,
        clusterId := "a", clusterSetId := "b", serviceType := .headless, exportedAt := -1 } := by
  refine (forms_alike.2.2.arr_eq_ok_iff _ [.str "ep-1", .str "10.0.0.1",
    .arr [.str "web", .int 80, .str "8080", .str "TCP"],
    .arr [.str "web", .int 80, .str "8080", .str "TCP"], .str "a", .str "b", .str "Headless",
    .int (-1), .bool true, .null, .null] _ ⟨by decide, ?_⟩).mp rfl
  simp only [Shape.fields, List.forall_mem_cons]
  refine ⟨.both rfl, .both rfl, .both (.toArr ⟨by decide, ?_⟩), .both (.reworded (.refl _)),
    .both rfl, .both rfl, .both rfl, .both rfl, .both rfl, .null rfl, .null rfl, .neither rfl,
    List.forall_mem_nil _⟩
  simp only [Shape.fields, List.forall_mem_cons]
  exact ⟨.both rfl, .both rfl, .both rfl, .both rfl, List.forall_mem_nil _⟩

end Discovery
