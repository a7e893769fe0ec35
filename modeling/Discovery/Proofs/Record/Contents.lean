import Discovery.Proofs.Record.Members
/-!
What records hold, in object form and in array form.

* `FieldType.Reads`: what a field holds, read off its member or its item, or in the absence of one;
* `Namespace.Given`, `Port.Given`, `Endpoint.Given`: a record whose fields hold what is read off
  their cells, one for each name;
* `Shape.item`: the cells of a record in array form, which are its items in the order of the fields;
* `Shape.Fits`: the items are as many as a record can have;
* `ofMembers_eq_ok_iff`, `ofItems_eq_ok_iff` for each of the records: what is read of either form is
  the record that its cells give.
-/

namespace Discovery

/-! ### Single fields -/

namespace FieldType

/-- What a field holds if nothing is given for it, unless it is required. -/
def absent? : (t : FieldType) → Option t.Value
  | optionalText => some (none : Option String)
  | textMap => some (Dictionary.empty : Dictionary String)
  | text | flag | word16 | int64 | serviceType | namespaceType | port => none

/-- What a field holds, by what is given for it. -/
inductive Reads (t : FieldType) : Option Json → t.Value → Prop
  | given {v : Json} {a : t.Value} (h : t.decode v = .ok a) : Reads t (some v) a
  | absent {a : t.Value} (h : t.absent? = some a) : Reads t none a

variable {t : FieldType} {m : Dictionary Json} {name : String} {shape : Shape}
  {items : List Json} {i : ℕ} {v : Json} {o : Option t.Value} {a d : t.Value}

lemma reads_some_iff : t.Reads (some v) a ↔ t.decode v = .ok a :=
  ⟨fun | .given h => h, .given⟩

lemma reads_none_iff : t.Reads none a ↔ t.absent? = some a :=
  ⟨fun | .absent h => h, .absent⟩

/-- A member that has to be there was read as what its field holds. -/
lemma reads_of_required (ho : Decode.field? m name t.decode = .ok o)
    (ha : Decode.required name o = .ok a) : t.Reads (m.get? name) a := by
  rcases Decode.field?_eq_ok_iff.mp ho with ⟨-, rfl⟩ | ⟨v, b, hcell, hb, rfl⟩
  · cases ha
  · cases ha
    rw [hcell]
    exact .given hb

/-- A member that may be left out was read as what its field holds. -/
lemma reads_of_getD (ho : Decode.field? m name t.decode = .ok o) (hd : t.absent? = some d) :
    t.Reads (m.get? name) (o.getD d) := by
  rcases Decode.field?_eq_ok_iff.mp ho with ⟨hcell, rfl⟩ | ⟨v, b, hcell, hb, rfl⟩
  · rw [hcell]
    exact .absent hd
  · rw [hcell]
    exact .given hb

lemma Reads.field?_eq (h : t.Reads (m.get? name) a) (hrequired : t.absent? = none) :
    Decode.field? m name t.decode = .ok (some a) := by
  cases hcell : m.get? name with
  | none =>
      rw [hcell, reads_none_iff, hrequired] at h
      cases h
  | some v =>
      rw [hcell, reads_some_iff] at h
      exact Decode.field?_eq_ok_iff.mpr (.inr ⟨v, a, hcell, h, rfl⟩)

lemma Reads.exists_field?_eq (h : t.Reads (m.get? name) a) (hd : t.absent? = some d) :
    ∃ o, Decode.field? m name t.decode = .ok o ∧ o.getD d = a := by
  cases hcell : m.get? name with
  | none =>
      rw [hcell, reads_none_iff, hd] at h
      exact ⟨none, Decode.field?_eq_ok_iff.mpr (.inl ⟨hcell, rfl⟩), Option.some.inj h⟩
  | some v =>
      rw [hcell, reads_some_iff] at h
      exact ⟨some a, Decode.field?_eq_ok_iff.mpr (.inr ⟨v, a, hcell, h, rfl⟩), rfl⟩

/-- An item that is there is read as what its field holds. -/
lemma element_eq_ok_iff :
    Decode.element shape items i t.decode = .ok a ↔ i < items.length ∧ t.Reads items[i]? a := by
  rw [Decode.element]
  by_cases hi : i < items.length
  · rw [List.getElem?_eq_getElem hi, reads_some_iff]
    exact ⟨fun h => ⟨hi, h⟩, And.right⟩
  · rw [List.getElem?_eq_none (not_lt.mp hi)]
    exact ⟨nofun, fun h => absurd h.1 hi⟩

lemma Reads.element_eq (h : t.Reads items[i]? a) (hi : i < items.length) :
    Decode.element shape items i t.decode = .ok a :=
  element_eq_ok_iff.mpr ⟨hi, h⟩

end FieldType

lemma Decode.noMore_eq_ok_iff {shape : Shape} {items : List Json} :
    noMore shape items = .ok () ↔ items.length ≤ shape.size := by
  simp [noMore]

lemma Endpoint.attributesItem_eq_ok_iff {items : List Json} {d : Dictionary String} :
    attributesItem items = .ok d ↔ FieldType.textMap.Reads items[11]? d := by
  rw [attributesItem]
  cases items[11]? with
  | none =>
      rw [FieldType.reads_none_iff, Except.ok.injEq]
      exact Option.some_inj.symm
  | some v => exact (FieldType.reads_some_iff (t := .textMap)).symm

/-- The number of items that a record in array form needs. -/
def Shape.leastSize : Shape → ℕ
  | namespaceRecord => 3
  | port => 4
  | endpoint => 11

/-- The items are as many as a record in array form can have. -/
def Shape.Fits (shape : Shape) (items : List Json) : Prop :=
  shape.leastSize ≤ items.length ∧ items.length ≤ shape.size

/-- The item of a record in array form that is at the place of a field. -/
def Shape.item (shape : Shape) (items : List Json) (name : String) : Option Json :=
  items[shape.fields.findIdx (·.name = name)]?

/-! ### Namespaces -/

namespace Namespace

variable {m : Dictionary Json} {items : List Json} {ns : Namespace}

/-- A namespace that holds what is read off its cells. -/
structure Given (cell : String → Option Json) (ns : Namespace) : Prop where
  id : FieldType.text.Reads (cell "id") ns.id
  name : FieldType.text.Reads (cell "name") ns.name
  type : FieldType.namespaceType.Reads (cell "namespace_type") ns.type

/-- What a namespace holds depends on nothing but what its cells are read as. -/
lemma Given.of_reads {cell cell' : String → Option Json} (g : Given cell ns)
    (h : ∀ f ∈ Shape.namespaceRecord.fields, ∀ a, f.type.Reads (cell f.name) a →
      f.type.Reads (cell' f.name) a) : Given cell' ns := by
  simp only [Shape.fields, List.forall_mem_cons] at h
  obtain ⟨hid, hname, htype, -⟩ := h
  exact ⟨hid _ g.id, hname _ g.name, htype _ g.type⟩

lemma ofMembers_eq_ok_iff : ofMembers m = .ok ns ↔ Given m.get? ns := by
  constructor
  · intro h
    simp only [ofMembers, Decode.bind_eq_ok_iff] at h
    obtain ⟨id, hid, name, hname, type, htype, id', hid', name', hname', type', htype', h⟩ := h
    cases h
    exact ⟨FieldType.reads_of_required hid hid', FieldType.reads_of_required hname hname',
      FieldType.reads_of_required htype htype'⟩
  · intro g
    refine Decode.bind_eq_ok_iff.mpr ⟨_, g.id.field?_eq rfl, ?_⟩
    refine Decode.bind_eq_ok_iff.mpr ⟨_, g.name.field?_eq rfl, ?_⟩
    refine Decode.bind_eq_ok_iff.mpr ⟨_, g.type.field?_eq rfl, ?_⟩
    rfl

lemma ofItems_eq_ok_iff : ofItems items = .ok ns ↔
    Shape.namespaceRecord.Fits items ∧ Given (Shape.namespaceRecord.item items) ns := by
  constructor
  · intro h
    simp only [ofItems, Decode.bind_eq_ok_iff] at h
    obtain ⟨id, hid, name, hname, type, htype, _, hlength, h⟩ := h
    cases h
    obtain ⟨-, hid⟩ := FieldType.element_eq_ok_iff (t := .text).mp hid
    obtain ⟨-, hname⟩ := FieldType.element_eq_ok_iff (t := .text).mp hname
    obtain ⟨hlt, htype⟩ := FieldType.element_eq_ok_iff (t := .namespaceType).mp htype
    exact ⟨⟨hlt, Decode.noMore_eq_ok_iff.mp hlength⟩, hid, hname, htype⟩
  · rintro ⟨⟨hleast, hmost⟩, g⟩
    have hlt : 2 < items.length := hleast
    refine Decode.bind_eq_ok_iff.mpr ⟨_, g.id.element_eq (i := 0) (by omega), ?_⟩
    refine Decode.bind_eq_ok_iff.mpr ⟨_, g.name.element_eq (i := 1) (by omega), ?_⟩
    refine Decode.bind_eq_ok_iff.mpr ⟨_, g.type.element_eq (i := 2) (by omega), ?_⟩
    rw [Decode.noMore_eq_ok_iff.mpr hmost]
    rfl

end Namespace

/-! ### Ports -/

namespace Port

variable {m : Dictionary Json} {items : List Json} {p : Port}

/-- A port that holds what is read off its cells. -/
structure Given (cell : String → Option Json) (p : Port) : Prop where
  name : FieldType.text.Reads (cell "name") p.name
  number : FieldType.word16.Reads (cell "port") p.number
  target : FieldType.text.Reads (cell "target_port") p.target
  protocol : FieldType.text.Reads (cell "protocol") p.protocol

/-- What a port holds depends on nothing but what its cells are read as. -/
lemma Given.of_reads {cell cell' : String → Option Json} (g : Given cell p)
    (h : ∀ f ∈ Shape.port.fields, ∀ a, f.type.Reads (cell f.name) a →
      f.type.Reads (cell' f.name) a) : Given cell' p := by
  simp only [Shape.fields, List.forall_mem_cons] at h
  obtain ⟨hname, hnumber, htarget, hprotocol, -⟩ := h
  exact ⟨hname _ g.name, hnumber _ g.number, htarget _ g.target, hprotocol _ g.protocol⟩

lemma ofMembers_eq_ok_iff : ofMembers m = .ok p ↔ Given m.get? p := by
  constructor
  · intro h
    simp only [ofMembers, Decode.bind_eq_ok_iff] at h
    obtain ⟨name, hname, number, hnumber, protocol, hprotocol, target, htarget,
      name', hname', number', hnumber', target', htarget', protocol', hprotocol', h⟩ := h
    cases h
    exact ⟨FieldType.reads_of_required hname hname',
      FieldType.reads_of_required (t := .word16) hnumber hnumber',
      FieldType.reads_of_required htarget htarget',
      FieldType.reads_of_required hprotocol hprotocol'⟩
  · intro g
    refine Decode.bind_eq_ok_iff.mpr ⟨_, g.name.field?_eq rfl, ?_⟩
    refine Decode.bind_eq_ok_iff.mpr ⟨_, g.number.field?_eq rfl, ?_⟩
    refine Decode.bind_eq_ok_iff.mpr ⟨_, g.protocol.field?_eq rfl, ?_⟩
    refine Decode.bind_eq_ok_iff.mpr ⟨_, g.target.field?_eq rfl, ?_⟩
    rfl

lemma ofItems_eq_ok_iff : ofItems items = .ok p ↔
    Shape.port.Fits items ∧ Given (Shape.port.item items) p := by
  constructor
  · intro h
    simp only [ofItems, Decode.bind_eq_ok_iff] at h
    obtain ⟨name, hname, number, hnumber, target, htarget, protocol, hprotocol, _, hlength, h⟩ := h
    cases h
    obtain ⟨-, hname⟩ := FieldType.element_eq_ok_iff (t := .text).mp hname
    obtain ⟨-, hnumber⟩ := FieldType.element_eq_ok_iff (t := .word16).mp hnumber
    obtain ⟨-, htarget⟩ := FieldType.element_eq_ok_iff (t := .text).mp htarget
    obtain ⟨hlt, hprotocol⟩ := FieldType.element_eq_ok_iff (t := .text).mp hprotocol
    exact ⟨⟨hlt, Decode.noMore_eq_ok_iff.mp hlength⟩, hname, hnumber, htarget, hprotocol⟩
  · rintro ⟨⟨hleast, hmost⟩, g⟩
    have hlt : 3 < items.length := hleast
    refine Decode.bind_eq_ok_iff.mpr ⟨_, g.name.element_eq (i := 0) (by omega), ?_⟩
    refine Decode.bind_eq_ok_iff.mpr ⟨_, g.number.element_eq (i := 1) (by omega), ?_⟩
    refine Decode.bind_eq_ok_iff.mpr ⟨_, g.target.element_eq (i := 2) (by omega), ?_⟩
    refine Decode.bind_eq_ok_iff.mpr ⟨_, g.protocol.element_eq (i := 3) (by omega), ?_⟩
    rw [Decode.noMore_eq_ok_iff.mpr hmost]
    rfl

end Port

/-! ### Endpoints -/

namespace Endpoint

variable {m : Dictionary Json} {items : List Json} {e : Endpoint}

/-- An endpoint that holds what is read off its cells. -/
structure Given (cell : String → Option Json) (e : Endpoint) : Prop where
  id : FieldType.text.Reads (cell "id") e.id
  ip : FieldType.text.Reads (cell "ip") e.ip
  endpointPort : FieldType.port.Reads (cell "endpoint_port") e.endpointPort
  servicePort : FieldType.port.Reads (cell "service_port") e.servicePort
  clusterId : FieldType.text.Reads (cell "cluster_id") e.clusterId
  clusterSetId : FieldType.text.Reads (cell "cluster_set_id") e.clusterSetId
  serviceType : FieldType.serviceType.Reads (cell "service_type") e.serviceType
  exportedAt : FieldType.int64.Reads (cell "service_export_creation_timestamp") e.exportedAt
  ready : FieldType.flag.Reads (cell "ready") e.ready
  hostname : FieldType.optionalText.Reads (cell "hostname") e.hostname
  nodename : FieldType.optionalText.Reads (cell "nodename") e.nodename
  attributes : FieldType.textMap.Reads (cell "attributes") e.attributes

/-- What an endpoint holds depends on nothing but what its cells are read as. -/
lemma Given.of_reads {cell cell' : String → Option Json} (g : Given cell e)
    (h : ∀ f ∈ Shape.endpoint.fields, ∀ a, f.type.Reads (cell f.name) a →
      f.type.Reads (cell' f.name) a) : Given cell' e := by
  simp only [Shape.fields, List.forall_mem_cons] at h
  obtain ⟨hid, hip, hendpointPort, hservicePort, hclusterId, hclusterSetId, hserviceType,
    hexportedAt, hready, hhostname, hnodename, hattributes, -⟩ := h
  exact ⟨hid _ g.id, hip _ g.ip, hendpointPort _ g.endpointPort, hservicePort _ g.servicePort,
    hclusterId _ g.clusterId, hclusterSetId _ g.clusterSetId, hserviceType _ g.serviceType,
    hexportedAt _ g.exportedAt, hready _ g.ready, hhostname _ g.hostname, hnodename _ g.nodename,
    hattributes _ g.attributes⟩

lemma ofMembers_eq_ok_iff : ofMembers m = .ok e ↔ Given m.get? e := by
  constructor
  · intro h
    simp only [ofMembers, Decode.bind_eq_ok_iff] at h
    obtain ⟨_, hattributes, clusterId, hclusterId, clusterSetId, hclusterSetId,
      endpointPort, hendpointPort, _, hhostname, id, hid, ip, hip, _, hnodename, ready, hready,
      exportedAt, hexportedAt, servicePort, hservicePort, serviceType, hserviceType, id', hid',
      ip', hip', endpointPort', hendpointPort', servicePort', hservicePort',
      clusterId', hclusterId', clusterSetId', hclusterSetId', serviceType', hserviceType',
      exportedAt', hexportedAt', ready', hready', h⟩ := h
    cases h
    exact ⟨FieldType.reads_of_required (t := .text) hid hid',
      FieldType.reads_of_required (t := .text) hip hip',
      FieldType.reads_of_required (t := .port) hendpointPort hendpointPort',
      FieldType.reads_of_required (t := .port) hservicePort hservicePort',
      FieldType.reads_of_required (t := .text) hclusterId hclusterId',
      FieldType.reads_of_required (t := .text) hclusterSetId hclusterSetId',
      FieldType.reads_of_required (t := .serviceType) hserviceType hserviceType',
      FieldType.reads_of_required (t := .int64) hexportedAt hexportedAt',
      FieldType.reads_of_required (t := .flag) hready hready',
      FieldType.reads_of_getD (t := .optionalText) hhostname rfl,
      FieldType.reads_of_getD (t := .optionalText) hnodename rfl,
      FieldType.reads_of_getD (t := .textMap) hattributes rfl⟩
  · intro g
    obtain ⟨hostname, hhostname, hgivenHostname⟩ :
        ∃ o, Decode.field? m "hostname" Decode.optionalText = .ok o ∧ o.getD none = e.hostname :=
      g.hostname.exists_field?_eq rfl
    obtain ⟨nodename, hnodename, hgivenNodename⟩ :
        ∃ o, Decode.field? m "nodename" Decode.optionalText = .ok o ∧ o.getD none = e.nodename :=
      g.nodename.exists_field?_eq rfl
    obtain ⟨attributes, hattributes, hgivenAttributes⟩ :
        ∃ o, Decode.field? m "attributes" Decode.textMap = .ok o ∧ o.getD .empty = e.attributes :=
      g.attributes.exists_field?_eq rfl
    -- The members are read in the order of their names; what is left is to put them together.
    refine Decode.bind_eq_ok_iff.mpr ⟨_, hattributes, ?_⟩
    refine Decode.bind_eq_ok_iff.mpr ⟨_, g.clusterId.field?_eq rfl, ?_⟩
    refine Decode.bind_eq_ok_iff.mpr ⟨_, g.clusterSetId.field?_eq rfl, ?_⟩
    refine Decode.bind_eq_ok_iff.mpr ⟨_, g.endpointPort.field?_eq rfl, ?_⟩
    refine Decode.bind_eq_ok_iff.mpr ⟨_, hhostname, ?_⟩
    refine Decode.bind_eq_ok_iff.mpr ⟨_, g.id.field?_eq rfl, ?_⟩
    refine Decode.bind_eq_ok_iff.mpr ⟨_, g.ip.field?_eq rfl, ?_⟩
    refine Decode.bind_eq_ok_iff.mpr ⟨_, hnodename, ?_⟩
    refine Decode.bind_eq_ok_iff.mpr ⟨_, g.ready.field?_eq rfl, ?_⟩
    refine Decode.bind_eq_ok_iff.mpr ⟨_, g.exportedAt.field?_eq rfl, ?_⟩
    refine Decode.bind_eq_ok_iff.mpr ⟨_, g.servicePort.field?_eq rfl, ?_⟩
    refine Decode.bind_eq_ok_iff.mpr ⟨_, g.serviceType.field?_eq rfl, ?_⟩
    simp only [Decode.required, bind, Except.bind, hgivenHostname, hgivenNodename,
      hgivenAttributes]

lemma ofItems_eq_ok_iff : ofItems items = .ok e ↔
    Shape.endpoint.Fits items ∧ Given (Shape.endpoint.item items) e := by
  constructor
  · intro h
    simp only [ofItems, Decode.bind_eq_ok_iff] at h
    obtain ⟨id, hid, ip, hip, endpointPort, hendpointPort, servicePort, hservicePort,
      clusterId, hclusterId, clusterSetId, hclusterSetId, serviceType, hserviceType,
      exportedAt, hexportedAt, ready, hready, hostname, hhostname, nodename, hnodename,
      attributes, hattributes, _, hlength, h⟩ := h
    cases h
    obtain ⟨-, hid⟩ := FieldType.element_eq_ok_iff (t := .text).mp hid
    obtain ⟨-, hip⟩ := FieldType.element_eq_ok_iff (t := .text).mp hip
    obtain ⟨-, hendpointPort⟩ := FieldType.element_eq_ok_iff (t := .port).mp hendpointPort
    obtain ⟨-, hservicePort⟩ := FieldType.element_eq_ok_iff (t := .port).mp hservicePort
    obtain ⟨-, hclusterId⟩ := FieldType.element_eq_ok_iff (t := .text).mp hclusterId
    obtain ⟨-, hclusterSetId⟩ := FieldType.element_eq_ok_iff (t := .text).mp hclusterSetId
    obtain ⟨-, hserviceType⟩ := FieldType.element_eq_ok_iff (t := .serviceType).mp hserviceType
    obtain ⟨-, hexportedAt⟩ := FieldType.element_eq_ok_iff (t := .int64).mp hexportedAt
    obtain ⟨-, hready⟩ := FieldType.element_eq_ok_iff (t := .flag).mp hready
    obtain ⟨-, hhostname⟩ := FieldType.element_eq_ok_iff (t := .optionalText).mp hhostname
    obtain ⟨hlt, hnodename⟩ := FieldType.element_eq_ok_iff (t := .optionalText).mp hnodename
    exact ⟨⟨hlt, Decode.noMore_eq_ok_iff.mp hlength⟩, hid, hip, hendpointPort, hservicePort,
      hclusterId, hclusterSetId, hserviceType, hexportedAt, hready, hhostname, hnodename,
      attributesItem_eq_ok_iff.mp hattributes⟩
  · rintro ⟨⟨hleast, hmost⟩, g⟩
    -- The attributes alone can be left out, so the ten items before the nodename are there with it.
    have hlt : 10 < items.length := hleast
    refine Decode.bind_eq_ok_iff.mpr ⟨_, g.id.element_eq (i := 0) (by omega), ?_⟩
    refine Decode.bind_eq_ok_iff.mpr ⟨_, g.ip.element_eq (i := 1) (by omega), ?_⟩
    refine Decode.bind_eq_ok_iff.mpr ⟨_, g.endpointPort.element_eq (i := 2) (by omega), ?_⟩
    refine Decode.bind_eq_ok_iff.mpr ⟨_, g.servicePort.element_eq (i := 3) (by omega), ?_⟩
    refine Decode.bind_eq_ok_iff.mpr ⟨_, g.clusterId.element_eq (i := 4) (by omega), ?_⟩
    refine Decode.bind_eq_ok_iff.mpr ⟨_, g.clusterSetId.element_eq (i := 5) (by omega), ?_⟩
    refine Decode.bind_eq_ok_iff.mpr ⟨_, g.serviceType.element_eq (i := 6) (by omega), ?_⟩
    refine Decode.bind_eq_ok_iff.mpr ⟨_, g.exportedAt.element_eq (i := 7) (by omega), ?_⟩
    refine Decode.bind_eq_ok_iff.mpr ⟨_, g.ready.element_eq (i := 8) (by omega), ?_⟩
    refine Decode.bind_eq_ok_iff.mpr ⟨_, g.hostname.element_eq (i := 9) (by omega), ?_⟩
    refine Decode.bind_eq_ok_iff.mpr ⟨_, g.nodename.element_eq (i := 10) (by omega), ?_⟩
    refine Decode.bind_eq_ok_iff.mpr ⟨_, attributesItem_eq_ok_iff.mpr g.attributes, ?_⟩
    rw [Decode.noMore_eq_ok_iff.mpr hmost]
    rfl

end Endpoint

end Discovery
