import Discovery.Proofs.Record.Values
/-!
Which records in object form are read, and which of their faults is reported.

* `FieldType`, `FieldType.decode`, `FieldType.Accepts`: the types of fields, how a value is read as
  one, and what it has to be;
* `Field`, `Shape.fields`: the fields of the records, in the order of their declaration;
* `Field.Sound`, `Field.Faulty`, `Field.Missing`: how a member can stand to its field;
* `Governed`: the members must be sound and the required ones be there; the fault of the first
  member by the bytes of its name is reported before the first missing one by declaration;
* `firstError?`: the fault that is met first, which is the one that is reported;
* `records_governed`: all records are read under this law.
-/

namespace Discovery

/-! ### Types of fields -/

/-- The types of the fields of records. -/
inductive FieldType
  | text
  | optionalText
  | flag
  | word16
  | int64
  | textMap
  | serviceType
  | namespaceType
  | port
  deriving DecidableEq

namespace FieldType

/-- What a field holds. -/
abbrev Value : FieldType → Type
  | text => String
  | optionalText => Option String
  | flag => Bool
  | word16 => UInt16
  | int64 => Int64
  | textMap => Dictionary String
  | serviceType => ServiceType
  | namespaceType => NamespaceType
  | port => Port

/-- How the value of a field is read. -/
def decode : (t : FieldType) → Json → Decoded t.Value
  | text => Decode.text
  | optionalText => Decode.optionalText
  | flag => Decode.flag
  | word16 => Decode.word16
  | int64 => Decode.int64
  | textMap => Decode.textMap
  | serviceType => ServiceType.decode
  | namespaceType => NamespaceType.decode
  | port => Port.decode

/-- What a value has to be. Numbers are whole: one that is written with a fraction or an exponent
is none of these. -/
def Accepts (v : Json) : FieldType → Prop
  | text => ∃ s, v = .str s
  | optionalText => v = .null ∨ ∃ s, v = .str s
  | flag => ∃ b, v = .bool b
  | word16 => ∃ n, v = .int n ∧ 0 ≤ n ∧ n ≤ 65535
  | int64 => ∃ n, v = .int n ∧ -9223372036854775808 ≤ n ∧ n ≤ 9223372036854775807
  | textMap => ∃ members, v = .obj members ∧
      ∀ name value, (Dictionary.ofList members).get? name = some value → ∃ s, value = .str s
  | serviceType => v.Names "ClusterSetIp" ∨ v.Names "Headless"
  | namespaceType => ∃ name, v.Names name
  | port => ∃ p, Port.decode v = .ok p

end FieldType

/-- An object of strings is read, and nothing else is, as a map of strings. -/
lemma Decode.exists_textMap_iff {v : Json} :
    (∃ d, textMap v = .ok d) ↔ FieldType.Accepts v .textMap := by
  cases v with
  | obj members =>
      have htexts : (∃ d, textMap (.obj members) = .ok d) ↔
          ∃ r, texts (Dictionary.ofList members).entries = .ok r := by
        simp only [textMap, map_eq_ok_iff]
        constructor
        · rintro ⟨_, r, hr, _⟩
          exact ⟨r, hr⟩
        · rintro ⟨r, hr⟩
          exact ⟨_, r, hr, rfl⟩
      rw [htexts]
      simp only [exists_texts_iff, FieldType.Accepts, Json.obj.injEq, exists_eq_left', Prod.forall,
        Dictionary.get?_eq_some_iff]
  | _ => simp [textMap, FieldType.Accepts]

/-- A value is read just when it is what it has to be. -/
lemma FieldType.exists_decode_iff {t : FieldType} {v : Json} :
    (∃ a, t.decode v = .ok a) ↔ t.Accepts v := by
  cases t with
  | text => exact exists_congr fun s => Decode.text_eq_ok_iff
  | optionalText =>
      refine (exists_congr fun o => Decode.optionalText_eq_ok_iff).trans ?_
      exact Option.exists
  | flag => exact exists_congr fun b => Decode.flag_eq_ok_iff
  | word16 =>
      refine (exists_congr fun n => Decode.word16_eq_ok_iff).trans ⟨?_, ?_⟩
      · rintro ⟨n, rfl⟩
        have hlt := n.toNat_lt
        exact ⟨_, rfl, by omega, by omega⟩
      · rintro ⟨n, rfl, hle, hlt⟩
        refine ⟨UInt16.ofNat n.toNat, ?_⟩
        rw [UInt16.toNat_ofNat_of_lt' (by simp only [UInt16.size]; omega), Int.toNat_of_nonneg hle]
  | int64 =>
      refine (exists_congr fun n => Decode.int64_eq_ok_iff).trans ⟨?_, ?_⟩
      · rintro ⟨n, rfl⟩
        have hle := n.le_toInt
        have hlt := n.toInt_lt
        exact ⟨_, rfl, by omega, by omega⟩
      · rintro ⟨n, rfl, hle, hlt⟩
        exact ⟨Int64.ofInt n, by rw [Int64.toInt_ofInt_of_le (by omega) (by omega)]⟩
  | textMap => exact Decode.exists_textMap_iff
  | serviceType =>
      refine (exists_congr fun t => ServiceType.decode_eq_ok_iff).trans ⟨?_, ?_⟩
      · rintro ⟨_ | _, h⟩
        · exact .inl h
        · exact .inr h
      · rintro (h | h)
        · exact ⟨.clusterSetIp, h⟩
        · exact ⟨.headless, h⟩
  | namespaceType =>
      refine (exists_congr fun t => NamespaceType.decode_eq_ok_iff).trans ?_
      exact ⟨fun ⟨_, name, h, _⟩ => ⟨name, h⟩, fun ⟨name, h⟩ => ⟨_, name, h, rfl⟩⟩
  | port => exact Iff.rfl

/-! ### Fields -/

/-- A field of a record: its name, its type, and whether it has to be there. -/
structure Field where
  name : String
  type : FieldType
  required : Bool
  deriving DecidableEq

/-- The fields of a record, in the order of their declaration. -/
def Shape.fields : Shape → List Field
  | namespaceRecord =>
      [⟨"id", .text, true⟩, ⟨"name", .text, true⟩, ⟨"namespace_type", .namespaceType, true⟩]
  | port =>
      [⟨"name", .text, true⟩, ⟨"port", .word16, true⟩, ⟨"target_port", .text, true⟩,
        ⟨"protocol", .text, true⟩]
  | endpoint =>
      [⟨"id", .text, true⟩, ⟨"ip", .text, true⟩, ⟨"endpoint_port", .port, true⟩,
        ⟨"service_port", .port, true⟩, ⟨"cluster_id", .text, true⟩,
        ⟨"cluster_set_id", .text, true⟩, ⟨"service_type", .serviceType, true⟩,
        ⟨"service_export_creation_timestamp", .int64, true⟩, ⟨"ready", .flag, true⟩,
        ⟨"hostname", .optionalText, false⟩, ⟨"nodename", .optionalText, false⟩,
        ⟨"attributes", .textMap, false⟩]

/-- The fields of a record, in the order of the bytes of their names. -/
def Shape.fieldsByName : Shape → List Field
  | namespaceRecord => fields .namespaceRecord
  | port =>
      [⟨"name", .text, true⟩, ⟨"port", .word16, true⟩, ⟨"protocol", .text, true⟩,
        ⟨"target_port", .text, true⟩]
  | endpoint =>
      [⟨"attributes", .textMap, false⟩, ⟨"cluster_id", .text, true⟩,
        ⟨"cluster_set_id", .text, true⟩, ⟨"endpoint_port", .port, true⟩,
        ⟨"hostname", .optionalText, false⟩, ⟨"id", .text, true⟩, ⟨"ip", .text, true⟩,
        ⟨"nodename", .optionalText, false⟩, ⟨"ready", .flag, true⟩,
        ⟨"service_export_creation_timestamp", .int64, true⟩, ⟨"service_port", .port, true⟩,
        ⟨"service_type", .serviceType, true⟩]

namespace Field

variable {m : Dictionary Json} {f : Field} {err : DecodeError}

/-- The bytes of the name of a field. -/
def bytes (f : Field) : List UInt8 := f.name.toUTF8.data.toList

/-- The member of a field, if it is there, is what it has to be. -/
def Sound (f : Field) (m : Dictionary Json) : Prop := ∀ v, m.get? f.name = some v → f.type.Accepts v

/-- The member of a field is there and cannot be read, for a reason. -/
def Faulty (f : Field) (m : Dictionary Json) (err : DecodeError) : Prop :=
  ∃ v, m.get? f.name = some v ∧ f.type.decode v = .error err

/-- The member of a field has to be there and is not. -/
def Missing (f : Field) (m : Dictionary Json) : Prop := f.required ∧ m.get? f.name = none

end Field

/-- A record in object form is read just when the member of each field is sound and not missing.
Of the members that cannot be read, the one whose name has the least bytes is reported; if all can
be read, the first field by declaration that is missing is. -/
structure Governed {α : Type} (decode : Json → Decoded α) (fields : List Field) : Prop where
  ok_iff : ∀ members, (∃ a, decode (.obj members) = .ok a) ↔
    ∀ f ∈ fields, f.Sound (.ofList members) ∧ ¬ f.Missing (.ofList members)
  error_iff : ∀ members err, decode (.obj members) = .error err ↔
    (∃ f ∈ fields, f.Faulty (.ofList members) err ∧
      ∀ other ∈ fields, other.bytes < f.bytes → other.Sound (.ofList members)) ∨
    (∀ f ∈ fields, f.Sound (.ofList members)) ∧ ∃ before f after,
      fields = before ++ f :: after ∧ (∀ other ∈ before, ¬ other.Missing (.ofList members)) ∧
      f.Missing (.ofList members) ∧ err = .missingField f.name

/-! ### The first fault -/

namespace Decode

variable {α β : Type} {x : Decoded α} {err : DecodeError}

/-- Why a value was not read, if it was not. -/
def error? : Decoded α → Option DecodeError
  | .ok _ => none
  | .error err => some err

lemma error?_eq_some_iff : error? x = some err ↔ x = .error err := by
  cases x <;> simp [error?]

lemma error?_eq_none_iff : error? x = none ↔ ∃ a, x = .ok a := by
  cases x <;> simp [error?]

/-- Of two steps in a row, the second can fail only if the first does not. -/
lemma error?_bind {k : α → Decoded β} {rest : Option DecodeError}
    (h : ∀ a, x = .ok a → rest = error? (k a)) : (error? x).or rest = error? (x >>= k) := by
  cases x with
  | error err => rfl
  | ok a => exact h a rfl

end Decode

namespace Field

variable {m : Dictionary Json} {f : Field} {err : DecodeError}

/-- Why the member of a field cannot be read, if it cannot. -/
def fault? (f : Field) (m : Dictionary Json) : Option DecodeError :=
  (m.get? f.name).bind fun v => Decode.error? (f.type.decode v)

/-- The fault that the member of a field is not there, if it has to be. -/
def missing? (f : Field) (m : Dictionary Json) : Option DecodeError :=
  if f.required && (m.get? f.name).isNone then some (.missingField f.name) else none

lemma fault?_eq_some_iff : f.fault? m = some err ↔ f.Faulty m err := by
  simp only [fault?, Option.bind_eq_some_iff, Decode.error?_eq_some_iff, Faulty]

lemma fault?_eq_none_iff : f.fault? m = none ↔ f.Sound m := by
  simp only [fault?, Option.bind_eq_none_iff, Decode.error?_eq_none_iff,
    FieldType.exists_decode_iff, Sound]

lemma missing?_eq_some_iff :
    f.missing? m = some err ↔ f.Missing m ∧ err = .missingField f.name := by
  simp only [missing?, Option.ite_none_right_eq_some, Bool.and_eq_true, Option.isNone_iff_eq_none,
    Option.some.injEq, Missing, @eq_comm _ err]

lemma missing?_eq_none_iff : f.missing? m = none ↔ ¬ f.Missing m := by
  simp [missing?, Missing]

end Field

/-- The first fault of a record whose members are read in one order of the fields, and then looked
for in another. -/
def firstError? (read declared : List Field) (m : Dictionary Json) : Option DecodeError :=
  (read.findSome? (·.fault? m)).or (declared.findSome? (·.missing? m))

section

variable {α : Type} {m : Dictionary Json} {f : Field} {read declared : List Field}
  {err : DecodeError}

/-- A member is read, and then the members of the fields behind it. -/
lemma firstError?_read {k : Option f.type.Value → Decoded α}
    (h : ∀ o, Decode.field? m f.name f.type.decode = .ok o →
      firstError? read declared m = Decode.error? (k o)) :
    firstError? (f :: read) declared m =
      Decode.error? (Decode.field? m f.name f.type.decode >>= k) := by
  have hfault : f.fault? m = Decode.error? (Decode.field? m f.name f.type.decode) := by
    rw [Field.fault?, Decode.field?]
    cases m.get? f.name with
    | none => rfl
    | some v => cases hv : f.type.decode v <;> simp [hv, Decode.error?, Except.map]
  rw [← Decode.error?_bind h, ← hfault, firstError?, firstError?, List.findSome?_cons]
  cases f.fault? m <;> rfl

/-- A member that was read is looked for, and then those of the fields behind it. -/
lemma firstError?_require {o : Option f.type.Value} {k : f.type.Value → Decoded α}
    (hrequired : f.required = true) (ho : Decode.field? m f.name f.type.decode = .ok o)
    (h : ∀ a, firstError? [] declared m = Decode.error? (k a)) :
    firstError? [] (f :: declared) m = Decode.error? (Decode.required f.name o >>= k) := by
  have hmissing : f.missing? m = Decode.error? (Decode.required f.name o) := by
    rw [Field.missing?, hrequired, Bool.true_and]
    rcases Decode.field?_eq_ok_iff.mp ho with ⟨hmember, rfl⟩ | ⟨v, a, hmember, -, rfl⟩
    · rw [hmember]
      rfl
    · rw [hmember]
      rfl
  rw [← Decode.error?_bind fun a _ => h a, ← hmissing, firstError?, firstError?,
    List.findSome?_cons]
  cases f.missing? m <;> rfl

end

lemma Namespace.firstError?_eq (m : Dictionary Json) :
    firstError? Shape.namespaceRecord.fieldsByName Shape.namespaceRecord.fields m =
      Decode.error? (ofMembers m) := by
  refine firstError?_read fun id hid => ?_
  refine firstError?_read fun name hname => ?_
  refine firstError?_read fun type htype => ?_
  refine firstError?_require rfl hid fun id => ?_
  refine firstError?_require rfl hname fun name => ?_
  refine firstError?_require rfl htype fun type => ?_
  rfl

lemma Port.firstError?_eq (m : Dictionary Json) :
    firstError? Shape.port.fieldsByName Shape.port.fields m = Decode.error? (ofMembers m) := by
  refine firstError?_read fun name hname => ?_
  refine firstError?_read fun number hnumber => ?_
  refine firstError?_read fun protocol hprotocol => ?_
  refine firstError?_read fun target htarget => ?_
  refine firstError?_require rfl hname fun name => ?_
  refine firstError?_require rfl hnumber fun number => ?_
  refine firstError?_require rfl htarget fun target => ?_
  refine firstError?_require rfl hprotocol fun protocol => ?_
  rfl

lemma Endpoint.firstError?_eq (m : Dictionary Json) :
    firstError? Shape.endpoint.fieldsByName Shape.endpoint.fields m =
      Decode.error? (ofMembers m) := by
  refine firstError?_read fun attributes _ => ?_
  refine firstError?_read fun clusterId hclusterId => ?_
  refine firstError?_read fun clusterSetId hclusterSetId => ?_
  refine firstError?_read fun endpointPort hendpointPort => ?_
  refine firstError?_read fun hostname _ => ?_
  refine firstError?_read fun id hid => ?_
  refine firstError?_read fun ip hip => ?_
  refine firstError?_read fun nodename _ => ?_
  refine firstError?_read fun ready hready => ?_
  refine firstError?_read fun exportedAt hexportedAt => ?_
  refine firstError?_read fun servicePort hservicePort => ?_
  refine firstError?_read fun serviceType hserviceType => ?_
  refine firstError?_require rfl hid fun id => ?_
  refine firstError?_require rfl hip fun ip => ?_
  refine firstError?_require rfl hendpointPort fun endpointPort => ?_
  refine firstError?_require rfl hservicePort fun servicePort => ?_
  refine firstError?_require rfl hclusterId fun clusterId => ?_
  refine firstError?_require rfl hclusterSetId fun clusterSetId => ?_
  refine firstError?_require rfl hserviceType fun serviceType => ?_
  refine firstError?_require rfl hexportedAt fun exportedAt => ?_
  refine firstError?_require rfl hready fun ready => ?_
  -- The three fields left need not be there.
  rfl

/-! ### The law -/

lemma Shape.perm_fieldsByName (shape : Shape) : shape.fieldsByName.Perm shape.fields := by
  cases shape <;> decide

lemma Shape.pairwise_fieldsByName (shape : Shape) :
    shape.fieldsByName.Pairwise fun f g => f.bytes < g.bytes := by
  cases shape <;> decide

section

variable {m : Dictionary Json} {fields read : List Field} {err : DecodeError}

/-- The first fault in ascending order of the names is that of the least of them. -/
lemma findSome?_fault?_eq_some_iff (hperm : read.Perm fields)
    (hsorted : read.Pairwise fun f g => f.bytes < g.bytes) :
    read.findSome? (·.fault? m) = some err ↔ ∃ f ∈ fields, f.Faulty m err ∧
      ∀ other ∈ fields, other.bytes < f.bytes → other.Sound m := by
  simp only [List.findSome?_eq_some_iff, Field.fault?_eq_some_iff, Field.fault?_eq_none_iff,
    ← hperm.mem_iff]
  constructor
  · rintro ⟨before, f, after, rfl, hfaulty, hbefore⟩
    refine ⟨f, by simp, hfaulty, fun other hother hlt => ?_⟩
    obtain ⟨-, hafter, -⟩ := List.pairwise_append.mp hsorted
    rcases List.mem_append.mp hother with hother | hother
    · exact hbefore other hother
    rcases List.mem_cons.mp hother with rfl | hother
    · exact absurd hlt (List.lt_irrefl _)
    · exact absurd hlt (List.lt_asymm (List.rel_of_pairwise_cons hafter hother))
  · rintro ⟨f, hf, hfaulty, hleast⟩
    obtain ⟨before, after, rfl⟩ := List.append_of_mem hf
    obtain ⟨-, -, hbefore⟩ := List.pairwise_append.mp hsorted
    exact ⟨before, f, after, rfl, hfaulty, fun other hother =>
      hleast other (by simp [hother]) (hbefore other hother f (by simp))⟩

/-- The first fault in the order of declaration is that of the first field that is missing. -/
lemma findSome?_missing?_eq_some_iff : fields.findSome? (·.missing? m) = some err ↔
    ∃ before f after, fields = before ++ f :: after ∧ (∀ other ∈ before, ¬ other.Missing m) ∧
      f.Missing m ∧ err = .missingField f.name := by
  simp only [List.findSome?_eq_some_iff, Field.missing?_eq_some_iff, Field.missing?_eq_none_iff]
  exact exists₃_congr fun _ _ _ => and_congr_right' and_comm

/-- A record in object form is governed by the law if its first fault is reported. -/
lemma Governed.of_firstError? {α : Type} {decode : Json → Decoded α} (hperm : read.Perm fields)
    (hsorted : read.Pairwise fun f g => f.bytes < g.bytes)
    (h : ∀ members, firstError? read fields (.ofList members) =
      Decode.error? (decode (.obj members))) : Governed decode fields := by
  constructor
  · intro members
    rw [← Decode.error?_eq_none_iff, ← h]
    simp only [firstError?, Option.or_eq_none_iff, List.findSome?_eq_none_iff,
      Field.fault?_eq_none_iff, Field.missing?_eq_none_iff, hperm.mem_iff, forall_and]
  · intro members err
    have hsound : read.findSome? (·.fault? (.ofList members)) = none ↔
        ∀ f ∈ fields, f.Sound (.ofList members) := by
      simp only [List.findSome?_eq_none_iff, Field.fault?_eq_none_iff, hperm.mem_iff]
    rw [← Decode.error?_eq_some_iff, ← h, firstError?, Option.or_eq_some_iff, hsound,
      findSome?_fault?_eq_some_iff hperm hsorted, findSome?_missing?_eq_some_iff]

end

/-- Namespaces, ports and endpoints in object form are read if all their members are sound and no
required one is missing. -/
theorem records_governed :
    Governed Namespace.decode Shape.namespaceRecord.fields ∧
    Governed Port.decode Shape.port.fields ∧ Governed Endpoint.decode Shape.endpoint.fields :=
  ⟨.of_firstError? (Shape.perm_fieldsByName _) (Shape.pairwise_fieldsByName _)
      fun _ => Namespace.firstError?_eq _,
    .of_firstError? (Shape.perm_fieldsByName _) (Shape.pairwise_fieldsByName _)
      fun _ => Port.firstError?_eq _,
    .of_firstError? (Shape.perm_fieldsByName _) (Shape.pairwise_fieldsByName _)
      fun _ => Endpoint.firstError?_eq _⟩

-- Of the two faults that of the protocol is reported, though the target is declared before it; the
-- missing name and number are not looked for.
example : Port.decode (.obj [("target_port", .null), ("protocol", .int 6), ("app", .null)]) =
    .error (.wrongType (.int 6) .string) := rfl

end Discovery
