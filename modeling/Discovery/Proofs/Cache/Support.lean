import Discovery.Proofs.Cache.LastWrite
import Discovery.Proofs.Record.RoundTrip
/-!
Whether a namespace is supported, by whatever way its type is read.

* `NamespaceType.named_eq_ofRegistry`: a name in JSON stands for the type that it stands for as a
  word of the registry;
* `NamespaceType.ofRegistry_eq_iff`: a supported type is read off its own label only;
* `NamespaceType.ofRegistry_label`: every type is read back off its label;
* `Cache.KeptAs`, `Cache.keptAs_run`: what is held for an identity stays what was written until
  it is written again or evicted;
* `Cache.eq_of_putNamespace`: so a hit shows the very namespace that was put into the cache;
* `NamespaceType.readers_agree`: so a namespace does not change its support by being cached,
  written and read again.
-/

namespace Discovery

/-! ### Types and their names -/

namespace NamespaceType

variable {t : NamespaceType} {word : String}

/-- Every type is read back off its label. -/
lemma ofRegistry_label (t : NamespaceType) : ofRegistry t.label = t := by
  cases t <;> decide

/-- A supported type is read off its own label, and off nothing else. -/
lemma ofRegistry_eq_iff (ht : t ≠ unsupported) : ofRegistry word = t ↔ word = t.label := by
  constructor
  · rintro rfl
    rw [ofRegistry] at ht ⊢
    split_ifs at ht ⊢ with hhttp hdns
    · exact hhttp
    · exact hdns
    · exact absurd rfl ht
  · rintro rfl
    exact t.ofRegistry_label

/-- A namespace is supported if its type is one of the two that are known by name. -/
lemma isSupported_ofRegistry_iff :
    (ofRegistry word).isSupported ↔ word = http.label ∨ word = dnsPrivate.label := by
  rw [← ofRegistry_eq_iff (by decide), ← ofRegistry_eq_iff (by decide)]
  cases ofRegistry word <;> decide

/-- A name in JSON and a word of the registry stand for the same type. -/
lemma named_eq_ofRegistry (word : String) : named word = ofRegistry word := by
  by_cases hhttp : word = http.label
  · rw [hhttp, named_label, ofRegistry_label]
  by_cases hdns : word = dnsPrivate.label
  · rw [hdns, named_label, ofRegistry_label]
  calc named word = unsupported := by simp [named, Ne.symm hhttp, Ne.symm hdns]
    _ = ofRegistry word := ((if_neg hhttp).trans (if_neg hdns)).symm

/-- A string in JSON is read as the registry's word is. -/
lemma decode_str (word : String) : decode (.str word) = .ok (ofRegistry word) :=
  decode_eq_ok_iff.mpr ⟨word, .inl rfl, named_eq_ofRegistry word⟩

end NamespaceType

/-! ### Records in the cache -/

namespace Cache

variable {c : Cache} {r : Request} {ops : List Op} {i : Identity} {p : Payload}

/-- Whatever is held for an identity is this answer. -/
def KeptAs (i : Identity) (p : Payload) (c : Cache) : Prop :=
  ∀ e ∈ c.store.entries, e.key = i.key → e.value = p

/-- A write leaves nothing else for its identity. -/
lemma keptAs_serve_self (hc : c.store.clock.Accurate) (heffect : r.effect = .writes p) :
    KeptAs r.identity p (serve r c).state := by
  intro e he hkey
  rcases mem_entries_serve hc he with ⟨-, hreads⟩ | ⟨p', hp', rfl⟩
  · exact absurd (heffect.symm.trans (hreads hkey)) nofun
  · cases heffect.symm.trans hp'
    rfl

/-- A request leaves what is held for an identity, unless it writes or evicts it. -/
lemma keptAs_serve (h : KeptAs i p c) (hc : c.store.clock.Accurate)
    (hr : r.identity = i → r.effect = .reads) : KeptAs i p (serve r c).state := by
  intro e he hkey
  rcases mem_entries_serve hc he with ⟨he, -⟩ | ⟨p', hp', rfl⟩
  · exact h e he hkey
  · have hreads : r.effect = .reads := hr (Identity.key_injective hkey)
    exact absurd (hreads.symm.trans hp') nofun

/-- So does every run of proper operations that neither writes nor evicts it. -/
lemma keptAs_run (h : KeptAs i p c) (hc : c.store.clock.Accurate) (hops : ∀ op ∈ ops, op.Proper)
    (hreads : ∀ r, .request r ∈ ops → r.identity = i → r.effect = .reads) :
    KeptAs i p (run ops c) := by
  let I (c : Cache) : Prop := c.store.clock.Accurate ∧ KeptAs i p c
  have hkeeps : ∀ op ∈ ops, ∀ c, I c → I (act op c).state := by
    rintro op hop c ⟨hc, h⟩
    cases op with
    | request r =>
        have hclock := (limits_clock_serve hc r).2
        exact ⟨hclock.symm ▸ hc, keptAs_serve h hc (hreads r hop)⟩
    | direct op =>
        cases op with
        | advance d =>
            obtain ⟨clock, hmoved, -, hskews⟩ := act_advance d c
            show I (act (.direct (.advance d)) c).state
            rw [hmoved]
            exact ⟨hskews.trans hc, h⟩
        | add | get | remove | misread => exact absurd (hops _ hop) id
  exact (Action.keeps_each hkeeps ⟨hc, h⟩).2.2

/-- A hit shows what is held. -/
lemma eq_of_keptAs {reply : Reply} {found : Payload} (h : KeptAs r.identity p c)
    (hreply : (serve r c).answer = .ok reply) (hfound : reply.payload? = some found) :
    found = p := by
  obtain ⟨e, now, he, hkey, rfl, -⟩ := exists_of_fetch_eq_some (fetch_of_payload? hreply hfound)
  exact h e he hkey

/-- A namespace that was put into the cache is what a hit shows, until something else is put there
under its name. -/
lemma eq_of_putNamespace {record : Namespace} {known : Option Namespace}
    (hc : c.store.clock.Accurate) (hops : ∀ op ∈ ops, op.Proper)
    (hreads : ∀ r, .request r ∈ ops → r.identity = .namespaceRecord record.name →
      r.effect = .reads)
    (hknown : (serve (.getNamespace record.name)
      (run ops (serve (.putNamespace record) c).state)).answer =
        .ok (.namespaceRecord (some known))) : known = some record := by
  have hwritten : KeptAs (.namespaceRecord record.name) (.namespaceRecord (some record))
      (serve (.putNamespace record) c).state := keptAs_serve_self hc rfl
  have hclock : (serve (.putNamespace record) c).state.store.clock.Accurate := by
    rw [(limits_clock_serve hc _).2]
    exact hc
  have hkept := keptAs_run hwritten hclock hops hreads
  exact Payload.namespaceRecord.inj
    (eq_of_keptAs (r := .getNamespace record.name) hkept hknown rfl)

end Cache

/-! ### Support -/

/-- Every string is read from JSON as the type that it stands for as a word of the registry; that
type is supported just for the two words of the supported types, and its text is read back as the
same type in either way.

So put a namespace of that type into any cache whose clock reads true. Until something else is put
there under its name, a hit shows just this namespace, and what it shows, written in JSON and read
again, is of that type and is supported just for those two words. -/
theorem NamespaceType.readers_agree :
    (∀ raw : String,
      decode (.str raw) = .ok (ofRegistry raw) ∧
      (ofRegistry raw = http ↔ raw = "HTTP") ∧
      (ofRegistry raw = dnsPrivate ↔ raw = "DNS_PRIVATE") ∧
      ((ofRegistry raw).isSupported ↔ raw = "HTTP" ∨ raw = "DNS_PRIVATE") ∧
      ∃ text, (ofRegistry raw).encode = .str text ∧
        ofRegistry text = ofRegistry raw ∧ decode (.str text) = .ok (ofRegistry raw)) ∧
    ∀ (raw : String) (record : Namespace) (c : Cache) (ops : List Cache.Op),
      record.type = ofRegistry raw → c.store.clock.Accurate → (∀ op ∈ ops, op.Proper) →
      (∀ r, .request r ∈ ops → r.identity = .namespaceRecord record.name → r.effect = .reads) →
      ∀ known, (Cache.serve (.getNamespace record.name)
          (Cache.run ops (Cache.serve (.putNamespace record) c).state)).answer =
            .ok (.namespaceRecord (some known)) →
        known = some record ∧
        ∃ back, Namespace.decode record.encode = .ok back ∧ back.type = ofRegistry raw ∧
          (back.isSupported ↔ raw = "HTTP" ∨ raw = "DNS_PRIVATE") := by
  refine ⟨fun raw => ?_, fun raw record c ops htype hc hops hreads known hknown => ?_⟩
  · have hlabel : ofRegistry (ofRegistry raw).label = ofRegistry raw := ofRegistry_label _
    exact ⟨decode_str raw, ofRegistry_eq_iff (by decide), ofRegistry_eq_iff (by decide),
      isSupported_ofRegistry_iff, _, rfl, hlabel, (decode_str _).trans (congrArg _ hlabel)⟩
  · refine ⟨Cache.eq_of_putNamespace hc hops hreads hknown, record, record.decode_encode, htype, ?_⟩
    rw [Namespace.isSupported, htype]
    exact isSupported_ofRegistry_iff

/-- A namespace of a type that is not known is found a second after it was cached, while another
one was written, and is still not supported when it is written in JSON and read again. -/
theorem NamespaceType.readers_agree_unsupported :
    let c : Cache := .empty .standard .start
    let ops : List Cache.Op := [.request (.putNamespace ⟨"ns-2", "other", .http⟩),
      .direct (.advance (.ofSecs 1))]
    let record : Namespace := ⟨"ns-1", "demo", ofRegistry "DNS_PUBLIC"⟩
    decode (.str "DNS_PUBLIC") = .ok unsupported ∧
      (Cache.serve (.getNamespace "demo")
          (Cache.run ops (Cache.serve (.putNamespace record) c).state)).answer =
        .ok (.namespaceRecord (some (some record))) ∧
      ∃ back, Namespace.decode record.encode = .ok back ∧ ¬ back.isSupported := by
  intro c ops record
  obtain ⟨hread, hcached⟩ := readers_agree
  have hops : ∀ op ∈ ops, op.Proper := by simp [ops, Cache.Op.Proper]
  have hother : ∀ r, .request r ∈ ops → r.identity = .namespaceRecord "demo" →
      r.effect = .reads := by
    intro r hr hri
    obtain rfl : r = .putNamespace ⟨"ns-2", "other", .http⟩ := by simpa [ops] using hr
    exact absurd hri (by decide)
  have hhit : (Cache.serve (.getNamespace "demo")
      (Cache.run ops (Cache.serve (.putNamespace record) c).state)).answer =
        .ok (.namespaceRecord (some (some record))) := by decide
  obtain ⟨-, back, hback, -, hsupported⟩ :=
    hcached "DNS_PUBLIC" record c ops rfl Clock.accurate_start hops hother _ hhit
  refine ⟨(hread "DNS_PUBLIC").1, hhit, back, hback, ?_⟩
  rw [hsupported]
  decide

end Discovery
