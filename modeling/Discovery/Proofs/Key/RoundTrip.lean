import Discovery.Key.Reader
import Mathlib.Tactic
/-!
The text of a key determines what it is the key of.

* `Key.delimiter_notMem_escape`: a name as it is written has no delimiter left
  in it;
* `Key.parts_build`: the parts of a key's text are the tag of its kind and the
  written names;
* `Key.eq_escape_of_unescape`, `Key.eq_append_of_parts`: only the way a name is
  written can be read as that name, and parts come of a text with delimiters
  between them;
* `Identity.ofText?_key`: reading the text of a key gives back what it is the
  key of;
* `Identity.key_injective`: different things have different keys;
* `Identity.text_key_eq_iff`: the texts of keys alone tell different things
  apart, and are the only texts that are read.
-/

namespace Discovery

namespace Key

/-! ### The parts of a text -/

/-- A name as it is written has no delimiter left in it. -/
lemma delimiter_notMem_escape (name : List Char) : delimiter ∉ escape name := by
  intro h
  rw [escape_eq_escapeEach] at h
  obtain ⟨c, -, hc⟩ := List.mem_flatMap.mp h
  rw [escapeChar] at hc
  split_ifs at hc with hp hd
  · revert hc
    decide
  · revert hc
    decide
  · exact hd (List.mem_singleton.mp hc).symm

/-- A text without delimiters is a single part. -/
lemma parts_of_notMem {l : List Char} (h : delimiter ∉ l) : parts l = [l] := by
  induction l with
  | nil => rfl
  | cons c cs ih =>
      have hc : c ≠ delimiter := fun e => h (e ▸ List.mem_cons_self ..)
      rw [parts, if_neg hc, ih fun hd => h (List.mem_cons_of_mem c hd)]

/-- A first part ends at the first delimiter. -/
lemma parts_append {l : List Char} (h : delimiter ∉ l) (rest : List Char) :
    parts (l ++ delimiter :: rest) = l :: parts rest := by
  induction l with
  | nil => rw [List.nil_append, parts, if_pos rfl]
  | cons c cs ih =>
      have hc : c ≠ delimiter := fun e => h (e ▸ List.mem_cons_self ..)
      rw [List.cons_append, parts, if_neg hc, ih fun hd => h (List.mem_cons_of_mem c hd)]

/-- Names that each follow a delimiter are the parts behind the first one. -/
lemma parts_append_names {l : List Char} (h : delimiter ∉ l) (names : List String) :
    parts (l ++ names.flatMap fun name => delimiter :: escape name.toList)
      = l :: names.map fun name => escape name.toList := by
  induction names generalizing l with
  | nil => simpa using parts_of_notMem h
  | cons name rest ih =>
      rw [List.flatMap_cons, List.cons_append, parts_append h,
        ih (delimiter_notMem_escape name.toList), List.map_cons]

/-- The parts of a key's text are the tag of its kind and the written names. -/
lemma parts_build (kind : Kind) (names : List String) :
    parts (build kind names).text.toList
      = kind.tag.toList :: names.map fun name => escape name.toList := by
  have htag : delimiter ∉ kind.tag.toList := by cases kind <;> decide
  rw [build, String.toList_ofList]
  exact parts_append_names htag names

/-! ### Texts that can be read -/

/-- Only the way a name is written is read as that name. -/
lemma eq_escape_of_unescape {l name : List Char} (h : unescape l = some name) :
    l = escape name := by
  rw [escape_eq_escapeEach]
  fun_induction unescape l generalizing name with
  | case1 =>
      cases h
      rfl
  | case2 rest ih | case3 rest ih =>
      obtain ⟨n, hn, rfl⟩ := Option.map_eq_some_iff.mp h
      rw [ih hn]
      rfl
  | case4 => cases h
  | case5 c rest _ _ hc ih =>
      obtain ⟨n, hn, rfl⟩ := Option.map_eq_some_iff.mp h
      rw [not_or] at hc
      have hchar : escapeChar c = [c] := by rw [escapeChar, if_neg hc.1, if_neg hc.2]
      show c :: rest = escapeChar c ++ escapeEach n
      rw [hchar, ih hn, List.singleton_append]

lemma parts_ne_nil (l : List Char) : parts l ≠ [] := by
  cases l with
  | nil => nofun
  | cons c cs =>
      rw [parts]
      split_ifs
      · nofun
      · split <;> nofun

/-- A text is its first part, and then the other ones, each after a delimiter. -/
lemma eq_append_of_parts {l part : List Char} {rest : List (List Char)}
    (h : parts l = part :: rest) : l = part ++ rest.flatMap (delimiter :: ·) := by
  induction l generalizing part rest with
  | nil =>
      cases h
      rfl
  | cons c cs ih =>
      obtain ⟨p, ps, hcs⟩ := List.exists_cons_of_ne_nil (parts_ne_nil cs)
      have htext : cs = p ++ ps.flatMap (delimiter :: ·) := ih hcs
      rw [parts, hcs] at h
      split_ifs at h with hc
      · cases h
        rw [hc, htext]
        rfl
      · cases h
        rw [htext]
        rfl

/-- A text whose parts are the tag of a kind and written names is that of a key. -/
lemma eq_text_of_parts {text : String} {kind : Kind} {names : List String}
    (h : parts text.toList = kind.tag.toList :: names.map fun name => escape name.toList) :
    text = (build kind names).text := by
  rw [build, ← String.ofList_toList (s := text), eq_append_of_parts h, List.flatMap_map]

end Key

namespace Identity

/-! ### What a key is the key of -/

/-- Reading the text of a key gives back what it is the key of. -/
lemma ofText?_key (i : Identity) : ofText? i.key.text = some i := by
  rw [ofText?, key, Key.parts_build]
  cases i with
  | namespaceRecord ns => simp [kind, names, Key.unescape_escape]
  | serviceId ns svc => simp [kind, names, Key.unescape_escape]
  | endpointSet ns svc => simp [kind, names, Key.unescape_escape, Kind.tag]

/-- Different things have different keys. -/
lemma key_injective : Function.Injective key := by
  intro i j h
  have hread := ofText?_key i
  rw [h, ofText?_key j] at hread
  exact (Option.some.inj hread).symm

/-- Only the text of its key is read as something. -/
lemma eq_text_of_ofText? {text : String} {i : Identity} (h : ofText? text = some i) :
    text = i.key.text := by
  have hwritten {written name : List Char} (h : Key.unescape written = some name) :
      written = Key.escape (String.ofList name).toList := by
    rw [String.toList_ofList]
    exact Key.eq_escape_of_unescape h
  rw [ofText?] at h
  split at h
  · next tag ns hparts =>
      split_ifs at h with htag
      obtain ⟨n, hn, rfl⟩ := Option.map_eq_some_iff.mp h
      rw [htag, hwritten hn] at hparts
      exact Key.eq_text_of_parts hparts
  · next tag ns svc hparts =>
      obtain ⟨n, hn, h⟩ := Option.bind_eq_some_iff.mp h
      obtain ⟨m, hm, h⟩ := Option.bind_eq_some_iff.mp h
      rw [hwritten hn, hwritten hm] at hparts
      split_ifs at h with hservice hendpoints
      · cases h
        rw [hservice] at hparts
        exact Key.eq_text_of_parts hparts
      · cases h
        rw [hendpoints] at hparts
        exact Key.eq_text_of_parts hparts
  · cases h

/-- The texts of two keys are the same just when the keys are those of the same
thing. What a text is the key of can be read off the text alone, and nothing is
read off any other text. A name is written character by character, whether it is
gone through or taken as it stands. -/
theorem text_key_eq_iff :
    (∀ i j : Identity, i.key.text = j.key.text ↔ i = j) ∧
    (∀ (text : String) (i : Identity), ofText? text = some i ↔ text = i.key.text) ∧
    ∀ name : List Char, Key.escape name = Key.escapeEach name := by
  refine ⟨fun i j => ⟨fun h => ?_, fun h => h ▸ rfl⟩, fun text i => ⟨eq_text_of_ofText?, ?_⟩,
    Key.escape_eq_escapeEach⟩
  · have hread : some i = some j := by rw [← ofText?_key i, h, ofText?_key j]
    exact Option.some.inj hread
  · rintro rfl
    exact ofText?_key i

/-- A name that looks escaped keeps apart from the one that it looks like. -/
example : (namespaceRecord "a%3Ab").key.text = "ns:a%253Ab" ∧
    (namespaceRecord "a:b").key.text = "ns:a%3Ab" := by decide

end Identity

end Discovery
