import PatternBook.Proofs.JsonGrammar
import PatternBook.Proofs.Tidy

/-!
# Reading a document back

The patterns of a JSON value, read field by field, and why a document loses nothing: the decoder
gives back every list of patterns from its value, and the text has no other value.

* `field?`, `require?`, `allow?` -- a member by its key, one that must be there, and one that may be
  absent; an absent member is no empty one;
* `toPattern?_ofPattern` -- every pattern is read back from its value, if no entry of its metadata
  has the key of another member of the object (`Metadata.Unreserved`);
* `keysDistinct_ofPatterns` -- and then no object has two members with one key;
* `document_lossless` -- the claim of this file, for the patterns of every source text.
-/

namespace PatternBook

/-- Metadata whose entries leave alone the two keys of the members that stand beside them. -/
structure Metadata.Unreserved (m : Metadata) : Prop where
  todos : "todos".toList ∉ m.entries.keys
  deprecated : "deprecated".toList ∉ m.entries.keys

namespace Json

variable {α : Type}

/-! ## 1. Decoders -/

def asText? : Json → Option Text
  | text t => some t
  | _ => none

def asNumber? : Json → Option Nat
  | number n => some n
  | _ => none

def asBool? : Json → Option Bool
  | bool b => some b
  | _ => none

/-- A list whose elements `read` decodes. -/
def asList? (read : Json → Option α) : Json → Option (List α)
  | array vs => vs.mapM read
  | _ => none

/-- A value that `read` decodes, or null. -/
def asNullable? (read : Json → Option α) : Json → Option (Option α)
  | null => some none
  | v => (read v).map some

/-- The value of the first member with the given key. -/
def field? (key : String) : Json → Option Json
  | object ms => SortedMap.find? key.toList ms
  | _ => none

/-- A member that must be there. -/
def require? (key : String) (read : Json → Option α) (v : Json) : Option α :=
  (v.field? key).bind read

/-- A member that may be absent. -/
def allow? (key : String) (read : Json → Option α) (v : Json) : Option (Option α) :=
  match v.field? key with
  | none => some none
  | some w => (read w).map some

/-- The keys that are no entries of the metadata. -/
def reserved : List Text := ["todos".toList, "deprecated".toList]

theorem notMem_reserved {m : Metadata} (h : m.Unreserved) {k : Text} (hk : k ∈ m.entries.keys) :
    k ∉ reserved := by
  intro hr
  rcases List.mem_cons.1 hr with hr | hr
  · exact h.todos (hr ▸ hk)
  · exact h.deprecated (List.mem_singleton.1 hr ▸ hk)

/-- The members that are entries of the metadata. -/
def entries? : Json → Option (SortedMap Text Text)
  | object ms => do
    let entries ← (ms.filter fun m => !reserved.contains m.1).mapM fun m =>
      m.2.asText?.map fun t => (m.1, t)
    some (SortedMap.ofList entries)
  | _ => none

def toCodeBlock? (v : Json) : Option CodeBlock := do
  let lang ← v.require? "syntax" (asNullable? asText?)
  let code ← v.require? "code" asText?
  some ⟨lang, code⟩

def toExample? (v : Json) : Option Example := do
  let description ← v.require? "description" asText?
  let height ← v.allow? "height" asNumber?
  let codeBlocks ← v.require? "codeBlocks" (asList? toCodeBlock?)
  some ⟨description, height, codeBlocks⟩

def toParameter? (v : Json) : Option Parameter := do
  let name ← v.require? "name" asText?
  let type ← v.require? "type" asText?
  let required ← v.require? "required" asBool?
  let defaultValue ← v.allow? "defaultValue" asText?
  let description ← v.require? "description" asText?
  some ⟨name, type, required, defaultValue, description⟩

def toMetadata? (v : Json) : Option Metadata := do
  let entries ← v.entries?
  let todos ← v.require? "todos" (asList? asText?)
  let deprecated ← v.allow? "deprecated" asText?
  some ⟨entries, todos, deprecated⟩

def toPattern? (v : Json) : Option Pattern := do
  let name ← v.require? "name" asText?
  let title ← v.require? "title" asText?
  let description ← v.require? "description" asText?
  let metadata ← v.require? "meta" toMetadata?
  let parameters ← v.require? "parameters" (asList? toParameter?)
  let examples ← v.require? "examples" (asList? toExample?)
  some ⟨name, title, description, metadata, parameters, examples⟩

/-- **The patterns of the value of a document.** -/
def toPatterns? (v : Json) : Option (List Pattern) :=
  v.require? "patterns" (asList? toPattern?)

/-! ## 2. What is written is read back -/

/-- What each element gives back, the list gives back. -/
theorem mapM_map {β : Type} {write : α → β} {read : β → Option α} {l : List α}
    (h : ∀ a ∈ l, read (write a) = some a) : (l.map write).mapM read = some l := by
  induction l with
  | nil => rfl
  | cons a l ih =>
    have ha := h a List.mem_cons_self
    have hl := ih fun b hb => h b (List.mem_cons_of_mem a hb)
    simp [ha, hl]

theorem asList?_map {write : α → Json} {read : Json → Option α} {l : List α}
    (h : ∀ a ∈ l, read (write a) = some a) : asList? read (array (l.map write)) = some l :=
  mapM_map h

/-- Entries with other keys do not hide a key. -/
theorem find?_append {k : Text} {l ms : List (Text × Json)} (h : k ∉ l.map (·.1)) :
    SortedMap.find? k (l ++ ms) = SortedMap.find? k ms := by
  induction l with
  | nil => rfl
  | cons e l ih =>
    simp only [List.map_cons, List.mem_cons, not_or] at h
    rw [List.cons_append, SortedMap.find?, if_neg h.1, ih h.2]

theorem toCodeBlock?_ofCodeBlock (b : CodeBlock) : (ofCodeBlock b).toCodeBlock? = some b := by
  obtain ⟨lang, code⟩ := b
  cases lang <;> rfl

theorem toExample?_ofExample (e : Example) : (ofExample e).toExample? = some e := by
  obtain ⟨description, height, codeBlocks⟩ := e
  have hblocks : asList? toCodeBlock? (array (codeBlocks.map ofCodeBlock)) = some codeBlocks :=
    asList?_map fun b _ => toCodeBlock?_ofCodeBlock b
  have hrequire : (ofExample ⟨description, height, codeBlocks⟩).require? "codeBlocks"
      (asList? toCodeBlock?) = some codeBlocks := by
    cases height <;> exact hblocks
  rw [toExample?, hrequire]
  cases height <;> rfl

theorem toParameter?_ofParameter (q : Parameter) : (ofParameter q).toParameter? = some q := by
  obtain ⟨name, type, required, defaultValue, description⟩ := q
  cases defaultValue <;> rfl

/-- The members of the metadata beside its entries. -/
def ownMembers (m : Metadata) : List (Text × Json) :=
  [member "todos" (array (m.todos.map text))] ++
    optionalMember "deprecated" (m.deprecated.map text)

theorem ofMetadata_eq (m : Metadata) : ofMetadata m =
    object (m.entries.toList.map (fun e => (e.1, text e.2)) ++ ownMembers m) := by
  rw [ofMetadata, ownMembers, List.append_assoc]

theorem map_fst_entries (m : Metadata) :
    (m.entries.toList.map fun e => (e.1, text e.2)).map (·.1) = m.entries.keys := by
  rw [List.map_map]
  rfl

theorem entries?_ofMetadata {m : Metadata} (h : m.Unreserved) :
    (ofMetadata m).entries? = some m.entries := by
  have hentries : (m.entries.toList.map fun e => (e.1, text e.2)).filter
      (fun e => !reserved.contains e.1) = m.entries.toList.map fun e => (e.1, text e.2) := by
    refine List.filter_eq_self.2 fun e he => ?_
    have hkey : e.1 ∉ reserved := by
      refine notMem_reserved h ?_
      rw [← map_fst_entries]
      exact List.mem_map_of_mem he
    simpa using hkey
  have hown : (ownMembers m).filter (fun e => !reserved.contains e.1) = [] := by
    unfold ownMembers
    cases m.deprecated <;> rfl
  have hread : (m.entries.toList.map fun e => (e.1, text e.2)).mapM
      (fun e => e.2.asText?.map fun t => (e.1, t)) = some m.entries.toList :=
    mapM_map fun e _ => rfl
  rw [ofMetadata_eq, entries?, List.filter_append, hentries, hown, List.append_nil, hread]
  exact congrArg some (SortedMap.ofList_toList m.entries)

theorem toMetadata?_ofMetadata {m : Metadata} (h : m.Unreserved) :
    (ofMetadata m).toMetadata? = some m := by
  have hfield : ∀ key : String, key.toList ∉ m.entries.keys →
      (ofMetadata m).field? key = SortedMap.find? key.toList (ownMembers m) := by
    intro key hkey
    rw [ofMetadata_eq]
    exact find?_append (by rwa [map_fst_entries])
  have htodos : asList? asText? (array (m.todos.map text)) = some m.todos :=
    asList?_map fun t _ => rfl
  have hrequire : (ofMetadata m).require? "todos" (asList? asText?) = some m.todos := by
    rw [require?, hfield _ h.todos]
    exact htodos
  have hallow : (ofMetadata m).allow? "deprecated" asText? = some m.deprecated := by
    rw [allow?, hfield _ h.deprecated]
    unfold ownMembers
    cases m.deprecated <;> rfl
  rw [toMetadata?, entries?_ofMetadata h, hrequire, hallow]
  rfl

theorem toPattern?_ofPattern {p : Pattern} (h : p.metadata.Unreserved) :
    (ofPattern p).toPattern? = some p := by
  have hmetadata : (ofPattern p).require? "meta" toMetadata? = some p.metadata :=
    toMetadata?_ofMetadata h
  have hparameters : (ofPattern p).require? "parameters" (asList? toParameter?) =
      some p.parameters :=
    asList?_map fun q _ => toParameter?_ofParameter q
  have hexamples : (ofPattern p).require? "examples" (asList? toExample?) = some p.examples :=
    asList?_map fun e _ => toExample?_ofExample e
  rw [toPattern?, hmetadata, hparameters, hexamples]
  rfl

/-- **Every list of patterns is read back** from the value of its document. -/
theorem toPatterns?_ofPatterns {ps : List Pattern} (h : ∀ p ∈ ps, p.metadata.Unreserved) :
    (ofPatterns ps).toPatterns? = some ps := by
  have hread : asList? toPattern? (array (ps.map ofPattern)) = some ps :=
    asList?_map fun p hp => toPattern?_ofPattern (h p hp)
  exact hread

/-! ## 3. Keys -/

theorem keysDistinct_ofCodeBlock (b : CodeBlock) : (ofCodeBlock b).KeysDistinct := by
  obtain ⟨lang, code⟩ := b
  cases lang <;> simp [ofCodeBlock, member]

theorem keysDistinct_ofExample (e : Example) : (ofExample e).KeysDistinct := by
  have hblocks : ∀ b ∈ e.codeBlocks, (ofCodeBlock b).KeysDistinct :=
    fun b _ => keysDistinct_ofCodeBlock b
  unfold ofExample optionalMember
  cases e.height <;> simpa [member] using hblocks

theorem keysDistinct_ofParameter (q : Parameter) : (ofParameter q).KeysDistinct := by
  unfold ofParameter optionalMember
  cases q.defaultValue <;> simp [member]

theorem keys_ownMembers (m : Metadata) : ((ownMembers m).map (·.1)).Sublist reserved := by
  unfold ownMembers optionalMember reserved
  cases m.deprecated <;> simp [member]

theorem keysDistinct_ofMetadata {m : Metadata} (h : m.Unreserved) :
    (ofMetadata m).KeysDistinct := by
  have hkeys : m.entries.keys.Nodup := by
    refine m.entries.keys_sorted.imp fun {a b} hlt heq => ?_
    rw [heq] at hlt
    exact List.lt_irrefl b hlt
  have hown : ((ownMembers m).map (·.1)).Nodup :=
    (keys_ownMembers m).nodup (by decide)
  have hapart : ∀ k ∈ m.entries.keys, ∀ j ∈ (ownMembers m).map (·.1), k ≠ j := by
    rintro k hk j hj rfl
    exact notMem_reserved h hk ((keys_ownMembers m).subset hj)
  have hvalues : ∀ e ∈ ownMembers m, e.2.KeysDistinct := by
    unfold ownMembers optionalMember
    cases m.deprecated <;> simp [member]
  rw [ofMetadata_eq, keysDistinct_object, List.map_append, map_fst_entries]
  refine ⟨List.nodup_append.2 ⟨hkeys, hown, hapart⟩, fun e he => ?_⟩
  rcases List.mem_append.1 he with he | he
  · obtain ⟨d, -, rfl⟩ := List.mem_map.1 he
    exact .text d.2
  · exact hvalues e he

theorem keysDistinct_ofPattern {p : Pattern} (h : p.metadata.Unreserved) :
    (ofPattern p).KeysDistinct := by
  simp [ofPattern, member, keysDistinct_ofMetadata h, keysDistinct_ofParameter,
    keysDistinct_ofExample]

/-- **No object of a document has two members with one key.** -/
theorem keysDistinct_ofPatterns {ps : List Pattern} (h : ∀ p ∈ ps, p.metadata.Unreserved) :
    (ofPatterns ps).KeysDistinct := by
  have hpattern : ∀ p ∈ ps, (ofPattern p).KeysDistinct :=
    fun p hp => keysDistinct_ofPattern (h p hp)
  simpa [ofPatterns, member] using hpattern

/-! ## 4. Documents -/

/-- **A document spells the value of its patterns and no other**, and a newline follows it. -/
theorem spells_document {ps : List Pattern} {v : Json} {rest : Text} :
    Spells (document ps) (.value v) rest ↔ v = ofPatterns ps ∧ rest = ['\n'] := by
  have hspells : Spells (document ps) (.value (ofPatterns ps)) ['\n'] :=
    spells_render 0 (ofPatterns ps) (noDigit_cons rfl [])
  constructor
  · intro h
    obtain ⟨hv, hrest⟩ := h.unique hspells trivial
    exact ⟨Phrase.value.inj hv, hrest⟩
  · rintro ⟨rfl, rfl⟩
    exact hspells

/-- The patterns of a source text leave the two keys alone. -/
theorem unreserved_of_mem_patterns {source : Text} {p : Pattern} (hp : p ∈ Source.patterns source) :
    p.metadata.Unreserved := by
  obtain ⟨body, hbody, hp⟩ := Source.exists_body_of_mem_patterns hp
  have hkeys := (Source.tidy_readBody hbody hp).1.metadata.keys
  constructor
  · intro hk
    obtain ⟨e, he, heq⟩ := List.mem_map.1 hk
    exact (hkeys e he).2.1 heq
  · intro hk
    obtain ⟨e, he, heq⟩ := List.mem_map.1 hk
    exact (hkeys e he).2.2 heq

/-- **A document loses nothing and is unambiguous.** The patterns of every source text leave the
    keys of other members alone. Where patterns do, their document is the spelling of exactly one
    value, with a newline behind it; no object of the value has two members with one key, and the
    patterns are read back from it. So no other patterns of that kind have the same document. -/
theorem document_lossless :
    (∀ source : Text, ∀ p ∈ Source.patterns source, p.metadata.Unreserved) ∧
    ∀ ps : List Pattern, (∀ p ∈ ps, p.metadata.Unreserved) →
      (∃ v : Json, (∀ w rest, Spells (document ps) (.value w) rest ↔ w = v ∧ rest = ['\n']) ∧
        v.KeysDistinct ∧ v.toPatterns? = some ps) ∧
      ∀ qs : List Pattern, (∀ q ∈ qs, q.metadata.Unreserved) → document ps = document qs →
        ps = qs := by
  refine ⟨fun source p => unreserved_of_mem_patterns, fun ps hps => ⟨?_, fun qs hqs heq => ?_⟩⟩
  · exact ⟨ofPatterns ps, fun w rest => spells_document, keysDistinct_ofPatterns hps,
      toPatterns?_ofPatterns hps⟩
  · have hvalue : ofPatterns ps = ofPatterns qs :=
      (spells_document.1 (heq ▸ spells_document.2 ⟨rfl, rfl⟩)).1
    have hread := toPatterns?_ofPatterns hps
    rw [hvalue, toPatterns?_ofPatterns hqs] at hread
    exact (Option.some.inj hread).symm

/-- A pattern without default value, height and reason, whose texts need every kind of escape. -/
def withoutOptions : Pattern where
  name := "\"\\\n\x01\x7f☃".toList
  metadata := { entries := .ofList [("todo".toList, "\t".toList), ("name".toList, [])] }
  parameters := [⟨"x".toList, [], false, none, []⟩]
  examples := [⟨[], none, [⟨none, []⟩]⟩]

/-- The same pattern with an empty default value, a height of zero and an empty reason. -/
def withOptions : Pattern :=
  { withoutOptions with
    metadata := { withoutOptions.metadata with deprecated := some [] }
    parameters := [⟨"x".toList, [], false, some [], []⟩]
    examples := [⟨[], some 0, [⟨none, []⟩]⟩] }

/-- The two patterns have different documents, and each is read back. -/
theorem document_lossless_options :
    (∀ p ∈ [withoutOptions], p.metadata.Unreserved) ∧ (∀ p ∈ [withOptions], p.metadata.Unreserved) ∧
    document [withoutOptions] ≠ document [withOptions] ∧
    ∃ v : Json, (∀ w rest, Spells (document [withOptions]) (.value w) rest ↔
        w = v ∧ rest = ['\n']) ∧
      v.KeysDistinct ∧ v.toPatterns? = some [withOptions] := by
  have hwithout : ∀ p ∈ [withoutOptions], p.metadata.Unreserved :=
    List.forall_mem_singleton.2 ⟨by decide +kernel, by decide +kernel⟩
  have hwith : ∀ p ∈ [withOptions], p.metadata.Unreserved :=
    List.forall_mem_singleton.2 ⟨by decide +kernel, by decide +kernel⟩
  have hne : [withoutOptions] ≠ [withOptions] := by decide +kernel
  exact ⟨hwithout, hwith, fun heq => hne ((document_lossless.2 _ hwithout).2 _ hwith heq),
    (document_lossless.2 _ hwith).1⟩

end Json

end PatternBook
