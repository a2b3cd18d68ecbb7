import AgentycHost.Effects.Canonical
import Mathlib.Data.List.Perm.Basic

set_option autoImplicit false

/-! # The canonical bytes of an action identify it -/

namespace AgentycHost

open Shared

variable {floats : FloatFormat} {payload payload' value value' : SerdeValue floats}

/-- The calls of one entry of a map. -/
def entryCalls (key value : SerdeValue floats) : List (MapStep × SerdeValue floats) := [(.key, key), (.value, value)]

def mapCalls (entries : List (SerdeValue floats × SerdeValue floats)) : List (MapStep × SerdeValue floats) :=
  entries.flatMap fun entry => entryCalls entry.1 entry.2

/-- The payloads differ only in the order of the entries of their maps, at any depth. -/
inductive Reordered : SerdeValue floats -> SerdeValue floats -> Prop where
  | refl (same : SerdeValue floats) : Reordered same same
  | trans {first second third} (early : Reordered first second) (late : Reordered second third) : Reordered first third
  | entries {entries entries'} (perm : List.Perm entries entries') :
      Reordered (.map (mapCalls entries)) (.map (mapCalls entries'))
  | some {one other} (inner : Reordered one other) : Reordered (.some one) (.some other)
  | newtypeStruct {one other} (inner : Reordered one other) :
      Reordered (.newtypeStruct one) (.newtypeStruct other)
  | newtypeVariant {one other} (variant) (inner : Reordered one other) :
      Reordered (.newtypeVariant variant one) (.newtypeVariant variant other)
  | seq {one other} (before after) (inner : Reordered one other) :
      Reordered (.seq (before ++ one :: after)) (.seq (before ++ other :: after))
  | tuple {one other} (before after) (inner : Reordered one other) :
      Reordered (.tuple (before ++ one :: after)) (.tuple (before ++ other :: after))
  | tupleStruct {one other} (before after) (inner : Reordered one other) :
      Reordered (.tupleStruct (before ++ one :: after)) (.tupleStruct (before ++ other :: after))
  | tupleVariant {one other} (variant before after) (inner : Reordered one other) :
      Reordered (.tupleVariant variant (before ++ one :: after)) (.tupleVariant variant (before ++ other :: after))
  | map {one other} (before after) (inner : Reordered one other) :
      Reordered (.map (before ++ (.value, one) :: after)) (.map (before ++ (.value, other) :: after))
  | struct {one other} (before name after) (inner : Reordered one other) :
      Reordered (.struct (before ++ (name, one) :: after)) (.struct (before ++ (name, other) :: after))
  | structVariant {one other} (variant before name after) (inner : Reordered one other) :
      Reordered (.structVariant variant (before ++ (name, one) :: after))
        (.structVariant variant (before ++ (name, other) :: after))

/-- Two entries of a map, or two fields of a struct, have one name, at any depth. -/
inductive RepeatsKey : SerdeValue floats -> Prop where
  | map {name key key'} (before first between second after) (one : serializeKey key = .ok name)
      (other : serializeKey key' = .ok name) :
      RepeatsKey (.map (before ++ (entryCalls key first ++ (between ++ (entryCalls key' second ++ after)))))
  | struct {fields} (twice : ¬ (fields.map Prod.fst).Nodup) : RepeatsKey (.struct fields)
  | structVariant {fields} (variant) (twice : ¬ (fields.map Prod.fst).Nodup) : RepeatsKey (.structVariant variant fields)
  | inSome {inner} (deep : RepeatsKey inner) : RepeatsKey (.some inner)
  | inNewtypeStruct {inner} (deep : RepeatsKey inner) : RepeatsKey (.newtypeStruct inner)
  | inNewtypeVariant {inner} (variant) (deep : RepeatsKey inner) : RepeatsKey (.newtypeVariant variant inner)
  | inSeq {inner values} (inside : inner ∈ values) (deep : RepeatsKey inner) : RepeatsKey (.seq values)
  | inTuple {inner values} (inside : inner ∈ values) (deep : RepeatsKey inner) : RepeatsKey (.tuple values)
  | inTupleStruct {inner values} (inside : inner ∈ values) (deep : RepeatsKey inner) : RepeatsKey (.tupleStruct values)
  | inTupleVariant {inner values} (variant) (inside : inner ∈ values) (deep : RepeatsKey inner) :
      RepeatsKey (.tupleVariant variant values)
  | inMap {inner calls} (inside : (.value, inner) ∈ calls) (deep : RepeatsKey inner) : RepeatsKey (.map calls)
  | inStruct {name inner fields} (inside : (name, inner) ∈ fields) (deep : RepeatsKey inner) : RepeatsKey (.struct fields)
  | inStructVariant {name inner fields} (variant) (inside : (name, inner) ∈ fields) (deep : RepeatsKey inner) :
      RepeatsKey (.structVariant variant fields)

def WrittenAlike (payload payload' : SerdeValue floats) : Prop :=
  ∀ written, payload.serialize = .ok written <-> payload'.serialize = .ok written

section Reordering

variable (alike : WrittenAlike value value') {fields : List CanonicalField}

include alike

theorem serializeElements_alike (before after : List (SerdeValue floats)) {values : List CanonicalValue} :
    serializeElements (before ++ value :: after) = .ok values <->
      serializeElements (before ++ value' :: after) = .ok values := by
  induction before generalizing values with
  | nil => simp only [List.nil_append, serializeElements, bind_ok, alike _]
  | cons first rest ih => simp only [List.cons_append, serializeElements, bind_ok, ih]

theorem serializeFields_alike (before : List (String × SerdeValue floats)) (name : String)
    (after : List (String × SerdeValue floats)) :
    serializeFields (before ++ (name, value) :: after) = .ok fields <->
      serializeFields (before ++ (name, value') :: after) = .ok fields := by
  induction before generalizing fields with
  | nil => simp only [List.nil_append, serializeFields, bind_ok, alike _]
  | cons first rest ih =>
    obtain ⟨key, inner⟩ := first
    simp only [List.cons_append, serializeFields, bind_ok, ih]

theorem serializeCalls_alike (pending : Option String) (before after : List (MapStep × SerdeValue floats)) :
    serializeCalls pending (before ++ (.value, value) :: after) = .ok fields <->
      serializeCalls pending (before ++ (.value, value') :: after) = .ok fields := by
  induction before generalizing pending fields with
  | nil =>
    cases pending with
    | none => simp only [List.nil_append, serializeCalls]
    | some key => simp only [List.nil_append, serializeCalls, bind_ok, alike _]
  | cons call rest ih =>
    obtain ⟨step, inner⟩ := call
    cases step with
    | key => cases pending <;> simp only [List.cons_append, serializeCalls, bind_ok, ih]
    | value =>
      cases pending with
      | none => simp only [List.cons_append, serializeCalls]
      | some key => simp only [List.cons_append, serializeCalls, bind_ok, ih]

end Reordering

theorem serializeCalls_entries {entries : List (SerdeValue floats × SerdeValue floats)} {fields : List CanonicalField} :
    serializeCalls none (mapCalls entries) = .ok fields <->
      List.Forall₂ (fun entry field => serializeKey entry.1 = .ok field.1 ∧ entry.2.serialize = .ok field.2) entries fields := by
  induction entries generalizing fields with
  | nil =>
    simp [mapCalls, serializeCalls, eq_comm]
  | cons entry rest ih =>
    have calls : mapCalls (entry :: rest) = (.key, entry.1) :: (.value, entry.2) :: mapCalls rest := rfl
    rw [calls, serializeCalls, List.forall₂_cons_left_iff]
    simp only [bind_ok, serializeCalls, pure_ok, ih]
    constructor
    · rintro ⟨key, named, value, written, more, others, rfl⟩
      exact ⟨(key, value), more, ⟨named, written⟩, others, rfl⟩
    · rintro ⟨field, more, ⟨named, written⟩, others, rfl⟩
      exact ⟨_, named, _, written, more, others, rfl⟩

theorem Reordered.alike (reordered : Reordered payload payload') : WrittenAlike payload payload' := by
  induction reordered with
  | refl same => exact fun _ => Iff.rfl
  | trans _ _ first second => exact fun written => (first written).trans (second written)
  | entries perm =>
    -- the entries are written into fields in the same order, and the order of the fields is lost
    have forth : ∀ {entries entries' : List (SerdeValue floats × SerdeValue floats)} {written : CanonicalValue},
        entries.Perm entries' -> SerdeValue.serialize (.map (mapCalls entries)) = .ok written ->
        SerdeValue.serialize (.map (mapCalls entries')) = .ok written := by
      intro entries entries' written perm done
      rw [SerdeValue.serialize] at done ⊢
      obtain ⟨fields, calls, object⟩ := bind_ok.mp done
      obtain ⟨fields', each, shuffled⟩ := List.perm_comp_forall₂ perm.symm (serializeCalls_entries.mp calls)
      exact bind_ok.mpr ⟨fields', serializeCalls_entries.mpr each, (ofFields_perm shuffled).mpr object⟩
    exact fun written => ⟨forth perm, forth perm.symm⟩
  | some _ inner =>
    intro written
    rw [SerdeValue.serialize, SerdeValue.serialize]
    exact inner written
  | newtypeStruct _ inner =>
    intro written
    rw [SerdeValue.serialize, SerdeValue.serialize]
    exact inner written
  | newtypeVariant variant _ inner =>
    intro written
    simp only [SerdeValue.serialize, bind_ok, inner _]
  | seq before after _ inner =>
    intro written
    simp only [SerdeValue.serialize, bind_ok, serializeElements_alike inner before after]
  | tuple before after _ inner =>
    intro written
    simp only [SerdeValue.serialize, bind_ok, serializeElements_alike inner before after]
  | tupleStruct before after _ inner =>
    intro written
    simp only [SerdeValue.serialize, bind_ok, serializeElements_alike inner before after]
  | tupleVariant variant before after _ inner =>
    intro written
    simp only [SerdeValue.serialize, bind_ok, serializeElements_alike inner before after]
  | map before after _ inner =>
    intro written
    simp only [SerdeValue.serialize, bind_ok, serializeCalls_alike inner none before after]
  | struct before name after _ inner =>
    intro written
    simp only [SerdeValue.serialize, bind_ok, serializeFields_alike inner before name after]
  | structVariant variant before name after _ inner =>
    intro written
    simp only [SerdeValue.serialize, bind_ok, serializeFields_alike inner before name after]

section Refusals

variable {values : List (String × SerdeValue floats)} {fields : List CanonicalField} {name : String}
  {after : List (MapStep × SerdeValue floats)} {pending : Option String}

theorem serializeElements_each {values : List (SerdeValue floats)} {written : List CanonicalValue}
    (done : serializeElements values = .ok written) (inside : value ∈ values) : ∃ inner, value.serialize = .ok inner := by
  induction values generalizing written with
  | nil => cases inside
  | cons first rest ih =>
    rw [serializeElements] at done
    obtain ⟨inner, first_done, done⟩ := bind_ok.mp done
    obtain ⟨others, rest_done, _⟩ := bind_ok.mp done
    obtain rfl | inside := List.mem_cons.mp inside
    · exact ⟨inner, first_done⟩
    · exact ih rest_done inside

theorem serializeFields_each (done : serializeFields values = .ok fields) (inside : (name, value) ∈ values) :
    ∃ inner, value.serialize = .ok inner := by
  induction values generalizing fields with
  | nil => cases inside
  | cons first rest ih =>
    obtain ⟨key, head⟩ := first
    rw [serializeFields] at done
    obtain ⟨inner, first_done, done⟩ := bind_ok.mp done
    obtain ⟨others, rest_done, _⟩ := bind_ok.mp done
    obtain same | inside := List.mem_cons.mp inside
    · cases same
      exact ⟨inner, first_done⟩
    · exact ih rest_done inside

theorem serializeFields_names (done : serializeFields values = .ok fields) :
    fields.map Prod.fst = values.map Prod.fst := by
  induction values generalizing fields with
  | nil =>
    rw [serializeFields] at done
    cases done
    rfl
  | cons first rest ih =>
    obtain ⟨key, head⟩ := first
    rw [serializeFields] at done
    obtain ⟨inner, _, done⟩ := bind_ok.mp done
    obtain ⟨others, rest_done, done⟩ := bind_ok.mp done
    rw [← pure_ok.mp done, List.map_cons, List.map_cons, ih rest_done]

theorem serializeCalls_after {before : List (MapStep × SerdeValue floats)}
    (done : serializeCalls pending (before ++ after) = .ok fields) :
    ∃ pending early late, serializeCalls pending after = .ok late ∧ fields = early ++ late := by
  induction before generalizing pending fields with
  | nil => exact ⟨pending, [], fields, done, rfl⟩
  | cons call rest ih =>
    obtain ⟨step, inner⟩ := call
    cases step with
    | key =>
      have next : ∃ key, serializeCalls (some key) (rest ++ after) = .ok fields := by
        cases pending <;> rw [List.cons_append, serializeCalls] at done <;> obtain ⟨key, _, done⟩ := bind_ok.mp done <;>
          exact ⟨key, done⟩
      obtain ⟨key, done⟩ := next
      exact ih done
    | value =>
      cases pending with
      | none =>
        rw [List.cons_append, serializeCalls] at done
        cases done
      | some key =>
        rw [List.cons_append, serializeCalls] at done
        obtain ⟨head, _, done⟩ := bind_ok.mp done
        obtain ⟨others, rest_done, done⟩ := bind_ok.mp done
        obtain ⟨pending, early, late, after_done, rfl⟩ := ih rest_done
        exact ⟨pending, (key, head) :: early, late, after_done, (pure_ok.mp done).symm⟩

theorem serializeCalls_entry {key : SerdeValue floats} (named : serializeKey key = .ok name)
    (done : serializeCalls pending (entryCalls key value ++ after) = .ok fields) :
    ∃ inner late, serializeCalls none after = .ok late ∧ fields = (name, inner) :: late := by
  have next : serializeCalls (some name) ((.value, value) :: after) = .ok fields := by
    cases pending <;> rw [entryCalls, List.cons_append, serializeCalls, named] at done <;> exact done
  rw [serializeCalls] at next
  obtain ⟨inner, _, next⟩ := bind_ok.mp next
  obtain ⟨late, after_done, next⟩ := bind_ok.mp next
  exact ⟨inner, late, after_done, (pure_ok.mp next).symm⟩

theorem serializeCalls_each {calls : List (MapStep × SerdeValue floats)}
    (done : serializeCalls pending calls = .ok fields) (inside : (.value, value) ∈ calls) :
    ∃ inner, value.serialize = .ok inner := by
  obtain ⟨before, after, rfl⟩ := List.append_of_mem inside
  obtain ⟨pending, _, late, done, _⟩ := serializeCalls_after done
  cases pending with
  | none => cases done
  | some key =>
    rw [serializeCalls] at done
    obtain ⟨inner, written, _⟩ := bind_ok.mp done
    exact ⟨inner, written⟩

theorem RepeatsKey.refused (repeats : RepeatsKey payload) (written : CanonicalValue) : payload.serialize ≠ .ok written := by
  intro done
  induction repeats generalizing written with
  | map before first between second after one other =>
    rw [SerdeValue.serialize] at done
    obtain ⟨fields, calls, object⟩ := bind_ok.mp done
    obtain ⟨_, early, late, from_first, rfl⟩ := serializeCalls_after calls
    obtain ⟨inner, later, past_first, rfl⟩ := serializeCalls_entry one from_first
    obtain ⟨_, middle, last, from_second, rfl⟩ := serializeCalls_after past_first
    obtain ⟨inner', rest, _, rfl⟩ := serializeCalls_entry other from_second
    have distinct := (ofFields_ok.mp object).1
    simp [List.nodup_append, List.nodup_cons] at distinct
  | struct twice =>
    rw [SerdeValue.serialize] at done
    obtain ⟨fields, inner, object⟩ := bind_ok.mp done
    rw [← serializeFields_names inner] at twice
    exact twice (ofFields_ok.mp object).1
  | structVariant variant twice =>
    rw [SerdeValue.serialize] at done
    obtain ⟨fields, inner, done⟩ := bind_ok.mp done
    obtain ⟨value, object, _⟩ := bind_ok.mp done
    rw [← serializeFields_names inner] at twice
    exact twice (ofFields_ok.mp object).1
  | inSome _ ih => exact ih written (by rwa [SerdeValue.serialize] at done)
  | inNewtypeStruct _ ih => exact ih written (by rwa [SerdeValue.serialize] at done)
  | inNewtypeVariant variant _ ih =>
    rw [SerdeValue.serialize] at done
    obtain ⟨inner, inner_done, _⟩ := bind_ok.mp done
    exact ih inner inner_done
  | inSeq inside _ ih =>
    rw [SerdeValue.serialize] at done
    obtain ⟨values, each, _⟩ := bind_ok.mp done
    obtain ⟨inner, inner_done⟩ := serializeElements_each each inside
    exact ih inner inner_done
  | inTuple inside _ ih =>
    rw [SerdeValue.serialize] at done
    obtain ⟨values, each, _⟩ := bind_ok.mp done
    obtain ⟨inner, inner_done⟩ := serializeElements_each each inside
    exact ih inner inner_done
  | inTupleStruct inside _ ih =>
    rw [SerdeValue.serialize] at done
    obtain ⟨values, each, _⟩ := bind_ok.mp done
    obtain ⟨inner, inner_done⟩ := serializeElements_each each inside
    exact ih inner inner_done
  | inTupleVariant variant inside _ ih =>
    rw [SerdeValue.serialize] at done
    obtain ⟨values, each, _⟩ := bind_ok.mp done
    obtain ⟨inner, inner_done⟩ := serializeElements_each each inside
    exact ih inner inner_done
  | inMap inside _ ih =>
    rw [SerdeValue.serialize] at done
    obtain ⟨fields, calls, _⟩ := bind_ok.mp done
    obtain ⟨inner, inner_done⟩ := serializeCalls_each calls inside
    exact ih inner inner_done
  | inStruct inside _ ih =>
    rw [SerdeValue.serialize] at done
    obtain ⟨fields, each, _⟩ := bind_ok.mp done
    obtain ⟨inner, inner_done⟩ := serializeFields_each each inside
    exact ih inner inner_done
  | inStructVariant variant inside _ ih =>
    rw [SerdeValue.serialize] at done
    obtain ⟨fields, each, _⟩ := bind_ok.mp done
    obtain ⟨inner, inner_done⟩ := serializeFields_each each inside
    exact ih inner inner_done

end Refusals

section Identity

variable {operation operation' : ActionOperation} {spaceId spaceId' : Identifier "space_"}
  {pageId pageId' : Option (Identifier "page_")}

theorem ActionOperation.asStr_inj (one other : ActionOperation) (same : one.asStr = other.asStr) : one = other := by
  cases one <;> cases other <;> first | rfl | exact absurd same (by decide)

theorem pageValue_inj (same : pageValue pageId = pageValue pageId') : pageId = pageId' := by
  cases pageId with
  | none =>
    cases pageId' with
    | none => rfl
    | some other => cases same
  | some id =>
    cases pageId' with
    | none => cases same
    | some other => rw [Identifier.text_inj (CanonicalValue.string.inj same)]

def actionValue (operation : ActionOperation) (payload : CanonicalValue) (spaceId : Identifier "space_")
    (pageId : Option (Identifier "page_")) : CanonicalValue :=
  .object
    [("operation", .string operation.asStr), ("payload", payload),
      ("scope", .object [("page_id", pageValue pageId), ("space_id", .string spaceId.text)])]

theorem ofFields_sorted {fields : List CanonicalField} (distinct : (fields.map Prod.fst).Nodup)
    (sorted : fields.Pairwise CanonicalValue.byName) : CanonicalValue.ofFields fields = .ok (.object fields) :=
  ofFields_ok.mpr ⟨distinct, by rw [sorted.insertionSort_eq]⟩

theorem canonicalActionBytes_ok {encoded : List Nat} :
    canonicalActionBytes operation payload spaceId pageId = .ok encoded <->
      ∃ written, payload.serialize = .ok written ∧
        bytes (String.ofList (actionValue operation written spaceId pageId).render) = encoded := by
  have first : bytes "page_id" ≤ bytes "space_id" := by decide
  have second : bytes "operation" ≤ bytes "payload" := by decide
  have third : bytes "operation" ≤ bytes "scope" := by decide
  have fourth : bytes "payload" ≤ bytes "scope" := by decide
  have scope : CanonicalValue.ofFields [("page_id", pageValue pageId), ("space_id", .string spaceId.text)] =
      .ok (.object [("page_id", pageValue pageId), ("space_id", .string spaceId.text)]) :=
    ofFields_sorted (by simp) (by simpa [CanonicalValue.byName] using first)
  have whole : ∀ written inner : CanonicalValue, CanonicalValue.ofFields
      [("operation", .string operation.asStr), ("payload", written), ("scope", inner)] =
        .ok (.object [("operation", .string operation.asStr), ("payload", written), ("scope", inner)]) :=
    fun written inner => ofFields_sorted (by simp) (by simpa [CanonicalValue.byName] using ⟨⟨second, third⟩, fourth⟩)
  unfold canonicalActionBytes actionValue
  simp only [bind_ok, mapError_ok, scope, whole, pure_ok, Except.ok.injEq, exists_eq_left']

theorem actionValue_inj {written written' : CanonicalValue}
    (same : actionValue operation written spaceId pageId = actionValue operation' written' spaceId' pageId') :
    operation = operation' ∧ written = written' ∧ spaceId = spaceId' ∧ pageId = pageId' := by
  simp only [actionValue, CanonicalValue.object.injEq, List.cons.injEq, Prod.mk.injEq, true_and, and_true,
    CanonicalValue.string.injEq] at same
  obtain ⟨operations, payloads, pages, spaces⟩ := same
  exact ⟨ActionOperation.asStr_inj _ _ operations, payloads, Identifier.text_inj spaces, pageValue_inj pages⟩

/-- The bytes of two requests are equal exactly when the requests are, with the payloads taken as canonical
values. They do not depend on the order of map entries, and there are none when a key comes twice. -/
theorem canonical_bytes_identify (operation operation' : ActionOperation) (payload payload' : SerdeValue floats)
    (spaceId spaceId' : Identifier "space_") (pageId pageId' : Option (Identifier "page_")) :
    (∀ encoded, canonicalActionBytes operation payload spaceId pageId = .ok encoded ->
      (canonicalActionBytes operation' payload' spaceId' pageId' = .ok encoded <->
        operation' = operation ∧ spaceId' = spaceId ∧ pageId' = pageId ∧ payload'.serialize = payload.serialize)) ∧
    (Reordered payload payload' -> ∀ encoded,
      (canonicalActionBytes operation payload spaceId pageId = .ok encoded <->
        canonicalActionBytes operation payload' spaceId pageId = .ok encoded)) ∧
    (RepeatsKey payload -> ∃ error, canonicalActionBytes operation payload spaceId pageId = .error error) := by
  refine ⟨fun encoded done => ?_, fun reordered encoded => ?_, fun repeats => ?_⟩
  · obtain ⟨written, serialized, rfl⟩ := canonicalActionBytes_ok.mp done
    rw [canonicalActionBytes_ok]
    constructor
    · rintro ⟨written', serialized', same⟩
      have text := String.ofList_injective (bytes_inj same)
      obtain ⟨rfl, rfl, rfl, rfl⟩ := actionValue_inj (render_inj text)
      exact ⟨rfl, rfl, rfl, serialized'.trans serialized.symm⟩
    · rintro ⟨rfl, rfl, rfl, same⟩
      exact ⟨written, same.trans serialized, rfl⟩
  · simp only [canonicalActionBytes_ok, reordered.alike _]
  · cases outcome : canonicalActionBytes operation payload spaceId pageId with
    | error error => exact ⟨error, rfl⟩
    | ok encoded =>
      obtain ⟨written, serialized, _⟩ := canonicalActionBytes_ok.mp outcome
      exact absurd serialized (repeats.refused written)

def halfFloats : FloatFormat where
  Single := Unit
  Double := Unit
  finite32 _ := true
  text32 _ := "0.5"
  widen _ := ()
  finite64 _ := true
  text64 _ _ := ⟨"0.5", by decide⟩

def sampleEntries : List (SerdeValue halfFloats × SerdeValue halfFloats) :=
  [(.str "x", .seq [.int (-1), .str "a\"b", .f64 ()]), (.str "y", .none)]

def samplePayload : SerdeValue halfFloats := .map (mapCalls sampleEntries)

def doubled : SerdeValue halfFloats := .map (mapCalls [(.str "x", .none), (.str "x", .unit)])

def sampleSpace : Identifier "space_" := ⟨"a", by decide⟩

/-- A payload has bytes that no other operation has, its entries may come in the other order, and a key may not
come twice. -/
theorem canonical_bytes_identify_sample :
    (∃ encoded, canonicalActionBytes .click samplePayload sampleSpace none = .ok encoded ∧
      canonicalActionBytes .input samplePayload sampleSpace none ≠ .ok encoded ∧
      canonicalActionBytes .click (.map (mapCalls sampleEntries.reverse)) sampleSpace none = .ok encoded) ∧
    ∃ error, canonicalActionBytes .click doubled sampleSpace none = .error error := by
  constructor
  · cases done : canonicalActionBytes .click samplePayload sampleSpace none with
    | error error =>
      have written : (canonicalActionBytes .click samplePayload sampleSpace none).isOk = true := by decide
      rw [done] at written
      cases written
    | ok encoded =>
      refine ⟨encoded, rfl, fun same => ?_, ?_⟩
      · have identified := (canonical_bytes_identify .click .input samplePayload samplePayload sampleSpace sampleSpace
          none none).1 encoded done
        cases (identified.mp same).1
      · have swapped : Reordered samplePayload (.map (mapCalls sampleEntries.reverse)) :=
          .entries (List.reverse_perm sampleEntries).symm
        exact ((canonical_bytes_identify .click .click samplePayload _ sampleSpace sampleSpace none none).2.1
          swapped encoded).mp done
  · have twice : RepeatsKey doubled := .map [] .none [] .unit [] rfl rfl
    exact (canonical_bytes_identify .click .click doubled samplePayload sampleSpace sampleSpace none none).2.2 twice

end Identity

end AgentycHost
