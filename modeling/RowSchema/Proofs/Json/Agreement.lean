import Mathlib.Data.List.Forall2
import RowSchema.Json.Form
import RowSchema.Proofs.Dict
import RowSchema.Proofs.Except

/-!
# Trees that are read alike

A record is read from the fields that its form knows. Members under other keys, the order of the
members and whatever stands deeper inside of a member that is not known make no difference. So two
trees need not be the same to be read as the same record: it is enough that they agree on the known
fields, each of them as far as its own reader looks.

## How agreement is put together

An agreement is a relation of trees, and a reader respects it if it succeeds alike on trees that
agree. Agreements are built as readers are: for each combinator of readers there is one of
agreements, and the second is respected where the parts are. At the leaves stands the agreement of
trees that have the same value.

## Repeated keys

A form refuses an object that has a known key twice, and a value cannot tell that this was so.
Agreement is therefore about trees without repeated keys. Where a member is passed over, repeated
keys inside of it do no harm.

## Main definitions

* `Json.HasDistinctKeys`, `Json.SameValue` — trees that have the same value
* `Json.ListAgree`, `Json.RecordAgree` — lists and records whose parts agree
* `Json.Respects`, `Json.Form.Respects` — readers and forms that succeed alike

## Main results

* `Json.SameValue.layer` — trees with the same value, one level at a time
* `Json.recordAgree_of_sublist` — members under other keys may be added anywhere
* `Json.respects_read` — a form respects the agreement of its records
-/

namespace RowSchema.Json

variable {α β : Type} {j j' : Json} {items items' : List Json} {ms ms' : List (String × Json)}

/-! ### Trees with the same value -/

/-- No object of the tree has two members under one key. -/
inductive HasDistinctKeys : Json → Prop where
  | leaf {j : Json} (harray : j.array? = none) (hobject : j.object? = none) : HasDistinctKeys j
  | array {items : List Json} (h : ∀ item ∈ items, HasDistinctKeys item) :
      HasDistinctKeys (.array items)
  | object {ms : List (String × Json)} (hkeys : (Dict.keys ms).Nodup)
      (h : ∀ entry ∈ ms, HasDistinctKeys entry.2) : HasDistinctKeys (.object ms)

theorem HasDistinctKeys.of_mem (h : HasDistinctKeys (.array items)) :
    ∀ j ∈ items, j.HasDistinctKeys := by
  cases h with
  | leaf harray => cases harray
  | array h => exact h

theorem HasDistinctKeys.nodup_keys (h : HasDistinctKeys (.object ms)) : (Dict.keys ms).Nodup := by
  cases h with
  | leaf _ hobject => cases hobject
  | object hkeys => exact hkeys

theorem HasDistinctKeys.of_get? {key : String} (h : HasDistinctKeys (.object ms))
    (hget : Dict.get? ms key = some j) : j.HasDistinctKeys := by
  cases h with
  | leaf _ hobject => cases hobject
  | object _ h => exact h _ (Dict.mem_of_get?_eq_some hget)

mutual

/-- A value has no repeated keys. -/
theorem hasDistinctKeys_of_isValue : ∀ {j : Json}, j.IsValue → j.HasDistinctKeys
  | .array items, h => by
    rw [IsValue] at h
    exact .array (hasDistinctKeys_of_areValues h)
  | .object ms, h => by
    rw [IsValue] at h
    exact .object h.1.nodup_keys (hasDistinctKeys_of_holdValues h.2)
  | .null, _ | .bool _, _ | .number _, _ | .string _, _ => .leaf rfl rfl

theorem hasDistinctKeys_of_areValues :
    ∀ {items : List Json}, AreValues items → ∀ j ∈ items, j.HasDistinctKeys
  | [], _ => nofun
  | item :: rest, h => by
    rw [AreValues] at h
    exact List.forall_mem_cons.mpr
      ⟨hasDistinctKeys_of_isValue h.1, hasDistinctKeys_of_areValues h.2⟩

theorem hasDistinctKeys_of_holdValues :
    ∀ {ms : List (String × Json)}, HoldValues ms → ∀ entry ∈ ms, entry.2.HasDistinctKeys
  | [], _ => nofun
  | (key, item) :: rest, h => by
    rw [HoldValues] at h
    exact List.forall_mem_cons.mpr
      ⟨hasDistinctKeys_of_isValue h.1, hasDistinctKeys_of_holdValues h.2⟩

end

/-- Two trees without repeated keys that have the same value. -/
structure SameValue (j j' : Json) : Prop where
  left : j.HasDistinctKeys
  right : j'.HasDistinctKeys
  value_eq : j.value = j'.value

theorem SameValue.refl (h : j.HasDistinctKeys) : SameValue j j :=
  ⟨h, h, rfl⟩

theorem get?_valueMembers (ms : List (String × Json)) (key : String) :
    Dict.get? (valueMembers ms) key = (Dict.get? ms key).map value := by
  induction ms with
  | nil => rfl
  | cons entry rest ih =>
    obtain ⟨k, v⟩ := entry
    rw [valueMembers, Dict.get?, Dict.get?, ih]
    split <;> rfl

theorem keys_valueMembers (ms : List (String × Json)) :
    Dict.keys (valueMembers ms) = Dict.keys ms := by
  induction ms with
  | nil => rfl
  | cons entry rest ih => exact congrArg (entry.1 :: ·) ih

/-- What the value of an object has under a key. -/
theorem get?_value_object (hkeys : (Dict.keys ms).Nodup) (key : String) :
    Dict.get? (Dict.ofEntries (valueMembers ms)) key = (Dict.get? ms key).map value := by
  rw [Dict.get?_ofEntries (by rwa [keys_valueMembers]), get?_valueMembers]

/-- One level of two trees, below which they are related by `R`. -/
inductive Layer (R : Json → Json → Prop) : Json → Json → Prop where
  | leaf {j : Json} (harray : j.array? = none) (hobject : j.object? = none) : Layer R j j
  | array {items items' : List Json} (h : List.Forall₂ R items items') :
      Layer R (.array items) (.array items')
  | object {ms ms' : List (String × Json)} (hkeys : (Dict.keys ms).Nodup)
      (hkeys' : (Dict.keys ms').Nodup)
      (h : ∀ key, Option.Rel R (Dict.get? ms key) (Dict.get? ms' key)) :
      Layer R (.object ms) (.object ms')

/-- **Trees with the same value**, one level at a time. -/
theorem SameValue.layer (h : SameValue j j') : Layer SameValue j j' := by
  obtain ⟨hleft, hright, hvalue⟩ := h
  cases j with
  | array items =>
    cases j' with
    | array items' =>
      rw [value, value, array.injEq, valueItems_eq_map, valueItems_eq_map] at hvalue
      refine .array (List.forall₂_iff_get.mpr ⟨by simpa using congrArg List.length hvalue, ?_⟩)
      intro i hi hi'
      refine ⟨hleft.of_mem _ (List.get_mem ..), hright.of_mem _ (List.get_mem ..), ?_⟩
      have hat := List.getElem_of_eq hvalue (by simpa using hi)
      simpa using hat
    | _ => cases hvalue
  | object ms =>
    cases j' with
    | object ms' =>
      refine .object hleft.nodup_keys hright.nodup_keys fun key => ?_
      have hat : (Dict.get? ms key).map value = (Dict.get? ms' key).map value := by
        rw [value, value, object.injEq] at hvalue
        rw [← get?_value_object hleft.nodup_keys, hvalue, get?_value_object hright.nodup_keys]
      cases hget : Dict.get? ms key with
      | none =>
        cases hget' : Dict.get? ms' key with
        | none => exact .none
        | some v' => rw [hget, hget'] at hat; cases hat
      | some v =>
        cases hget' : Dict.get? ms' key with
        | none => rw [hget, hget'] at hat; cases hat
        | some v' =>
          rw [hget, hget'] at hat
          exact .some ⟨hleft.of_get? hget, hright.of_get? hget', Option.some.inj hat⟩
    | _ => cases hvalue
  -- A leaf is its own value, and no tree with brackets has a leaf for its value.
  | _ => cases j' <;> cases hvalue; exact .leaf rfl rfl

/-! ### Agreements -/

/-- Two arrays with items that agree, or two trees that are no arrays. -/
inductive ListAgree (R : Json → Json → Prop) : Json → Json → Prop where
  | array {items items' : List Json} (h : List.Forall₂ R items items') :
      ListAgree R (.array items) (.array items')
  | other {j j' : Json} (h : j.array? = none) (h' : j'.array? = none) : ListAgree R j j'

/-- The known fields of a record, in their declared order, each with the agreement of its values. -/
abbrev Fields := Dict (Json → Json → Prop)

/-- Wherever two records come from, they agree on the known fields. -/
def Fields.Agree (fields : Fields) (get get' : String → Option Json) : Prop :=
  ∀ field ∈ fields, Option.Rel field.2 (get field.1) (get' field.1)

/-- Two trees that agree as records. An array gives the fields in the declared order. -/
inductive RecordAgree (fields : Fields) : Json → Json → Prop where
  | leaf {j : Json} (harray : j.array? = none) (hobject : j.object? = none) : RecordAgree fields j j
  | array {items items' : List Json} (hlength : items.length = items'.length)
      (h : fields.Agree (Dict.get? (fields.keys.zip items)) (Dict.get? (fields.keys.zip items'))) :
      RecordAgree fields (.array items) (.array items')
  | object {ms ms' : List (String × Json)} (hkeys : (Dict.keys ms).Nodup)
      (hkeys' : (Dict.keys ms').Nodup) (h : fields.Agree (Dict.get? ms) (Dict.get? ms')) :
      RecordAgree fields (.object ms) (.object ms')

variable {R : Json → Json → Prop} {fields fields' : Fields}

theorem SameValue.listAgree (hR : ∀ j j', SameValue j j' → R j j') (h : SameValue j j') :
    ListAgree R j j' := by
  cases h.layer with
  | leaf harray => exact .other harray harray
  | array hitems => exact .array (hitems.imp hR)
  | object => exact .other rfl rfl

theorem rel_get?_zip (h : List.Forall₂ R items items') (keys : List String) (key : String) :
    Option.Rel R (Dict.get? (keys.zip items) key) (Dict.get? (keys.zip items') key) := by
  induction h generalizing keys with
  | nil => cases keys <;> exact .none
  | @cons item item' rest rest' hitem _ ih =>
    cases keys with
    | nil => exact .none
    | cons k keys =>
      rw [List.zip_cons_cons, List.zip_cons_cons, Dict.get?, Dict.get?]
      split
      · exact .some hitem
      · exact ih keys

theorem SameValue.recordAgree (hfields : ∀ field ∈ fields, ∀ j j', SameValue j j' → field.2 j j')
    (h : SameValue j j') : RecordAgree fields j j' := by
  have himp : ∀ field ∈ fields, ∀ {o o' : Option Json}, Option.Rel SameValue o o' →
      Option.Rel field.2 o o' := by
    intro field hfield o o' ho
    cases ho with
    | some h => exact .some (hfields field hfield _ _ h)
    | none => exact .none
  cases h.layer with
  | leaf harray hobject => exact .leaf harray hobject
  | array hitems =>
    exact .array hitems.length_eq fun field hfield =>
      himp field hfield (rel_get?_zip hitems fields.keys field.1)
  | object hkeys hkeys' hget =>
    exact .object hkeys hkeys' fun field hfield => himp field hfield (hget field.1)

/-- **Members under other keys** may be added anywhere, also when the known fields have changed as
far as they may. -/
theorem recordAgree_of_sublist {inner : List (String × Json)} (hkeys : (Dict.keys ms).Nodup)
    (h : fields.Agree (Dict.get? ms) (Dict.get? inner)) (hsub : inner.Sublist ms')
    (hkeys' : (Dict.keys ms').Nodup)
    (hold : ∀ key ∈ fields.keys, key ∈ Dict.keys ms' → key ∈ Dict.keys inner) :
    RecordAgree fields (.object ms) (.object ms') := by
  refine .object hkeys hkeys' fun field hfield => ?_
  rw [Dict.get?_eq_of_sublist hsub hkeys' (hold field.1 (List.mem_map_of_mem hfield))]
  exact h field hfield

/-! ### Readers -/

/-- The reader succeeds alike on trees that agree. -/
def Respects (R : Json → Json → Prop) (reader : Reader α) : Prop :=
  ∀ j j', R j j' → (reader j).toOption = (reader j').toOption

theorem Respects.mono {S : Json → Json → Prop} {reader : Reader α} (h : Respects R reader)
    (hS : ∀ j j', S j j' → R j j') : Respects S reader :=
  fun j j' hj => h j j' (hS j j' hj)

theorem Respects.eq_ok_iff {reader : Reader α} (h : Respects R reader) (hj : R j j') (a : α) :
    reader j = .ok a ↔ reader j' = .ok a := by
  rw [← toOption_eq_some_iff, ← toOption_eq_some_iff, h j j' hj]

/-- A reader that refuses trees with brackets only looks at the value. -/
theorem respects_of_leaf {reader : Reader α}
    (harray : ∀ items, (reader (.array items)).toOption = none)
    (hobject : ∀ ms, (reader (.object ms)).toOption = none) : Respects SameValue reader := by
  intro j j' h
  cases h.layer with
  | leaf => rfl
  | array => rw [harray, harray]
  | object => rw [hobject, hobject]

theorem respects_asString : Respects SameValue asString :=
  respects_of_leaf (fun _ => rfl) fun _ => rfl

theorem respects_asBool : Respects SameValue asBool :=
  respects_of_leaf (fun _ => rfl) fun _ => rfl

theorem respects_asValue : Respects SameValue asValue := fun _ _ h => congrArg some h.value_eq

theorem respects_asList {item : Reader α} (hitem : Respects R item) :
    Respects (ListAgree R) (asList item) := by
  intro j j' h
  cases h with
  | @array items items' h =>
    show (items.mapM item).toOption = (items'.mapM item).toOption
    induction h with
    | nil => rfl
    | cons hhead _ ih =>
      simp only [List.mapM_cons, toOption_bind]
      rw [hitem _ _ hhead, ih]
  | other h h' =>
    have hnone : ∀ {j : Json}, j.array? = none → (asList item j).toOption = none := by
      intro j h
      cases j with
      | array => cases h
      | _ => rfl
    rw [hnone h, hnone h']

theorem respects_asOptional {reader : Reader α} (hreader : Respects R reader)
    (hnull : ∀ j j', R j j' → (j = .null ↔ j' = .null)) : Respects R (asOptional reader) := by
  have hsome : ∀ {j : Json}, j ≠ .null →
      (asOptional reader j).toOption = (reader j).toOption.map some := by
    intro j hj
    rw [← toOption_map]
    cases j with
    | null => exact absurd rfl hj
    | _ => rfl
  intro j j' h
  by_cases hj : j = .null
  · rw [hj, (hnull j j' h).mp hj]
  · rw [hsome hj, hsome fun hj' => hj ((hnull j j' h).mpr hj'), hreader j j' h]

theorem SameValue.null_iff (h : SameValue j j') : j = .null ↔ j' = .null := by
  cases h.layer with
  | leaf => exact Iff.rfl
  | array => exact iff_of_false nofun nofun
  | object => exact iff_of_false nofun nofun

theorem RecordAgree.null_iff (h : RecordAgree fields j j') : j = .null ↔ j' = .null := by
  cases h with
  | leaf => exact Iff.rfl
  | array => exact iff_of_false nofun nofun
  | object => exact iff_of_false nofun nofun

theorem keys_perm_of_rel (hkeys : (Dict.keys ms).Nodup) (hkeys' : (Dict.keys ms').Nodup)
    (h : ∀ key, Option.Rel R (Dict.get? ms key) (Dict.get? ms' key)) :
    (Dict.keys ms).Perm (Dict.keys ms') := by
  refine (List.perm_ext_iff_of_nodup hkeys hkeys').mpr fun key => not_iff_not.mp ?_
  rw [← Dict.get?_eq_none_iff, ← Dict.get?_eq_none_iff]
  have hkey := h key
  generalize Dict.get? ms key = o at hkey ⊢
  generalize Dict.get? ms' key = o' at hkey ⊢
  cases hkey with
  | some => exact iff_of_false nofun nofun
  | none => exact Iff.rfl

theorem respects_asVariant (variants : List (String × α)) :
    Respects SameValue (asVariant variants) := by
  intro j j' h
  cases h.layer with
  | leaf => rfl
  | array => rfl
  | @object ms ms' hkeys hkeys' hget =>
    have hperm := keys_perm_of_rel hkeys hkeys' hget
    cases ms with
    | nil => rw [List.map_eq_nil_iff.mp hperm.nil_eq.symm]
    | cons entry rest =>
      cases ms' with
      | nil => cases hperm.eq_nil
      | cons entry' rest' =>
        obtain ⟨name, v⟩ := entry
        obtain ⟨name', v'⟩ := entry'
        cases rest with
        | cons second rest =>
          cases rest' with
          | cons => rfl
          | nil => cases hperm.length_eq
        | nil =>
          cases rest' with
          | cons => cases hperm.length_eq
          | nil =>
            obtain rfl : name = name' :=
              List.mem_singleton.mp (hperm.subset (List.mem_cons_self ..))
            have hvalue : SameValue v v' := by
              have hname : Option.Rel SameValue (some v) (some v') := by
                simpa [Dict.get?] using hget name
              cases hname with
              | some h => exact h
            have hnull : v.isNull = v'.isNull := by
              rw [Bool.eq_iff_iff, isNull_iff, isNull_iff, hvalue.null_iff]
            simp only [asVariant, toOption_bind, hnull]
            cases v'.isNull <;> rfl

/-! ### Forms -/

/-- The form knows the fields, and builds alike from sources that agree on them. -/
structure Form.Respects (fields : Fields) (form : Form α) : Prop where
  keys_eq : form.keys = fields.keys
  build : ∀ source source' : Source, fields.Agree source.get? source'.get? →
    (form.build source).toOption = (form.build source').toOption

namespace Form

variable {key : String} {reader : Reader α} {title : String}

theorem toOption_build_required (source : Source) :
    ((required key reader).build source).toOption =
      (source.get? key).bind fun j => (reader j).toOption := by
  simp only [Form.required]
  cases source.get? key <;> rfl

theorem toOption_build_optional (default : α) (source : Source) :
    ((optional key reader default).build source).toOption =
      (source.get? key).elim (some default) fun j => (reader j).toOption := by
  simp only [Form.optional]
  cases source.get? key <;> rfl

theorem toOption_build_map (g : α → β) (form : Form α) (source : Source) :
    ((g <$> form).build source).toOption = (form.build source).toOption.map g :=
  toOption_map _ g

theorem toOption_build_seq (f : Form (α → β)) (x : Unit → Form α) (source : Source) :
    ((Seq.seq f x).build source).toOption =
      (f.build source).toOption.bind fun g => ((x ()).build source).toOption.map g := by
  show (f.build source >>= fun g => (x ()).build source >>= fun a => pure (g a)).toOption = _
  rw [toOption_bind]
  congr 1
  funext g
  rw [toOption_bind]
  cases ((x ()).build source).toOption <;> rfl

theorem Respects.required (hreader : Json.Respects R reader) :
    Respects [(key, R)] (Form.required key reader) := by
  refine ⟨rfl, fun source source' h => ?_⟩
  have hkey := h (key, R) (List.mem_singleton_self _)
  rw [toOption_build_required, toOption_build_required]
  generalize source.get? key = o at hkey ⊢
  generalize source'.get? key = o' at hkey ⊢
  cases hkey with
  | some h => exact hreader _ _ h
  | none => rfl

theorem Respects.optional (hreader : Json.Respects R reader) {default : α} :
    Respects [(key, R)] (Form.optional key reader default) := by
  refine ⟨rfl, fun source source' h => ?_⟩
  have hkey := h (key, R) (List.mem_singleton_self _)
  rw [toOption_build_optional, toOption_build_optional]
  generalize source.get? key = o at hkey ⊢
  generalize source'.get? key = o' at hkey ⊢
  cases hkey with
  | some h => exact hreader _ _ h
  | none => rfl

theorem Respects.nullable (hreader : Json.Respects R reader)
    (hnull : ∀ j j', R j j' → (j = .null ↔ j' = .null)) :
    Respects [(key, R)] (Form.nullable key reader) :=
  .optional (respects_asOptional hreader hnull)

theorem Respects.map {form : Form α} (h : Respects fields form) (g : α → β) :
    Respects fields (g <$> form) := by
  refine ⟨h.keys_eq, fun source source' hagree => ?_⟩
  rw [toOption_build_map, toOption_build_map, h.build source source' hagree]

theorem Respects.seq {f : Form (α → β)} {x : Unit → Form α} (hf : Respects fields f)
    (hx : Respects fields' (x ())) : Respects (fields ++ fields') (Seq.seq f x) := by
  constructor
  · show (f.slots ++ (x ()).slots).map Slot.key = _
    rw [Dict.keys, List.map_append, List.map_append]
    exact congrArg₂ (· ++ ·) hf.keys_eq hx.keys_eq
  · intro source source' hagree
    rw [toOption_build_seq, toOption_build_seq,
      hf.build source source' fun field h => hagree field (List.mem_append_left _ h),
      hx.build source source' fun field h => hagree field (List.mem_append_right _ h)]

theorem Respects.of_eq {form : Form α} (h : Respects fields form) (heq : fields = fields') :
    Respects fields' form :=
  heq ▸ h

/-! ### Records -/

theorem toOption_buildFrom (form : Form α) (entries : List (String × Json)) (source : Source) :
    (form.buildFrom entries source).toOption = (form.build source).toOption := by
  rw [buildFrom]
  cases form.build source <;> rfl

theorem duplicate?_eq_none (form : Form α) (hkeys : (Dict.keys ms).Nodup) :
    form.duplicate? ms = none := by
  induction ms with
  | nil => rfl
  | cons entry rest ih =>
    obtain ⟨hentry, hrest⟩ := List.nodup_cons.mp hkeys
    rw [duplicate?, if_neg fun h => hentry h.2, ih hrest]

/-- An object without repeated keys is read by looking its fields up. -/
theorem toOption_ofMembers (form : Form α) (hkeys : (Dict.keys ms).Nodup) :
    (form.ofMembers ms).toOption = (form.build ⟨Dict.get? ms, .missing⟩).toOption := by
  rw [ofMembers, duplicate?_eq_none form hkeys, toOption_buildFrom]

theorem Respects.toOption_ofItems {form : Form α} (h : Respects fields form)
    (hlength : items.length = items'.length)
    (hagree : fields.Agree (Dict.get? (fields.keys.zip items))
      (Dict.get? (fields.keys.zip items'))) :
    (form.ofItems title items).toOption = (form.ofItems title items').toOption := by
  rw [← h.keys_eq] at hagree
  have hbuild : ∀ absent, (form.build ⟨Dict.get? (form.keys.zip items), absent⟩).toOption =
      (form.build ⟨Dict.get? (form.keys.zip items'), absent⟩).toOption := fun absent =>
    h.build ⟨_, absent⟩ ⟨_, absent⟩ hagree
  simp only [ofItems, toOption_bind, toOption_buildFrom, hlength, hbuild]

end Form

variable {form : Form α} {title : String}

/-- **Records**: what is not known to the form makes no difference. -/
theorem respects_read (h : form.Respects fields) :
    Respects (RecordAgree fields) (form.read title) := by
  intro j j' hagree
  cases hagree with
  | leaf => rfl
  | array hlength hagree => exact h.toOption_ofItems hlength hagree
  | object hkeys hkeys' hagree =>
    rw [Form.read, Form.read, Form.toOption_ofMembers form hkeys,
      Form.toOption_ofMembers form hkeys']
    exact h.build _ _ hagree

theorem respects_readTuple (h : form.Respects fields) :
    Respects (RecordAgree fields) (form.readTuple title) := by
  intro j j' hagree
  cases hagree with
  | leaf => rfl
  | array hlength hagree => exact h.toOption_ofItems hlength hagree
  | object => rfl

end RowSchema.Json
