import RowSchema.Generator
import RowSchema.Proofs.Json.Agreement

/-!
# Documents in envelopes

The engine hands a document over in more than one way: alone in a file, in a file with an envelope
around it, or among the options of a request. It always writes more than is read, and more again in
every release. What is read of a document is independent of all this.

## The untagged choice

A file is tried as a document first, and as an envelope only if that fails. The options have both,
the document under `dmmf` and the text of the schema under `datamodel`, so that they look like a
document at first. They are told apart because a text does not read as a data model. This is why the
entry under `datamodel` is spoken of where an envelope is.

## What is passed over

Each record lists the fields that are known, and everything else in it may change. The one place
where this takes care is a default: an object is the default itself, unless it reads as a function
call, and only then is it a record with members to pass over.

## Main definitions

* `Datamodel.Field.known` and so on — the known fields of the records
* `Document.FileAgree` — files with the same known fields, in an envelope or not

## Main results

* `Datamodel.Field.respects_ofJson` and so on — each record is read by its known fields
* `Document.ofTree?_eq_of_fileAgree` — files that agree hold the same document
* `Generator.readDocument_eq_ok_iff` — what the reader of files does
* `Generator.document_independent_of_envelope` — the same document from wherever it is read
-/

namespace RowSchema

open Json (ListAgree RecordAgree Respects SameValue)

variable {j j' : Json}

namespace Datamodel

/-! ### Enums -/

/-- The known fields of a value of an enum. -/
def EnumValue.known : Json.Fields :=
  [("name", SameValue), ("dbName", SameValue)]

theorem EnumValue.respects_ofJson : Respects (RecordAgree EnumValue.known) EnumValue.ofJson :=
  Json.respects_read <| .of_eq
    (.seq (.map (.required Json.respects_asString) _)
      (.nullable Json.respects_asString fun _ _ => SameValue.null_iff)) rfl

theorem EnumValue.agree_of_sameValue (h : SameValue j j') : RecordAgree EnumValue.known j j' :=
  h.recordAgree (by simp [known])

/-- The known fields of an enum. -/
def Enum.known : Json.Fields :=
  [("name", SameValue), ("values", ListAgree (RecordAgree EnumValue.known))]

theorem Enum.respects_ofJson : Respects (RecordAgree Enum.known) Enum.ofJson :=
  Json.respects_read <| .of_eq
    (.seq (.map (.required Json.respects_asString) _)
      (.required (Json.respects_asList EnumValue.respects_ofJson))) rfl

theorem Enum.agree_of_sameValue (h : SameValue j j') : RecordAgree Enum.known j j' := by
  refine h.recordAgree ?_
  have hvalues : ∀ j j', SameValue j j' → ListAgree (RecordAgree EnumValue.known) j j' :=
    fun _ _ h => h.listAgree fun _ _ => EnumValue.agree_of_sameValue
  simpa [known] using hvalues

/-! ### Defaults -/

/-- The known fields of a function call. -/
def knownOfCall : Json.Fields :=
  [("name", SameValue), ("args", SameValue)]

theorem respects_call (title : String) :
    Respects (RecordAgree knownOfCall) (callForm.read title) := by
  have hargs : Respects SameValue (Json.asList Json.asValue) :=
    (Json.respects_asList Json.respects_asValue).mono fun _ _ h => h.listAgree fun _ _ h => h
  exact Json.respects_read <| .of_eq
    (.seq (.map (.required Json.respects_asString) _) (.optional hargs)) rfl

/-- Two defaults with the same value, or two function calls. -/
inductive DefaultValue.Agree : Json → Json → Prop where
  | same {j j' : Json} (h : SameValue j j') : Agree j j'
  | call {j j' : Json} {c : String × List Json}
      (hcall : callForm.read "struct FunctionCall" j = .ok c) (h : RecordAgree knownOfCall j j') :
      Agree j j'

theorem DefaultValue.Agree.null_iff (h : DefaultValue.Agree j j') : j = .null ↔ j' = .null := by
  cases h with
  | same h => exact h.null_iff
  | call _ h => exact h.null_iff

theorem DefaultValue.ofJson_of_call {c : String × List Json}
    (h : callForm.read "struct FunctionCall" j = .ok c) :
    DefaultValue.ofJson j = .ok (.call c.1 c.2) := by
  unfold ofJson
  rw [h]

theorem DefaultValue.respects_ofJson : Respects DefaultValue.Agree DefaultValue.ofJson := by
  intro j j' h
  cases h with
  | call hcall h =>
    have hcall' := ((respects_call _).eq_ok_iff h _).mp hcall
    rw [ofJson_of_call hcall, ofJson_of_call hcall']
  | same h =>
    have hcalls := respects_call "struct FunctionCall" j j'
      (h.recordAgree (by simp [knownOfCall]))
    cases hcall : callForm.read "struct FunctionCall" j with
    | ok c =>
      rw [hcall] at hcalls
      rw [ofJson_of_call hcall, ofJson_of_call (toOption_eq_some_iff.mp hcalls.symm)]
    | error e =>
      cases hcall' : callForm.read "struct FunctionCall" j' with
      | ok c => rw [hcall, hcall'] at hcalls; cases hcalls
      | error e' =>
        have hvalue := h.value_eq
        unfold ofJson
        rw [hcall, hcall']
        cases h.layer with
        | leaf => rfl
        | array =>
          rw [Json.value, Json.value, Json.array.injEq, Json.valueItems_eq_map,
            Json.valueItems_eq_map] at hvalue
          exact congrArg (some <| DefaultValue.list ·) hvalue
        | object => exact congrArg (some <| DefaultValue.scalar ·) hvalue

/-! ### Models -/

theorem NativeType.respects_ofJson : Respects SameValue NativeType.ofJson := by
  have hargs : Respects SameValue (Json.asList Json.asString) :=
    (Json.respects_asList Json.respects_asString).mono fun _ _ h => h.listAgree fun _ _ h => h
  have htuple : Respects (RecordAgree [("0", SameValue), ("1", SameValue)]) NativeType.ofJson :=
    Json.respects_readTuple <| .of_eq
      (.seq (.map (.required Json.respects_asString) _) (.optional hargs)) rfl
  exact htuple.mono fun _ _ h => h.recordAgree (by simp)

/-- The known fields of a field. -/
def Field.known : Json.Fields :=
  [("name", SameValue), ("dbName", SameValue), ("kind", SameValue), ("isList", SameValue),
    ("isRequired", SameValue), ("isId", SameValue), ("hasDefaultValue", SameValue),
    ("type", SameValue), ("nativeType", SameValue), ("default", DefaultValue.Agree),
    ("documentation", SameValue)]

theorem Field.respects_ofJson : Respects (RecordAgree Field.known) Field.ofJson := by
  have hnull : ∀ j j', SameValue j j' → (j = .null ↔ j' = .null) := fun _ _ => SameValue.null_iff
  have hstring := Json.respects_asString
  have hbool := Json.respects_asBool
  exact Json.respects_read <| .of_eq
    (.seq (.seq (.seq (.seq (.seq (.seq (.seq (.seq (.seq (.seq
      (.map (.required hstring) _)
      (.nullable hstring hnull))
      (.required (Json.respects_asVariant _)))
      (.optional hbool))
      (.optional hbool))
      (.optional hbool))
      (.optional hbool))
      (.required hstring))
      (.nullable NativeType.respects_ofJson hnull))
      (.nullable DefaultValue.respects_ofJson fun _ _ => DefaultValue.Agree.null_iff))
      (.nullable hstring hnull)) rfl

theorem Field.agree_of_sameValue (h : SameValue j j') : RecordAgree Field.known j j' := by
  refine h.recordAgree ?_
  have hdefault : ∀ j j', SameValue j j' → DefaultValue.Agree j j' := fun _ _ => .same
  simpa [known] using hdefault

/-- The known fields of a model. -/
def Model.known : Json.Fields :=
  [("name", SameValue), ("dbName", SameValue), ("fields", ListAgree (RecordAgree Field.known))]

theorem Model.respects_ofJson : Respects (RecordAgree Model.known) Model.ofJson :=
  Json.respects_read <| .of_eq
    (.seq (.seq
      (.map (.required Json.respects_asString) _)
      (.nullable Json.respects_asString fun _ _ => SameValue.null_iff))
      (.required (Json.respects_asList Field.respects_ofJson))) rfl

theorem Model.agree_of_sameValue (h : SameValue j j') : RecordAgree Model.known j j' := by
  refine h.recordAgree ?_
  have hfields : ∀ j j', SameValue j j' → ListAgree (RecordAgree Field.known) j j' :=
    fun _ _ h => h.listAgree fun _ _ => Field.agree_of_sameValue
  simpa [known] using hfields

/-! ### Data models -/

/-- The known fields of a data model. -/
def known : Json.Fields :=
  [("enums", ListAgree (RecordAgree Enum.known)), ("models", ListAgree (RecordAgree Model.known))]

theorem respects_ofJson : Respects (RecordAgree known) ofJson :=
  Json.respects_read <| .of_eq
    (.seq
      (.map (.optional (Json.respects_asList Enum.respects_ofJson)) _)
      (.optional (Json.respects_asList Model.respects_ofJson))) rfl

theorem agree_of_sameValue (h : SameValue j j') : RecordAgree known j j' := by
  refine h.recordAgree ?_
  have henums : ∀ j j', SameValue j j' → ListAgree (RecordAgree Enum.known) j j' :=
    fun _ _ h => h.listAgree fun _ _ => Enum.agree_of_sameValue
  have hmodels : ∀ j j', SameValue j j' → ListAgree (RecordAgree Model.known) j j' :=
    fun _ _ h => h.listAgree fun _ _ => Model.agree_of_sameValue
  simpa [known] using ⟨henums, hmodels⟩

end Datamodel

namespace Document

/-! ### Documents -/

/-- The known field of a document. -/
def known : Json.Fields :=
  [("datamodel", RecordAgree Datamodel.known)]

theorem respects_ofJson : Respects (RecordAgree known) ofJson :=
  Json.respects_read (.map (.required Datamodel.respects_ofJson) _)

theorem agree_of_sameValue (h : SameValue j j') : RecordAgree known j j' := by
  refine h.recordAgree ?_
  have hdatamodel : ∀ j j', SameValue j j' → RecordAgree Datamodel.known j j' :=
    fun _ _ => Datamodel.agree_of_sameValue
  simpa [known] using hdatamodel

variable {ms : List (String × Json)} {document : Document}

theorem toOption_ofJson_object (hkeys : (Dict.keys ms).Nodup) :
    (ofJson (.object ms)).toOption =
      (Dict.get? ms "datamodel").bind fun j => (Datamodel.ofJson j).toOption.map Document.mk := by
  rw [ofJson, Json.Form.read, Json.Form.toOption_ofMembers _ hkeys, Json.Form.toOption_build_map,
    Json.Form.toOption_build_required, Option.map_bind]
  rfl

theorem toOption_ofEnvelope_object (hkeys : (Dict.keys ms).Nodup) :
    (ofEnvelope (.object ms)).toOption =
      (Dict.get? ms "dmmf").bind fun j => (ofJson j).toOption := by
  rw [ofEnvelope, Json.Form.readObject, Json.Form.toOption_ofMembers _ hkeys,
    Json.Form.toOption_build_required]

/-- What an envelope holds stands under `dmmf`. -/
theorem exists_entry_of_ofEnvelope (h : ofEnvelope j = .ok document) :
    ∃ entry, j.get? "dmmf" = some entry ∧ ofJson entry = .ok document := by
  cases j with
  | object ms =>
    rw [ofEnvelope, Json.Form.readObject, Json.Form.ofMembers] at h
    split at h
    · cases h
    · rw [← toOption_eq_some_iff, Json.Form.toOption_buildFrom, Json.Form.toOption_build_required,
        Option.bind_eq_some_iff] at h
      obtain ⟨entry, hentry, hdocument⟩ := h
      exact ⟨entry, hentry, toOption_eq_some_iff.mp hdocument⟩
  | _ => cases h

/-- The document itself is tried first. -/
theorem ofTree?_eq (j : Json) : ofTree? j = (ofJson j).toOption.or (ofEnvelope j).toOption := by
  rw [ofTree?]
  cases ofJson j <;> rfl

/-- Two files that agree as documents, and in the document that they hold if they are envelopes. -/
structure FileAgree (j j' : Json) : Prop where
  document : RecordAgree known j j'
  envelope : ∀ ms ms', j = .object ms → j' = .object ms' →
    Option.Rel (RecordAgree known) (Dict.get? ms "dmmf") (Dict.get? ms' "dmmf")

/-- **Files that agree** hold the same document, or none. -/
theorem ofTree?_eq_of_fileAgree (h : FileAgree j j') : ofTree? j = ofTree? j' := by
  have henvelope : (ofEnvelope j).toOption = (ofEnvelope j').toOption := by
    obtain ⟨hdocument, henvelope⟩ := h
    cases hdocument with
    | leaf => rfl
    | array => rfl
    | object hkeys hkeys' =>
      have hentry := henvelope _ _ rfl rfl
      rw [toOption_ofEnvelope_object hkeys, toOption_ofEnvelope_object hkeys']
      generalize Dict.get? _ "dmmf" = o at hentry ⊢
      generalize Dict.get? _ "dmmf" = o' at hentry ⊢
      cases hentry with
      | some h => exact respects_ofJson _ _ h
      | none => rfl
  rw [ofTree?_eq, ofTree?_eq, respects_ofJson _ _ h.document, henvelope]

/-- An envelope whose other entry does not read as a data model holds its document. -/
theorem ofTree?_of_envelope {entry : Json} (hkeys : (Dict.keys ms).Nodup)
    (hentry : Dict.get? ms "dmmf" = some entry) (hdocument : ofJson entry = .ok document)
    (hother : ∀ j, Dict.get? ms "datamodel" = some j → ∀ d, Datamodel.ofJson j ≠ .ok d) :
    ofTree? (.object ms) = some document := by
  have hnone : (ofJson (.object ms)).toOption = none := by
    rw [toOption_ofJson_object hkeys]
    cases hget : Dict.get? ms "datamodel" with
    | none => rfl
    | some j =>
      cases hj : Datamodel.ofJson j with
      | ok d => exact absurd hj (hother j hget d)
      | error e => simp [hj, Except.toOption]
  rw [ofTree?_eq, hnone, toOption_ofEnvelope_object hkeys, hentry]
  simp [hdocument, Except.toOption]

end Document

namespace Generator

/-! ### Files -/

variable {text : String} {document : Document}

/-- The first value of a file decides before the rest of the file is looked at. -/
theorem ofText?_eq (cs : List Char) :
    Document.ofText? cs = (Json.readValue Json.maxDepth cs).mapError .malformed >>= fun found =>
      (Document.ofTree? found.1).elim (.error .mismatch) fun document =>
        ((Json.checkEnd found.2.1).mapError .malformed).map fun _ => document := by
  unfold Document.ofText?
  congr 1
  funext found
  obtain ⟨j, rest⟩ := found
  dsimp only
  cases Document.ofTree? j <;> rfl

/-- A text that is read holds the document of its tree. -/
theorem ofText?_of_read {cs : List Char} (h : Json.read cs = .ok j) :
    Document.ofText? cs = (Document.ofTree? j).elim (.error .mismatch) .ok := by
  rw [Json.read, bind_eq_ok_iff] at h
  obtain ⟨⟨tree, rest⟩, hvalue, hend⟩ := h
  rw [bind_eq_ok_iff] at hend
  obtain ⟨_, hend, htree⟩ := hend
  cases htree
  rw [ofText?_eq, hvalue]
  show (Document.ofTree? j).elim _ _ = _
  cases Document.ofTree? j with
  | none => rfl
  | some document => rw [hend]; rfl

/-- A document is only read from a text that is JSON. -/
theorem exists_read_of_ofText? {cs : List Char} (h : Document.ofText? cs = .ok document) :
    ∃ j, Json.read cs = .ok j := by
  rw [ofText?_eq, bind_eq_ok_iff] at h
  obtain ⟨⟨j, rest⟩, hvalue, h⟩ := h
  have hend : ∃ u, Json.checkEnd rest.1 = .ok u := by
    cases htree : Document.ofTree? j with
    | none => rw [htree] at h; cases h
    | some found =>
      rw [htree] at h
      obtain ⟨u, hu, -⟩ := map_eq_ok_iff.mp h
      exact ⟨u, mapError_eq_ok_iff.mp hu⟩
  obtain ⟨u, hend⟩ := hend
  refine ⟨j, ?_⟩
  rw [Json.read, mapError_eq_ok_iff.mp hvalue]
  show (Json.checkEnd rest.1 >>= fun _ => pure j) = _
  rw [hend]
  rfl

/-- **Reading a file**: the text is JSON, and its tree is a document or an envelope. -/
theorem readDocument_eq_ok_iff :
    readDocument text = .ok document ↔
      ∃ j, Json.read text.toList = .ok j ∧ Document.ofTree? j = some document := by
  rw [readDocument, mapError_eq_ok_iff]
  constructor
  · intro h
    obtain ⟨j, hread⟩ := exists_read_of_ofText? h
    rw [ofText?_of_read hread] at h
    refine ⟨j, hread, ?_⟩
    cases htree : Document.ofTree? j with
    | none => rw [htree] at h; cases h
    | some found => rw [htree] at h; cases h; rfl
  · rintro ⟨j, hread, htree⟩
    rw [ofText?_of_read hread, htree]
    rfl

/-- Whatever is wrong, the file is refused as a document. -/
theorem exists_fault_of_readDocument (h : ∀ document, readDocument text ≠ .ok document) :
    ∃ fault, readDocument text = .error (.invalidDocument text fault) := by
  cases hfile : Document.ofText? text.toList with
  | ok document => exact absurd (mapError_eq_ok_iff.mpr hfile) (h document)
  | error fault => exact ⟨fault, by rw [readDocument, hfile]; rfl⟩

theorem readDocument_of_mismatch (hread : Json.read text.toList = .ok j)
    (htree : Document.ofTree? j = none) :
    readDocument text = .error (.invalidDocument text .mismatch) := by
  rw [readDocument, ofText?_of_read hread, htree]
  rfl

/-! ### Options -/

/-- The known field of a setting. -/
def knownOfSetting : Json.Fields :=
  [("value", SameValue)]

/-- The known field of the block that configures the generator. -/
def knownOfBlock : Json.Fields :=
  [("output", RecordAgree knownOfSetting)]

theorem respects_blockOfJson : Respects (RecordAgree knownOfBlock) blockOfJson := by
  have hsetting : Respects (RecordAgree knownOfSetting) settingOfJson :=
    Json.respects_read (.nullable Json.respects_asString fun _ _ => SameValue.null_iff)
  exact Json.respects_read (.map (.nullable hsetting fun _ _ => RecordAgree.null_iff) _)

/-- The known fields of the options. -/
def Options.known : Json.Fields :=
  [("generator", RecordAgree knownOfBlock), ("dmmf", RecordAgree Document.known)]

theorem Options.respects_ofJson : Respects (RecordAgree Options.known) Options.ofJson :=
  Json.respects_read <| .of_eq
    (.seq
      (.map (.required respects_blockOfJson) _)
      (.required Document.respects_ofJson)) rfl

theorem Options.ofJson_object {ms : List (String × Json)} {block entry : Json}
    {output : Option String} (hkeys : (Dict.keys ms).Nodup)
    (hblock : Dict.get? ms "generator" = some block) (houtput : blockOfJson block = .ok output)
    (hentry : Dict.get? ms "dmmf" = some entry) (hdocument : Document.ofJson entry = .ok document) :
    Options.ofJson (.object ms) = .ok ⟨output, document⟩ := by
  rw [← toOption_eq_some_iff, Options.ofJson, Json.Form.read, Json.Form.toOption_ofMembers _ hkeys,
    Json.Form.toOption_build_seq, Json.Form.toOption_build_map, Json.Form.toOption_build_required,
    Json.Form.toOption_build_required]
  simp only [hblock, hentry, Option.bind_some, houtput, hdocument]
  rfl

/-! ### Wherever a document is -/

/-- **Documents in envelopes.** A document is read alike from a file of its own, from an envelope
and from the options, and from all trees that agree with it, those with its value among them.
Entries that are not known make no difference to other files and options either, and a file without
a document is refused. -/
theorem document_independent_of_envelope :
    (∀ D document, Document.ofJson D = .ok document →
      (∀ j, SameValue D j → RecordAgree Document.known D j) ∧
      (∀ text j, Json.read text.toList = .ok j → RecordAgree Document.known D j →
        readDocument text = .ok document) ∧
      (∀ text ms entry, Json.read text.toList = .ok (.object ms) → (Dict.keys ms).Nodup →
        Dict.get? ms "dmmf" = some entry → RecordAgree Document.known D entry →
        (∀ j, Dict.get? ms "datamodel" = some j → ∀ d, Datamodel.ofJson j ≠ .ok d) →
        readDocument text = .ok document) ∧
      ∀ ms block output entry, (Dict.keys ms).Nodup → Dict.get? ms "generator" = some block →
        blockOfJson block = .ok output → Dict.get? ms "dmmf" = some entry →
        RecordAgree Document.known D entry →
        Options.ofJson (.object ms) = .ok ⟨output, document⟩) ∧
    (∀ text text' j j', Json.read text.toList = .ok j → Json.read text'.toList = .ok j' →
      Document.FileAgree j j' →
      ∀ document, readDocument text = .ok document ↔ readDocument text' = .ok document) ∧
    (∀ j j', RecordAgree Options.known j j' →
      ∀ options, Options.ofJson j = .ok options ↔ Options.ofJson j' = .ok options) ∧
    (∀ text fault, Json.read text.toList = .error fault →
      ∃ fault, readDocument text = .error (.invalidDocument text fault)) ∧
    ∀ text j, Json.read text.toList = .ok j → (∀ document, Document.ofJson j ≠ .ok document) →
      (∀ entry, j.get? "dmmf" = some entry → ∀ document, Document.ofJson entry ≠ .ok document) →
      readDocument text = .error (.invalidDocument text .mismatch) := by
  refine ⟨fun D document hD => ?_, ?_, ?_, ?_, ?_⟩
  · have hread : ∀ {j}, RecordAgree Document.known D j → Document.ofJson j = .ok document :=
      fun hagree => (Document.respects_ofJson.eq_ok_iff hagree document).mp hD
    refine ⟨fun _ => Document.agree_of_sameValue, ?_, ?_, ?_⟩
    · intro text j htext hagree
      refine readDocument_eq_ok_iff.mpr ⟨j, htext, ?_⟩
      rw [Document.ofTree?_eq, hread hagree]
      rfl
    · intro text ms entry htext hkeys hentry hagree hother
      exact readDocument_eq_ok_iff.mpr
        ⟨_, htext, Document.ofTree?_of_envelope hkeys hentry (hread hagree) hother⟩
    · intro ms block output entry hkeys hblock houtput hentry hagree
      exact Options.ofJson_object hkeys hblock houtput hentry (hread hagree)
  · intro text text' j j' hread hread' hagree document
    have hsame := Document.ofTree?_eq_of_fileAgree hagree
    rw [readDocument_eq_ok_iff, readDocument_eq_ok_iff]
    constructor
    · rintro ⟨found, hfound, htree⟩
      obtain rfl : j = found := Except.ok.inj (hread.symm.trans hfound)
      exact ⟨j', hread', hsame ▸ htree⟩
    · rintro ⟨found, hfound, htree⟩
      obtain rfl : j' = found := Except.ok.inj (hread'.symm.trans hfound)
      exact ⟨j, hread, hsame ▸ htree⟩
  · exact fun j j' hagree options => Options.respects_ofJson.eq_ok_iff hagree options
  · intro text fault hread
    refine exists_fault_of_readDocument fun document h => ?_
    obtain ⟨j, hj, -⟩ := readDocument_eq_ok_iff.mp h
    rw [hread] at hj
    cases hj
  · intro text j hread hbare hwrapped
    refine readDocument_of_mismatch hread ?_
    refine Option.eq_none_iff_forall_ne_some.mpr fun document h => ?_
    rw [Document.ofTree?_eq, Option.or_eq_some_iff] at h
    rcases h with h | ⟨-, h⟩
    · exact hbare document (toOption_eq_some_iff.mp h)
    · obtain ⟨entry, hentry, hdocument⟩ :=
        Document.exists_entry_of_ofEnvelope (toOption_eq_some_iff.mp h)
      exact hwrapped entry hentry document hdocument

/-- The data model of a blog. -/
def blogModels : Json :=
  .array [.object [("fields", .array []), ("name", .string "Post")]]

/-- The document of a blog. -/
def blog : Json :=
  .object [("datamodel", .object [("models", blogModels)])]

/-- The document as a later engine writes it. -/
def laterBlog : Json :=
  .object [("datamodel", .object [("indexes", .array []), ("models", blogModels),
    ("types", .array [])]), ("version", .int 7)]

/-- The later document among the options. -/
def blogOptions : Json :=
  .object [("datamodel", .string "model Post"), ("dmmf", laterBlog), ("generator", .object []),
    ("version", .string "5.22.0")]

theorem agree_laterBlog : RecordAgree Document.known blog laterBlog := by
  have hmodels : ListAgree (RecordAgree Datamodel.Model.known) blogModels blogModels :=
    (SameValue.refl (Json.hasDistinctKeys_of_isValue (by decide))).listAgree fun _ _ =>
      Datamodel.Model.agree_of_sameValue
  have hdatamodel : RecordAgree Datamodel.known (.object [("models", blogModels)])
      (.object [("indexes", .array []), ("models", blogModels), ("types", .array [])]) := by
    refine Json.recordAgree_of_sublist (by decide) ?_ (.cons _ (.cons_cons _ (.cons _ .slnil)))
      (by decide) (by decide)
    exact List.forall_mem_cons.mpr ⟨.none, List.forall_mem_singleton.mpr (.some hmodels)⟩
  refine Json.recordAgree_of_sublist (by decide) ?_ (.cons_cons _ (.cons _ .slnil)) (by decide)
    (by decide)
  exact List.forall_mem_singleton.mpr (.some hdatamodel)

theorem document_independent_of_envelope_blog :
    readDocument blog.text = .ok ⟨⟨[], [⟨"Post", none, []⟩]⟩⟩ ∧
      readDocument blogOptions.text = .ok ⟨⟨[], [⟨"Post", none, []⟩]⟩⟩ ∧
      Options.ofJson blogOptions = .ok ⟨none, ⟨⟨[], [⟨"Post", none, []⟩]⟩⟩⟩ ∧
      readDocument laterBlog.text = .ok ⟨⟨[], [⟨"Post", none, []⟩]⟩⟩ ∧
      (∃ fault, readDocument "" = .error (.invalidDocument "" fault)) ∧
      readDocument "[]" = .error (.invalidDocument "[]" .mismatch) := by
  obtain ⟨hread, hfiles, -, hmalformed, hmismatch⟩ := document_independent_of_envelope
  have htext : Json.read blog.text.toList = .ok blog := toOption_eq_some_iff.mp (by decide +kernel)
  have hoptions : Json.read blogOptions.text.toList = .ok blogOptions :=
    toOption_eq_some_iff.mp (by decide +kernel)
  have hlater : Json.read laterBlog.text.toList = .ok laterBlog :=
    toOption_eq_some_iff.mp (by decide +kernel)
  obtain ⟨hsame, hbare, hwrapped, hrequest⟩ := hread blog ⟨⟨[], [⟨"Post", none, []⟩]⟩⟩ rfl
  have hblog : readDocument blog.text = .ok ⟨⟨[], [⟨"Post", none, []⟩]⟩⟩ :=
    hbare blog.text blog htext (hsame blog (.refl (Json.hasDistinctKeys_of_isValue (by decide))))
  refine ⟨hblog, ?_, ?_, ?_, ?_, ?_⟩
  · refine hwrapped blogOptions.text _ laterBlog hoptions (by decide) rfl agree_laterBlog ?_
    rintro j hj d hd
    cases hj
    cases hd
  · exact hrequest _ (.object []) none laterBlog (by decide) rfl rfl rfl agree_laterBlog
  · have hagree : Document.FileAgree blog laterBlog := by
      refine ⟨agree_laterBlog, fun ms ms' hms hms' => ?_⟩
      cases hms
      cases hms'
      exact .none
    exact (hfiles blog.text laterBlog.text blog laterBlog htext hlater hagree _).mp hblog
  · exact hmalformed "" (.atEnd .eofValue) rfl
  · exact hmismatch "[]" (.array []) rfl nofun nofun

end Generator

end RowSchema
