import Meshctl.Db.ModelUpdates
import Meshctl.Db.Reading

/-! # Reading a changed model record

A change of what is stored for a model shows, when the record is read, as an
update of that model behind everything else.
-/

namespace Meshctl.Db

open Net Text Commutation

/-! ## Parsers that can be put off -/

section PutOff

variable {other : MeshNode → Option MeshNode} {eleIdx : Byte} {modelId : U32}

theorem parseIfPresent_putOff {parse : MeshNode → Json → Option MeshNode}
    (each : ∀ value, PutOff (fun node => parse node value) other)
    (value : Option Json) :
    PutOff (fun node => parseIfPresent parse node value) other := by
  cases value with
  | none => exact PutOff.skip other
  | some value => exact each value

theorem parseBindings_putOff
    (each : ∀ appIdx, PutOff (fun node => node.addBinding eleIdx modelId appIdx) other)
    (bindings : List Json) :
    PutOff (fun node => parseBindings eleIdx modelId node bindings) other := by
  induction bindings with
  | nil => exact PutOff.skip other
  | cons item items induction =>
      simp only [parseBindings]
      cases item.pointer with
      | none => exact PutOff.skip other
      | some value =>
          dsimp only
          split
          · exact (each _).bind induction
          · intro state next parsed
            cases parsed

theorem parseSubscriptions_putOff
    (each : ∀ addr, PutOff (fun node => node.addSubscription eleIdx modelId addr) other)
    (subscriptions : List Json) :
    PutOff (fun node => parseSubscriptions eleIdx modelId node subscriptions)
      other := by
  refine PutOff.foldlM fun subscription _ => ?_
  cases readHex16 subscription.pointer with
  | none =>
      intro state next parsed
      cases parsed
  | some addr => exact each addr

theorem parseModelPub_putOff
    (each : ∀ pub, PutOff (fun node => node.modelPubSet eleIdx modelId pub) other)
    (pub : Json) :
    PutOff (fun node => parseModelPub eleIdx modelId node pub) other := by
  simp only [parseModelPub]
  cases readHex16 (pub.get "address") with
  | none =>
      intro state next parsed
      cases parsed
  | some addr16 =>
      cases readHex16 (pub.get "index") with
      | none =>
          intro state next parsed
          cases parsed
      | some appIdx => exact each _

theorem parseModelBindings_putOff
    (each : ∀ appIdx, PutOff (fun node => node.addBinding eleIdx modelId appIdx) other)
    (bindings : Json) :
    PutOff (fun node => parseModelBindings eleIdx modelId node bindings) other := by
  simp only [parseModelBindings]
  cases bindings.items with
  | none =>
      intro state next parsed
      cases parsed
  | some items => exact parseBindings_putOff each items

theorem parseModelSubscriptions_putOff
    (each : ∀ addr, PutOff (fun node => node.addSubscription eleIdx modelId addr) other)
    (subscriptions : Json) :
    PutOff (fun node => parseModelSubscriptions eleIdx modelId node subscriptions)
      other := by
  simp only [parseModelSubscriptions]
  cases subscriptions.items with
  | none =>
      intro state next parsed
      cases parsed
  | some items => exact parseSubscriptions_putOff each items

end PutOff

/-! ## The parts of a model record -/

/-- Behind the bindings of a model, its subscriptions and its publication. -/
def parseSubscriptionsAndPub (eleIdx : Byte) (modelId : U32) (model : Json)
    (node : MeshNode) : Option MeshNode :=
  (parseIfPresent (parseModelSubscriptions eleIdx modelId) node
    (model.get "subscribe")).bind fun node =>
      parseIfPresent (parseModelPub eleIdx modelId) node (model.get "publish")

theorem parseConfigurationModel_eq {eleIdx : Byte} {modelId : U32} {model : Json}
    (isId : readModelId (model.get "modelId") = some modelId) (node : MeshNode) :
    parseConfigurationModel eleIdx node model =
      (parseIfPresent (parseModelBindings eleIdx modelId) node
        (model.get "bind")).bind (parseSubscriptionsAndPub eleIdx modelId model) := by
  rw [parseConfigurationModel, isId]
  rfl

/-- Another model is read in any order. -/
theorem parseConfigurationModel_putOff {update : MeshModel → Option MeshModel}
    (configures : Configures update) {eleIdx otherIdx : Byte} {otherId : U32}
    {model : Json}
    (different : eleIdx ≠ otherIdx ∨ readModelId (model.get "modelId") ≠ some otherId) :
    PutOff (fun node => parseConfigurationModel eleIdx node model)
      (updateModel otherIdx otherId update) := by
  cases isId : readModelId (model.get "modelId") with
  | none =>
      intro node next parsed
      simp only [parseConfigurationModel, isId] at parsed
      cases parsed
  | some modelId =>
      have apart : eleIdx ≠ otherIdx ∨ modelId ≠ otherId :=
        different.imp_right fun differs same => differs (by rw [isId, same])
      simp only [parseConfigurationModel_eq isId, parseSubscriptionsAndPub]
      refine PutOff.bind ?_ (PutOff.bind ?_ ?_)
      · apply parseIfPresent_putOff
        apply parseModelBindings_putOff
        intro appIdx
        simp only [addBinding_eq]
        exact updateModel_putOff apart (configures_bindTo appIdx) configures
      · apply parseIfPresent_putOff
        apply parseModelSubscriptions_putOff
        intro addr
        simp only [addSubscription_eq]
        exact updateModel_putOff apart (configures_subscribeTo addr) configures
      · apply parseIfPresent_putOff
        apply parseModelPub_putOff
        intro pub
        simp only [modelPubSet_eq]
        exact updateModel_putOff apart (configures_publish pub) configures

/-! ## Changes of a record -/

/-- The list of bindings has no entry at which reading it would end early. -/
def Plain (model : Json) : Prop :=
  ∀ bindings items, model.get "bind" = some bindings →
    bindings.items = some items → ∀ item ∈ items, item.IsValue

/-- A change of a model's record that is read as an update of the model. -/
structure Records (change : Json → Json)
    (update : MeshModel → Option MeshModel) : Prop where
  sameId : ∀ model : Json, (change model).get "modelId" = model.get "modelId"
  plain : ∀ model : Json, model.IsObject → Plain model → Plain (change model)
  read : ∀ model eleIdx modelId node next, Plain model →
    readModelId (model.get "modelId") = some modelId →
    parseConfigurationModel eleIdx node model = some next →
    parseConfigurationModel eleIdx node (change model) =
      updateModel eleIdx modelId update next

/-! ### New records -/

/-- The number of a model of the Bluetooth SIG is the lower half of its id. -/
theorem lowerHalf {modelId : U32} (isSig : modelId &&& 0xffff0000 = 0xffff0000) :
    (modelId.setWidth 16).setWidth 32 ||| 0xffff0000 = modelId := by
  have low : (modelId.setWidth 16).setWidth 32 = modelId &&& 0x0000ffff := by
    apply BitVec.eq_of_toNat_eq
    have mask : (0x0000ffff : U32).toNat = 2 ^ 16 - 1 := by decide
    rw [BitVec.toNat_and, mask, Nat.and_two_pow_sub_one_eq_mod, BitVec.toNat_setWidth,
      BitVec.toNat_setWidth]
    omega
  have whole : (0x0000ffff : U32) ||| 0xffff0000 = BitVec.allOnes 32 := by decide
  have parts : modelId &&& 0x0000ffff ||| modelId &&& 0xffff0000 = modelId := by
    rw [← BitVec.and_or_distrib_left, whole, BitVec.and_allOnes]
  rw [isSig] at parts
  rw [low, parts]

theorem readModelId_newModelRecord (modelId : U32) :
    readModelId ((newModelRecord modelId).get "modelId") = some modelId := by
  by_cases isSig : modelId &&& 0xffff0000 = 0xffff0000
  · have isEntry : (newModelRecord modelId).get "modelId" =
        some (Json.hex16 (modelId.setWidth 16).toNat) := by
      rw [newModelRecord, if_pos isSig]
      rfl
    rw [isEntry, readModelId_hex16, lowerHalf isSig]
  · have isEntry : (newModelRecord modelId).get "modelId" =
        some (Json.hex32 modelId.toNat) := by
      rw [newModelRecord, if_neg isSig]
      rfl
    rw [isEntry, readModelId_hex32]

theorem get_newModelRecord {key : String} (other : key ≠ "modelId") (modelId : U32) :
    (newModelRecord modelId).get key = none := by
  simp [newModelRecord, Json.get, Json.lookup, other.symm]

theorem plain_newModelRecord (modelId : U32) : Plain (newModelRecord modelId) := by
  intro bindings items found
  rw [get_newModelRecord (by decide)] at found
  cases found

theorem parseConfigurationModel_new (eleIdx : Byte) (modelId : U32)
    (node : MeshNode) :
    parseConfigurationModel eleIdx node (newModelRecord modelId) = some node := by
  have isId := readModelId_newModelRecord modelId
  simp only [parseConfigurationModel_eq isId, parseSubscriptionsAndPub,
    @get_newModelRecord "bind" (by decide), @get_newModelRecord "subscribe" (by decide),
    @get_newModelRecord "publish" (by decide)]
  rfl

/-! ### Entries of lists -/

theorem get_pushEntry_ne {key other : String} (different : other ≠ key)
    (entry model : Json) :
    (pushEntry key entry model).get other = model.get other := by
  rw [pushEntry]
  split
  · exact Json.get_add_ne model _ different
  · exact Json.get_changeField_ne model different _

theorem push_isValue {json : Json} (isValue : json.IsValue) (entry : Json) :
    (json.push entry).IsValue := by
  cases json with
  | array items => rfl
  | _ => exact isValue

theorem get_pushEntry_self {key : String} {model : Json} (object : model.IsObject)
    (entry : Json) :
    (pushEntry key entry model).get key =
      some ((model.get key).elim (.array [entry]) fun list => list.push entry) := by
  rw [pushEntry]
  cases found : model.get key with
  | none => exact Json.get_add_self object (Json.isValue_array [entry]) key
  | some list =>
      exact Json.get_changeField_self found
        (push_isValue (Json.isValue_of_get found) entry)

theorem isObject_of_readModelId {model : Json} {modelId : U32}
    (isId : readModelId (model.get "modelId") = some modelId) : model.IsObject := by
  rcases Option.bind_eq_some_iff.mp isId with ⟨value, isValue, _⟩
  exact Json.isObject_of_get isValue

theorem parseBindings_append {eleIdx : Byte} {modelId : U32} {appIdx : U16}
    (small : appIdx.toNat ≤ 4095) {items : List Json}
    (plain : ∀ item ∈ items, item.IsValue) (node : MeshNode) :
    parseBindings eleIdx modelId node (items ++ [.int appIdx.toNat]) =
      (parseBindings eleIdx modelId node items).bind
        (updateModel eleIdx modelId (MeshModel.bindTo appIdx)) := by
  induction items generalizing node with
  | nil =>
      have isIdx : Json.getInt (some (.int appIdx.toNat)) = appIdx.toNat :=
        Json.getInt_int appIdx.isLt
      have inRange : keyIdxInRange (appIdx.toNat : Int) := by
        constructor <;> omega
      have isItem : (Json.int appIdx.toNat).pointer = some (.int appIdx.toNat) := rfl
      simp only [List.nil_append, parseBindings, isItem, isIdx, if_pos inRange,
        BitVec.ofInt_natCast, BitVec.ofNat_toNat, BitVec.setWidth_eq, Option.bind_some,
        addBinding_eq]
      cases updateModel eleIdx modelId (MeshModel.bindTo appIdx) node <;> rfl
  | cons item items induction =>
      have isItem : item.pointer = some item := plain item List.mem_cons_self
      simp only [List.cons_append, parseBindings, isItem]
      split
      · simp only [Option.bind_eq_bind, Option.bind_assoc]
        congr 1
        funext next
        exact induction (fun other member => plain other (List.mem_cons_of_mem _ member)) next
      · rfl

/-- The records of the bindings, of the subscriptions and of the publication are
kept apart. -/
theorem parseSubscriptionsAndPub_congr {model changed : Json} (eleIdx : Byte)
    (modelId : U32)
    (subscribe : changed.get "subscribe" = model.get "subscribe")
    (publish : changed.get "publish" = model.get "publish") :
    parseSubscriptionsAndPub eleIdx modelId changed =
      parseSubscriptionsAndPub eleIdx modelId model := by
  funext node
  rw [parseSubscriptionsAndPub, parseSubscriptionsAndPub, subscribe, publish]

/-- A list of a model's record, read by a loop over its items. -/
def parseItems (parse : MeshNode → List Json → Option MeshNode) (node : MeshNode)
    (list : Json) : Option MeshNode :=
  list.items.bind (parse node)

/-- An entry behind the others is read behind them. -/
theorem parseItems_pushed {parse : MeshNode → List Json → Option MeshNode}
    {add : MeshNode → Option MeshNode} {entry : Json} {list : Option Json}
    (start : ∀ node, parse node [] = some node)
    (appends : ∀ items, items = [] ∨ list.bind Json.items = some items →
      ∀ node, parse node (items ++ [entry]) = (parse node items).bind add)
    {node next : MeshNode} (parsed : parseIfPresent (parseItems parse) node list = some next) :
    parseItems parse node
      (list.elim (.array [entry]) fun list => list.push entry) = add next := by
  cases list with
  | none =>
      cases parsed
      have alone := appends [] (Or.inl rfl) node
      rw [start] at alone
      exact alone
  | some list =>
      rcases Option.bind_eq_some_iff.mp parsed with ⟨items, areItems, parsed⟩
      have behind := appends items (Or.inr areItems) node
      rw [parsed] at behind
      rw [Option.elim_some, parseItems, Json.items_push areItems]
      exact behind

theorem parseSubscriptions_append {eleIdx : Byte} {modelId : U32} (addr : U16)
    (items : List Json) (node : MeshNode) :
    parseSubscriptions eleIdx modelId node (items ++ [Json.hex16 addr.toNat]) =
      (parseSubscriptions eleIdx modelId node items).bind
        (updateModel eleIdx modelId (MeshModel.subscribeTo addr)) := by
  have last (next : MeshNode) :
      parseSubscriptions eleIdx modelId next [Json.hex16 addr.toNat] =
        updateModel eleIdx modelId (MeshModel.subscribeTo addr) next := by
    have isItem : (Json.hex16 addr.toNat).pointer = some (Json.hex16 addr.toNat) := rfl
    rw [parseSubscriptions, List.foldlM_cons, isItem, readHex16_hex16]
    simp only [Option.bind_eq_bind, Option.bind_some, List.foldlM_nil,
      addSubscription_eq]
    cases updateModel eleIdx modelId (MeshModel.subscribeTo addr) next <;> rfl
  rw [parseSubscriptions, List.foldlM_append]
  exact congrArg (Option.bind (parseSubscriptions eleIdx modelId node items)) (funext last)

theorem plain_pushEntry {model : Json} (object : model.IsObject) (plain : Plain model)
    {entry : Json} (isValue : entry.IsValue) : Plain (pushEntry "bind" entry model) := by
  intro bindings items found areItems item member
  rw [get_pushEntry_self object] at found
  cases Option.some_inj.mp found
  cases isList : model.get "bind" with
  | none =>
      rw [isList] at areItems
      cases areItems
      rw [List.mem_singleton.mp member]
      exact isValue
  | some list =>
      rw [isList, Option.elim_some] at areItems
      cases list with
      | array before =>
          cases areItems
          rcases List.mem_append.mp member with old | new
          · exact plain _ before isList rfl item old
          · rw [List.mem_singleton.mp new]
            exact isValue
      | _ => cases areItems

theorem plain_congr {model changed : Json}
    (same : changed.get "bind" = model.get "bind") (plain : Plain model) :
    Plain changed := by
  intro bindings items found
  rw [same] at found
  exact plain bindings items found

theorem records_binding {appIdx : U16} (small : appIdx.toNat ≤ 4095) :
    Records (pushEntry "bind" (.int appIdx.toNat)) (MeshModel.bindTo appIdx) where
  sameId model := get_pushEntry_ne (by decide) _ model
  plain model object plain := plain_pushEntry object plain rfl
  read model eleIdx modelId node next plain isId parsed := by
    have object := isObject_of_readModelId isId
    have isId' := isId
    rw [← @get_pushEntry_ne "bind" "modelId" (by decide) (.int appIdx.toNat) model]
      at isId'
    have others := @parseSubscriptionsAndPub_congr model
      (pushEntry "bind" (.int appIdx.toNat) model) eleIdx modelId
      (get_pushEntry_ne (by decide) _ model) (get_pushEntry_ne (by decide) _ model)
    rw [parseConfigurationModel_eq isId] at parsed
    rcases Option.bind_eq_some_iff.mp parsed with ⟨bound, bindings, rest⟩
    have behind : parseItems (parseBindings eleIdx modelId) node
        ((model.get "bind").elim (.array [.int appIdx.toNat]) fun list =>
          list.push (.int appIdx.toNat)) =
        updateModel eleIdx modelId (MeshModel.bindTo appIdx) bound := by
      refine parseItems_pushed (fun node => rfl) ?_ bindings
      intro items areItems
      apply parseBindings_append small
      rcases areItems with rfl | areItems
      · simp
      · rcases Option.bind_eq_some_iff.mp areItems with ⟨list, isList, areItems⟩
        exact plain list items isList areItems
    have putOff : PutOff (parseSubscriptionsAndPub eleIdx modelId model)
        (updateModel eleIdx modelId (MeshModel.bindTo appIdx)) := by
      refine PutOff.bind ?_ ?_
      · apply parseIfPresent_putOff
        apply parseModelSubscriptions_putOff
        intro addr
        simp only [addSubscription_eq]
        exact updateModel_putOff_same (subscribeTo_putOff_bindTo addr appIdx)
          (configures_subscribeTo addr) (configures_bindTo appIdx)
      · apply parseIfPresent_putOff
        apply parseModelPub_putOff
        intro pub
        simp only [modelPubSet_eq]
        exact updateModel_putOff_same (publish_putOff_bindTo pub appIdx)
          (configures_publish pub) (configures_bindTo appIdx)
    rw [parseConfigurationModel_eq isId', get_pushEntry_self object, others,
      ← putOff bound next rest, ← behind]
    rfl

theorem records_subscription (addr : U16) :
    Records (pushEntry "subscribe" (Json.hex16 addr.toNat))
      (MeshModel.subscribeTo addr) where
  sameId model := get_pushEntry_ne (by decide) _ model
  plain model _ := plain_congr (get_pushEntry_ne (by decide) _ model)
  read model eleIdx modelId node next _ isId parsed := by
    have object := isObject_of_readModelId isId
    have isId' := isId
    rw [← @get_pushEntry_ne "subscribe" "modelId" (by decide) (Json.hex16 addr.toNat)
      model] at isId'
    rw [parseConfigurationModel_eq isId] at parsed
    rcases Option.bind_eq_some_iff.mp parsed with ⟨bound, bindings, rest⟩
    rcases Option.bind_eq_some_iff.mp rest with ⟨subscribed, subscriptions, pub⟩
    have behind : parseItems (parseSubscriptions eleIdx modelId) bound
        ((model.get "subscribe").elim (.array [Json.hex16 addr.toNat]) fun list =>
          list.push (Json.hex16 addr.toNat)) =
        updateModel eleIdx modelId (MeshModel.subscribeTo addr) subscribed :=
      parseItems_pushed (fun node => rfl)
        (fun items _ => parseSubscriptions_append addr items) subscriptions
    have putOff : PutOff (fun node => parseIfPresent (parseModelPub eleIdx modelId) node
          (model.get "publish"))
        (updateModel eleIdx modelId (MeshModel.subscribeTo addr)) := by
      apply parseIfPresent_putOff
      apply parseModelPub_putOff
      intro pub
      simp only [modelPubSet_eq]
      exact updateModel_putOff_same (publish_putOff_subscribeTo pub addr)
        (configures_publish pub) (configures_subscribeTo addr)
    rw [parseConfigurationModel_eq isId', get_pushEntry_ne (by decide), bindings,
      Option.bind_some, parseSubscriptionsAndPub, get_pushEntry_self object,
      get_pushEntry_ne (by decide), ← putOff subscribed next pub, ← behind]
    rfl

/-! ### Publications -/

/-- What is stored of a publication. -/
def storedPub (pub : MeshPublication) : MeshPublication :=
  { pub with period := 0, retransmit := 0 }

theorem parseModelPub_pubRecord (eleIdx : Byte) (modelId : U32) (node : MeshNode)
    (pub : MeshPublication) :
    parseModelPub eleIdx modelId node (pubRecord pub) =
      updateModel eleIdx modelId (MeshModel.publish (storedPub pub)) node := by
  have isAddress : (pubRecord pub).get "address" = some (Json.hex16 pub.addr16.toNat) :=
    rfl
  have isIndex : (pubRecord pub).get "index" = some (Json.hex16 pub.appIdx.toNat) := rfl
  have isTtl : (pubRecord pub).get "ttl" = some (.int pub.ttl.toNat) := rfl
  have small : pub.ttl.toNat < 65536 := pub.ttl.isLt.trans (by decide)
  rw [parseModelPub, isAddress, isIndex, isTtl, readHex16_hex16, readHex16_hex16]
  simp only [Option.bind_eq_bind, Option.bind_some, Json.getInt_int small,
    BitVec.ofInt_natCast, BitVec.ofNat_toNat, BitVec.setWidth_eq, modelPubSet_eq]
  rfl

/-- A publication takes the place of the one before. -/
theorem parseModelPub_lostIn {eleIdx : Byte} {modelId : U32} (pub : MeshPublication)
    (before : Option Json) :
    LostIn (fun node => parseIfPresent (parseModelPub eleIdx modelId) node before)
      (updateModel eleIdx modelId (MeshModel.publish pub)) := by
  intro node next published
  cases before with
  | none =>
      cases published
      rfl
  | some record =>
      rcases Option.bind_eq_some_iff.mp published with ⟨addr16, _, more⟩
      rcases Option.bind_eq_some_iff.mp more with ⟨appIdx, _, set⟩
      rw [modelPubSet_eq] at set
      exact updateModel_lostIn (publish_lostIn_publish _ pub) (configures_publish _)
        node next set

theorem records_publication (pub : MeshPublication) :
    Records (fun model => (model.del "publish").add "publish" (pubRecord pub))
      (MeshModel.publish (storedPub pub)) where
  sameId model := by
    rw [Json.get_add_ne _ _ (by decide), Json.get_del_ne _ (by decide)]
  plain model _ := plain_congr (by
    rw [Json.get_add_ne _ _ (by decide), Json.get_del_ne _ (by decide)])
  read model eleIdx modelId node next _ isId parsed := by
    have object := isObject_of_readModelId isId
    have same (key : String) (other : key ≠ "publish") :
        ((model.del "publish").add "publish" (pubRecord pub)).get key =
          model.get key := by
      rw [Json.get_add_ne _ _ other, Json.get_del_ne _ other]
    have isPub : ((model.del "publish").add "publish" (pubRecord pub)).get "publish" =
        some (pubRecord pub) :=
      Json.get_add_self (object.del "publish") (Json.isValue_object _) "publish"
    have isId' := isId
    rw [← same "modelId" (by decide)] at isId'
    rw [parseConfigurationModel_eq isId] at parsed
    rcases Option.bind_eq_some_iff.mp parsed with ⟨bound, bindings, rest⟩
    rcases Option.bind_eq_some_iff.mp rest with ⟨subscribed, subscriptions, published⟩
    have lost := @parseModelPub_lostIn eleIdx modelId (storedPub pub)
      (model.get "publish")
    rw [parseConfigurationModel_eq isId', same "bind" (by decide), bindings,
      Option.bind_some, parseSubscriptionsAndPub, same "subscribe" (by decide),
      subscriptions, Option.bind_some, isPub, lost subscribed next published]
    exact parseModelPub_pubRecord eleIdx modelId subscribed pub

end Meshctl.Db
