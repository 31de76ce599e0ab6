import InfinityRadius.Integrations.SelcomCollection

/-!
# Answers of Mobile Checkout

What a call comes to in one run, and how far the response models keep what their module says of
them: that an unexpected field becomes `None` and never a failure.
-/

namespace InfinityRadius.Integrations.SelcomCollection

open Amounts Payload Program Sql Models Services

/-! ## Calls -/

/-- What signing a request comes to. -/
def signed (settings : Settings) : Except Failure Unit :=
  if settings.selcomCollectionDigestMethod = some "RS256" then
    match settings.selcomCollectionPrivateKey with
    | .notPem => .error (.valueError "Could not deserialize key data")
    | .notRsa => .error (.selcomCollection
        (.api "Configured Selcom Collection private key is not an RSA key" none))
    | _ => .ok ()
  else .ok ()

/-- What is left of a failure once the Selcom errors are handled. -/
def caught {α : Type} : Except Failure α → Except Failure (Except SelcomCollectionError α)
  | .ok response => .ok (.ok response)
  | .error (.selcomCollection error) => .ok (.error error)
  | .error failure => .error failure

section Calls

variable (outside : Outside) (state : State schema Request HttpResult) {settings : Settings}

/-- The state once a request has its answer. -/
def after (request : Request) : State schema Request HttpResult :=
  { state with sent := state.sent ++ [(request, outside.respond state.sent.length)] }

theorem run_signRequest (settings : Settings) :
    run (exec outside) (signRequest settings) state = (signed settings, state) := by
  rw [signRequest, signed]
  by_cases hdigest : settings.selcomCollectionDigestMethod = some "RS256"
  · rw [if_pos hdigest, if_pos hdigest]
    cases settings.selcomCollectionPrivateKey <;> rfl
  · rw [if_neg hdigest, if_neg hdigest]
    rfl

theorem run_call {α : Type} (hsigned : signed settings = .ok ()) (model : Validator α)
    (request : Request) :
    run (exec outside) (call settings model request) state =
      (validated model (outside.respond state.sent.length), after outside state request) := by
  rw [call, run_bind, run_signRequest, hsigned]
  have hsent : run (exec outside) (sendRequest request) state =
      (.ok (outside.respond state.sent.length), after outside state request) := rfl
  dsimp only
  rw [run_bind, hsent]
  dsimp only
  cases validated model (outside.respond state.sent.length) with
  | ok response => rfl
  | error failure => rfl

theorem run_call_unsigned {α : Type} {failure : Failure} (hsigned : signed settings = .error failure)
    (model : Validator α) (request : Request) :
    run (exec outside) (call settings model request) state = (.error failure, state) := by
  rw [call, run_bind, run_signRequest, hsigned]

/-- The configuration lets a request be sent. -/
structure Reaches (settings : Settings) : Prop where
  key : settings.selcomCollectionPrivateKey ≠ .notBase64
  configured : isConfigured settings = true
  signs : Signs settings

theorem newClient_of_configured (hkey : settings.selcomCollectionPrivateKey ≠ .notBase64)
    (hconfigured : isConfigured settings = true) : newClient settings = pure () := by
  have hsupported :
      settings.selcomCollectionDigestMethod.all supportedDigestMethods.contains = true := by
    have hdigest := (Bool.and_eq_true _ _ ▸ hconfigured).2
    by_cases hhs : settings.selcomCollectionDigestMethod = some "HS256"
    · rw [hhs]
      decide
    · rw [if_neg hhs] at hdigest
      by_cases hrs : settings.selcomCollectionDigestMethod = some "RS256"
      · rw [hrs]
        decide
      · rw [if_neg hrs] at hdigest
        cases hdigest
  rw [newClient, configFromSettings, Prog.require_true hkey, Prog.pure_bind, requireConfigured,
    Prog.require_true hsupported, Prog.pure_bind, Prog.require_true hconfigured]

theorem signed_of_signs (h : Signs settings) : signed settings = .ok () := by
  rw [signed]
  by_cases hdigest : settings.selcomCollectionDigestMethod = some "RS256"
  · obtain ⟨hpem, hrsa⟩ := h hdigest
    rw [if_pos hdigest]
    split
    · contradiction
    · contradiction
    · rfl
  · rw [if_neg hdigest]

theorem run_attempt {α : Type} (request : Tx α) :
    run (exec outside) (attempt request) state =
      (caught (run (exec outside) request state).1, (run (exec outside) request state).2) := by
  rw [attempt, run_tryCatch, run_bind]
  rcases run (exec outside) request state with ⟨result, state'⟩
  cases result with
  | ok response => rfl
  | error failure => cases failure <;> rfl

end Calls

/-! ## Defensive reading -/

section Fields

variable {α : Type} {fields : List (String × Json)} {name : String}
  {validator : Validator (Option α)}

/-- A field that is absent, or of the type that is expected. -/
def FieldTyped (fields : List (String × Json)) (name : String)
    (validator : Validator (Option α)) : Prop :=
  ((lookup fields name).all fun value => (validator value).isSome) = true

instance : Decidable (FieldTyped fields name validator) := inferInstanceAs (Decidable (_ = true))

/-- A field that is taken for absent where it is of another type. -/
def lenientField (fields : List (String × Json)) (name : String)
    (validator : Validator (Option α)) : Option α :=
  (lookup fields name).bind fun value => (validator value).getD none

theorem lookup_one : [name].findSome? (lookup fields) = lookup fields name := by
  rw [List.findSome?_cons]
  cases lookup fields name <;> rfl

theorem field_eq_some {a : Option α} :
    field fields [name] none validator = some a ↔
      FieldTyped fields name validator ∧ a = lenientField fields name validator := by
  rw [field, FieldTyped, lenientField, lookup_one]
  cases lookup fields name with
  | none => exact ⟨fun h => ⟨rfl, (Option.some.inj h).symm⟩, fun h => h.2 ▸ rfl⟩
  | some value =>
    dsimp only [Option.bind_some, Option.all_some]
    constructor
    · intro h
      rw [h]
      exact ⟨rfl, rfl⟩
    · rintro ⟨htyped, rfl⟩
      obtain ⟨found, hfound⟩ := Option.isSome_iff_exists.mp htyped
      rw [hfound]
      rfl

end Fields

/-- The fields of an order that are texts. -/
def orderTexts : List String :=
  ["order_id", "creation_date", "payment_status", "transid", "channel", "reference", "phone",
    "currency"]

/-- Every field of an item is of the type that is expected. -/
def ItemTyped (fields : List (String × Json)) : Prop :=
  (∀ name ∈ orderTexts, FieldTyped (acceptMsisdnAlias fields) name optStr) ∧
    FieldTyped (acceptMsisdnAlias fields) "amount" optDecimal

instance (fields : List (String × Json)) : Decidable (ItemTyped fields) :=
  inferInstanceAs (Decidable (_ ∧ _))

/-- An item, a field of another type being absent. -/
def defensiveItem (fields : List (String × Json)) : OrderStatusData :=
  let text name := lenientField (acceptMsisdnAlias fields) name optStr
  { orderId := text "order_id"
    creationDate := text "creation_date"
    amount := lenientField (acceptMsisdnAlias fields) "amount" optDecimal
    paymentStatus := text "payment_status"
    transid := text "transid"
    channel := text "channel"
    reference := text "reference"
    phone := text "phone"
    currency := text "currency" }

theorem orderStatusData_eq_some {fields : List (String × Json)} {item : OrderStatusData} :
    orderStatusData fields = some item ↔ ItemTyped fields ∧ item = defensiveItem fields := by
  rw [orderStatusData, ItemTyped, defensiveItem, orderTexts]
  simp only [Option.bind_eq_bind, Option.bind_eq_some_iff, field_eq_some, List.forall_mem_cons,
    List.not_mem_nil, false_implies, implies_true]
  constructor
  · rintro ⟨_, ⟨h1, rfl⟩, _, ⟨h2, rfl⟩, _, ⟨h3, rfl⟩, _, ⟨h4, rfl⟩, _, ⟨h5, rfl⟩, _, ⟨h6, rfl⟩,
      _, ⟨h7, rfl⟩, _, ⟨h8, rfl⟩, _, ⟨h9, rfl⟩, hitem⟩
    exact ⟨⟨⟨h1, h2, h4, h5, h6, h7, h8, h9, trivial⟩, h3⟩, (Option.some.inj hitem).symm⟩
  · rintro ⟨⟨⟨h1, h2, h4, h5, h6, h7, h8, h9, -⟩, h3⟩, rfl⟩
    exact ⟨_, ⟨h1, rfl⟩, _, ⟨h2, rfl⟩, _, ⟨h3, rfl⟩, _, ⟨h4, rfl⟩, _, ⟨h5, rfl⟩, _, ⟨h6, rfl⟩,
      _, ⟨h7, rfl⟩, _, ⟨h8, rfl⟩, _, ⟨h9, rfl⟩, rfl⟩

theorem mapM_eq_some {α β : Type} {f : α → Option β} {P : α → Prop} {g : α → β}
    (hf : ∀ a b, f a = some b ↔ P a ∧ b = g a) {items : List α} {results : List β} :
    items.mapM f = some results ↔ (∀ a ∈ items, P a) ∧ results = items.map g := by
  induction items generalizing results with
  | nil => simp [eq_comm]
  | cons a rest ih =>
    simp only [List.mapM_cons, Option.bind_eq_bind, Option.bind_eq_some_iff, hf, ih,
      List.forall_mem_cons, List.map_cons]
    constructor
    · rintro ⟨_, ⟨ha, rfl⟩, _, ⟨hrest, rfl⟩, hresults⟩
      exact ⟨⟨ha, hrest⟩, (Option.some.inj hresults).symm⟩
    · rintro ⟨⟨ha, hrest⟩, rfl⟩
      exact ⟨_, ⟨ha, rfl⟩, _, ⟨hrest, rfl⟩, rfl⟩

/-- The fields of an answer that are texts. -/
def answerTexts : List String := ["reference", "resultcode", "result", "message"]

/-- The items of an answer. -/
def dataItems (fields : List (String × Json)) : List (List (String × Json)) :=
  (lookup fields "data").elim [] normalizeDataList

/-- The body is an object, and every field of it and of its items is of the type that is
expected. -/
def WellTyped : Json → Prop
  | .obj fields => (∀ name ∈ answerTexts, FieldTyped fields name optStr) ∧
      ∀ item ∈ dataItems fields, ItemTyped item
  | _ => False

instance : (body : Json) → Decidable (WellTyped body)
  | .obj _ => inferInstanceAs (Decidable (_ ∧ _))
  | .null | .bool _ | .int _ | .float _ | .nonFinite | .str _ | .arr _ => instDecidableFalse

/-- The fields of a body, none where it is no object. -/
def bodyFields : Json → List (String × Json)
  | .obj fields => fields
  | _ => []

/-- The answer, what is of another type being absent. -/
def defensive (body : Json) : OrderStatusResponse :=
  let fields := bodyFields body
  { reference := lenientField fields "reference" optStr
    resultcode := lenientField fields "resultcode" optStr
    result := lenientField fields "result" optStr
    message := lenientField fields "message" optStr
    data := (dataItems fields).map defensiveItem }

theorem field_dataList_eq_some {fields : List (String × Json)} {data : List OrderStatusData} :
    field fields ["data"] [] (dataList orderStatusData) = some data ↔
      (∀ item ∈ dataItems fields, ItemTyped item) ∧ data = (dataItems fields).map defensiveItem := by
  rw [field, dataItems, lookup_one]
  cases lookup fields "data" with
  | none => simp [eq_comm]
  | some value => exact mapM_eq_some fun _ _ => orderStatusData_eq_some

/-- The model accepts the bodies that are well typed only. -/
theorem orderStatusResponse_eq_some {body : Json} {response : OrderStatusResponse} :
    orderStatusResponse body = some response ↔ WellTyped body ∧ response = defensive body := by
  cases body with
  | obj fields =>
    rw [orderStatusResponse, modelValidate, WellTyped, defensive, bodyFields, answerTexts]
    simp only [Option.bind_eq_bind, Option.bind_eq_some_iff, field_eq_some, field_dataList_eq_some,
      List.forall_mem_cons, List.not_mem_nil, false_implies, implies_true]
    constructor
    · rintro ⟨_, ⟨h1, rfl⟩, _, ⟨h2, rfl⟩, _, ⟨h3, rfl⟩, _, ⟨h4, rfl⟩, _, ⟨hitems, rfl⟩, hresponse⟩
      exact ⟨⟨⟨h1, h2, h3, h4, trivial⟩, hitems⟩, (Option.some.inj hresponse).symm⟩
    · rintro ⟨⟨⟨h1, h2, h3, h4, -⟩, hitems⟩, rfl⟩
      exact ⟨_, ⟨h1, rfl⟩, _, ⟨h2, rfl⟩, _, ⟨h3, rfl⟩, _, ⟨h4, rfl⟩, _, ⟨hitems, rfl⟩, rfl⟩
  | _ =>
    constructor
    · rintro ⟨⟩
    · rintro ⟨⟨⟩, -⟩

end InfinityRadius.Integrations.SelcomCollection
