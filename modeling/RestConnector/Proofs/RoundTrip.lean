import RestConnector.Proofs.TypeForms

/-!
Contract: the JSON form of a connector loses nothing.

Owns:
- one `reads` for each part of a connector: its reader finds it in its JSON form;
- `Connector.IsKeyed` and `Connector.HasFiniteBounds`, what a connector has to be;
- `Connector.read_toJson`: its JSON form gives it back.

Does not own: texts of JSON values.

A number without a finite value has no JSON form, so a bound that is infinite would be lost.
-/

namespace RestConnector

open Members (present)
open Source (Node Reads)

/-! ## Requests -/

theorem SecurityRule.reads (rule : SecurityRule) : Reads ofNode rule.toJson rule :=
  .sortedOf fun entry _ => .texts entry.2

theorem RequestParameter.reads {parameter : RequestParameter}
    (shape : Reads ValueShape.ofNode parameter.shape.toJson parameter.shape) :
    Reads ofNode parameter.toJson parameter := by
  intro held
  let slots := [("name", some (Json.text parameter.name)),
    ("in", some (Json.text parameter.place.name)), ("schema", some parameter.shape.toJson)]
  obtain ⟨fields, isRead, holds⟩ :=
    Node.fields_present slots ["name", "in", "schema"] rfl (by decide) held
  have isPlace : ParameterPlace.choices.lookup parameter.place.name = some parameter.place := by
    cases parameter.place <;> decide
  have name : fields.required "name" Node.text = pure parameter.name :=
    holds.required (by simp [slots]) (.text parameter.name)
  have place : fields.required "in" (·.choice ParameterPlace.choices) = pure parameter.place :=
    holds.required (by simp [slots]) (.choice isPlace)
  have schema : fields.required "schema" ValueShape.ofNode = pure parameter.shape :=
    holds.required (by simp [slots]) shape
  have written : parameter.toJson = .record (present slots) := rfl
  rw [written, ofNode, isRead]
  simp only [pure_bind, name, place, schema]

theorem RequestBody.reads {body : RequestBody}
    (shape : Reads ValueShape.ofNode body.shape.toJson body.shape) :
    Reads ofNode body.toJson body := by
  intro held
  let slots := [("contentType", some (Json.text body.contentType)),
    ("schema", some body.shape.toJson)]
  obtain ⟨fields, isRead, holds⟩ :=
    Node.fields_present slots ["contentType", "schema"] rfl (by decide) held
  have contentType : fields.required "contentType" Node.text = pure body.contentType :=
    holds.required (by simp [slots]) (.text body.contentType)
  have schema : fields.required "schema" ValueShape.ofNode = pure body.shape :=
    holds.required (by simp [slots]) shape
  have written : body.toJson = .record (present slots) := rfl
  rw [written, ofNode, isRead]
  simp only [pure_bind, contentType, schema]

theorem Request.reads {request : Request}
    (parameters : ∀ parameter ∈ request.parameters,
      Reads ValueShape.ofNode parameter.shape.toJson parameter.shape)
    (body : ∀ body, request.body = some body →
      Reads ValueShape.ofNode body.shape.toJson body.shape) :
    Reads ofNode request.toJson request := by
  intro held
  let slots := [("url", some (Json.text request.url)),
    ("method", some (Json.text request.method.name)),
    ("parameters", some (Json.list (request.parameters.map RequestParameter.toJson))),
    ("requestBody", request.body.map RequestBody.toJson),
    ("security", some (Json.list (request.security.map SecurityRule.toJson)))]
  have written : request.toJson = .record (present slots) := by simp [toJson, slots]
  obtain ⟨fields, isRead, holds⟩ :=
    Node.fields_present slots ["url", "method", "parameters", "requestBody", "security"] rfl
      (by decide) held
  have isMethod : Method.choices.lookup request.method.name = some request.method := by
    cases request.method <;> decide
  have url : fields.required "url" Node.text = pure request.url :=
    holds.required (by simp [slots]) (.text request.url)
  have method : fields.required "method" (·.choice Method.choices) = pure request.method :=
    holds.required (by simp [slots]) (.choice isMethod)
  have given : fields.list "parameters" RequestParameter.ofNode = pure request.parameters :=
    holds.list (by simp [slots]) fun parameter inside =>
      RequestParameter.reads (parameters parameter inside)
  have isBody : fields.maybe "requestBody" RequestBody.ofNode = pure request.body := by
    refine holds.maybe (by simp [slots]) ?_ fun given isGiven =>
      RequestBody.reads (body given isGiven)
    intro given _ isNull
    cases isNull
  have security : fields.list "security" SecurityRule.ofNode = pure request.security :=
    holds.list (by simp [slots]) fun rule _ => rule.reads
  rw [written, ofNode, isRead]
  simp only [pure_bind, url, method, given, isBody, security]

/-- The shapes of a callable's parameters and of its body. -/
def Callable.shapes (callable : Callable) : List ValueShape :=
  callable.request.parameters.map (·.shape) ++ callable.request.body.toList.map (·.shape)

theorem Callable.reads {callable : Callable}
    (shapes : ∀ shape ∈ callable.shapes, Reads ValueShape.ofNode shape.toJson shape) :
    Reads ofNode callable.toJson callable := by
  intro held
  let slots := [("name", some (Json.text callable.name)),
    ("description", callable.description.map Json.text),
    ("arguments", some (Json.table Argument.toJson callable.arguments.entries)),
    ("result_type", some callable.result.toJson), ("request", some callable.request.toJson)]
  have written : callable.toJson = .record (present slots) := by simp [toJson, slots]
  obtain ⟨fields, isRead, holds⟩ :=
    Node.fields_present slots ["name", "description", "arguments", "result_type", "request"] rfl
      (by decide) held
  have inner : Reads Request.ofNode callable.request.toJson callable.request := by
    refine Request.reads ?_ ?_
    · intro parameter inside
      exact shapes _ (List.mem_append_left _ (List.mem_map_of_mem inside))
    · intro body isBody
      refine shapes _ (List.mem_append_right _ ?_)
      rw [isBody]
      exact List.mem_singleton_self body.shape
  have name : fields.required "name" Node.text = pure callable.name :=
    holds.required (by simp [slots]) (.text callable.name)
  have description : fields.maybe "description" Node.text = pure callable.description :=
    holds.maybeText (by simp [slots])
  have arguments : fields.required "arguments" (·.sortedOf Argument.ofNode) =
      pure callable.arguments :=
    holds.required (by simp [slots]) (.sortedOf fun entry _ => entry.2.reads)
  have result : fields.required "result_type" TypeTerm.ofNode = pure callable.result :=
    holds.required (by simp [slots]) callable.result.reads
  have request : fields.required "request" Request.ofNode = pure callable.request :=
    holds.required (by simp [slots]) inner
  rw [written, ofNode, isRead]
  simp only [pure_bind, name, description, arguments, result, request]

/-! ## Settings -/

theorem OAuthFlow.reads {flow : OAuthFlow} (distinct : (flow.scopes.map Prod.fst).Nodup) :
    Reads ofNode flow.toJson flow := by
  intro held
  let slots := [("authorizationUrl", flow.authorizationUrl.map Json.text),
    ("tokenUrl", flow.tokenUrl.map Json.text), ("scopes", some (Json.table .text flow.scopes))]
  have written : flow.toJson = .record (present slots) := by simp [toJson, slots]
  obtain ⟨fields, isRead, holds⟩ :=
    Node.fields_present slots ["authorizationUrl", "tokenUrl", "scopes"] rfl (by decide) held
  have authorizationUrl : fields.maybe "authorizationUrl" Node.text =
      pure flow.authorizationUrl := holds.maybeText (by simp [slots])
  have tokenUrl : fields.maybe "tokenUrl" Node.text = pure flow.tokenUrl :=
    holds.maybeText (by simp [slots])
  have inner : Reads (·.orderedOf Node.text) (Json.table .text flow.scopes) flow.scopes :=
    .orderedOf distinct fun entry _ => .text entry.2
  have scopes : fields.defaulted "scopes" [] (·.orderedOf Node.text) = pure flow.scopes :=
    holds.given (by simp [slots]) inner
  rw [written, ofNode, isRead]
  simp only [pure_bind, authorizationUrl, tokenUrl, scopes]

namespace OAuthFlows

/-- The flows that there are, by their names. -/
def slots (flows : OAuthFlows) : List (String × Option OAuthFlow) :=
  [("authorizationCode", flows.authorizationCode), ("implicit", flows.implicit),
    ("password", flows.password), ("clientCredentials", flows.clientCredentials)]

theorem reads {flows : OAuthFlows}
    (scopes : ∀ entry ∈ present flows.slots, (entry.2.scopes.map Prod.fst).Nodup) :
    Reads ofNode flows.toJson flows := by
  intro held
  have slotsDistinct : (flows.slots.map Prod.fst).Nodup := by
    show names.Nodup
    decide
  have distinct : ((present flows.slots).map Prod.fst).Nodup :=
    slotsDistinct.sublist (Members.names_present flows.slots)
  have known : (present flows.slots).all (fun pair => names.contains pair.1) = true := by
    refine List.all_eq_true.2 ?_
    intro pair inside
    refine List.contains_iff_mem.2 ?_
    exact (Members.names_present flows.slots).subset (List.mem_map_of_mem inside)
  have found (name : String) (flow : Option OAuthFlow) (inside : (name, flow) ∈ flows.slots) :
      (present flows.slots).lookup name = flow := Members.lookup_present slotsDistinct inside
  have written : flows.toJson = Json.table OAuthFlow.toJson (present flows.slots) := by
    rw [Json.table, ← Members.present_map]
    simp [toJson, slots]
  have pairs : (Node.ofJson held flows.toJson).orderedOf OAuthFlow.ofNode =
      pure (present flows.slots) := by
    rw [written]
    exact Reads.orderedOf distinct (fun entry inside => OAuthFlow.reads (scopes entry inside)) held
  rw [ofNode, pairs, pure_bind, if_pos known,
    found "authorizationCode" flows.authorizationCode (by simp [slots]),
    found "implicit" flows.implicit (by simp [slots]),
    found "password" flows.password (by simp [slots]),
    found "clientCredentials" flows.clientCredentials (by simp [slots])]

end OAuthFlows

/-- The flows of a credential. -/
def Credential.grants : Credential → List OAuthFlow
  | .oauth2 flows => (present flows.slots).map Prod.snd
  | _ => []

theorem Credential.reads {credential : Credential}
    (scopes : ∀ flow ∈ credential.grants, (flow.scopes.map Prod.fst).Nodup) :
    Reads ofNode credential.toJson credential := by
  intro held
  cases credential with
  | apiKey place name value =>
    let slots := [("in", some (Json.text place.name)), ("name", some (Json.text name)),
      ("value", some (Json.text value))]
    obtain ⟨fields, isRead, holds⟩ :=
      Node.fields_present slots ["in", "name", "value"] rfl (by decide) true
    have isPlace : ApiKeyPlace.choices.lookup place.name = some place := by
      cases place <;> decide
    have givenPlace : fields.required "in" (·.choice ApiKeyPlace.choices) = pure place :=
      holds.required (by simp [slots]) (.choice isPlace)
    have givenName : fields.required "name" Node.text = pure name :=
      holds.required (by simp [slots]) (.text name)
    have givenValue : fields.required "value" Node.text = pure value :=
      holds.required (by simp [slots]) (.text value)
    have written : (Credential.apiKey place name value).toJson =
        .record (("type", .text "apiKey") :: present slots) := rfl
    rw [written, ofNode, Node.tagged_record (by decide) (by simp [slots]) held, pure_bind]
    simp only [if_true, isRead, pure_bind, givenPlace, givenName, givenValue]
  | http scheme header value =>
    let slots := [("scheme", some (Json.text scheme)), ("header", some (Json.text header)),
      ("value", some (Json.text value))]
    obtain ⟨fields, isRead, holds⟩ :=
      Node.fields_present slots ["scheme", "header", "value"] rfl (by decide) true
    have givenScheme : fields.required "scheme" Node.text = pure scheme :=
      holds.required (by simp [slots]) (.text scheme)
    have givenHeader : fields.required "header" Node.text = pure header :=
      holds.required (by simp [slots]) (.text header)
    have givenValue : fields.required "value" Node.text = pure value :=
      holds.required (by simp [slots]) (.text value)
    have written : (Credential.http scheme header value).toJson =
        .record (("type", .text "http") :: present slots) := rfl
    have notKey : ("http" : String) ≠ "apiKey" := by decide
    rw [written, ofNode, Node.tagged_record (by decide) (by simp [slots]) held, pure_bind]
    simp only [if_neg notKey, if_true, isRead, pure_bind, givenScheme, givenHeader, givenValue]
  | oauth2 flows =>
    have inner : Reads OAuthFlows.ofNode flows.toJson flows := by
      refine OAuthFlows.reads ?_
      intro entry inside
      exact scopes entry.2 (List.mem_map_of_mem inside)
    rw [toJson, ofNode, Node.tagged_record (by decide) (by simp) held, pure_bind]
    exact Node.only_field inner "flows" true fun found => pure (oauth2 found)

theorem Server.reads (server : Server) : Reads ofNode server.toJson server := by
  intro held
  exact Node.only_field (.text server.url) "url" held fun found => pure (mk found)

theorem Settings.reads {settings : Settings}
    (scopes : ∀ entry ∈ settings.credentials.entries, ∀ flow ∈ entry.2.grants,
      (flow.scopes.map Prod.fst).Nodup) : Reads ofNode settings.toJson settings := by
  intro held
  let slots := [("servers", some (Json.list (settings.servers.map Server.toJson))),
    ("version", settings.version.map Json.text),
    ("securitySchemes", if settings.credentials.entries.isEmpty then none
      else some (Json.table Credential.toJson settings.credentials.entries)),
    ("security", some (Json.list (settings.security.map SecurityRule.toJson)))]
  have written : settings.toJson = .record (present slots) := by
    simp only [toJson, slots, Members.present_cons_some, Members.present_cons_map,
      Members.present_cons_unless, Members.present_nil, List.append_assoc, List.cons_append,
      List.nil_append]
  obtain ⟨fields, isRead, holds⟩ :=
    Node.fields_present slots ["servers", "version", "securitySchemes", "security"] rfl
      (by decide) held
  have servers : fields.list "servers" Server.ofNode = pure settings.servers :=
    holds.list (by simp [slots]) fun server _ => server.reads
  have version : fields.maybe "version" Node.text = pure settings.version :=
    holds.maybeText (by simp [slots])
  have credentials : fields.defaulted "securitySchemes" ∅ (·.sortedOf Credential.ofNode) =
      pure settings.credentials := by
    have slot : ("securitySchemes", if settings.credentials.entries.isEmpty then none
        else some (Json.table Credential.toJson settings.credentials.entries)) ∈ slots := by
      simp [slots]
    refine holds.defaulted slot ?_ ?_
    · intro omitted
      exact (NameMap.eq_empty_of_isEmpty omitted).symm
    · exact fun _ => .sortedOf fun entry inside => Credential.reads (scopes entry inside)
  have security : fields.list "security" SecurityRule.ofNode = pure settings.security :=
    holds.list (by simp [slots]) fun rule _ => rule.reads
  rw [written, ofNode, isRead]
  simp only [pure_bind, servers, version, credentials, security]

/-! ## Connectors -/

namespace Connector

/-- The shapes of all parameters and bodies. -/
def shapes (connector : Connector) : List ValueShape :=
  (connector.functions ++ connector.procedures).flatMap Callable.shapes

/-- What goes without saying in maps that remember their order: the names in each of them are
distinct.  The plain values that a scalar holds are such as can be written. -/
structure IsKeyed (connector : Connector) : Prop where
  shapes : ∀ shape ∈ connector.shapes, shape.Everywhere ValueShape.IsKeyed
  objects : ∀ entry ∈ connector.objects.entries, (entry.2.fields.map Prod.fst).Nodup
  scopes : ∀ entry ∈ connector.settings.credentials.entries, ∀ flow ∈ entry.2.grants,
    (flow.scopes.map Prod.fst).Nodup
  values : ∀ entry ∈ connector.scalars.entries,
    ∀ held ∈ entry.2.aggregates.entries ++ entry.2.comparisons.entries, held.2.Plain

/-- All bounds are finite, at every depth of every shape. -/
def HasFiniteBounds (connector : Connector) : Prop :=
  ∀ shape ∈ connector.shapes, shape.Everywhere ValueShape.HasFiniteBounds

theorem reads {connector : Connector} (keyed : connector.IsKeyed)
    (finite : connector.HasFiniteBounds) : Reads ofNode connector.toJson connector := by
  intro held
  let slots := [("settings", some connector.settings.toJson),
    ("functions", some (Json.list (connector.functions.map Callable.toJson))),
    ("procedures", some (Json.list (connector.procedures.map Callable.toJson))),
    ("object_types", some (Json.table ObjectDefinition.toJson connector.objects.entries)),
    ("scalar_types", some (Json.table ScalarDefinition.toJson connector.scalars.entries))]
  obtain ⟨fields, isRead, holds⟩ :=
    Node.fields_present slots
      ["settings", "functions", "procedures", "object_types", "scalar_types"] rfl (by decide) held
  have callables : ∀ callable ∈ connector.functions ++ connector.procedures,
      Reads Callable.ofNode callable.toJson callable := by
    intro callable inside
    refine Callable.reads ?_
    intro shape own
    have isShape : shape ∈ connector.shapes := List.mem_flatMap.2 ⟨callable, inside, own⟩
    exact shape.reads (keyed.shapes shape isShape) (finite shape isShape)
  have settings : fields.required "settings" Settings.ofNode = pure connector.settings :=
    holds.required (by simp [slots]) (Settings.reads keyed.scopes)
  have functions : fields.required "functions" (·.listOf Callable.ofNode) =
      pure connector.functions :=
    holds.required (by simp [slots]) (.listOf fun callable inside =>
      callables callable (List.mem_append_left _ inside))
  have procedures : fields.required "procedures" (·.listOf Callable.ofNode) =
      pure connector.procedures :=
    holds.required (by simp [slots]) (.listOf fun callable inside =>
      callables callable (List.mem_append_right _ inside))
  have objects : fields.required "object_types" (·.sortedOf ObjectDefinition.ofNode) =
      pure connector.objects :=
    holds.required (by simp [slots]) (.sortedOf fun entry inside =>
      ObjectDefinition.reads (keyed.objects entry inside))
  have isScalar : ∀ entry ∈ connector.scalars.entries,
      Reads ScalarDefinition.ofNode entry.2.toJson entry.2 := by
    intro entry inside
    refine ScalarDefinition.reads ?_ ?_
    · exact fun member own => keyed.values entry inside member (List.mem_append_left _ own)
    · exact fun member own => keyed.values entry inside member (List.mem_append_right _ own)
  have scalars : fields.required "scalar_types" (·.sortedOf ScalarDefinition.ofNode) =
      pure connector.scalars :=
    holds.required (by simp [slots]) (.sortedOf isScalar)
  have written : connector.toJson = .record (present slots) := rfl
  rw [written, ofNode, isRead]
  simp only [pure_bind, settings, functions, procedures, objects, scalars]

/-- The JSON form of a connector with finite bounds gives the connector back. -/
theorem read_toJson {connector : Connector} (keyed : connector.IsKeyed)
    (finite : connector.HasFiniteBounds) :
    (Source.ofJson connector.toJson).read ofNode = some connector := by
  have found : ofNode (.ofJson false connector.toJson) = pure connector :=
    reads keyed finite false
  show ((ofNode (.ofJson false connector.toJson)).run 0).map Prod.fst = some connector
  rw [found]
  rfl

/-- The shape of objects with a list that is bounded by negative zero and with a text, in an order
of their own. -/
def orderedShape : ValueShape :=
  let age : ValueShape := { ValueShape.ofKind "Int64" with minimum := some Double.zero.negate }
  let ages : ValueShape := { ValueShape.ofKind "array" with nullable := true, items := some age }
  { ValueShape.ofKind "object" with properties := [("b", ages), ("a", .ofKind "String")] }

theorem everywhere_orderedShape {holds : ValueShape → Prop}
    (unbounded : ∀ shape : ValueShape, shape.IsKeyed → shape.minimum = none →
      shape.maximum = none → holds shape)
    (bounded : ∀ shape : ValueShape, shape.IsKeyed → shape.minimum = some Double.zero.negate →
      shape.maximum = none → holds shape) : orderedShape.Everywhere holds := by
  have distinct : orderedShape.IsKeyed := by
    show ["b", "a"].Nodup
    decide
  refine .intro (unbounded _ distinct rfl rfl) (fun _ given => nomatch given) ?_
  intro entry inside
  rcases List.mem_pair.1 inside with rfl | rfl
  · refine .intro (unbounded _ List.nodup_nil rfl rfl) ?_ (fun _ given => nomatch given)
    rintro item ⟨⟩
    exact .intro (bounded _ List.nodup_nil rfl rfl) (fun _ given => nomatch given)
      (fun _ given => nomatch given)
  · exact .intro (unbounded _ List.nodup_nil rfl rfl) (fun _ given => nomatch given)
      (fun _ given => nomatch given)

def orderedConnector : Connector :=
  let request : Request := ⟨"/pets", .post, [], some ⟨jsonType, orderedShape⟩, []⟩
  let flow : OAuthFlow := ⟨none, some "/token", [("write", ""), ("read", "")]⟩
  let pet : ObjectDefinition :=
    ⟨none, [("b", ⟨none, .nullable (.named "Int64")⟩), ("a", ⟨none, .array (.named "String")⟩)]⟩
  let status : ScalarDefinition :=
    ⟨.ofList [("count", .list [.null, .bool false])], ∅, some (.choice ["sold"])⟩
  { settings :=
      ⟨[⟨"/v1"⟩], none, .ofList [("oauth", .oauth2 { OAuthFlows.none with implicit := flow })], []⟩
    functions := []
    procedures := [⟨"addPet", some "", ∅, .array (.nullable (.named "Pet")), request⟩]
    objects := .ofList [("Pet", pet)]
    scalars := .ofList [("Status", status)] }

theorem isKeyed_orderedConnector : orderedConnector.IsKeyed where
  shapes := by
    intro shape inside
    rw [List.mem_singleton.1 inside]
    exact everywhere_orderedShape (fun _ keyed _ _ => keyed) fun _ keyed _ _ => keyed
  objects := by
    intro entry inside
    rw [List.mem_singleton.1 inside]
    decide
  scopes := by
    intro entry inside flow given
    rw [List.mem_singleton.1 inside] at given
    rw [List.mem_singleton.1 given]
    decide
  values := by
    intro entry inside held own
    rw [List.mem_singleton.1 inside] at own
    rw [List.mem_singleton.1 own]
    refine .list ?_
    intro item given
    rcases List.mem_pair.1 given with rfl | rfl
    · exact .null
    · exact .bool false

theorem hasFiniteBounds_orderedConnector : orderedConnector.HasFiniteBounds := by
  intro shape inside
  rw [List.mem_singleton.1 inside]
  refine everywhere_orderedShape ?_ ?_
  · intro shape _ noMinimum noMaximum bound isBound
    rw [noMinimum, noMaximum] at isBound
    rcases isBound with isBound | isBound <;> cases isBound
  · intro shape _ isMinimum noMaximum bound isBound
    rw [isMinimum, noMaximum] at isBound
    rcases isBound with isBound | isBound <;> cases isBound
    decide

/-- Fields, properties and scopes come back in their own order. -/
theorem read_toJson_ordered :
    orderedConnector.IsKeyed ∧ orderedConnector.HasFiniteBounds ∧
      (Source.ofJson orderedConnector.toJson).read ofNode = some orderedConnector :=
  ⟨isKeyed_orderedConnector, hasFiniteBounds_orderedConnector,
    read_toJson isKeyed_orderedConnector hasFiniteBounds_orderedConnector⟩

end Connector

end RestConnector
