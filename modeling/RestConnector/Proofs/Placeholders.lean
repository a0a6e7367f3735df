import RestConnector.Proofs.Assignments
import RestConnector.Proofs.OperationNames
import RestConnector.Proofs.Records
import RestConnector.Proofs.Reordering

/-!
Contract: what the settings of a connector leave to the environment.

Owns:
- `Placeholder.read?`, which cuts a text into the name of a variable and what stands for it;
- `Placeholder.Denotes`, what a text has to do with a placeholder that can be read back;
- `Document.ServedAt`, the address of a document, and `Credential.variableFor?`, the variable for a
  security definition;
- `settings_denote`: the values of credentials and the addresses of servers are placeholders, and
  nothing else in a definition enters into them.

Does not own: settings as JSON, see `RestConnector.Proofs.RoundTrip`.

A fallback is any text, and nothing in it is escaped.  It is read back all the same, because there
is no colon in the name of a variable: the first `:-` is the one behind the name, and the closing
braces are the last two characters of the whole.
-/

namespace RestConnector

open Swagger (Document SecurityDefinition)

/-! ## Names of variables -/

theorem Text.toNat_of_isAsciiAlphanumeric {c : Char} (plain : isAsciiAlphanumeric c = true) :
    c.toNat < 0x80 := by
  simp only [isAsciiAlphanumeric, Bool.or_eq_true, Bool.and_eq_true, decide_eq_true_eq,
    Char.le_def, UInt32.le_iff_toNat_le] at plain
  rcases plain with (⟨-, upTo⟩ | ⟨-, upTo⟩) | ⟨-, upTo⟩
  all_goals exact Nat.lt_of_le_of_lt upTo (by decide)

namespace Identifier

/-- Whether a name has no characters but capitals, digits and underscores. -/
def IsVariable (name : String) : Prop :=
  ∀ c ∈ name.toList, c.isUpper = true ∨ c.isDigit = true ∨ c = '_'

instance (name : String) : Decidable (IsVariable name) :=
  inferInstanceAs (Decidable (∀ c ∈ name.toList, c.isUpper = true ∨ c.isDigit = true ∨ c = '_'))

private theorem variableChar_code : ∀ code < 0x80,
    let c := variableChar (Char.ofNat code)
    c.isUpper = true ∨ c.isDigit = true ∨ c = '_' := by
  decide +kernel

theorem isVariable_variablePart (segment : String) : IsVariable (variablePart segment) := by
  intro c inside
  rw [variablePart, String.toList_ofList] at inside
  obtain ⟨own, -, rfl⟩ := List.mem_map.1 inside
  by_cases plain : Text.isAsciiAlphanumeric own = true
  · have isVariable := variableChar_code own.toNat (Text.toNat_of_isAsciiAlphanumeric plain)
    rwa [Char.ofNat_toNat] at isVariable
  · exact Or.inr (Or.inr (if_neg plain))

theorem IsVariable.append {left right : String} (leftPlain : IsVariable left)
    (rightPlain : IsVariable right) : IsVariable (left ++ right) := by
  intro c inside
  rw [String.toList_append, List.mem_append] at inside
  exact inside.elim (leftPlain c) (rightPlain c)

theorem isVariable_intercalate {parts : List String} (plain : ∀ part ∈ parts, IsVariable part) :
    IsVariable ("_".intercalate parts) := by
  induction parts with
  | nil =>
    intro c impossible
    cases impossible
  | cons part rest inductionHypothesis =>
    obtain ⟨partPlain, restPlain⟩ := List.forall_mem_cons.1 plain
    cases rest with
    | nil =>
      rw [String.intercalate_singleton]
      exact partPlain
    | cons next others =>
      have separator : IsVariable "_" := by
        intro c inside
        exact Or.inr (Or.inr (List.mem_singleton.1 inside))
      rw [String.intercalate_cons_cons]
      exact (partPlain.append separator).append (inductionHypothesis restPlain)

/-- Whatever the segments are, their name is that of a variable. -/
theorem isVariable_constant (segments : List String) : IsVariable (constant segments) := by
  refine isVariable_intercalate ?_
  intro part inside
  obtain ⟨segment, -, rfl⟩ := List.mem_map.1 inside
  exact isVariable_variablePart segment

theorem IsVariable.colon_not_mem {name : String} (plain : IsVariable name) : ':' ∉ name.toList := by
  intro inside
  rcases plain ':' inside with upper | digit | same
  · cases upper
  · cases digit
  · cases same

end Identifier

/-! ## Placeholders that are read back -/

namespace Placeholder

open Identifier (IsVariable)

/-- A text before and behind its first `:-`. -/
def cut : List Char → List Char × Option (List Char)
  | ':' :: '-' :: rest => ([], some rest)
  | c :: rest => (c :: (cut rest).1, (cut rest).2)
  | [] => ([], none)

/-- What stands between two opening braces at the start of a text and two closing ones at its
end. -/
def enclosed? : List Char → Option (List Char)
  | '\x7b' :: '\x7b' :: rest =>
    match rest.reverse with
    | '\x7d' :: '\x7d' :: inside => some inside.reverse
    | _ => none
  | _ => none

/-- The placeholder in double braces: its name goes to the first `:-`, and what follows is the
fallback. -/
def read? (text : String) : Option Placeholder :=
  (enclosed? text.toList).map fun inside =>
    ⟨String.ofList (cut inside).1, (cut inside).2.map String.ofList⟩

/-- A text that stands for a variable. -/
structure Denotes (text : String) (placeholder : Placeholder) : Prop where
  named : IsVariable placeholder.name
  written : text = "\x7b\x7b" ++ placeholder.name ++
    placeholder.fallback.elim "" (":-" ++ ·) ++ "\x7d\x7d"
  readBack : read? text = some placeholder

theorem cut_cons_of_ne {c : Char} (other : c ≠ ':') (rest : List Char) :
    cut (c :: rest) = (c :: (cut rest).1, (cut rest).2) := by
  rw [cut]
  rintro tail rfl
  exact fun _ => other rfl

theorem cut_of_plain {name : List Char} (plain : ':' ∉ name) : cut name = (name, none) := by
  induction name with
  | nil => rfl
  | cons c rest inductionHypothesis =>
    rw [List.mem_cons, not_or] at plain
    rw [cut_cons_of_ne (Ne.symm plain.1), inductionHypothesis plain.2]

theorem cut_append {name : List Char} (plain : ':' ∉ name) (fallback : List Char) :
    cut (name ++ ':' :: '-' :: fallback) = (name, some fallback) := by
  induction name with
  | nil => rfl
  | cons c rest inductionHypothesis =>
    rw [List.mem_cons, not_or] at plain
    rw [List.cons_append, cut_cons_of_ne (Ne.symm plain.1), inductionHypothesis plain.2]

theorem enclosed?_braced (inside : List Char) :
    enclosed? ('\x7b' :: '\x7b' :: (inside ++ ['\x7d', '\x7d'])) = some inside := by
  rw [enclosed?, List.reverse_append]
  exact congrArg some inside.reverse_reverse

theorem text_eq (placeholder : Placeholder) :
    placeholder.text = "\x7b\x7b" ++ placeholder.name ++
      placeholder.fallback.elim "" (":-" ++ ·) ++ "\x7d\x7d" := by
  obtain ⟨name, fallback⟩ := placeholder
  cases fallback with
  | none => simp [text]
  | some fallback => simp [text, String.append_assoc]

/-- What is written in double braces is read back, if there is no colon in the name. -/
theorem read?_text {placeholder : Placeholder} (plain : ':' ∉ placeholder.name.toList) :
    read? placeholder.text = some placeholder := by
  obtain ⟨name, fallback⟩ := placeholder
  let inside := name.toList ++ (fallback.elim "" (":-" ++ ·)).toList
  have braced : (Placeholder.mk name fallback).text.toList =
      '\x7b' :: '\x7b' :: (inside ++ ['\x7d', '\x7d']) := by
    rw [text_eq]
    simp [inside]
  have parts : cut inside = (name.toList, fallback.map String.toList) := by
    cases fallback with
    | none => simpa [inside] using cut_of_plain plain
    | some fallback => simpa [inside] using cut_append plain fallback.toList
  rw [read?, braced, enclosed?_braced, Option.map_some, parts]
  simp

theorem denotes_iff {text : String} {placeholder : Placeholder} :
    Denotes text placeholder ↔ IsVariable placeholder.name ∧ text = placeholder.text := by
  constructor
  · rintro ⟨named, written, -⟩
    exact ⟨named, written.trans placeholder.text_eq.symm⟩
  · rintro ⟨named, rfl⟩
    exact ⟨named, placeholder.text_eq, read?_text named.colon_not_mem⟩

end Placeholder

/-! ## Addresses -/

namespace Swagger.Document

/-- Whether a scheme starts like that of the web. -/
def IsWeb (scheme : String) : Prop := "http".toList <+: scheme.toList

instance (scheme : String) : Decidable (IsWeb scheme) :=
  inferInstanceAs (Decidable ("http".toList <+: scheme.toList))

/-- The scheme of an address: the first one declared that starts with `http`, and `https` if there
is none. -/
inductive Speaks (schemes : List String) : String → Prop where
  | declared {before after : List String} {scheme : String}
      (split : schemes = before ++ scheme :: after) (isWeb : IsWeb scheme)
      (first : ∀ other ∈ before, ¬ IsWeb other) : Speaks schemes scheme
  | assumed (noWeb : ∀ scheme ∈ schemes, ¬ IsWeb scheme) : Speaks schemes "https"

/-- Where a document declares that its interface is served. -/
def ServedAt (document : Document) (address : String) : Prop :=
  ∃ host scheme, document.host = some host ∧ host ≠ "" ∧ Speaks document.schemes scheme ∧
    address = scheme ++ "://" ++ host ++ document.basePath.getD ""

theorem speaks_iff {schemes : List String} {scheme : String} :
    Speaks schemes scheme ↔
      (schemes.find? fun scheme => ['h', 't', 't', 'p'].isPrefixOf scheme.toList).getD "https" =
        scheme := by
  let isWeb (scheme : String) : Bool := ['h', 't', 't', 'p'].isPrefixOf scheme.toList
  have isWeb_iff : ∀ scheme, isWeb scheme = true ↔ IsWeb scheme :=
    fun _ => List.isPrefixOf_iff_prefix
  show _ ↔ (schemes.find? isWeb).getD "https" = scheme
  constructor
  · rintro (⟨split, web, first⟩ | noWeb)
    · have found : schemes.find? isWeb = some scheme := by
        refine List.find?_eq_some_iff_append.2 ⟨(isWeb_iff scheme).2 web, _, _, split, ?_⟩
        intro other inside
        rw [Bool.not_eq_true', ← Bool.not_eq_true, isWeb_iff]
        exact first other inside
      rw [found, Option.getD_some]
    · have missing : schemes.find? isWeb = none :=
        List.find?_eq_none.2 fun other inside => mt (isWeb_iff other).1 (noWeb other inside)
      rw [missing, Option.getD_none]
  · rintro rfl
    cases found : schemes.find? isWeb with
    | none =>
      refine .assumed ?_
      intro other inside
      exact mt (isWeb_iff other).2 (List.find?_eq_none.1 found other inside)
    | some scheme =>
      obtain ⟨web, before, after, split, first⟩ := List.find?_eq_some_iff_append.1 found
      refine .declared split ((isWeb_iff scheme).1 web) ?_
      intro other inside
      rw [← isWeb_iff, Bool.not_eq_true, ← Bool.not_eq_true']
      exact first other inside

theorem serverAddress?_eq_some_iff {document : Document} {address : String} :
    Conversion.serverAddress? document = some address ↔ document.ServedAt address := by
  unfold Conversion.serverAddress? ServedAt
  cases document.host with
  | none => simp
  | some host =>
    by_cases empty : host = ""
    · simp [empty]
    · have named : ¬ host.isEmpty = true := mt String.isEmpty_iff.1 empty
      simp only [Option.getD_some, if_neg named]
      constructor
      · rintro ⟨⟩
        exact ⟨host, _, rfl, empty, speaks_iff.2 rfl, rfl⟩
      · rintro ⟨_, scheme, ⟨⟩, -, speaks, rfl⟩
        rw [speaks_iff.1 speaks]

end Swagger.Document

/-! ## Values of credentials -/

namespace Credential

/-- The text that stands for a secret. -/
def value? : Credential → Option String
  | .apiKey _ _ value => some value
  | .http _ _ value => some value
  | .oauth2 _ => none

/-- The name of the variable for the secret of a security definition of some type. -/
def variableFor? (root key type : String) : Option String :=
  if type = "apiKey" then some (Identifier.constant [root, key])
  else if type = "basic" then some (Identifier.constant [root, key, "TOKEN"])
  else none

/-- The placeholder that is put in place of such a secret. -/
def valueFor? (root key type : String) : Option String :=
  (variableFor? root key type).map fun name => (Placeholder.mk name none).text

section Values

variable {key : String} {definition : SecurityDefinition} {preferences : Preferences}
  {credential : Credential}

theorem value?_of_ofApiKey (granted : ofApiKey key definition preferences = .ok credential) :
    credential.value? = some (placeholder [preferences.variableRoot, key]) := by
  unfold ofApiKey at granted
  simp only at granted
  split at granted
  · cases granted
  · split at granted
    · cases granted
    · cases granted
      rfl

/-- The value of a credential is told by the root, the key and the type of its definition. -/
theorem value?_of_ofDefinition (granted : ofDefinition key definition preferences = .ok credential) :
    credential.value? = valueFor? preferences.variableRoot key definition.type := by
  unfold ofDefinition at granted
  unfold valueFor? variableFor?
  by_cases isKey : definition.type = "apiKey"
  · rw [if_pos isKey] at granted ⊢
    exact value?_of_ofApiKey granted
  · rw [if_neg isKey] at granted ⊢
    by_cases isBasic : definition.type = "basic"
    · rw [if_pos isBasic] at granted ⊢
      cases granted
      rfl
    · rw [if_neg isBasic] at granted ⊢
      split at granted
      · cases granting : flows definition with
        | error fault =>
          rw [granting] at granted
          cases granted
        | ok given =>
          rw [granting] at granted
          cases granted
          rfl
      · cases granted

end Values

theorem isVariable_variableFor? {root key type name : String}
    (named : variableFor? root key type = some name) : Identifier.IsVariable name := by
  unfold variableFor? at named
  split at named
  · cases named
    exact Identifier.isVariable_constant _
  · split at named
    · cases named
      exact Identifier.isVariable_constant _
    · cases named

end Credential

/-! ## Settings -/

/-- The security definition under a key: the last one that has it. -/
def Swagger.Document.securityDefinition? (document : Document) (key : String) :
    Option SecurityDefinition :=
  Members.find? key document.securityDefinitions.reverse

/-- The text that stands for the secret of the credential under a key. -/
def Settings.value? (settings : Settings) (key : String) : Option String :=
  (settings.credentials.find? key).bind Credential.value?

namespace Connector

open Placeholder (Denotes)
open Typing (Outcome)

variable {document : Document} {preferences : Preferences} {connector : Connector}

theorem ofDefinition_of_credential {entry : String × SecurityDefinition}
    {pair : String × Credential} (granted : Conversion.credential preferences entry = .ok pair) :
    Credential.ofDefinition entry.1 entry.2 preferences = .ok pair.2 := by
  unfold Conversion.credential at granted
  split at granted
  · rename_i result
    cases granted
    exact result
  · cases granted

/-- Each definition, in its place, tells the value of the credential that it grants. -/
theorem values_credentials {definitions : List (String × SecurityDefinition)}
    {credentials : List (String × Credential)}
    (granted : definitions.mapM (Conversion.credential preferences) = .ok credentials) :
    credentials.map (fun pair => (pair.1, pair.2.value?)) = definitions.map fun entry =>
      (entry.1, Credential.valueFor? preferences.variableRoot entry.1 entry.2.type) := by
  have walked := Outcome.value_forEach
    (fun entry => .ofExcept (Conversion.credential preferences entry)) definitions
  refine (map_eq_of_forall₂ (Outcome.forEach_ok_forall₂ (walked.trans granted)) ?_).symm
  intro entry pair granting
  have value := Credential.value?_of_ofDefinition (ofDefinition_of_credential granting)
  exact Prod.ext (Conversion.name_of_credential granting).symm value.symm

/-- The values of credentials, told by the definitions. -/
theorem value?_settings (converted : ofDocument document preferences = .ok connector) (key : String) :
    connector.settings.value? key = (document.securityDefinition? key).bind fun definition =>
      Credential.valueFor? preferences.variableRoot key definition.type := by
  let text (key : String) (definition : SecurityDefinition) : Option String :=
    Credential.valueFor? preferences.variableRoot key definition.type
  obtain ⟨credentials, granted, settings⟩ := settings_eq converted
  have held : connector.settings.credentials = .ofList credentials := by
    rw [settings]
    rfl
  -- The last pair of a key stays in the map, so both lists are searched from behind.
  have found : (Members.find? key credentials.reverse).map Credential.value? =
      (document.securityDefinition? key).map (text key) := by
    have listed := congrArg (fun pairs => Members.find? key pairs.reverse)
      (values_credentials granted)
    simp only [← List.map_reverse] at listed
    rw [Members.find?_mapValues key fun _ credential => Credential.value? credential,
      Members.find?_mapValues key text] at listed
    exact listed
  calc connector.settings.value? key
      = ((Members.find? key credentials.reverse).map Credential.value?).bind id := by
        rw [Settings.value?, held, NameMap.find?_ofList, Option.bind_map, Function.id_comp]
    _ = ((document.securityDefinition? key).map (text key)).bind id := by rw [found]
    _ = (document.securityDefinition? key).bind (text key) := by
        rw [Option.bind_map, Function.id_comp]

/-- The servers of a connector, told by the address of the document. -/
theorem mem_urls_iff (converted : ofDocument document preferences = .ok connector) (url : String) :
    url ∈ connector.settings.servers.map Server.url ↔
      ∃ address, document.ServedAt address ∧ url = (Placeholder.mk
        (Identifier.constant [preferences.variableRoot, "SERVER_URL"]) (some address)).text := by
  obtain ⟨credentials, -, settings⟩ := settings_eq converted
  rw [settings]
  show url ∈ (Conversion.servers document preferences).map Server.url ↔ _
  unfold Conversion.servers
  simp only [← Document.serverAddress?_eq_some_iff]
  cases Conversion.serverAddress? document with
  | none => simp
  | some address => simp

/-- The value of a credential stands for a variable that is named for the root, for its key and for
the type of its definition, and the address of a server for one that has the declared address to fall
back on.  Both are read back from their texts.  Two conversions with the same root agree on a value
whenever they agree on the type of its definition. -/
theorem settings_denote (converted : ofDocument document preferences = .ok connector) :
    (∀ key value, connector.settings.value? key = some value ↔
      ∃ definition name, document.securityDefinition? key = some definition ∧
        Credential.variableFor? preferences.variableRoot key definition.type = some name ∧
        Denotes value ⟨name, none⟩) ∧
    (∀ url, url ∈ connector.settings.servers.map Server.url ↔
      ∃ address, document.ServedAt address ∧
        Denotes url ⟨Identifier.constant [preferences.variableRoot, "SERVER_URL"], some address⟩) ∧
    ∀ other otherPreferences otherConnector,
      ofDocument other otherPreferences = .ok otherConnector →
      otherPreferences.variableRoot = preferences.variableRoot →
      ∀ key, (other.securityDefinition? key).map (·.type) =
          (document.securityDefinition? key).map (·.type) →
        otherConnector.settings.value? key = connector.settings.value? key := by
  refine ⟨?_, ?_, ?_⟩
  · intro key value
    rw [value?_settings converted, Option.bind_eq_some_iff]
    refine exists_congr fun definition => ?_
    rw [Credential.valueFor?, Option.map_eq_some_iff, ← exists_and_left]
    refine exists_congr fun name => and_congr_right fun _ => and_congr_right fun isNamed => ?_
    rw [Placeholder.denotes_iff, eq_comm]
    exact (and_iff_right (Credential.isVariable_variableFor? isNamed)).symm
  · intro url
    rw [mem_urls_iff converted]
    refine exists_congr fun address => and_congr_right fun _ => ?_
    rw [Placeholder.denotes_iff]
    exact (and_iff_right (Identifier.isVariable_constant _)).symm
  · intro other otherPreferences otherConnector otherConverted sameRoot key sameType
    have typed := congrArg (·.bind (Credential.valueFor? preferences.variableRoot key)) sameType
    simp only [Option.bind_map] at typed
    rw [value?_settings converted, value?_settings otherConverted, sameRoot]
    exact typed

/-- A document whose address looks like several placeholders and whose key is not ASCII. -/
def bracedDocument : Document :=
  { Document.answering (.ofType "string") [] with
    host := some "a:-b\x7d\x7d"
    basePath := some "/v2:-\x7d"
    schemes := ["ws", "http", "https"]
    securityDefinitions :=
      [("clé", ⟨"apiKey", none, some "X-Key", some "header", none, none, none, []⟩),
        ("login", ⟨"basic", none, none, none, none, none, none, []⟩)] }

/-- A document with another key of the same type. -/
def otherKeyDocument : Document :=
  { bracedDocument with
    host := none
    securityDefinitions :=
      [("clé", ⟨"apiKey", some "hunter2", some "token", some "query", some "implicit", none, none,
        [("read", "all")]⟩)] }

private theorem bracedDocument_converts :
    (ofDocument bracedDocument ⟨"café", "", ∅⟩).toOption.map (fun connector =>
      connector.functions.length) = some 1 := by
  cbv

private theorem otherKeyDocument_converts :
    (ofDocument otherKeyDocument ⟨"café", "/v1", ∅⟩).toOption.map (fun connector =>
      connector.functions.length) = some 1 := by
  cbv

theorem settings_denote_braced :
    let address := "http://a:-b\x7d\x7d/v2:-\x7d"
    ∃ connector otherConnector, ofDocument bracedDocument ⟨"café", "", ∅⟩ = .ok connector ∧
      ofDocument otherKeyDocument ⟨"café", "/v1", ∅⟩ = .ok otherConnector ∧
      connector.settings.value? "clé" = some "\x7b\x7bCAF__CL_\x7d\x7d" ∧
      connector.settings.value? "login" = some "\x7b\x7bCAF__LOGIN_TOKEN\x7d\x7d" ∧
      otherConnector.settings.value? "clé" = connector.settings.value? "clé" ∧
      "\x7b\x7bCAF__SERVER_URL:-" ++ address ++ "\x7d\x7d" ∈
        connector.settings.servers.map Server.url ∧
      Placeholder.read? ("\x7b\x7bCAF__SERVER_URL:-" ++ address ++ "\x7d\x7d") =
        some ⟨"CAF__SERVER_URL", some address⟩ := by
  intro address
  obtain ⟨connector, converted, -⟩ := exists_of_observed bracedDocument_converts
  obtain ⟨otherConnector, otherConverted, -⟩ := exists_of_observed otherKeyDocument_converts
  obtain ⟨values, urls, agree⟩ := settings_denote converted
  have served : bracedDocument.ServedAt address := by
    refine ⟨_, "http", rfl, by decide, ?_, rfl⟩
    have split : bracedDocument.schemes = ["ws"] ++ "http" :: ["https"] := rfl
    refine .declared split List.prefix_rfl ?_
    intro other inside
    cases List.mem_singleton.1 inside
    decide
  have server : Denotes ("\x7b\x7bCAF__SERVER_URL:-" ++ address ++ "\x7d\x7d")
      ⟨Identifier.constant ["café", "SERVER_URL"], some address⟩ :=
    Placeholder.denotes_iff.2 ⟨Identifier.isVariable_constant _, by decide +kernel⟩
  have keyed : Credential.variableFor? "café" "clé" "apiKey" = some "CAF__CL_" := by
    decide +kernel
  have basic : Credential.variableFor? "café" "login" "basic" = some "CAF__LOGIN_TOKEN" := by
    decide +kernel
  refine ⟨connector, otherConnector, converted, otherConverted, ?_, ?_, ?_, ?_, ?_⟩
  · refine (values "clé" _).2 ⟨_, _, rfl, keyed, ?_⟩
    exact Placeholder.denotes_iff.2 ⟨Credential.isVariable_variableFor? keyed, rfl⟩
  · refine (values "login" _).2 ⟨_, _, rfl, basic, ?_⟩
    exact Placeholder.denotes_iff.2 ⟨Credential.isVariable_variableFor? basic, rfl⟩
  · exact agree otherKeyDocument _ otherConnector otherConverted rfl "clé" rfl
  · exact (urls _).2 ⟨address, served, server⟩
  · rw [server.readBack]
    decide +kernel

end Connector

end RestConnector
