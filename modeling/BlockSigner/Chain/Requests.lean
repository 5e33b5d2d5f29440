import BlockSigner.Chain.RPC

/-! # Requests on the wire

The payload of a call is assembled by concatenation in four places. Here it is
shown to be one JSON object, the request of the call, and to carry the call: a
reader that knows JSON and `RPC.decodeHex` gets every parameter back. Whatever
is later said about the bytes sent is said about the call they decode to.
-/

namespace BlockSigner

/-- What the signer asks of the node, with its parameters as bytes. -/
inductive RpcCall where
  | getSeed
  | submitSeed (seed publicKey coinbase : Bytes)
  | submitSignature (signature hash : Bytes)
  | call (tx : Transaction)

namespace RpcCall

def method : RpcCall → RpcMethod
  | .getSeed => .getSeed
  | .submitSeed .. => .submitSeed
  | .submitSignature .. => .submitSignature
  | .call _ => .call

/-- The parameter text `RPC` builds. -/
def paramsText : RpcCall → Text
  | .getSeed => []
  | .submitSeed seed publicKey coinbase => RPC.submitSeedParams seed publicKey coinbase
  | .submitSignature signature hash => RPC.submitSignatureParams signature hash
  | .call tx => RPC.callParams tx

/-! ## The request a call stands for -/

def hexText (bytes : Bytes) : Text := "0x".toList ++ Hex.encode bytes

def dataValue : Option Bytes → Json
  | none => .null
  | some data => .str (hexText data)

def params : RpcCall → List Json
  | .getSeed => []
  | .submitSeed seed publicKey coinbase =>
      [.str (hexText seed), .str (hexText publicKey), .str (hexText coinbase)]
  | .submitSignature signature hash => [.str (hexText signature), .str (hexText hash)]
  | .call tx =>
      [.obj [("to".toList, .str (hexText tx.getTo.raw)), ("data".toList, dataValue tx.getData)],
        .str "latest".toList]

def requestMembers (method : RpcMethod) (params : List Json) : Json.Members :=
  [("jsonrpc".toList, .str "2.0".toList), ("method".toList, .str method.getMethod),
    ("params".toList, .arr params), ("id".toList, .num "1".toList)]

def request (c : RpcCall) : Json := .obj (requestMembers c.method c.params)

/-! ## Reading a request -/

def readBytes : Json → Option Bytes
  | .str s => (RPC.decodeHex s).toOption
  | _ => none

/-- JSON null stands for absent data. -/
def readNullable : Json → Option (Option Bytes)
  | .null => some none
  | value => some <$> readBytes value

def readTransaction : Json → Option Transaction
  | .obj fields => do
      let target ← Json.get fields "to".toList
      let data ← Json.get fields "data".toList
      let raw ← readBytes target
      let address ← (Address.ofBytes (some raw)).toOption
      let data ← readNullable data
      some ⟨address, data⟩
  | _ => none

def readParams : RpcMethod → List Json → Option RpcCall
  | .getSeed, [] => some .getSeed
  | .submitSeed, [seed, publicKey, coinbase] => do
      let seed ← readBytes seed
      let publicKey ← readBytes publicKey
      let coinbase ← readBytes coinbase
      some (.submitSeed seed publicKey coinbase)
  | .submitSignature, [signature, hash] => do
      let signature ← readBytes signature
      let hash ← readBytes hash
      some (.submitSignature signature hash)
  | .call, [tx, .str _] => do
      let tx ← readTransaction tx
      some (.call tx)
  | _, _ => none

def methodNamed (name : Text) : Option RpcMethod :=
  [.call, .getSeed, .submitSeed, .submitSignature].find? (fun method => method.getMethod = name)

/-- The call a payload carries. -/
def decode (payload : Text) : Option RpcCall :=
  match Json.parse payload with
  | some (.obj members) =>
      match Json.get members "method".toList, Json.get members "params".toList with
      | some (.str name), some (.arr params) => do
          let method ← methodNamed name
          readParams method params
      | _, _ => none
  | _ => none

/-! ## Hexadecimal parameters -/

@[simp] theorem decodeHex_hexText (bytes : Bytes) : RPC.decodeHex (hexText bytes) = .ok bytes := by
  have stripped : Text.replace "0x".toList [] (hexText bytes) = Hex.encode bytes := by
    rw [hexText, Text.replace_append (by simp),
      Text.replace_of_not_mem (show 'x' ∈ "0x".toList by simp) (Hex.x_not_mem_encode bytes)]
    rfl
  simp only [RPC.decodeHex, stripped, Hex.decode_encode Hex.characterDigit_digit]
  rfl

@[simp] theorem readBytes_hexText (bytes : Bytes) : readBytes (.str (hexText bytes)) = some bytes := by
  simp only [readBytes, decodeHex_hexText]
  rfl

@[simp] theorem readNullable_dataValue (data : Option Bytes) :
    readNullable (dataValue data) = some data := by
  cases data with
  | none => rfl
  | some data =>
      rw [dataValue, readNullable, readBytes_hexText]
      · rfl
      · simp

theorem readTransaction_fields (tx : Transaction) :
    readTransaction (.obj [("to".toList, .str (hexText tx.getTo.raw)),
      ("data".toList, dataValue tx.getData)]) = some tx := by
  have other : "to".toList ≠ "data".toList := by simp
  simp only [readTransaction, Json.get_cons_self, Json.get_cons_ne other, Option.bind_eq_bind,
    Option.bind_some, readBytes_hexText, Address.ofBytes_raw, Except.toOption, readNullable_dataValue]

/-- A reader of the parameters gets the call back. -/
theorem readParams_params (c : RpcCall) : readParams c.method c.params = some c := by
  cases c with
  | getSeed => rfl
  | submitSeed seed publicKey coinbase => simp [readParams, method, params]
  | submitSignature signature hash => simp [readParams, method, params]
  | call tx =>
      simp only [method, params, readParams, readTransaction_fields, Option.bind_eq_bind,
        Option.bind_some]

theorem methodNamed_getMethod (method : RpcMethod) : methodNamed method.getMethod = some method := by
  cases method <;> decide

/-! ## The payload denotes the request -/

/-- Every character stands for itself. -/
def Plain (t : Text) : Prop := ∀ c ∈ t, Json.Unescaped c

instance (t : Text) : Decidable (Plain t) := List.decidableBAll _ t

theorem Plain.body {t : Text} (h : Plain t) : Json.StringBody t t := by
  induction t with
  | nil => exact .nil
  | cons c t ih =>
      exact .plain (h c List.mem_cons_self) (ih fun d member => h d (List.mem_cons_of_mem c member))

theorem Plain.denotes {t : Text} (h : Plain t) : Json.Denotes ('"' :: (t ++ ['"'])) (.str t) :=
  .str h.body

theorem hexText_plain (bytes : Bytes) : Plain (hexText bytes) := by
  have digits : ∀ n < 16, Json.Unescaped (Hex.digit n) := by decide
  intro c member
  rw [hexText, List.mem_append] at member
  rcases member with member | member
  · have identifier : Plain "0x".toList := by decide
    exact identifier c member
  · obtain ⟨n, small, rfl⟩ := Hex.mem_encode member
    exact digits n small

theorem hexParameter_denotes (bytes : Bytes) :
    Json.Denotes (hexParameter bytes) (.str (hexText bytes)) :=
  (hexText_plain bytes).denotes

theorem blank : Json.Space [' '] := by simp [Json.Space, Json.isSpace]

/-- A member with a plain name and white space around its colon. -/
theorem Plain.field {name before after t : Text} {v : Json} (h : Plain name)
    (hb : Json.Space before) (ha : Json.Space after) (value : Json.Denotes t v) :
    Json.Field ('"' :: (name ++ '"' :: (before ++ ':' :: (after ++ t)))) (name, v) := by
  have document : Json.Document (after ++ t) v := by simpa using Json.Document.mk ha value Json.space_nil
  simpa using Json.Field.mk Json.space_nil h.body hb document

theorem ofMembers_pair {name name' : Text} (differ : name ≠ name') (v v' : Json) :
    Json.ofMembers [(name, v), (name', v')] = [(name, v), (name', v')] :=
  Json.ofMembers_of_nodup (by simp [differ])

/-- The text of the data of a transaction. -/
def dataText : Option Bytes → Text
  | none => "null".toList
  | some data => hexParameter data

theorem dataText_denotes (data : Option Bytes) : Json.Denotes (dataText data) (dataValue data) := by
  cases data with
  | none => exact .litNull
  | some data => exact hexParameter_denotes data

theorem jsonString_eq (tx : Transaction) :
    tx.jsonString = "\x7b\"to\" : ".toList ++ hexParameter tx.getTo.raw ++ ",\"data\" : ".toList
      ++ dataText tx.getData ++ "\x7d".toList := by
  unfold Transaction.jsonString dataText
  cases tx.getData <;> simp [Address.toByteArray, hexParameter]

theorem transaction_denotes (tx : Transaction) :
    Json.Denotes tx.jsonString
      (.obj [("to".toList, .str (hexText tx.getTo.raw)), ("data".toList, dataValue tx.getData)]) := by
  have target : Plain "to".toList := by decide
  have data : Plain "data".toList := by decide
  have targetField := target.field blank blank (hexParameter_denotes tx.getTo.raw)
  have dataField := data.field blank blank (dataText_denotes tx.getData)
  have written := Json.Denotes.obj (.cons targetField (.last dataField))
  rw [ofMembers_pair (by simp)] at written
  rw [jsonString_eq]
  simpa using written

/-- The parameter text, between its brackets, is the array of the parameters. -/
theorem params_denotes (c : RpcCall) :
    Json.Denotes ('[' :: (c.paramsText ++ [']'])) (.arr c.params) := by
  have spaced : ∀ bytes, Json.Document (' ' :: hexParameter bytes) (.str (hexText bytes)) := by
    intro bytes
    simpa using Json.Document.mk blank (hexParameter_denotes bytes) Json.space_nil
  cases c with
  | getSeed => exact .emptyArr Json.space_nil
  | submitSeed seed publicKey coinbase =>
      have elements := Json.Elements.cons (hexParameter_denotes seed).document
        (.cons (spaced publicKey) (.last (spaced coinbase)))
      have written := Json.Denotes.arr elements
      simpa [params, paramsText, RPC.submitSeedParams] using written
  | submitSignature signature hash =>
      have elements := Json.Elements.cons (hexParameter_denotes signature).document
        (.last (spaced hash))
      simpa [params, paramsText, RPC.submitSignatureParams] using Json.Denotes.arr elements
  | call tx =>
      have latest : Plain "latest".toList := by decide
      have elements := Json.Elements.cons (transaction_denotes tx).document (.last latest.denotes.document)
      simpa [params, paramsText, RPC.callParams] using Json.Denotes.arr elements

theorem getMethod_plain (method : RpcMethod) : Plain method.getMethod := by
  cases method <;> decide

theorem requestMembers_nodup (method : RpcMethod) (params : List Json) :
    ((requestMembers method params).map Prod.fst).Nodup := by
  change ["jsonrpc".toList, "method".toList, "params".toList, "id".toList].Nodup
  decide

/-- The payload of a call denotes its request. -/
theorem frame_denotes (c : RpcCall) :
    Json.Denotes (RpcPayload.frame c.method c.paramsText) c.request := by
  have none : Json.Space [] := Json.space_nil
  have version : Plain "2.0".toList := by decide
  have jsonrpc : Plain "jsonrpc".toList := by decide
  have method : Plain "method".toList := by decide
  have params : Plain "params".toList := by decide
  have id : Plain "id".toList := by decide
  have digits : Json.Digits [] := by simp [Json.Digits]
  have one : Json.Number "1".toList :=
    .mk (.inl rfl) (.nonzero (d := '1') rfl (by simp) digits) .absent .absent
  have jsonrpcField := jsonrpc.field none none version.denotes
  have methodField := method.field none none (getMethod_plain c.method).denotes
  have paramsField := params.field none none (params_denotes c)
  have idField := id.field none none (.num one)
  have written := Json.Denotes.obj
    (.cons jsonrpcField (.cons methodField (.cons paramsField (.last idField))))
  have distinct := Json.ofMembers_of_nodup (requestMembers_nodup c.method c.params)
  simp only [requestMembers] at distinct
  rw [distinct] at written
  unfold RpcPayload.frame RpcPayload.payloadStart RpcPayload.paramsStart RpcPayload.payloadEnd
  simpa [request, requestMembers] using written

/-- A reader of the payload gets the call back. -/
theorem decode_frame (c : RpcCall) : decode (RpcPayload.frame c.method c.paramsText) = some c := by
  have parsed := Json.parse_iff.mpr (frame_denotes c).document
  have method : Json.get (requestMembers c.method c.params) "method".toList =
      some (.str c.method.getMethod) := by
    rw [requestMembers, Json.get_cons_ne (by simp), Json.get_cons_self]
  have params : Json.get (requestMembers c.method c.params) "params".toList =
      some (.arr c.params) := by
    rw [requestMembers, Json.get_cons_ne (by simp), Json.get_cons_ne (by simp),
      Json.get_cons_self]
  simp only [decode, parsed, request, method, params, methodNamed_getMethod, Option.bind_eq_bind,
    Option.bind_some, readParams_params]

/-! ## Nothing is lost -/

/-- A parameter carries some bytes, or the absence of data. -/
inductive Carries : Json → Option Bytes → Prop where
  | absent : Carries .null none
  | hex {s : Text} {bytes : Bytes} : RPC.decodeHex s = .ok bytes → Carries (.str s) (some bytes)

/-- The parameters are exactly those of the call, in order. -/
def CarriesParams : RpcCall → List Json → Prop
  | .getSeed, params => params = []
  | .submitSeed seed publicKey coinbase, params =>
      ∃ a b c, params = [a, b, c] ∧ Carries a seed ∧ Carries b publicKey ∧ Carries c coinbase
  | .submitSignature signature hash, params =>
      ∃ a b, params = [a, b] ∧ Carries a signature ∧ Carries b hash
  | .call tx, params =>
      ∃ a b, params = [.obj [("to".toList, a), ("data".toList, b)], .str "latest".toList] ∧
        Carries a tx.getTo.raw ∧ Carries b tx.getData

theorem hexText_carries (bytes : Bytes) : Carries (.str (hexText bytes)) bytes :=
  .hex (decodeHex_hexText bytes)

theorem dataValue_carries (data : Option Bytes) : Carries (dataValue data) data := by
  cases data with
  | none => exact .absent
  | some data => exact hexText_carries data

theorem params_carry (c : RpcCall) : CarriesParams c c.params := by
  cases c with
  | getSeed => exact rfl
  | submitSeed seed publicKey coinbase =>
      exact ⟨_, _, _, rfl, hexText_carries seed, hexText_carries publicKey, hexText_carries coinbase⟩
  | submitSignature signature hash =>
      exact ⟨_, _, rfl, hexText_carries signature, hexText_carries hash⟩
  | call tx => exact ⟨_, _, rfl, hexText_carries tx.getTo.raw, dataValue_carries tx.getData⟩

/-- Every payload is one JSON object with the version, the method, the parameters
    of the call and the id, and different calls have different payloads. -/
theorem generatePayload_lossless :
    (∀ c : RpcCall, ∃ payload params,
      RpcPayload.generatePayload c.method c.paramsText = .ok payload ∧
        Json.Document payload (.obj (requestMembers c.method params)) ∧ CarriesParams c params) ∧
    (∀ c c' : RpcCall,
      RpcPayload.generatePayload c.method c.paramsText =
        RpcPayload.generatePayload c'.method c'.paramsText → c = c') := by
  constructor
  · intro c
    exact ⟨_, c.params, RpcPayload.generatePayload_some c.method c.paramsText,
      (frame_denotes c).document, params_carry c⟩
  · intro c c' same
    simp only [RpcPayload.generatePayload_some, Except.ok.injEq] at same
    have decoded := decode_frame c
    rw [same, decode_frame c'] at decoded
    exact (Option.some.inj decoded).symm

end RpcCall

end BlockSigner
