import BlockSigner.Chain.RpcCaller

/-! # The RPC methods of the node

`RpcMethod`, `RpcPayload`, `Transaction`, `Logger` and `RPC`. A method builds a
payload, starts curl with it and reads the `result` of the answer. What it
returns depends on the run of curl alone (`RPC.answer`, `RPC.bytesAnswer`); what
it leaves in the world is `RPC.record`.
-/

namespace BlockSigner

/-! ## Payloads -/

inductive RpcMethod where
  | call
  | getSeed
  | submitSeed
  | submitSignature
  deriving DecidableEq

def RpcMethod.getMethod : RpcMethod → Text
  | .call => "eth_call".toList
  | .getSeed => "getseed".toList
  | .submitSeed => "submitseed".toList
  | .submitSignature => "submitsignature".toList

namespace RpcPayload

def payloadStart : Text := "\x7b\"jsonrpc\":\"2.0\",\"method\":\"".toList

def paramsStart : Text := "\",\"params\":[".toList

def payloadEnd : Text := "],\"id\":1\x7d".toList

def generatePayload (method : Option RpcMethod) (params : Option Text) :
    Except JavaException Text :=
  match method with
  | none => throw (exception .nullPointer "Cannot generate rpc payload with null method.")
  | some method =>
      match params with
      | none => throw (exception .nullPointer "Cannot generate rpc payload with null params.")
      | some params => pure (payloadStart ++ method.getMethod ++ paramsStart ++ params ++ payloadEnd)

/-- The payload of a method and its parameter text, both present. -/
def frame (method : RpcMethod) (params : Text) : Text :=
  payloadStart ++ method.getMethod ++ paramsStart ++ params ++ payloadEnd

@[simp] theorem generatePayload_some (method : RpcMethod) (params : Text) :
    generatePayload method params = .ok (frame method params) := rfl

end RpcPayload

structure Transaction where
  getTo : Address
  getData : Option Bytes

/-- `"0x...` between quotation marks. -/
def hexParameter (bytes : Bytes) : Text := "\"0x".toList ++ Hex.encode bytes ++ ['"']

def Transaction.jsonString (tx : Transaction) : Text :=
  let dataVal :=
    match tx.getData with
    | none => "null".toList
    | some data => hexParameter data
  "\x7b\"to\" : \"0x".toList ++ Hex.encode tx.getTo.toByteArray ++ "\",\"data\" : ".toList ++ dataVal
    ++ "\x7d".toList

/-! ## Logger -/

structure Logger where
  verboseLoggingEnabled : Bool
  deriving DecidableEq

namespace Logger

def log (_logger : Logger) (message : Text) : Exec Unit := Exec.println message

def logVerbose (logger : Logger) (message : Text) : Exec Unit :=
  if logger.verboseLoggingEnabled then logger.log message else pure ()

/-- The world after a verbose line. -/
def verbosely (logger : Logger) (message : Text) (w : World) : World :=
  if logger.verboseLoggingEnabled then w.emit (.log message) else w

@[simp] theorem log_run (logger : Logger) (message : Text) (w : World) :
    (logger.log message).run w = (.ok (), w.emit (.log message)) := rfl

@[simp] theorem logVerbose_run (logger : Logger) (message : Text) (w : World) :
    (logger.logVerbose message).run w = (.ok (), logger.verbosely message w) := by
  unfold logVerbose verbosely
  split <;> rfl

@[simp] theorem verbosely_node (logger : Logger) (message : Text) (w : World) :
    (logger.verbosely message w).node = w.node := by
  unfold verbosely
  split <;> rfl

@[simp] theorem verbosely_lastSubmittedHash (logger : Logger) (message : Text) (w : World) :
    (logger.verbosely message w).lastSubmittedHash = w.lastSubmittedHash := by
  unfold verbosely
  split <;> rfl

end Logger

/-! ## RPC -/

structure RPC where
  rpc : RpcCaller
  logger : Logger
  deriving DecidableEq

namespace RPC

variable (lib : Libraries)

def new (ip port : Option Text) (logger : Logger) : Except JavaException RPC := do
  let rpc ← RpcCaller.new ip port
  pure ⟨rpc, logger⟩

/-- `JsonElement.getAsString`. An array answers for its only element. -/
def getAsString : Json → Except JavaException Text
  | .null => throw (exception .unsupportedOperation "JsonNull")
  | .obj _ => throw (exception .unsupportedOperation "JsonObject")
  | .bool value => pure (if value then "true".toList else "false".toList)
  | .num literal => pure literal
  | .str content => pure content
  | .arr [element] => getAsString element
  | .arr _ => throw ⟨.illegalState, none⟩

def getAsJsonObject : Json → Except JavaException Json.Members
  | .obj members => pure members
  | element => throw ⟨.illegalState, "Not a JSON Object: ".toList ++ element.print⟩

/-- `new JsonParser().parse(output).getAsJsonObject().get("result").getAsString()`,
    or null where the response has no output. A missing attribute is a null
    reference, and calling a method on it throws. -/
def resultText (response : InternalRpcResult) : Except JavaException (Option Text) :=
  match response.output with
  | none => pure none
  | some output => do
      let element ← lib.parse output
      let members ← getAsJsonObject element
      match Json.get members "result".toList with
      | none => throw ⟨.nullPointer, none⟩
      | some result => some <$> getAsString result

def sendCall (rpc : RPC) (method : RpcMethod) (params : Text) : Exec (Option Text) := do
  let payload ← liftM (RpcPayload.generatePayload method params)
  rpc.logger.logVerbose (method.getMethod ++ " payload: ".toList ++ payload)
  let response ← rpc.rpc.call lib payload false
  rpc.logger.logVerbose (method.getMethod ++ " response: ".toList ++ response.toString)
  liftM (resultText lib response)

def decodeHex (rpcResult : Text) : Except JavaException Bytes :=
  let resultHex := Text.replace "0x".toList [] rpcResult
  match Hex.decode Hex.characterDigit resultHex with
  | some bytes => pure bytes
  | none => throw ⟨.illegalState, "Could not decode the rpcResult ".toList ++ rpcResult⟩

/-- `(rpcResult != null) ? decodeHex(rpcResult) : null`. -/
def decodeNullable : Option Text → Except JavaException (Option Bytes)
  | some rpcResult => some <$> decodeHex rpcResult
  | none => pure none

def getSeed (rpc : RPC) : Exec (Option Bytes) := do
  let rpcResult ← rpc.sendCall lib .getSeed []
  liftM (decodeNullable rpcResult)

def submitSeedParams (seed publicKey coinbase : Bytes) : Text :=
  hexParameter seed ++ ", ".toList ++ hexParameter publicKey ++ ", ".toList ++ hexParameter coinbase

def submitSeed (rpc : RPC) (seed publicKey coinbase : Bytes) : Exec (Option Bytes) := do
  let rpcResult ← rpc.sendCall lib .submitSeed (submitSeedParams seed publicKey coinbase)
  liftM (decodeNullable rpcResult)

def submitSignatureParams (signature hash : Bytes) : Text :=
  hexParameter signature ++ ", ".toList ++ hexParameter hash

def submitSignature (rpc : RPC) (signature hash : Bytes) : Exec (Option Text) :=
  rpc.sendCall lib .submitSignature (submitSignatureParams signature hash)

def callParams (tx : Transaction) : Text := tx.jsonString ++ ",\"latest\"".toList

def call (rpc : RPC) (tx : Transaction) : Exec (Option Bytes) := do
  let rpcResult ← rpc.sendCall lib .call (callParams tx)
  liftM (decodeNullable rpcResult)

/-! ### What a method returns and what it leaves -/

/-- The text a method makes of one run of curl. -/
def answer (rpc : RPC) (run : CurlRun) : Except JavaException (Option Text) := do
  let response ← rpc.rpc.resultOf lib false run
  resultText lib response

def bytesAnswer (rpc : RPC) (run : CurlRun) : Except JavaException (Option Bytes) := do
  let rpcResult ← rpc.answer lib run
  decodeNullable rpcResult

def payloadLine (method : RpcMethod) (payload : Text) : Text :=
  method.getMethod ++ " payload: ".toList ++ payload

def responseLine (method : RpcMethod) (response : InternalRpcResult) : Text :=
  method.getMethod ++ " response: ".toList ++ response.toString

/-- The world after a call: the payload line, curl, and the response line unless
    the call itself threw. -/
def record (rpc : RPC) (method : RpcMethod) (params : Text) (w : World) : World :=
  let payload := RpcPayload.frame method params
  let sent := (rpc.logger.verbosely (payloadLine method payload) w).curl (rpc.rpc.command payload)
  match rpc.rpc.resultOf lib false (w.node 0) with
  | .ok response => rpc.logger.verbosely (responseLine method response) sent
  | .error _ => sent

theorem sendCall_run (rpc : RPC) (method : RpcMethod) (params : Text) (w : World) :
    (rpc.sendCall lib method params).run w =
      (rpc.answer lib (w.node 0), rpc.record lib method params w) := by
  simp only [sendCall, RpcPayload.generatePayload_some, Exec.bind_run, Exec.liftM_run,
    Logger.logVerbose_run, RpcCaller.call_run, Logger.verbosely_node, answer, record, payloadLine,
    responseLine]
  cases rpc.rpc.resultOf lib false (w.node 0) with
  | error e => rfl
  | ok response => rfl

private theorem decoded_run (rpc : RPC) (method : RpcMethod) (params : Text) (w : World) :
    (do
      let rpcResult ← rpc.sendCall lib method params
      liftM (decodeNullable rpcResult) : Exec (Option Bytes)).run w =
      (rpc.bytesAnswer lib (w.node 0), rpc.record lib method params w) := by
  simp only [Exec.bind_run, sendCall_run, bytesAnswer]
  cases rpc.answer lib (w.node 0) with
  | error e => rfl
  | ok rpcResult => rfl

theorem getSeed_run (rpc : RPC) (w : World) :
    (rpc.getSeed lib).run w = (rpc.bytesAnswer lib (w.node 0), rpc.record lib .getSeed [] w) :=
  decoded_run lib rpc .getSeed [] w

theorem submitSeed_run (rpc : RPC) (seed publicKey coinbase : Bytes) (w : World) :
    (rpc.submitSeed lib seed publicKey coinbase).run w =
      (rpc.bytesAnswer lib (w.node 0),
        rpc.record lib .submitSeed (submitSeedParams seed publicKey coinbase) w) :=
  decoded_run lib rpc .submitSeed _ w

theorem submitSignature_run (rpc : RPC) (signature hash : Bytes) (w : World) :
    (rpc.submitSignature lib signature hash).run w =
      (rpc.answer lib (w.node 0),
        rpc.record lib .submitSignature (submitSignatureParams signature hash) w) :=
  sendCall_run lib rpc .submitSignature _ w

theorem call_run (rpc : RPC) (tx : Transaction) (w : World) :
    (rpc.call lib tx).run w =
      (rpc.bytesAnswer lib (w.node 0), rpc.record lib .call (callParams tx) w) :=
  decoded_run lib rpc .call _ w

@[simp] theorem record_node (rpc : RPC) (method : RpcMethod) (params : Text) (w : World) (i : Nat) :
    (rpc.record lib method params w).node i = w.node (i + 1) := by
  unfold record
  split <;> simp

@[simp] theorem record_lastSubmittedHash (rpc : RPC) (method : RpcMethod) (params : Text)
    (w : World) : (rpc.record lib method params w).lastSubmittedHash = w.lastSubmittedHash := by
  unfold record
  split <;> simp

end RPC

/-! ## The calls in a record -/

/-- The payload curl was given (`--data` is its sixth argument) and its run. -/
def Event.call? : Event → Option (Text × CurlRun)
  | .curl command run => command[6]?.map fun payload => (payload, run)
  | .log _ => none

def calls (events : List Event) : List (Text × CurlRun) := events.filterMap Event.call?

@[simp] theorem calls_nil : calls [] = [] := rfl

@[simp] theorem calls_append (before after : List Event) :
    calls (before ++ after) = calls before ++ calls after := by
  simp [calls]

@[simp] theorem calls_log (message : Text) : calls [.log message] = [] := rfl

@[simp] theorem calls_curl (caller : RpcCaller) (payload : Text) (run : CurlRun) :
    calls [.curl (caller.command payload) run] = [(payload, run)] := rfl

@[simp] theorem Logger.verbosely_calls (logger : Logger) (message : Text) (w : World) :
    calls (logger.verbosely message w).events = calls w.events := by
  unfold Logger.verbosely
  split <;> simp

/-- A call adds its payload and its run to the calls made, and nothing else. -/
@[simp] theorem RPC.record_calls (lib : Libraries) (rpc : RPC) (method : RpcMethod) (params : Text)
    (w : World) :
    calls (rpc.record lib method params w).events =
      calls w.events ++ [(RpcPayload.frame method params, w.node 0)] := by
  unfold RPC.record
  split <;> simp

end BlockSigner
