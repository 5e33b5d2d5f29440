import BlockSigner.Libraries

/-! # One RPC call through curl

`InternalRpcResult`, `JsonStringParser` and `RpcCaller`. The classification of
what a finished `curl` left behind is a function of its exit status, its output
and the clock (`RpcCaller.resultOf`); `RpcCaller.call` adds the start of the
process.
-/

namespace BlockSigner

/-! ## InternalRpcResult -/

inductive TimeUnit where
  | nanoseconds
  | microseconds
  | milliseconds
  | seconds
  | minutes
  | hours
  | days
  deriving DecidableEq

def TimeUnit.nanos : TimeUnit → Int
  | .nanoseconds => 1
  | .microseconds => 1000
  | .milliseconds => 1000000
  | .seconds => 1000000000
  | .minutes => 60000000000
  | .hours => 3600000000000
  | .days => 86400000000000

/-- Conversion saturates at the ends of the 64-bit range. -/
def TimeUnit.toNanos (unit : TimeUnit) (duration : Int) : Int :=
  max (-9223372036854775808) (min 9223372036854775807 (duration * unit.nanos))

theorem TimeUnit.toNanos_nonneg (unit : TimeUnit) {duration : Int} (h : 0 ≤ duration) :
    0 ≤ unit.toNanos duration := by
  have factor : 0 ≤ unit.nanos := by cases unit <;> decide
  have product := Int.mul_nonneg h factor
  simp only [TimeUnit.toNanos]
  omega

/-- The two factories are the only way to build a result, so it carries either
    an output with a time or an error. -/
structure InternalRpcResult where
  success : Bool
  output : Option Text
  error : Option Text
  timeOfCallInNanos : Int
  consistent :
    success = true ∧ output.isSome = true ∧ error = none ∧ 0 ≤ timeOfCallInNanos ∨
      success = false ∧ output = none ∧ error.isSome = true ∧ timeOfCallInNanos = -1

namespace InternalRpcResult

def successful (output : Option Text) (timeOfCall : Int) (unit : Option TimeUnit) :
    Except JavaException InternalRpcResult :=
  match output with
  | none =>
      throw (exception .nullPointer
        "Cannot construct successful internal rpc result with null output.")
  | some output =>
      if h : timeOfCall < 0 then
        throw (exception .illegalArgument
          "Cannot construct successful internal rpc result with negative time.")
      else
        match unit with
        | none =>
            throw (exception .nullPointer
              "Cannot construct successful internal rpc result with null time units.")
        | some unit =>
            pure
              { success := true
                output := some output
                error := none
                timeOfCallInNanos := unit.toNanos timeOfCall
                consistent := .inl ⟨rfl, rfl, rfl, unit.toNanos_nonneg (Int.not_lt.mp h)⟩ }

def unsuccessful (error : Option Text) : Except JavaException InternalRpcResult :=
  match error with
  | none =>
      throw (exception .nullPointer
        "Cannot construct unsuccessful internal rpc result with null error.")
  | some error =>
      pure
        { success := false
          output := none
          error := some error
          timeOfCallInNanos := -1
          consistent := .inr ⟨rfl, rfl, rfl, rfl⟩ }

/-- How Java concatenates a reference that may be null. -/
def textOrNull (s : Option Text) : Text := s.getD "null".toList

def toString (result : InternalRpcResult) : Text :=
  if result.success then
    "InternalRpcResult \x7b successful | output = ".toList ++ textOrNull result.output
      ++ " | time of call = ".toList ++ (ToString.toString result.timeOfCallInNanos).toList
      ++ " (nanos) \x7d".toList
  else
    "InternalRpcResult \x7b unsuccessful due to: ".toList ++ textOrNull result.error ++ " \x7d".toList

theorem successful_of_nonneg (output : Text) {timeOfCall : Int} (h : 0 ≤ timeOfCall)
    (unit : TimeUnit) :
    ∃ result, successful (some output) timeOfCall (some unit) = .ok result ∧
      result.success = true ∧ result.output = some output ∧ result.error = none :=
  ⟨_, dif_neg (Int.not_lt.mpr h), rfl, rfl, rfl⟩

theorem successful_of_neg (output : Text) {timeOfCall : Int} (h : timeOfCall < 0)
    (unit : Option TimeUnit) :
    successful (some output) timeOfCall unit = .error (exception .illegalArgument
      "Cannot construct successful internal rpc result with negative time.") :=
  dif_pos h

/-- A result without an output is an unsuccessful one, and the other way round. -/
theorem output_eq_none_iff (result : InternalRpcResult) :
    result.output = none ↔ result.success = false := by
  rcases result.consistent with ⟨success, output, _⟩ | ⟨success, output, _⟩
  · obtain ⟨text, present⟩ := Option.isSome_iff_exists.mp output
    simp [success, present]
  · simp [success, output]

end InternalRpcResult

/-! ## JsonStringParser -/

structure JsonStringParser where
  stringAsJson : Json.Members

namespace JsonStringParser

def new (lib : Libraries) (jsonString : Option Text) : Except JavaException JsonStringParser :=
  match jsonString with
  | none =>
      throw (exception .nullPointer "Cannot construct JsonStringParser with null jsonString.")
  | some [] =>
      throw (exception .illegalArgument "Cannot construct JsonStringParser with empty jsonString.")
  | some jsonString =>
      match lib.parse jsonString with
      | .error e => throw e
      | .ok (.obj members) => pure ⟨members⟩
      | .ok _ => throw ⟨.classCast, none⟩

def hasAttribute (parser : JsonStringParser) (name : Text) : Bool :=
  Json.has parser.stringAsJson name

/-- No leading or trailing quotation mark and no `0x`. -/
def cleanElement (rawElement : Text) : Text :=
  Text.dropPrefix "0x".toList (Text.dropSuffix ['"'] (Text.dropPrefix ['"'] rawElement))

def attributeToString (parser : JsonStringParser) (name : Text) : Option Text :=
  match Json.get parser.stringAsJson name with
  | none => none
  | some value =>
      let element := cleanElement value.print
      if element = [] ∨ element = "null".toList then none else some element

end JsonStringParser

/-! ## RpcCaller -/

structure RpcCaller where
  ip : Text
  port : Text
  deriving DecidableEq

namespace RpcCaller

def new (ip port : Option Text) : Except JavaException RpcCaller :=
  match ip with
  | none => throw (exception .nullPointer "IP cannot be null")
  | some ip =>
      match port with
      | none => throw (exception .nullPointer "Port cannot be null")
      | some port => pure ⟨ip, port⟩

def getCurlError (caller : RpcCaller) (status : Int) : Text :=
  match status with
  | 7 => "Failed to connect to the host, check your IP and port are correct: ".toList
      ++ caller.ip ++ ":".toList ++ caller.port
  | 8 => "The server replied with data that curl was unable to parse.".toList
  | 9 => "The server denied login or the particular resource you wanted to reach.".toList
  | 15 => "Couldn't resolve the specified IP: ".toList ++ caller.ip
  | 23 => "Failed to write the data to the server.".toList
  | 26 => "Failed to read the data from the server.".toList
  | 27 => "Out of memory error".toList
  | 28 => "Timed out".toList
  | _ => "unknown error; curl exit code: ".toList ++ (ToString.toString status).toList

/-- The error branch: the text of the `error` attribute is read as an object. -/
def errorResult (lib : Libraries) (caller : RpcCaller) (status : Int)
    (outputParser : JsonStringParser) : Except JavaException InternalRpcResult :=
  match outputParser.attributeToString "error".toList with
  | none => InternalRpcResult.unsuccessful (caller.getCurlError status)
  | some error => do
      let errorParser ← JsonStringParser.new lib error
      let error := errorParser.attributeToString "data".toList
      let error := if error = none then errorParser.attributeToString "message".toList else error
      let error := if error = none then some (caller.getCurlError status) else error
      InternalRpcResult.unsuccessful error

/-- From the assembled output to the result. -/
def classify (lib : Libraries) (caller : RpcCaller) (timeOfCallInNanos status : Int)
    (output : Text) : Except JavaException InternalRpcResult :=
  if output = [] then InternalRpcResult.unsuccessful "unknown error".toList
  else
    match JsonStringParser.new lib output with
    | .error e =>
        if e.cls = .jsonSyntax then
          throw ⟨.runtime, "Error parsing json: ".toList ++ output⟩
        else throw e
    | .ok outputParser =>
        if status = 0 ∧ outputParser.hasAttribute "error".toList = false then
          InternalRpcResult.successful output timeOfCallInNanos TimeUnit.nanoseconds
        else errorResult lib caller status outputParser

/-- With `inheritIO` the output of the child goes to the parent's, and the
    stream that is read is empty. -/
def resultOf (lib : Libraries) (caller : RpcCaller) (verbose : Bool) (run : CurlRun) :
    Except JavaException InternalRpcResult :=
  match run.process with
  | .raised e =>
      if e.cls = .io then InternalRpcResult.unsuccessful e.toString else throw e
  | .exited status stdout =>
      classify lib caller run.nanoTime status (Text.readAll (if verbose then [] else stdout))

def command (caller : RpcCaller) (payload : Text) : List Text :=
  ["curl".toList, "-X".toList, "POST".toList, "-H".toList, "Content-type: application/json".toList,
    "--data".toList, payload, caller.ip ++ ":".toList ++ caller.port]

def call (lib : Libraries) (caller : RpcCaller) (payload : Text) (verbose : Bool) :
    Exec InternalRpcResult := do
  let run ← Exec.startCurl (caller.command payload)
  liftM (resultOf lib caller verbose run)

/-- `call` starts curl once, with the payload as its data, and returns what
    that run is classified as. -/
@[simp] theorem call_run (lib : Libraries) (caller : RpcCaller) (payload : Text) (verbose : Bool)
    (w : World) :
    (call lib caller payload verbose).run w =
      (resultOf lib caller verbose (w.node 0), w.curl (caller.command payload)) := rfl

end RpcCaller

end BlockSigner
