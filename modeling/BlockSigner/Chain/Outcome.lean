import BlockSigner.Json.Layout
import BlockSigner.Chain.Answers
import BlockSigner.Chain.ErrorReport

/-! # What the outcome of a call depends on

Joining the lines of curl's output keeps the JSON value, so the layout of a
response does not matter. The verbose flag and the clock do: with `inheritIO`
nothing is left to read, and a negative reading makes the constructor of a
successful result throw.
-/

namespace BlockSigner

variable {lib : Libraries}

namespace RpcCaller

/-- The string `call` builds from what curl wrote to its output. -/
def outputOf (verbose : Bool) (stdout : Text) : Text :=
  Text.readAll (if verbose then [] else stdout)

@[simp] theorem outputOf_verbose (stdout : Text) : outputOf true stdout = [] := Text.readAll_nil

theorem resultOf_exited {run : CurlRun} {status : Int} {stdout : Text}
    (exited : run.process = .exited status stdout) (caller : RpcCaller) (verbose : Bool) :
    resultOf lib caller verbose run =
      classify lib caller run.nanoTime status (outputOf verbose stdout) := by
  simp only [resultOf, exited, outputOf]

/-! ## Documents over several lines -/

/-- The joined lines of a JSON document are a document of the same value, and
    of no other. -/
theorem outputOf_document {stdout : Text} {value : Json} (document : Json.Document stdout value) :
    Json.Document (outputOf false stdout) value ∧
      ∀ other, Json.Document (outputOf false stdout) other → other = value := by
  have joined : Json.Document (outputOf false stdout) value := document.readAll
  refine ⟨joined, ?_⟩
  intro other denoted
  exact denoted.unique joined

/-- A response over four lines, ended in each of the three ways. -/
def laidOut : Text := "\x7b\r\n\t\"result\":\r\"0x01\",\n \"id\" : 1\x7d\n".toList

theorem laidOut_read :
    (Json.parse laidOut).map Json.print = some "\x7b\"result\":\"0x01\",\"id\":1\x7d".toList := by
  decide +kernel

theorem outputOf_laidOut :
    ∃ value, value.print = "\x7b\"result\":\"0x01\",\"id\":1\x7d".toList ∧
      Json.Document laidOut value ∧ Json.Document (outputOf false laidOut) value := by
  obtain ⟨value, read, printed⟩ := Option.map_eq_some_iff.mp laidOut_read
  have document := Json.parse_iff.mp read
  exact ⟨value, printed, document, (outputOf_document document).1⟩

end RpcCaller

/-- curl wrote an object, on however many lines. -/
theorem ObjectRun.laidOut (gson : GsonContract lib) {text : Text} {members : Json.Members}
    (document : Json.Document text (.obj members)) (nanoTime status : Int) :
    ObjectRun lib ⟨nanoTime, .exited status text⟩ status (Text.readAll text) members where
  exited := ⟨text, rfl, rfl⟩
  nonempty := document.readAll.ne_nil
  object := gson.accepts document.readAll

/-- Two layouts of one object are the same answer. -/
theorem RPC.answer_of_layout (gson : GsonContract lib) (rpc : RPC) {text text' : Text}
    {members : Json.Members} (document : Json.Document text (.obj members))
    (document' : Json.Document text' (.obj members)) (nanoTime status : Int) :
    rpc.answer lib ⟨nanoTime, .exited status text⟩ =
      rpc.answer lib ⟨nanoTime, .exited status text'⟩ := by
  have object := ObjectRun.laidOut gson document nanoTime status
  have object' := ObjectRun.laidOut gson document' nanoTime status
  simp only [RPC.answer, RpcCaller.resultOf_object object, RpcCaller.resultOf_object object']
  by_cases accepted : status = 0 ∧ Json.get members "error".toList = none
  · rw [if_pos accepted, if_pos accepted]
    by_cases clock : nanoTime < 0
    · rw [InternalRpcResult.successful_of_neg _ clock, InternalRpcResult.successful_of_neg _ clock]
    · have clock := Int.not_lt.mp clock
      obtain ⟨result, making, _, present, _⟩ :=
        InternalRpcResult.successful_of_nonneg (Text.readAll text) clock .nanoseconds
      obtain ⟨result', making', _, present', _⟩ :=
        InternalRpcResult.successful_of_nonneg (Text.readAll text') clock .nanoseconds
      rw [making, making']
      change RPC.resultText lib result = RPC.resultText lib result'
      rw [RPC.resultText_object present object.object, RPC.resultText_object present' object'.object]
  · rw [if_neg accepted, if_neg accepted]

namespace RpcCaller

/-! ## The flag and the clock -/

/-- What a caller sees: the three fields of the result, or that the call threw. -/
def visible (outcome : Except JavaException InternalRpcResult) :
    Option (Bool × Option Text × Option Text) :=
  match outcome with
  | .ok result => some (result.success, result.output, result.error)
  | .error _ => none

/-- Both calls throw, or their results have the same flag, output and error. -/
def SameOutcome (outcome outcome' : Except JavaException InternalRpcResult) : Prop :=
  visible outcome = visible outcome'

/-- What makes a result a success: exit status 0 and an object without `error`. -/
def Accepted (lib : Libraries) (status : Int) (output : Text) : Prop :=
  status = 0 ∧ output ≠ [] ∧
    ∃ members, lib.parse output = .ok (.obj members) ∧ Json.get members "error".toList = none

def unknownError : Text := "unknown error".toList

/-- An object that itself reports the very text `unknown error`. -/
def ReportsUnknown (lib : Libraries) (output : Text) : Prop :=
  ∃ members content fields,
    output ≠ [] ∧ lib.parse output = .ok (.obj members) ∧
    (JsonStringParser.mk members).attributeToString "error".toList = some content ∧
    lib.parse content = .ok (.obj fields) ∧
    ((JsonStringParser.mk fields).attributeToString "data".toList = some unknownError ∨
      (JsonStringParser.mk fields).attributeToString "data".toList = none ∧
      (JsonStringParser.mk fields).attributeToString "message".toList = some unknownError)

theorem getCurlError_ne_unknown (caller : RpcCaller) (status : Int) :
    caller.getCurlError status ≠ unknownError := by
  unfold getCurlError unknownError
  split <;> simp

variable {caller : RpcCaller} {status nanoTime : Int} {output : Text} {members : Json.Members}

theorem classify_nil :
    classify lib caller nanoTime status [] = InternalRpcResult.unsuccessful (some unknownError) := by
  unfold classify unknownError
  exact if_pos rfl

theorem classify_unread {e : JavaException} (nonempty : output ≠ [])
    (unread : JsonStringParser.new lib (some output) = .error e) :
    visible (classify lib caller nanoTime status output) = none := by
  simp only [classify, nonempty, if_false, unread]
  split <;> rfl

theorem classify_object (nonempty : output ≠ []) (object : lib.parse output = .ok (.obj members)) :
    classify lib caller nanoTime status output =
      if status = 0 ∧ Json.get members "error".toList = none then
        InternalRpcResult.successful (some output) nanoTime (some .nanoseconds)
      else errorResult lib caller status ⟨members⟩ := by
  simp only [classify, nonempty, if_false, JsonStringParser.new_of_object nonempty object,
    JsonStringParser.hasAttribute, Json.has, Option.isSome_eq_false_iff,
    Option.isNone_iff_eq_none]

/-- An accepted output makes a success of every clock reading but a negative one. -/
theorem visible_accepted (accepted : Accepted lib status output) :
    visible (classify lib caller nanoTime status output) =
      if nanoTime < 0 then none else some (true, some output, none) := by
  obtain ⟨exited, nonempty, members, object, absent⟩ := accepted
  rw [classify_object nonempty object, if_pos ⟨exited, absent⟩]
  by_cases clock : nanoTime < 0
  · rw [InternalRpcResult.successful_of_neg _ clock, if_pos clock]
    rfl
  · obtain ⟨result, making, success, present, noError⟩ :=
      InternalRpcResult.successful_of_nonneg output (Int.not_lt.mp clock) .nanoseconds
    rw [making, if_neg clock, visible, success, present, noError]

/-- Any other output is classified without a look at the clock. -/
theorem classify_of_not_accepted (rejected : ¬ Accepted lib status output) (nanoTime nanoTime' : Int) :
    classify lib caller nanoTime status output = classify lib caller nanoTime' status output := by
  by_cases empty : output = []
  · rw [empty, classify_nil, classify_nil]
  · cases read : JsonStringParser.new lib (some output) with
    | error e => simp only [classify, empty, if_false, read]
    | ok parser =>
        have object := (JsonStringParser.new_eq_ok read).2
        have notBoth : ¬ (status = 0 ∧ Json.get parser.stringAsJson "error".toList = none) :=
          fun both => rejected ⟨both.1, empty, _, object, both.2⟩
        rw [classify_object empty object, classify_object empty object, if_neg notBoth,
          if_neg notBoth]

theorem errorText_eq_unknown_iff {fields : Json.Members} :
    caller.errorText status fields = unknownError ↔
      (JsonStringParser.mk fields).attributeToString "data".toList = some unknownError ∨
        (JsonStringParser.mk fields).attributeToString "data".toList = none ∧
        (JsonStringParser.mk fields).attributeToString "message".toList = some unknownError := by
  unfold errorText
  cases (JsonStringParser.mk fields).attributeToString "data".toList with
  | some data => simp
  | none =>
      cases (JsonStringParser.mk fields).attributeToString "message".toList with
      | some message => simp
      | none => simp [getCurlError_ne_unknown]

theorem visible_unsuccessful_iff {error : Text} :
    visible (InternalRpcResult.unsuccessful (some error)) = some (false, none, some unknownError) ↔
      error = unknownError := by
  simp [visible, InternalRpcResult.unsuccessful, pure, Except.pure]

/-- The error branch reports the text `unknown error` only as the content of the
    object it read. -/
theorem errorResult_unknown_iff :
    visible (errorResult lib caller status ⟨members⟩) = some (false, none, some unknownError) ↔
      ∃ content fields,
        (JsonStringParser.mk members).attributeToString "error".toList = some content ∧
        lib.parse content = .ok (.obj fields) ∧
        caller.errorText status fields = unknownError := by
  cases found : (JsonStringParser.mk members).attributeToString "error".toList with
  | none =>
      rw [errorResult_of_noContent found, visible_unsuccessful_iff]
      simp [getCurlError_ne_unknown]
  | some content =>
      have nonempty := JsonStringParser.attributeToString_ne_nil found
      by_cases object : ∃ fields, lib.parse content = .ok (.obj fields)
      · obtain ⟨fields, parsed⟩ := object
        rw [errorResult_of_object found (JsonStringParser.new_of_object nonempty parsed),
          visible_unsuccessful_iff]
        constructor
        · intro reported
          exact ⟨content, fields, rfl, parsed, reported⟩
        · rintro ⟨_, fields', same, parsed', reported⟩
          cases same
          rw [parsed] at parsed'
          cases parsed'
          exact reported
      · have thrown : visible (errorResult lib caller status ⟨members⟩) = none := by
          cases read : JsonStringParser.new lib (some content) with
          | error e =>
              rw [errorResult_of_unreadable found read]
              rfl
          | ok parser => exact absurd ⟨_, (JsonStringParser.new_eq_ok read).2⟩ object
        rw [thrown]
        constructor
        · intro seen
          cases seen
        · rintro ⟨_, fields, same, parsed, _⟩
          cases same
          exact absurd ⟨fields, parsed⟩ object

/-- A call that reads its output reports `unknown error` where there is none, or
    where the output says so. -/
theorem classify_unknown_iff :
    visible (classify lib caller nanoTime status output) = some (false, none, some unknownError) ↔
      output = [] ∨ ReportsUnknown lib output := by
  constructor
  · intro seen
    by_cases empty : output = []
    · exact .inl empty
    · cases read : JsonStringParser.new lib (some output) with
      | error e =>
          rw [classify_unread empty read] at seen
          cases seen
      | ok parser =>
          have parsed := (JsonStringParser.new_eq_ok read).2
          by_cases accepted : status = 0 ∧ Json.get parser.stringAsJson "error".toList = none
          · rw [visible_accepted ⟨accepted.1, empty, _, parsed, accepted.2⟩] at seen
            split at seen <;> cases seen
          · rw [classify_object empty parsed, if_neg accepted] at seen
            obtain ⟨content, fields, found, object, reported⟩ := errorResult_unknown_iff.mp seen
            exact .inr ⟨_, content, fields, empty, parsed, found, object,
              errorText_eq_unknown_iff.mp reported⟩
  · rintro (rfl | ⟨members, content, fields, nonempty, parsed, found, object, reported⟩)
    · rw [classify_nil]
      rfl
    · have rejected : ¬ (status = 0 ∧ Json.get members "error".toList = none) := by
        rintro ⟨_, absent⟩
        rw [JsonStringParser.attributeToString, absent] at found
        cases found
      rw [classify_object nonempty parsed, if_neg rejected, errorResult_unknown_iff]
      exact ⟨content, fields, found, object, errorText_eq_unknown_iff.mpr reported⟩

/-- The flags are equal, or a call that reads has the same to report as one that
    does not; and where both read an accepted output, both clock readings are
    negative or neither is. -/
def Indifferent (lib : Libraries) (status : Int) (output : Text) (verbose verbose' : Bool)
    (nanoTime nanoTime' : Int) : Prop :=
  (verbose = verbose' ∨ output = [] ∨ ReportsUnknown lib output) ∧
    (verbose = false → verbose' = false → Accepted lib status output →
      (nanoTime < 0 ↔ nanoTime' < 0))

theorem call_visible {w : World} {stdout : Text} (exited : (w.node 0).process = .exited status stdout)
    (caller : RpcCaller) (payload : Text) (verbose : Bool) :
    visible ((call lib caller payload verbose).run w).1 =
      if verbose then some (false, none, some unknownError)
      else visible (classify lib caller (w.node 0).nanoTime status (outputOf false stdout)) := by
  rw [call_run, resultOf_exited exited]
  cases verbose with
  | false => rfl
  | true =>
      rw [outputOf_verbose, classify_nil]
      rfl

/-- What an accepted output shows depends on the sign of the clock. -/
theorem visible_accepted_eq_iff (accepted : Accepted lib status output) (nanoTime nanoTime' : Int) :
    visible (classify lib caller nanoTime status output) =
        visible (classify lib caller nanoTime' status output) ↔
      (nanoTime < 0 ↔ nanoTime' < 0) := by
  rw [visible_accepted accepted, visible_accepted accepted]
  by_cases negative : nanoTime < 0
  · by_cases negative' : nanoTime' < 0 <;> simp [negative, negative']
  · by_cases negative' : nanoTime' < 0 <;> simp [negative, negative']

/-- Two calls about which curl did the same have one outcome exactly if neither
    the flags nor the clock readings tell them apart. -/
theorem call_sameOutcome_iff {w w' : World} {stdout : Text}
    (exited : (w.node 0).process = .exited status stdout)
    (exited' : (w'.node 0).process = .exited status stdout)
    (caller : RpcCaller) (payload payload' : Text) (verbose verbose' : Bool) :
    SameOutcome ((call lib caller payload verbose).run w).1
        ((call lib caller payload' verbose').run w').1 ↔
      Indifferent lib status (outputOf false stdout) verbose verbose' (w.node 0).nanoTime
        (w'.node 0).nanoTime := by
  rw [SameOutcome, call_visible exited, call_visible exited', Indifferent]
  cases verbose with
  | true =>
      cases verbose' with
      | true => simp
      | false =>
          rw [eq_comm]
          simp [classify_unknown_iff]
  | false =>
      cases verbose' with
      | true => simp [classify_unknown_iff]
      | false =>
          by_cases accepted : Accepted lib status (outputOf false stdout)
          · simp [visible_accepted_eq_iff accepted, accepted]
          · simp [classify_of_not_accepted accepted (w.node 0).nanoTime (w'.node 0).nanoTime, accepted]

/-- Two readings of a clock that has not gone negative, on a response with a
    result. -/
theorem call_sameOutcome_result :
    SameOutcome
      ((call referenceLibraries ⟨"127.0.0.1".toList, "8545".toList⟩ [] false).run
        ⟨fun _ => ⟨0, .exited 0 (Json.print (.obj resultAnswer))⟩, [], none⟩).1
      ((call referenceLibraries ⟨"127.0.0.1".toList, "8545".toList⟩ [] false).run
        ⟨fun _ => ⟨1, .exited 0 (Json.print (.obj resultAnswer))⟩, [], none⟩).1 := by
  apply (call_sameOutcome_iff rfl rfl _ _ _ _ _).mpr
  refine ⟨.inl rfl, fun _ _ _ => ?_⟩
  exact iff_of_false (Int.not_lt.mpr (Int.le_refl 0)) (by simp)

/-- The same response is an answer at reading 0, throws at reading -1, and is an
    unknown error under the verbose flag. -/
theorem call_not_sameOutcome :
    (∃ w w' : World,
      (w.node 0).process = (w'.node 0).process ∧
      ¬ SameOutcome
        ((call referenceLibraries ⟨"127.0.0.1".toList, "8545".toList⟩ [] false).run w).1
        ((call referenceLibraries ⟨"127.0.0.1".toList, "8545".toList⟩ [] false).run w').1) ∧
    ∃ w : World,
      ¬ SameOutcome
        ((call referenceLibraries ⟨"127.0.0.1".toList, "8545".toList⟩ [] false).run w).1
        ((call referenceLibraries ⟨"127.0.0.1".toList, "8545".toList⟩ [] true).run w).1 := by
  let read (nanoTime : Int) : World :=
    ⟨fun _ => ⟨nanoTime, .exited 0 (Json.print (.obj resultAnswer))⟩, [], none⟩
  have object := ObjectRun.printed Reference.gson resultAnswer_wellFormed 0 0
  have accepted : Accepted referenceLibraries 0 (outputOf false (Json.print (.obj resultAnswer))) := by
    rw [show outputOf false (Json.print (.obj resultAnswer)) = Json.print (.obj resultAnswer) from
      (Json.print_oneLine _ resultAnswer_wellFormed).readAll]
    exact ⟨rfl, object.nonempty, resultAnswer, object.object, rfl⟩
  refine ⟨⟨read 0, read (-1), rfl, ?_⟩, read 0, ?_⟩
  · intro same
    rw [SameOutcome, call_visible rfl, call_visible rfl] at same
    simp only [Bool.false_eq_true, if_false] at same
    have signs := (visible_accepted_eq_iff accepted 0 (-1)).mp same
    simp at signs
  · intro same
    rw [SameOutcome, call_visible rfl, call_visible rfl] at same
    simp only [Bool.false_eq_true, if_false, if_true] at same
    have seen := (visible_accepted accepted).symm.trans same
    simp [read] at seen

end RpcCaller

end BlockSigner
