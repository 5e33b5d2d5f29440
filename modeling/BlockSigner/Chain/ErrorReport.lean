import BlockSigner.Chain.StringContent

/-! # How an explicit error is reported

The code takes the printed `error` value, strips it and reads what is left as an
object. For an object that gives the value back; a number, a boolean or an array
is read as itself and the cast to an object throws; a string goes through only
where it has no content or its escaped content is again the text of an object.
The text of an error object is the one documented unless it has to be escaped.
-/

namespace BlockSigner

variable {lib : Libraries}

namespace RpcCaller

open JsonStringParser (contentOf documentedContent VerbatimAt)

/-- The text the code takes from an error object. -/
def errorText (caller : RpcCaller) (status : Int) (fields : Json.Members) : Text :=
  match (JsonStringParser.mk fields).attributeToString "data".toList with
  | some data => data
  | none =>
      match (JsonStringParser.mk fields).attributeToString "message".toList with
      | some message => message
      | none => caller.getCurlError status

/-- The text documented for an error object: the content of its `data`, else that
    of its `message`, else the description of the exit status. -/
def documentedText (caller : RpcCaller) (status : Int) (fields : Json.Members) : Text :=
  match documentedContent fields "data".toList with
  | some data => data
  | none =>
      match documentedContent fields "message".toList with
      | some message => message
      | none => caller.getCurlError status

/-- An unsuccessful result with a text, which for an object is the documented one. -/
def ReportsError (caller : RpcCaller) (status : Int) (error : Json)
    (outcome : Except JavaException InternalRpcResult) : Prop :=
  ∃ result text, outcome = .ok result ∧ result.success = false ∧ result.error = some text ∧
    ∀ fields, error = .obj fields → text = caller.documentedText status fields

/-- The attribute an error object is reported with has nothing to escape in it. -/
def ReportedVerbatim (fields : Json.Members) : Prop :=
  VerbatimAt fields "data".toList ∧
    (documentedContent fields "data".toList = none → VerbatimAt fields "message".toList)

/-- The errors the code can report: an object without an escape in what is reported
    of it, or a string whose content, if it has any, reads as an object once it is
    escaped. -/
def Reportable (lib : Libraries) : Json → Prop
  | .obj fields => ReportedVerbatim fields
  | .str s => ∀ content, contentOf s = some content →
      ∃ fields, lib.parse (Json.escape content) = .ok (.obj fields)
  | _ => False

variable {caller : RpcCaller} {status : Int} {members : Json.Members} {error : Json}

theorem errorResult_of_noContent
    (noContent : (JsonStringParser.mk members).attributeToString "error".toList = none) :
    errorResult lib caller status ⟨members⟩ =
      InternalRpcResult.unsuccessful (some (caller.getCurlError status)) := by
  simp only [errorResult, noContent]

/-- Where the content of `error` reads as an object, its text is returned. -/
theorem errorResult_of_object {content : Text} {fields : Json.Members}
    (found : (JsonStringParser.mk members).attributeToString "error".toList = some content)
    (read : JsonStringParser.new lib (some content) = .ok ⟨fields⟩) :
    errorResult lib caller status ⟨members⟩ =
      InternalRpcResult.unsuccessful (some (caller.errorText status fields)) := by
  simp only [errorResult, found, read, bind, Except.bind, errorText]
  cases (JsonStringParser.mk fields).attributeToString "data".toList with
  | some data => simp
  | none =>
      cases (JsonStringParser.mk fields).attributeToString "message".toList with
      | some message => simp
      | none => simp

theorem errorResult_of_unreadable {content : Text} {e : JavaException}
    (found : (JsonStringParser.mk members).attributeToString "error".toList = some content)
    (unread : JsonStringParser.new lib (some content) = .error e) :
    errorResult lib caller status ⟨members⟩ = .error e := by
  simp only [errorResult, found, unread]
  rfl

/-- The content of an error that is no string and not null is its own text. -/
theorem attributeToString_plain (wellFormed : error.WellFormed)
    (found : Json.get members "error".toList = some error) (notNull : error ≠ .null)
    (notString : ∀ s, error ≠ .str s) :
    (JsonStringParser.mk members).attributeToString "error".toList = some error.print := by
  rw [JsonStringParser.attributeToString_element wellFormed found notString]
  cases error with
  | null => exact absurd rfl notNull
  | str s => exact absurd rfl (notString s)
  | _ => rfl

theorem new_print (gson : GsonContract lib) (wellFormed : error.WellFormed) :
    JsonStringParser.new lib (some error.print) =
      match error with
      | .obj fields => .ok ⟨fields⟩
      | _ => .error ⟨.classCast, none⟩ := by
  rw [JsonStringParser.new_of_ne_nil (Json.print_ne_nil wellFormed), gson.parse_print wellFormed]
  cases error <;> rfl

theorem reports_obj (gson : GsonContract lib) {fields : Json.Members}
    (wellFormed : Json.WellFormed (.obj fields))
    (found : Json.get members "error".toList = some (.obj fields)) :
    errorResult lib caller status ⟨members⟩ =
      InternalRpcResult.unsuccessful (some (caller.errorText status fields)) := by
  apply errorResult_of_object
  · exact attributeToString_plain wellFormed found (by simp) (by simp)
  · rw [new_print gson wellFormed]

/-- A number, a boolean or an array makes the cast throw. -/
theorem throws_classCast (gson : GsonContract lib) (wellFormed : error.WellFormed)
    (found : Json.get members "error".toList = some error) (notNull : error ≠ .null)
    (notString : ∀ s, error ≠ .str s) (notObject : ∀ fields, error ≠ .obj fields) :
    errorResult lib caller status ⟨members⟩ = .error ⟨.classCast, none⟩ := by
  apply errorResult_of_unreadable
  · exact attributeToString_plain wellFormed found notNull notString
  · rw [new_print gson wellFormed]
    cases error with
    | obj fields => exact absurd rfl (notObject fields)
    | _ => rfl

/-- A string is reported exactly when it has no content or reads as an object. -/
theorem reports_str_iff (caller : RpcCaller) (status : Int) {s : Text}
    (found : Json.get members "error".toList = some (.str s)) :
    (∃ result, errorResult lib caller status ⟨members⟩ = .ok result) ↔
      Reportable lib (.str s) := by
  have returned : (JsonStringParser.mk members).attributeToString "error".toList =
      (contentOf s).map Json.escape := JsonStringParser.attributeToString_str found
  cases content : contentOf s with
  | none =>
      rw [content] at returned
      refine iff_of_true ⟨_, errorResult_of_noContent returned⟩ ?_
      intro other present
      rw [content] at present
      cases present
  | some text =>
      rw [content] at returned
      constructor
      · intro ⟨result, reported⟩ other present
        rw [content] at present
        cases present
        cases read : JsonStringParser.new lib (some (Json.escape text)) with
        | error e =>
            rw [errorResult_of_unreadable returned read] at reported
            cases reported
        | ok parser => exact ⟨_, (JsonStringParser.new_eq_ok read).2⟩
      · intro readable
        obtain ⟨fields, parsed⟩ := readable text content
        have nonempty : Json.escape text ≠ [] :=
          JsonStringParser.attributeToString_ne_nil returned
        have read := JsonStringParser.new_of_object nonempty parsed
        exact ⟨_, errorResult_of_object returned read⟩

/-- What is reported of an error object is what is documented unless something is
    escaped in it. -/
theorem errorText_eq_documentedText_iff {fields : Json.Members}
    (wellFormed : Json.WellFormed (.obj fields)) (caller : RpcCaller) (status : Int) :
    caller.errorText status fields = caller.documentedText status fields ↔
      ReportedVerbatim fields := by
  obtain ⟨noData, sameData⟩ := JsonStringParser.attributeToString_documented wellFormed "data".toList
  obtain ⟨noMessage, sameMessage⟩ :=
    JsonStringParser.attributeToString_documented wellFormed "message".toList
  unfold errorText documentedText ReportedVerbatim
  rw [← sameData, ← sameMessage]
  clear sameData sameMessage
  -- of the two readings of an attribute only this is left: both find content or neither
  generalize (JsonStringParser.mk fields).attributeToString "data".toList = data at noData ⊢
  generalize documentedContent fields "data".toList = data' at noData ⊢
  generalize (JsonStringParser.mk fields).attributeToString "message".toList = message
    at noMessage ⊢
  generalize documentedContent fields "message".toList = message' at noMessage ⊢
  cases data with
  | some data =>
      cases data' with
      | none => cases noData.mpr rfl
      | some content => simp
  | none =>
      cases noData.mp rfl
      cases message with
      | some message =>
          cases message' with
          | none => cases noMessage.mpr rfl
          | some content => simp
      | none =>
          cases noMessage.mp rfl
          simp

theorem reports_unsuccessful {outcome : Except JavaException InternalRpcResult}
    {result : InternalRpcResult} (returned : outcome = .ok result)
    (success : result.success = false) (notObject : ∀ fields, error ≠ .obj fields) :
    ReportsError caller status error outcome := by
  have reported : result.error.isSome = true := by
    rcases result.consistent with ⟨succeeded, _⟩ | ⟨_, _, error, _⟩
    · rw [succeeded] at success; cases success
    · exact error
  obtain ⟨text, present⟩ := Option.isSome_iff_exists.mp reported
  exact ⟨result, text, returned, success, present, fun fields same => absurd same (notObject fields)⟩

/-- An explicit error is reported as documented exactly when it is reportable: from
    any other `call` throws, or the text of an object comes back escaped. -/
theorem call_reportsError_iff (gson : GsonContract lib) {w : World} {output : Text}
    (object : ObjectRun lib (w.node 0) status output members)
    (explicit : Json.get members "error".toList = some error) (notNull : error ≠ .null)
    (caller : RpcCaller) (payload : Text) :
    ReportsError caller status error ((call lib caller payload false).run w).1 ↔
      Reportable lib error := by
  have wellFormed : error.WellFormed := (gson.wellFormed object.object).get explicit
  have present : ¬ (status = 0 ∧ Json.get members "error".toList = none) := by
    rw [explicit]
    simp
  rw [call_run, resultOf_object object, if_neg present]
  cases error with
  | null => exact absurd rfl notNull
  | obj fields =>
      rw [reports_obj gson wellFormed explicit]
      constructor
      · rintro ⟨_, text, returned, _, reported, documented⟩
        cases returned
        cases reported
        exact (errorText_eq_documentedText_iff wellFormed caller status).mp (documented fields rfl)
      · intro verbatim
        refine ⟨_, caller.errorText status fields, rfl, rfl, rfl, ?_⟩
        intro fields' same
        cases same
        exact (errorText_eq_documentedText_iff wellFormed caller status).mpr verbatim
  | str s =>
      rw [← reports_str_iff caller status explicit]
      constructor
      · intro ⟨result, _, returned, _⟩
        exact ⟨result, returned⟩
      · intro ⟨result, returned⟩
        exact reports_unsuccessful returned (errorResult_eq_ok returned) (by simp)
  | _ =>
      rw [throws_classCast gson wellFormed explicit notNull (by simp) (by simp)]
      constructor
      · intro ⟨_, _, returned, _⟩
        cases returned
      · intro readable
        cases readable

/-- An error object in the form of the Aion node. -/
def errorAnswer : Json.Members :=
  [("error".toList, .obj [("code".toList, .num "-32000".toList),
    ("message".toList, .str "no block".toList)])]

theorem errorAnswer_wellFormed : Json.WellFormed (.obj errorAnswer) := by
  have digits : Json.Digits "2000".toList := by simp [Json.Digits]
  have code : Json.Number "-32000".toList :=
    .mk (.inr rfl) (.nonzero (d := '3') rfl (by simp) digits) .absent .absent
  exact ⟨by decide, ⟨by simp, code, trivial, trivial⟩, trivial⟩

theorem errorAnswer_verbatim :
    ReportedVerbatim [("code".toList, .num "-32000".toList),
      ("message".toList, .str "no block".toList)] := by
  constructor
  · intro s found
    simp [Json.get] at found
  · intro _ s found
    simp only [Json.get] at found
    cases found
    exact Json.escape_eq_iff.mp rfl

theorem call_reports_errorAnswer :
    ReportsError ⟨"127.0.0.1".toList, "8545".toList⟩ 0
      (.obj [("code".toList, .num "-32000".toList), ("message".toList, .str "no block".toList)])
      ((call referenceLibraries ⟨"127.0.0.1".toList, "8545".toList⟩ [] false).run
        ⟨fun _ => ⟨0, .exited 0 (Json.print (.obj errorAnswer))⟩, [], none⟩).1 :=
  (call_reportsError_iff Reference.gson
    (w := ⟨fun _ => ⟨0, .exited 0 (Json.print (.obj errorAnswer))⟩, [], none⟩)
    (ObjectRun.printed Reference.gson errorAnswer_wellFormed 0 0) rfl (by simp) _ _).mpr
    errorAnswer_verbatim

/-- An error that is a boolean. -/
def booleanErrorAnswer : Json.Members := [("error".toList, .bool true)]

theorem booleanErrorAnswer_wellFormed : Json.WellFormed (.obj booleanErrorAnswer) :=
  ⟨by decide, trivial, trivial⟩

/-- An error whose message has quotation marks in it. -/
def quotedError : Json.Members := [("message".toList, .str "bad \"nonce\"".toList)]

def quotedErrorAnswer : Json.Members := [("error".toList, .obj quotedError)]

theorem quotedErrorAnswer_wellFormed : Json.WellFormed (.obj quotedErrorAnswer) :=
  ⟨by decide, ⟨by decide, trivial, trivial⟩, trivial⟩

theorem quotedError_not_verbatim : ¬ ReportedVerbatim quotedError := by
  intro verbatim
  have noData : documentedContent quotedError "data".toList = none := rfl
  have message : Json.get quotedError "message".toList = some (.str "bad \"nonce\"".toList) := rfl
  have kept : Json.Kept '"' := verbatim.2 noData _ message '"' (by decide)
  exact kept.1 rfl

/-- A boolean error is thrown over, and of a message with quotation marks the
    escaped text is reported. -/
theorem call_error_not_reported :
    (∃ w : World,
      ObjectRun referenceLibraries (w.node 0) 0 (Json.print (.obj booleanErrorAnswer))
        booleanErrorAnswer ∧
      Json.get booleanErrorAnswer "error".toList = some (.bool true) ∧
      ¬ ReportsError ⟨"127.0.0.1".toList, "8545".toList⟩ 0 (.bool true)
        ((call referenceLibraries ⟨"127.0.0.1".toList, "8545".toList⟩ [] false).run w).1) ∧
    ∃ w : World,
      ObjectRun referenceLibraries (w.node 0) 0 (Json.print (.obj quotedErrorAnswer))
        quotedErrorAnswer ∧
      Json.get quotedErrorAnswer "error".toList = some (.obj quotedError) ∧
      ¬ ReportsError ⟨"127.0.0.1".toList, "8545".toList⟩ 0 (.obj quotedError)
        ((call referenceLibraries ⟨"127.0.0.1".toList, "8545".toList⟩ [] false).run w).1 := by
  let printed (members : Json.Members) : World :=
    ⟨fun _ => ⟨0, .exited 0 (Json.print (.obj members))⟩, [], none⟩
  constructor
  · have object := ObjectRun.printed Reference.gson booleanErrorAnswer_wellFormed 0 0
    have explicit : Json.get booleanErrorAnswer "error".toList = some (.bool true) := rfl
    refine ⟨printed booleanErrorAnswer, object, explicit, ?_⟩
    have boolean : Json.WellFormed (.bool true) := trivial
    have thrown : ∀ caller, errorResult referenceLibraries caller 0 ⟨booleanErrorAnswer⟩ =
        .error ⟨.classCast, none⟩ :=
      fun caller => throws_classCast Reference.gson boolean explicit (by simp) (by simp) (by simp)
    intro ⟨_, _, returned, _⟩
    rw [call_run, resultOf_object object, explicit, if_neg (by simp), thrown] at returned
    cases returned
  · have object := ObjectRun.printed Reference.gson quotedErrorAnswer_wellFormed 0 0
    have explicit : Json.get quotedErrorAnswer "error".toList = some (.obj quotedError) := rfl
    refine ⟨printed quotedErrorAnswer, object, explicit, ?_⟩
    have wellFormed : Json.WellFormed (.obj quotedError) :=
      (Reference.gson.wellFormed object.object).get explicit
    intro ⟨_, text, returned, _, reported, documented⟩
    rw [call_run, resultOf_object object, explicit, if_neg (by simp),
      reports_obj Reference.gson wellFormed explicit] at returned
    cases returned
    cases reported
    have same := documented quotedError rfl
    exact quotedError_not_verbatim ((errorText_eq_documentedText_iff wellFormed _ _).mp same)

end RpcCaller

end BlockSigner
