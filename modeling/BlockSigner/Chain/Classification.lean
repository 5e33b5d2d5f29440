import BlockSigner.Chain.RPC
import BlockSigner.Json.Compact
import BlockSigner.Reference

/-! # What a finished call is classified as

A run of curl whose output is a JSON object is either a success or an error, and
the two branches are inverted here once: a response with an output comes from
exit status 0, an object without `error` and a clock that is not negative. From
there follow the exact conditions under which the classification is the one that
the comments of `RpcCaller.call` announce.
-/

namespace BlockSigner

variable {lib : Libraries}

/-- curl exited, and the lines of its output join to a JSON object. -/
structure ObjectRun (lib : Libraries) (run : CurlRun) (status : Int) (output : Text)
    (members : Json.Members) : Prop where
  exited : ∃ stdout, run.process = .exited status stdout ∧ Text.readAll stdout = output
  nonempty : output ≠ []
  object : lib.parse output = .ok (.obj members)

/-- The compact text of an object, written to the output by curl. -/
theorem ObjectRun.printed (gson : GsonContract lib) {members : Json.Members}
    (wellFormed : Json.WellFormed (.obj members)) (nanoTime status : Int) :
    ObjectRun lib ⟨nanoTime, .exited status (Json.print (.obj members))⟩ status
      (Json.print (.obj members)) members where
  exited := ⟨_, rfl, (Json.print_oneLine _ wellFormed).readAll⟩
  nonempty := Json.print_ne_nil wellFormed
  object := gson.parse_print wellFormed

/-! ## Reading an object -/

namespace JsonStringParser

theorem new_of_ne_nil {text : Text} (nonempty : text ≠ []) :
    new lib (some text) =
      match lib.parse text with
      | .error e => .error e
      | .ok (.obj members) => .ok ⟨members⟩
      | .ok _ => .error ⟨.classCast, none⟩ := by
  cases text with
  | nil => exact absurd rfl nonempty
  | cons c text => rfl

theorem new_of_object {text : Text} {members : Json.Members} (nonempty : text ≠ [])
    (object : lib.parse text = .ok (.obj members)) : new lib (some text) = .ok ⟨members⟩ := by
  simp only [new_of_ne_nil nonempty, object]

theorem new_eq_ok {text : Text} {parser : JsonStringParser} (h : new lib (some text) = .ok parser) :
    text ≠ [] ∧ lib.parse text = .ok (.obj parser.stringAsJson) := by
  cases text with
  | nil => cases h
  | cons c text =>
      rw [new_of_ne_nil (List.cons_ne_nil c text)] at h
      refine ⟨List.cons_ne_nil c text, ?_⟩
      cases parsed : lib.parse (c :: text) with
      | error e => rw [parsed] at h; cases h
      | ok value =>
          rw [parsed] at h
          cases value with
          | obj members => cases h; rfl
          | _ => cases h

/-- An empty text and the text `null` count as no content. -/
theorem attributeToString_missing {parser : JsonStringParser} {name : Text} {value : Json}
    (found : Json.get parser.stringAsJson name = some value)
    (missing : cleanElement value.print = [] ∨ cleanElement value.print = "null".toList) :
    parser.attributeToString name = none := by
  simp only [attributeToString, found]
  exact if_pos missing

theorem attributeToString_content {parser : JsonStringParser} {name : Text} {value : Json}
    (found : Json.get parser.stringAsJson name = some value)
    (content : ¬ (cleanElement value.print = [] ∨ cleanElement value.print = "null".toList)) :
    parser.attributeToString name = some (cleanElement value.print) := by
  simp only [attributeToString, found]
  exact if_neg content

theorem attributeToString_ne_nil {parser : JsonStringParser} {name content : Text}
    (found : parser.attributeToString name = some content) : content ≠ [] := by
  unfold attributeToString at found
  cases present : Json.get parser.stringAsJson name with
  | none =>
      rw [present] at found
      cases found
  | some value =>
      simp only [present] at found
      split at found
      · cases found
      · next kept =>
          cases found
          exact fun empty => kept (.inl empty)

/-- Nothing is stripped from a text without quotation marks at its ends and
    without a leading `0x`. -/
theorem cleanElement_of_bare {text : Text} (opening : ¬ ['"'] <+: text)
    (closing : ¬ ['"'] <:+ text) (hex : ¬ "0x".toList <+: text) : cleanElement text = text := by
  have kept : Text.dropSuffix ['"'] text = text := by
    simp only [Text.dropSuffix, List.isSuffixOf_iff_suffix, closing, if_false]
  rw [cleanElement, Text.dropPrefix_of_absent opening, kept, Text.dropPrefix_of_absent hex]

end JsonStringParser

/-! ## The error branch never succeeds -/

namespace InternalRpcResult

theorem unsuccessful_some (error : Text) :
    ∃ result, unsuccessful (some error) = .ok result ∧ result.success = false ∧
      result.error = some error :=
  ⟨_, rfl, rfl, rfl⟩

theorem unsuccessful_eq_ok {error : Option Text} {result : InternalRpcResult}
    (h : unsuccessful error = .ok result) : result.success = false := by
  cases error with
  | none => cases h
  | some error => cases h; rfl

end InternalRpcResult

namespace RpcCaller

theorem errorResult_eq_ok {caller : RpcCaller} {status : Int} {parser : JsonStringParser}
    {result : InternalRpcResult} (h : errorResult lib caller status parser = .ok result) :
    result.success = false := by
  unfold errorResult at h
  split at h
  · exact InternalRpcResult.unsuccessful_eq_ok h
  · next error _ =>
      cases read : JsonStringParser.new lib (some error) with
      | error e => rw [read] at h; cases h
      | ok errorParser =>
          rw [read] at h
          exact InternalRpcResult.unsuccessful_eq_ok h

/-! ## The two branches of an object -/

theorem resultOf_object {run : CurlRun} {status : Int} {output : Text} {members : Json.Members}
    (object : ObjectRun lib run status output members) (caller : RpcCaller) :
    resultOf lib caller false run =
      if status = 0 ∧ Json.get members "error".toList = none then
        InternalRpcResult.successful (some output) run.nanoTime (some .nanoseconds)
      else errorResult lib caller status ⟨members⟩ := by
  obtain ⟨stdout, process, rfl⟩ := object.exited
  simp only [resultOf, process, classify, object.nonempty, if_false, Bool.false_eq_true,
    JsonStringParser.new_of_object object.nonempty object.object, JsonStringParser.hasAttribute,
    Json.has, Option.isSome_eq_false_iff, Option.isNone_iff_eq_none]

/-- A response with an output: everything that had to go well. -/
theorem resultOf_output {caller : RpcCaller} {run : CurlRun} {result : InternalRpcResult}
    {output : Text} (h : resultOf lib caller false run = .ok result)
    (present : result.output = some output) :
    ∃ members, ObjectRun lib run 0 output members ∧
      Json.get members "error".toList = none ∧ 0 ≤ run.nanoTime := by
  have succeeded : result.success = true := by
    cases success : result.success with
    | true => rfl
    | false => rw [result.output_eq_none_iff.mpr success] at present; cases present
  cases process : run.process with
  | raised e =>
      simp only [resultOf, process] at h
      split at h
      · rw [InternalRpcResult.unsuccessful_eq_ok h] at succeeded
        cases succeeded
      · cases h
  | exited status stdout =>
      by_cases nonempty : Text.readAll stdout = []
      · simp only [resultOf, process, classify, nonempty, if_true, Bool.false_eq_true,
          if_false] at h
        rw [InternalRpcResult.unsuccessful_eq_ok h] at succeeded
        cases succeeded
      · cases read : JsonStringParser.new lib (some (Text.readAll stdout)) with
        | error e =>
            simp only [resultOf, process, classify, nonempty, if_false, Bool.false_eq_true,
              read] at h
            split at h <;> cases h
        | ok parser =>
            have parsed := (JsonStringParser.new_eq_ok read).2
            have object : ObjectRun lib run status (Text.readAll stdout) parser.stringAsJson :=
              ⟨⟨stdout, process, rfl⟩, nonempty, parsed⟩
            rw [resultOf_object object] at h
            split at h
            · next accepted =>
                obtain ⟨rfl, absent⟩ := accepted
                by_cases clock : 0 ≤ run.nanoTime
                · obtain ⟨made, making, _, carried, _⟩ :=
                    InternalRpcResult.successful_of_nonneg (Text.readAll stdout) clock .nanoseconds
                  rw [making] at h
                  cases h
                  rw [carried] at present
                  cases present
                  exact ⟨_, object, absent, clock⟩
                · rw [InternalRpcResult.successful_of_neg _ (Int.not_le.mp clock)] at h
                  cases h
            · rw [errorResult_eq_ok h] at succeeded
              cases succeeded

/-! ## Documented success -/

/-- The outcome is a successful result that carries the output. -/
def ReturnsSuccess (outcome : Except JavaException InternalRpcResult) (output : Text) : Prop :=
  ∃ result, outcome = .ok result ∧ result.success = true ∧ result.output = some output

/-- The comment in `call`: curl exited successfully, and its output contains no
    `error` content and does contain a `result`. -/
def DocumentedSuccess (status : Int) (members : Json.Members) : Prop :=
  status = 0 ∧
    (Json.get members "error".toList = none ∨ Json.get members "error".toList = some .null) ∧
    Json.has members "result".toList = true

/-- Success exactly where it is documented, and no other outcome is a success. -/
def ClassifiedAsDocumented (outcome : Except JavaException InternalRpcResult) (status : Int)
    (output : Text) (members : Json.Members) : Prop :=
  (ReturnsSuccess outcome output ↔ DocumentedSuccess status members) ∧
    (¬ DocumentedSuccess status members →
      ∀ result, outcome = .ok result → result.success = false)

variable {run : CurlRun} {status : Int} {output : Text} {members : Json.Members}

/-- What decides in the code: exit status 0 and no `error` attribute. -/
theorem returnsSuccess_iff (object : ObjectRun lib run status output members)
    (clock : 0 ≤ run.nanoTime) (caller : RpcCaller) :
    ReturnsSuccess (resultOf lib caller false run) output ↔
      status = 0 ∧ Json.get members "error".toList = none := by
  rw [resultOf_object object]
  constructor
  · intro ⟨result, returned, success, _⟩
    split at returned
    · next accepted => exact accepted
    · rw [errorResult_eq_ok returned] at success
      cases success
  · intro accepted
    obtain ⟨result, making, success, carried, _⟩ :=
      InternalRpcResult.successful_of_nonneg output clock .nanoseconds
    exact ⟨result, by rw [if_pos accepted, making], success, carried⟩

theorem not_success_of_not_accepted (object : ObjectRun lib run status output members)
    (caller : RpcCaller)
    (rejected : ¬ (status = 0 ∧ Json.get members "error".toList = none)) :
    ∀ result, resultOf lib caller false run = .ok result → result.success = false := by
  intro result returned
  rw [resultOf_object object, if_neg rejected] at returned
  exact errorResult_eq_ok returned

/-- The classification is the documented one unless exit status 0 comes with
    neither attribute, or with a null `error` beside a `result`. -/
theorem call_classifiedAsDocumented_iff {w : World}
    (object : ObjectRun lib (w.node 0) status output members) (clock : 0 ≤ (w.node 0).nanoTime)
    (caller : RpcCaller) (payload : Text) :
    ClassifiedAsDocumented ((call lib caller payload false).run w).1 status output members ↔
      (status = 0 →
        Json.get members "error".toList = none ∨ Json.get members "error".toList = some .null →
        (Json.get members "error".toList = none ↔ Json.has members "result".toList = true)) := by
  have decided := returnsSuccess_iff object clock caller
  rw [call_run, ClassifiedAsDocumented, decided, DocumentedSuccess]
  constructor
  · intro ⟨agrees, _⟩ exited noContent
    constructor
    · intro absent
      exact (agrees.mp ⟨exited, absent⟩).2.2
    · intro result
      exact (agrees.mpr ⟨exited, noContent, result⟩).2
  · intro condition
    have agrees : status = 0 ∧ Json.get members "error".toList = none ↔
        status = 0 ∧
          (Json.get members "error".toList = none ∨
            Json.get members "error".toList = some .null) ∧
          Json.has members "result".toList = true := by
      constructor
      · intro ⟨exited, absent⟩
        exact ⟨exited, .inl absent, (condition exited (.inl absent)).mp absent⟩
      · intro ⟨exited, noContent, result⟩
        exact ⟨exited, (condition exited noContent).mpr result⟩
    refine ⟨agrees, ?_⟩
    intro undocumented
    apply not_success_of_not_accepted object caller
    intro accepted
    exact undocumented (agrees.mp accepted)

def resultAnswer : Json.Members := [("result".toList, .str "0x01".toList)]

theorem resultAnswer_wellFormed : Json.WellFormed (.obj resultAnswer) :=
  ⟨by decide, trivial, trivial⟩

theorem call_result_classifiedAsDocumented :
    ClassifiedAsDocumented
      ((call referenceLibraries ⟨"127.0.0.1".toList, "8545".toList⟩ [] false).run
        ⟨fun _ => ⟨0, .exited 0 (Json.print (.obj resultAnswer))⟩, [], none⟩).1 0
      (Json.print (.obj resultAnswer)) resultAnswer :=
  (call_classifiedAsDocumented_iff
    (w := ⟨fun _ => ⟨0, .exited 0 (Json.print (.obj resultAnswer))⟩, [], none⟩)
    (ObjectRun.printed Reference.gson resultAnswer_wellFormed 0 0) (Int.le_refl 0) _ _).mpr
    (fun _ _ => ⟨fun _ => rfl, fun _ => rfl⟩)

/-- A null `error` beside a `result`, as some nodes answer. -/
def nullErrorAnswer : Json.Members :=
  [("error".toList, .null), ("result".toList, .str "0x01".toList)]

theorem nullErrorAnswer_wellFormed : Json.WellFormed (.obj nullErrorAnswer) :=
  ⟨by decide, trivial, trivial, trivial⟩

theorem call_nullError_not_documented :
    ∃ w : World,
      ObjectRun referenceLibraries (w.node 0) 0 (Json.print (.obj nullErrorAnswer))
        nullErrorAnswer ∧
      0 ≤ (w.node 0).nanoTime ∧
      ¬ ClassifiedAsDocumented
        ((call referenceLibraries ⟨"127.0.0.1".toList, "8545".toList⟩ [] false).run w).1 0
        (Json.print (.obj nullErrorAnswer)) nullErrorAnswer := by
  let answered : CurlRun := ⟨0, .exited 0 (Json.print (.obj nullErrorAnswer))⟩
  have object := ObjectRun.printed Reference.gson nullErrorAnswer_wellFormed 0 0
  refine ⟨⟨fun _ => answered, [], none⟩, object, Int.le_refl 0, ?_⟩
  intro ⟨agrees, _⟩
  have accepted := agrees.mpr ⟨rfl, .inr rfl, rfl⟩
  rw [call_run] at accepted
  have absent := ((returnsSuccess_iff object (Int.le_refl 0) _).mp accepted).2
  cases absent

end RpcCaller

end BlockSigner
