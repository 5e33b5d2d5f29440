import BlockSigner.Chain.Classification
import BlockSigner.Chain.Requests

/-! # What a method makes of an answer

The text a method returns comes from the `result` of an output that was
classified as a success; null comes from an unsuccessful response alone. The
attribute is looked up and read as a string without a test for null, so a
success without a result does not become a null but an exception.
-/

namespace BlockSigner

variable {lib : Libraries}

namespace RPC

variable {rpc : RPC} {run : CurlRun} {status : Int} {output : Text} {members : Json.Members}

theorem resultText_of_none {response : InternalRpcResult} (absent : response.output = none) :
    resultText lib response = .ok none := by
  simp only [resultText, absent]
  rfl

theorem resultText_object {response : InternalRpcResult} (present : response.output = some output)
    (object : lib.parse output = .ok (.obj members)) :
    resultText lib response =
      match Json.get members "result".toList with
      | none => .error ⟨.nullPointer, none⟩
      | some result => some <$> getAsString result := by
  simp only [resultText, present, object, getAsJsonObject, bind, Except.bind, pure, Except.pure]
  cases Json.get members "result".toList with
  | none => rfl
  | some result => rfl

/-- A run that carries a text: curl exited with status 0, and its output is an
    object without `error` whose `result` reads as that text. -/
structure CarriesText (lib : Libraries) (run : CurlRun) (text : Text) : Prop where
  clock : 0 ≤ run.nanoTime
  read : ∃ output members value, ObjectRun lib run 0 output members ∧
    Json.get members "error".toList = none ∧ Json.get members "result".toList = some value ∧
    getAsString value = .ok text

theorem answer_some {text : Text} (h : rpc.answer lib run = .ok (some text)) :
    CarriesText lib run text := by
  unfold answer at h
  cases returned : rpc.rpc.resultOf lib false run with
  | error e => rw [returned] at h; cases h
  | ok response =>
      rw [returned] at h
      change resultText lib response = .ok (some text) at h
      cases present : response.output with
      | none => rw [resultText_of_none present] at h; cases h
      | some output =>
          obtain ⟨members, object, noError, clock⟩ := RpcCaller.resultOf_output returned present
          rw [resultText_object present object.object] at h
          cases found : Json.get members "result".toList with
          | none => rw [found] at h; cases h
          | some value =>
              simp only [found] at h
              cases read : getAsString value with
              | error e => rw [read] at h; cases h
              | ok content =>
                  rw [read] at h
                  cases h
                  exact ⟨clock, output, members, value, object, noError, found, read⟩

/-- Such a run is read back as its text. -/
theorem CarriesText.answer {text : Text} (carried : CarriesText lib run text) (rpc : RPC) :
    rpc.answer lib run = .ok (some text) := by
  obtain ⟨clock, output, members, value, object, noError, found, read⟩ := carried
  have accepted : (0 : Int) = 0 ∧ Json.get members "error".toList = none := ⟨rfl, noError⟩
  have classified := RpcCaller.resultOf_object object rpc.rpc
  rw [if_pos accepted] at classified
  obtain ⟨response, making, _, present, _⟩ :=
    InternalRpcResult.successful_of_nonneg output clock .nanoseconds
  simp only [RPC.answer, classified, making]
  change resultText lib response = .ok (some text)
  rw [resultText_object present object.object, found]
  simp only [read]
  rfl

theorem decodeNullable_eq_some {text : Option Text} {bytes : Bytes}
    (h : decodeNullable text = .ok (some bytes)) :
    ∃ content, text = some content ∧ decodeHex content = .ok bytes := by
  cases text with
  | none => cases h
  | some content =>
      simp only [decodeNullable] at h
      cases decoded : decodeHex content with
      | error e => rw [decoded] at h; cases h
      | ok found =>
          rw [decoded] at h
          cases h
          exact ⟨content, rfl, decoded⟩

/-- Bytes returned by a method were carried, as hex, by the run it read. -/
theorem bytesAnswer_some {bytes : Bytes} (h : rpc.bytesAnswer lib run = .ok (some bytes)) :
    ∃ text, CarriesText lib run text ∧ decodeHex text = .ok bytes := by
  unfold bytesAnswer at h
  cases answered : rpc.answer lib run with
  | error e => rw [answered] at h; cases h
  | ok text =>
      rw [answered] at h
      obtain ⟨content, rfl, decoded⟩ := decodeNullable_eq_some h
      exact ⟨content, answer_some answered, decoded⟩

/-! ## An answer without a result -/

/-- Exit status 0 and an object without error content and without a result: the
    attribute is absent or null. -/
structure NoResult (lib : Libraries) (run : CurlRun) (members : Json.Members) : Prop where
  object : ∃ output, ObjectRun lib run 0 output members
  noErrorContent : (JsonStringParser.mk members).attributeToString "error".toList = none
  noResult : Json.get members "result".toList = none ∨
    Json.get members "result".toList = some .null

/-- An `error` attribute without content makes the response unsuccessful, and
    the method returns null. -/
theorem answer_of_error (answered : NoResult lib run members)
    (error : Json.has members "error".toList = true) : rpc.answer lib run = .ok none := by
  obtain ⟨output, object⟩ := answered.object
  obtain ⟨value, present⟩ := Json.has_iff.mp error
  have rejected : ¬ ((0 : Int) = 0 ∧ Json.get members "error".toList = none) := by
    rw [present]
    simp
  obtain ⟨response, making, success, _⟩ :=
    InternalRpcResult.unsuccessful_some (rpc.rpc.getCurlError 0)
  have returned : rpc.rpc.resultOf lib false run = .ok response := by
    rw [RpcCaller.resultOf_object object, if_neg rejected, RpcCaller.errorResult]
    simp only [answered.noErrorContent, making]
  simp only [answer, returned]
  apply resultText_of_none
  exact response.output_eq_none_iff.mpr success

/-- Without one the response is a success, and reading its result throws. -/
theorem answer_of_noError (rpc : RPC) (answered : NoResult lib run members)
    (noError : Json.has members "error".toList = false) : ∃ e, rpc.answer lib run = .error e := by
  obtain ⟨output, object⟩ := answered.object
  have absent : Json.get members "error".toList = none := by
    simpa only [Json.has, Option.isSome_eq_false_iff, Option.isNone_iff_eq_none] using noError
  have accepted : (0 : Int) = 0 ∧ Json.get members "error".toList = none := ⟨rfl, absent⟩
  have classified := RpcCaller.resultOf_object object rpc.rpc
  rw [if_pos accepted] at classified
  by_cases clock : 0 ≤ run.nanoTime
  · obtain ⟨response, making, _, carried, _⟩ :=
      InternalRpcResult.successful_of_nonneg output clock .nanoseconds
    have read := resultText_object carried object.object
    simp only [answer, classified, making]
    change ∃ e, resultText lib response = .error e
    rcases answered.noResult with missing | null
    · rw [missing] at read
      exact ⟨_, read⟩
    · rw [null] at read
      exact ⟨_, read⟩
  · rw [InternalRpcResult.successful_of_neg _ (Int.not_le.mp clock)] at classified
    simp only [answer, classified]
    exact ⟨_, rfl⟩

theorem answer_none_iff (rpc : RPC) (answered : NoResult lib run members) :
    rpc.answer lib run = .ok none ↔ Json.has members "error".toList = true := by
  cases error : Json.has members "error".toList with
  | true =>
      rw [answer_of_error answered error]
      simp
  | false =>
      obtain ⟨e, thrown⟩ := answer_of_noError rpc answered error
      rw [thrown]
      simp

theorem bytesAnswer_none_iff (rpc : RPC) (answered : NoResult lib run members) :
    rpc.bytesAnswer lib run = .ok none ↔ Json.has members "error".toList = true := by
  cases error : Json.has members "error".toList with
  | true =>
      rw [bytesAnswer, answer_of_error answered error]
      simp only [iff_true]
      rfl
  | false =>
      obtain ⟨e, thrown⟩ := answer_of_noError rpc answered error
      rw [bytesAnswer, thrown]
      simp only [Bool.false_eq_true, iff_false]
      intro returned
      cases returned

end RPC

/-! ## Runs that answer with a result -/

namespace Reference

/-- The run of curl that prints an object with this result. -/
def resultRun (result : Json) : CurlRun :=
  ⟨0, .exited 0 (Json.print (.obj [("result".toList, result)]))⟩

theorem resultRun_object {result : Json} (wellFormed : result.WellFormed) :
    ObjectRun referenceLibraries (resultRun result) 0
      (Json.print (.obj [("result".toList, result)])) [("result".toList, result)] := by
  have object : Json.WellFormed (.obj [("result".toList, result)]) :=
    ⟨List.nodup_singleton _, wellFormed, trivial⟩
  exact ObjectRun.printed gson object 0 0

theorem resultRun_carries (text : Text) :
    RPC.CarriesText referenceLibraries (resultRun (.str text)) text where
  clock := Int.le_refl 0
  read := ⟨_, _, _, resultRun_object trivial, by rw [Json.get_cons_ne (by simp), Json.get_nil],
    Json.get_cons_self _ _ _, rfl⟩

/-- The hex text of some bytes is answered with these bytes. -/
theorem resultRun_bytes (rpc : RPC) (bytes : Bytes) :
    rpc.bytesAnswer referenceLibraries (resultRun (.str (RpcCall.hexText bytes))) =
      .ok (some bytes) := by
  rw [RPC.bytesAnswer, (resultRun_carries _).answer rpc]
  change some <$> RPC.decodeHex (RpcCall.hexText bytes) = _
  rw [RpcCall.decodeHex_hexText]
  rfl

end Reference

end BlockSigner
