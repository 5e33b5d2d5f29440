import BlockSigner.Submission

/-! # Answers without a result

The loop tests what getseed, submitseed and submitsignature return for null. An
answer without a result reaches that test only where its object has an `error`
attribute; otherwise reading the result throws, and the iteration ends in the
handler.
-/

namespace BlockSigner

variable {lib : Libraries}

/-! ## The branches in terms of the answers -/

namespace Pass

variable {signer : Signer lib} {last : Option Bytes} {turn : Turn}
  {calls : List (Text × CurlRun)} {branch : Branch} {after : Option Bytes}

theorem noSeed_iff (pass : Pass signer last turn calls branch after) :
    branch = .noSeed ↔ signer.derivedSeed (turn 0) = .ok none := by
  cases pass with
  | noSeed derived => simp [derived]
  | seedFailed derived | submitSeedFailed derived _ | noBlock derived _
  | alreadySubmitted derived _ _ | signFailed derived _ _ _ | submitSignatureFailed derived _ _ _ _
  | notAccepted derived _ _ _ _ _ | submitted derived _ _ _ _ _ => simp [derived]

theorem noBlock_iff (pass : Pass signer last turn calls branch after) (offered : 2 ≤ calls.length) :
    branch = .noBlock ↔ signer.rpc.bytesAnswer lib (turn 1) = .ok none := by
  cases pass with
  | seedFailed _ | noSeed _ => simp at offered
  | noBlock _ answered => simp [answered]
  | submitSeedFailed _ answered | alreadySubmitted _ answered _ | signFailed _ answered _ _
  | submitSignatureFailed _ answered _ _ _ | notAccepted _ answered _ _ _ _
  | submitted _ answered _ _ _ _ => simp [answered]

theorem notAccepted_iff (pass : Pass signer last turn calls branch after)
    (sent : 3 ≤ calls.length) :
    branch = .notAccepted ↔
      ∃ text, signer.rpc.answer lib (turn 2) = .ok text ∧ parseBoolean text = false := by
  cases pass with
  | seedFailed _ | noSeed _ | submitSeedFailed _ _ | noBlock _ _ | alreadySubmitted _ _ _
  | signFailed _ _ _ _ => simp at sent
  | submitSignatureFailed _ _ _ _ replied => simp [replied]
  | notAccepted _ _ _ _ replied refused => simp [replied, refused]
  | submitted _ _ _ _ replied accepted => simp [replied, accepted]

end Pass

/-! ## Null results -/

/-- Each of the four methods returns null and throws nothing. -/
def MethodsReturnNull (lib : Libraries) (rpc : RPC) (w : World) : Prop :=
  ((rpc.getSeed lib).run w).1 = .ok none ∧
  (∀ seed publicKey coinbase,
    ((rpc.submitSeed lib seed publicKey coinbase).run w).1 = .ok none) ∧
  (∀ signature blockHash, ((rpc.submitSignature lib signature blockHash).run w).1 = .ok none) ∧
  ∀ tx, ((rpc.call lib tx).run w).1 = .ok none

theorem methodsReturnNull_iff (rpc : RPC) {w : World} {members : Json.Members}
    (answered : RPC.NoResult lib (w.node 0) members) :
    MethodsReturnNull lib rpc w ↔ Json.has members "error".toList = true := by
  simp only [MethodsReturnNull, RPC.getSeed_run, RPC.submitSeed_run, RPC.submitSignature_run,
    RPC.call_run, RPC.bytesAnswer_none_iff _ answered, RPC.answer_none_iff _ answered]
  constructor
  · intro ⟨error, _⟩
    exact error
  · intro error
    exact ⟨error, fun _ _ _ => error, fun _ _ => error, fun _ => error⟩

/-- The branch the loop has for a null from this call. -/
def TakesNullBranch (iteration : Iteration) (call : Text × CurlRun) : Prop :=
  match RpcCall.decode call.1 with
  | some .getSeed => iteration.exit = .ok .noSeed
  | some (.submitSeed ..) => iteration.exit = .ok .noBlock
  | some (.submitSignature ..) => iteration.exit = .ok .notAccepted
  | _ => False

/-- An old seed that is null gives no seed, and a getseed that throws none either. -/
theorem derivedSeed_none_iff {signer : Signer lib} {answer : CurlRun} {members : Json.Members}
    (answered : RPC.NoResult lib answer members) :
    signer.derivedSeed answer = .ok none ↔ Json.has members "error".toList = true := by
  rw [← RPC.bytesAnswer_none_iff signer.rpc answered]
  cases error : Json.has members "error".toList with
  | true =>
      have null := (RPC.bytesAnswer_none_iff signer.rpc answered).mpr error
      rw [Signer.derivedSeed, null]
      simp only [iff_true]
      rfl
  | false =>
      obtain ⟨e, thrown⟩ := RPC.answer_of_noError signer.rpc answered error
      have failed : signer.rpc.bytesAnswer lib answer = .error e := by
        rw [RPC.bytesAnswer, thrown]
        rfl
      rw [Signer.derivedSeed, failed]
      constructor <;> intro returned <;> cases returned

theorem takesNullBranch_iff {signer : Signer lib} {turns : List Turn} {iteration : Iteration}
    (member : iteration ∈ run signer turns) {call : Text × CurlRun}
    (made : call ∈ iteration.calls) {members : Json.Members}
    (answered : RPC.NoResult lib call.2 members) :
    TakesNullBranch iteration call ↔ Json.has members "error".toList = true := by
  obtain ⟨turn, branch, exit, pass⟩ := run_pass member
  rcases pass.mem_calls made with rfl | ⟨seed, rfl, offered⟩ | ⟨signature, blockHash, rfl, sent⟩
  · simp only [TakesNullBranch, decode_getSeedPayload, exit, Except.ok.injEq]
    rw [pass.noSeed_iff, derivedSeed_none_iff answered]
  · simp only [TakesNullBranch, decode_submitSeedPayload, exit, Except.ok.injEq]
    rw [pass.noBlock_iff offered, RPC.bytesAnswer_none_iff _ answered]
  · simp only [TakesNullBranch, decode_submitSignaturePayload, exit, Except.ok.injEq]
    rw [pass.notAccepted_iff sent, ← RPC.answer_none_iff signer.rpc answered]
    cases error : Json.has members "error".toList with
    | true =>
        have null := (RPC.answer_none_iff signer.rpc answered).mpr error
        simp [null, parseBoolean]
    | false =>
        obtain ⟨e, thrown⟩ := RPC.answer_of_noError signer.rpc answered error
        simp [thrown]

/-- Where exit status 0 brings an object without error content and without a
    result, the methods return null, and the loop takes its own branch for it,
    exactly if the object has an `error` attribute. -/
theorem noResult_null_iff :
    (∀ (rpc : RPC) (w : World) (members : Json.Members), RPC.NoResult lib (w.node 0) members →
      (MethodsReturnNull lib rpc w ↔ Json.has members "error".toList = true)) ∧
    (∀ (signer : Signer lib) (turns : List Turn), ∀ iteration ∈ run signer turns,
      ∀ call ∈ iteration.calls, ∀ members, RPC.NoResult lib call.2 members →
      (TakesNullBranch iteration call ↔ Json.has members "error".toList = true)) := by
  constructor
  · intro rpc w members answered
    exact methodsReturnNull_iff rpc answered
  · intro signer turns iteration member call made members answered
    exact takesNullBranch_iff member made answered

/-- The run of curl that prints an object with a null `error` and nothing else. -/
def Reference.nullErrorRun : CurlRun :=
  ⟨0, .exited 0 (Json.print (.obj [("error".toList, .null)]))⟩

theorem noResult_of_nullError :
    RPC.NoResult referenceLibraries Reference.nullErrorRun [("error".toList, .null)] where
  object := by
    have wellFormed : Json.WellFormed (.obj [("error".toList, .null)]) :=
      ⟨List.nodup_singleton _, trivial, trivial⟩
    exact ⟨_, ObjectRun.printed Reference.gson wellFormed 0 0⟩
  noErrorContent := by
    have null : JsonStringParser.cleanElement Json.null.print = "null".toList := by decide
    exact JsonStringParser.attributeToString_missing (Json.get_cons_self _ _ _) (.inr null)
  noResult := .inl rfl

/-- Such an answer is a null to every method, and the loop takes its branch for it. -/
theorem noResult_null_nullError :
    MethodsReturnNull referenceLibraries Reference.signer.rpc
        ⟨fun _ => Reference.nullErrorRun, [], none⟩ ∧
      ∀ iteration ∈ run Reference.signer [fun _ => Reference.nullErrorRun],
        ∀ call ∈ iteration.calls, TakesNullBranch iteration call := by
  have present : Json.has [("error".toList, .null)] "error".toList = true := rfl
  obtain ⟨methods, branches⟩ := @noResult_null_iff referenceLibraries
  constructor
  · exact (methods _ ⟨fun _ => Reference.nullErrorRun, [], none⟩ _ noResult_of_nullError).mpr present
  · intro iteration member call made
    have answered : RPC.NoResult referenceLibraries call.2 [("error".toList, .null)] := by
      have only := member
      rw [run, runFrom_cons, runFrom, List.mem_singleton] at only
      subst only
      obtain ⟨branch, _, pass⟩ := iterate_pass Reference.signer none fun _ => Reference.nullErrorRun
      rcases pass.mem_calls made with rfl | ⟨_, rfl, _⟩ | ⟨_, _, rfl, _⟩ <;>
        exact noResult_of_nullError
    exact (branches _ _ iteration member call made _ answered).mpr present

theorem noResult_of_null :
    RPC.NoResult referenceLibraries (Reference.resultRun .null) [("result".toList, .null)] where
  object := ⟨_, Reference.resultRun_object trivial⟩
  noErrorContent := rfl
  noResult := .inr rfl

/-- A null result is thrown over, not returned. -/
theorem nullResult_not_returned :
    ∃ w : World, RPC.NoResult referenceLibraries (w.node 0) [("result".toList, .null)] ∧
      ¬ MethodsReturnNull referenceLibraries Reference.signer.rpc w := by
  refine ⟨⟨fun _ => Reference.resultRun .null, [], none⟩, noResult_of_null, ?_⟩
  intro returned
  have error := (methodsReturnNull_iff Reference.signer.rpc noResult_of_null).mp returned
  cases error

end BlockSigner
