import BlockSigner.Chain.HexData
import BlockSigner.Chain.Outcome
import BlockSigner.Signer

/-! # Replies on the wire

A node that answers in JSON-RPC can lay its response out in many ways. Here a run
of curl is given the reply it carries, independently of layout, of further
members and of the spelling of hex data; a method of the signer returns that
reply.
-/

namespace BlockSigner

variable {lib : Libraries}

/-! ## Responses -/

/-- A response with a result and without an error. -/
inductive Carries (run : CurlRun) (result : Json) : Prop where
  | mk {text : Text} {members : Json.Members} :
      0 ≤ run.nanoTime → run.process = .exited 0 text → Json.Document text (.obj members) →
      Json.get members "error".toList = none → Json.get members "result".toList = some result →
      Carries run result

/-- The node reports an error, or there is no response: curl wrote nothing, or
    could not be started. -/
inductive Refused (run : CurlRun) : Prop where
  | error {status : Int} {text : Text} {members fields : Json.Members} :
      run.process = .exited status text → Json.Document text (.obj members) →
      Json.get members "error".toList = some (.obj fields) → Refused run
  | silent {status : Int} {text : Text} :
      run.process = .exited status text → (∀ c ∈ text, Text.isTerminator c = true) → Refused run
  | unstarted {e : JavaException} : run.process = .raised e → e.cls = .io → Refused run

/-- The reply to a method that returns bytes. -/
inductive RepliesBytes (run : CurlRun) : Option Bytes → Prop where
  | data {text : Text} {bytes : Bytes} :
      Carries run (.str text) → Hex.Data text bytes → RepliesBytes run (some bytes)
  | refused : Refused run → RepliesBytes run none

/-- The reply to submitsignature; a refusal is no acceptance. -/
inductive RepliesVerdict (run : CurlRun) : Bool → Prop where
  | verdict {accepted : Bool} : Carries run (.bool accepted) → RepliesVerdict run accepted
  | refused : Refused run → RepliesVerdict run false

/-! ## Reading them -/

theorem Carries.carriesText (gson : GsonContract lib) {run : CurlRun} {result : Json} {text : Text}
    (carries : Carries run result) (read : RPC.getAsString result = .ok text) :
    RPC.CarriesText lib run text := by
  obtain ⟨nanoTime, process⟩ := run
  cases carries with
  | @mk written members clock exited document noError found =>
      cases exited
      exact ⟨clock, _, members, result, ObjectRun.laidOut gson document nanoTime 0, noError, found,
        read⟩

namespace RPC

variable {run : CurlRun}

theorem answer_of_unsuccessful (rpc : RPC) {error : Text}
    (returned : rpc.rpc.resultOf lib false run = InternalRpcResult.unsuccessful (some error)) :
    rpc.answer lib run = .ok none := by
  obtain ⟨result, making, success, _⟩ := InternalRpcResult.unsuccessful_some error
  simp only [answer, returned, making]
  exact resultText_of_none (result.output_eq_none_iff.mpr success)

/-- A refusal is read as null. -/
theorem answer_of_refused (gson : GsonContract lib) (rpc : RPC) (refused : Refused run) :
    rpc.answer lib run = .ok none := by
  obtain ⟨nanoTime, process⟩ := run
  cases refused with
  | @error status text members fields exited document found =>
      cases exited
      have object := ObjectRun.laidOut gson document nanoTime status
      have wellFormed : Json.WellFormed (.obj fields) := (gson.wellFormed object.object).get found
      have rejected : ¬ (status = 0 ∧ Json.get members "error".toList = none) := by
        rw [found]
        simp
      apply rpc.answer_of_unsuccessful
      rw [RpcCaller.resultOf_object object, if_neg rejected,
        RpcCaller.reports_obj gson wellFormed found]
  | @silent status text exited blank =>
      have nothing : Text.readAll text = [] := by
        rw [Text.readAll_eq_filter, List.filter_eq_nil_iff]
        intro c member
        simp [blank c member]
      apply rpc.answer_of_unsuccessful
      rw [RpcCaller.resultOf_exited exited, RpcCaller.outputOf, if_neg Bool.false_ne_true, nothing]
      exact RpcCaller.classify_nil
  | @unstarted e raised io =>
      cases raised
      have returned : rpc.rpc.resultOf lib false ⟨nanoTime, .raised e⟩ =
          InternalRpcResult.unsuccessful (some e.toString) := if_pos io
      exact rpc.answer_of_unsuccessful returned

/-- A method that returns bytes returns the reply. -/
theorem bytesAnswer_of_replies (gson : GsonContract lib) (rpc : RPC) {reply : Option Bytes}
    (replies : RepliesBytes run reply) : rpc.bytesAnswer lib run = .ok reply := by
  cases replies with
  | @data text bytes carries data =>
      rw [bytesAnswer, (carries.carriesText gson rfl).answer rpc]
      change some <$> decodeHex text = _
      rw [decodeHex_data data]
      rfl
  | refused refused =>
      rw [bytesAnswer, answer_of_refused gson rpc refused]
      rfl

theorem answer_of_verdict (gson : GsonContract lib) (rpc : RPC) {accepted : Bool}
    (replies : RepliesVerdict run accepted) :
    ∃ text, rpc.answer lib run = .ok text ∧ parseBoolean text = accepted := by
  cases replies with
  | verdict carries =>
      refine ⟨_, (carries.carriesText gson rfl).answer rpc, ?_⟩
      cases accepted <;> rfl
  | refused refused => exact ⟨none, answer_of_refused gson rpc refused, rfl⟩

end RPC

end BlockSigner
