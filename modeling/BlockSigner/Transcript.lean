import BlockSigner.Emission
import BlockSigner.Secrecy
import BlockSigner.Start

/-! # The acts of the signer

Every act of a launch and of the loop after it is a request to one node or a line
of the log. The requests are JSON texts of printable characters, whatever the
node answers; and no line of the log holds a line break, so that nothing the node
sends can pass for a line of the signer.
-/

namespace BlockSigner

variable {lib : Libraries}

/-! ## Requests and lines -/

def RpcCall.payload (c : RpcCall) : Text := RpcPayload.frame c.method c.paramsText

/-- A request of this caller, or a line of this kind. -/
inductive Act (caller : RpcCaller) (L : Text → Prop) : Event → Prop where
  | request (c : RpcCall) (answer : CurlRun) : Act caller L (.curl (caller.command c.payload) answer)
  | line {message : Text} : L message → Act caller L (.log message)

/-- The lines about a call with an answer of kind `A` are of kind `L`. -/
structure CallLines (lib : Libraries) (rpc : RPC) (A : CurlRun → Prop) (L : Text → Prop) : Prop where
  payload : ∀ c : RpcCall, L (RPC.payloadLine c.method c.payload)
  response : ∀ method {answer response}, A answer → rpc.rpc.resultOf lib false answer = .ok response →
    L (RPC.responseLine method response)

/-- The lines of a launch are. -/
structure LaunchLines (lib : Libraries) (rpc : RPC) (A : CurlRun → Prop) (L : Text → Prop) : Prop
    extends CallLines lib rpc A L where
  retrieving : ∀ registry, L (retrievingLine registry)
  found : ∀ coinbase, L (coinbaseLine coinbase)
  producing : L producingLine

/-- All lines are. -/
structure Lines (lib : Libraries) (rpc : RPC) (A : CurlRun → Prop) (L : Text → Prop) : Prop extends
    LaunchLines lib rpc A L where
  noSeed : L noSeedLine
  noBlock : L noBlockLine
  submitted : ∀ hash, L (submittedLine hash)
  alreadySubmitted : ∀ hash, L (alreadySubmittedLine hash)
  caught : ∀ e, L (caughtLine lib e)

/-- All that a computation adds to the record are acts. -/
abbrev Acts {α : Type} (caller : RpcCaller) (A : CurlRun → Prop) (L : Text → Prop) (x : Exec α) :
    Prop :=
  Emission.Emits World.events (fun w => ∀ i, A (w.node i)) (Act caller L) x

namespace Acts

variable {α β : Type} {caller : RpcCaller} {A : CurlRun → Prop} {L : Text → Prop}

theorem bind {x : Exec α} {f : α → Exec β} (first : Acts caller A L x)
    (rest : ∀ a, Acts caller A L (f a)) : Acts caller A L (x >>= f) := by
  rw [SideBySide.bind_eq_andThen]
  exact Emission.Emits.andThen first rest

theorem tryCatch {x : Exec α} {handler : JavaException → Exec α} (body : Acts caller A L x)
    (caught : ∀ e, Acts caller A L (handler e)) :
    Acts caller A L (MonadExcept.tryCatch x handler) := by
  rw [SideBySide.tryCatch_eq_catching]
  exact Emission.Emits.catching body caught

theorem pure (a : α) : Acts caller A L (Pure.pure a) := Emission.Emits.result (.ok a)

theorem throw (e : JavaException) : Acts caller A L (MonadExcept.throw e : Exec α) :=
  Emission.Emits.result (.error e)

theorem lift (result : Except JavaException α) : Acts caller A L (liftM result : Exec α) :=
  Emission.Emits.result result

theorem getLastSubmittedHash : Acts caller A L Exec.getLastSubmittedHash :=
  fun _ answers => ⟨answers, .none rfl⟩

theorem setLastSubmittedHash (hash : Bytes) : Acts caller A L (Exec.setLastSubmittedHash hash) :=
  fun _ answers => ⟨answers, .none rfl⟩

theorem log (logger : Logger) {message : Text} (kind : L message) :
    Acts caller A L (logger.log message) :=
  fun _ answers => ⟨answers, .one rfl (.line kind)⟩

/-- A line, and then a result. -/
theorem log_then (logger : Logger) {message : Text} (kind : L message) (a : α) :
    Acts caller A L (logger.log message >>= fun _ => Pure.pure a) :=
  bind (log logger kind) fun _ => pure a

theorem verbosely (logger : Logger) {message : Text} (kind : L message) (w : World) :
    Emission.Adds World.events (Act caller L) w (logger.verbosely message w) := by
  unfold Logger.verbosely
  split
  · exact .one rfl (.line kind)
  · exact .none rfl

/-- Any method of the node: a request between two lines. -/
theorem method {rpc : RPC} (lines : CallLines lib rpc A L) (c : RpcCall) {x : Exec α}
    {returned : CurlRun → Except JavaException α}
    (runs : ∀ w, x.run w = (returned (w.node 0), rpc.record lib c.method c.paramsText w)) :
    Acts rpc.rpc A L x := by
  intro w answers
  change (∀ i, A ((x.run w).2.node i)) ∧ Emission.Adds World.events _ w (x.run w).2
  rw [runs w]
  refine ⟨fun i => ?_, ?_⟩
  · rw [RPC.record_node]
    exact answers (i + 1)
  · have asked : Emission.Adds World.events (Act rpc.rpc L) w
        (rpc.logger.verbosely (RPC.payloadLine c.method c.payload) w) :=
      verbosely rpc.logger (lines.payload c) w
    have sent : Emission.Adds World.events (Act rpc.rpc L)
        (rpc.logger.verbosely (RPC.payloadLine c.method c.payload) w)
        ((rpc.logger.verbosely (RPC.payloadLine c.method c.payload) w).curl
          (rpc.rpc.command c.payload)) := .one rfl (.request c _)
    unfold RPC.record
    cases classified : rpc.rpc.resultOf lib false (w.node 0) with
    | error e => exact asked.trans sent
    | ok response =>
        have kind := lines.response c.method (answers 0) classified
        exact (asked.trans sent).trans (verbosely rpc.logger kind _)

end Acts

/-! ## The loop and the launch -/

section

variable {A : CurlRun → Prop} {L : Text → Prop}

namespace Signer

variable {signer : Signer lib}

theorem submitBlock_acts (lines : Lines lib signer.rpc A L) (blockHash : Bytes) :
    Acts signer.rpc.rpc A L (signer.submitBlock blockHash) := by
  unfold submitBlock
  apply Acts.bind (.lift _)
  intro signature
  apply Acts.bind (.method lines.toCallLines (.submitSignature signature blockHash)
    (signer.rpc.submitSignature_run lib signature blockHash))
  intro answer
  split
  · apply Acts.bind (.log signer.logger (lines.submitted blockHash))
    intro _
    apply Acts.bind (.setLastSubmittedHash blockHash)
    intro _
    exact .pure _
  · exact .pure _

theorem body_acts (lines : Lines lib signer.rpc A L) : Acts signer.rpc.rpc A L signer.body := by
  unfold body
  apply Acts.bind (.method lines.toCallLines .getSeed (signer.rpc.getSeed_run lib))
  intro oldSeed
  apply Acts.bind (.lift _)
  intro nextSeed
  cases nextSeed with
  | none => exact .log_then signer.logger lines.noSeed _
  | some seed =>
      apply Acts.bind (.method lines.toCallLines (.submitSeed seed _ _) (signer.rpc.submitSeed_run lib seed _ _))
      intro blockHashToSign
      cases blockHashToSign with
      | none => exact .log_then signer.logger lines.noBlock _
      | some blockHash =>
          apply Acts.bind .getLastSubmittedHash
          intro lastSubmittedHash
          split
          · exact submitBlock_acts lines blockHash
          · exact .log_then signer.logger (lines.alreadySubmitted blockHash) _

theorem pass_acts (lines : Lines lib signer.rpc A L) : Acts signer.rpc.rpc A L signer.pass := by
  apply Acts.tryCatch (body_acts lines)
  intro e
  exact .log_then signer.logger (lines.caught e) _

end Signer

theorem runFrom_acts {signer : Signer lib} (lines : Lines lib signer.rpc A L) {turns : List Turn}
    (answers : ∀ turn ∈ turns, ∀ i, A (turn i)) (last : Option Bytes) :
    ∀ event ∈ (runFrom signer last turns).flatMap Iteration.events, Act signer.rpc.rpc L event := by
  induction turns generalizing last with
  | nil => simp [runFrom]
  | cons turn turns ih =>
      rw [runFrom_cons, List.flatMap_cons]
      intro event member
      rcases List.mem_append.mp member with member | member
      · exact (Signer.pass_acts lines).all (answers turn List.mem_cons_self) rfl event member
      · exact ih (fun turn member => answers turn (List.mem_cons_of_mem _ member)) _ event member

theorem getCoinbaseAddress_acts {rpc : RPC} (lines : LaunchLines lib rpc A L) (logger : Logger)
    (networkName identityAddressString : Option Text) :
    Acts rpc.rpc A L (getCoinbaseAddress lib rpc logger networkName identityAddressString) := by
  cases identityAddressString with
  | none => exact .throw _
  | some identityAddressString =>
      cases networkName with
      | none => exact .throw _
      | some networkName =>
          unfold getCoinbaseAddress
          apply Acts.bind (.lift _)
          intro registry
          apply Acts.bind (.log logger (lines.retrieving registry))
          intro _
          apply Acts.bind (.lift _)
          intro identity
          apply Acts.bind (.method lines.toCallLines (.call _) (rpc.call_run lib _))
          intro returnValue
          apply Acts.bind (.lift _)
          intro decoded
          cases decoded with
          | none => exact .throw _
          | some address =>
              apply Acts.bind (.lift _)
              intro coinbase
              exact .log_then logger (lines.found coinbase) _

theorem start_acts {settings : Settings} {rpc : RPC}
    (made : RPC.new settings.ip settings.port settings.logger = .ok rpc)
    (lines : LaunchLines lib rpc A L) : Acts rpc.rpc A L (start lib settings) := by
  unfold start
  apply Acts.bind (.lift _)
  intro key
  change Acts rpc.rpc A L (liftM (RPC.new settings.ip settings.port settings.logger) >>= _)
  rw [made, lift_ok_bind]
  cases settings.coinbaseAddress with
  | none => exact .throw _
  | some coinbaseAddress =>
      dsimp only
      split
      · apply Acts.bind (.lift _)
        intro coinbase
        exact .log_then _ lines.producing _
      · apply Acts.bind (getCoinbaseAddress_acts lines _ _ _)
        intro coinbase
        exact .log_then _ lines.producing _

/-- Without an RPC caller a launch does nothing at all. -/
theorem start_idle {settings : Settings} {e : JavaException}
    (failed : RPC.new settings.ip settings.port settings.logger = .error e) (w : World) :
    ((start lib settings).run w).2 = w := by
  unfold start
  cases getStakerPrivateKey lib settings.signingAddressPrivateKey with
  | error e => rfl
  | ok key =>
      change ((liftM (RPC.new settings.ip settings.port settings.logger) >>= _ : Exec (Signer lib)).run
        w).2 = w
      rw [failed]
      rfl

/-- The acts of a launch, and of the loop if it gets there, are those of the caller
    that is made from the settings. -/
theorem transcript_acts {files : Text → Except JavaException Properties} {args : List Text}
    {settings : Settings} (resolved : resolve files args = .ok (some settings))
    (node : Nat → CurlRun) (answers : ∀ i, A (node i))
    (lines : ∀ rpc, RPC.new settings.ip settings.port settings.logger = .ok rpc → Lines lib rpc A L) :
    (∀ event ∈ ((main lib files args).run ⟨node, [], none⟩).2.events,
      ∃ rpc, RPC.new settings.ip settings.port settings.logger = .ok rpc ∧ Act rpc.rpc L event) ∧
    ∀ signer v, (main lib files args).run ⟨node, [], none⟩ = (.ok (some signer), v) →
      ∀ turns : List Turn, (∀ turn ∈ turns, ∀ i, A (turn i)) →
        ∀ event ∈ transcript v (run signer turns),
          ∃ rpc, RPC.new settings.ip settings.port settings.logger = .ok rpc ∧ Act rpc.rpc L event := by
  have launch : ∀ event ∈ ((main lib files args).run ⟨node, [], none⟩).2.events,
      ∃ rpc, RPC.new settings.ip settings.port settings.logger = .ok rpc ∧ Act rpc.rpc L event := by
    intro event member
    rw [main_world resolved] at member
    cases made : RPC.new settings.ip settings.port settings.logger with
    | error e =>
        rw [start_idle made] at member
        cases member
    | ok rpc =>
        have acts := start_acts made (lines rpc made).toLaunchLines
        exact ⟨rpc, rfl, acts.all answers rfl event member⟩
  refine ⟨launch, ?_⟩
  intro signer v launched turns served event member
  rw [launched] at launch
  rcases List.mem_append.mp member with member | member
  · exact launch event member
  · have made := ((start_ok_iff settings _ v signer).mp (start_of_main resolved launched)).rpc
    exact ⟨signer.rpc, made, runFrom_acts (lines signer.rpc made) served none event member⟩

end

/-! ## Requests -/

/-- A character that a terminal shows as it is. -/
def Printable (c : Char) : Prop := 32 ≤ c.toNat ∧ c.toNat ≤ 126

instance (c : Char) : Decidable (Printable c) := inferInstanceAs (Decidable (_ ∧ _))

theorem printable_append {t t' : Text} (first : ∀ c ∈ t, Printable c) (rest : ∀ c ∈ t', Printable c) :
    ∀ c ∈ t ++ t', Printable c := by
  intro c member
  exact (List.mem_append.mp member).elim (first c) (rest c)

theorem printable_encode (bytes : Bytes) : ∀ c ∈ Hex.encode bytes, Printable c := by
  have digits : ∀ n < 16, Printable (Hex.digit n) := by decide
  intro c member
  obtain ⟨n, small, rfl⟩ := Hex.mem_encode member
  exact digits n small

/-- Text between two texts, one of which is written out. -/
theorem printable_framed {start t : Text} {letters : List Char} (front : ∀ c ∈ start, Printable c)
    (holds : letters.all (fun c => decide (Printable c)) = true) (rest : ∀ c ∈ t, Printable c) :
    ∀ c ∈ start ++ (String.ofList letters).toList ++ t, Printable c :=
  printable_append (printable_append front (Text.forall_literal holds)) rest

theorem printable_hexParameter (bytes : Bytes) : ∀ c ∈ hexParameter bytes, Printable c := by
  have quotation : ∀ c ∈ ['"'], Printable c := by simp [Printable]
  exact printable_append (printable_append (Text.forall_literal rfl) (printable_encode bytes)) quotation

theorem RpcMethod.printable (method : RpcMethod) : ∀ c ∈ method.getMethod, Printable c := by
  cases method <;> exact Text.forall_literal rfl

theorem RpcCall.printable_payload (c : RpcCall) : ∀ ch ∈ c.payload, Printable ch := by
  have params : ∀ ch ∈ c.paramsText, Printable ch := by
    cases c with
    | getSeed => simp [RpcCall.paramsText]
    | submitSeed seed publicKey coinbase =>
        exact printable_framed (printable_framed (printable_hexParameter seed) rfl
          (printable_hexParameter publicKey)) rfl (printable_hexParameter coinbase)
    | submitSignature signature hash =>
        exact printable_framed (printable_hexParameter signature) rfl (printable_hexParameter hash)
    | call tx =>
        have data : ∀ ch ∈ dataText tx.getData, Printable ch := by
          cases tx.getData with
          | none => exact Text.forall_literal rfl
          | some data => exact printable_hexParameter data
        rw [RpcCall.paramsText, RPC.callParams, RpcCall.jsonString_eq]
        have recipient := printable_hexParameter tx.getTo.toByteArray
        exact printable_append (printable_append (printable_framed (printable_append
          (Text.forall_literal rfl) recipient) rfl data) (Text.forall_literal rfl))
          (Text.forall_literal rfl)
  exact printable_append (printable_framed (printable_append (Text.forall_literal rfl)
    c.method.printable) rfl params) (Text.forall_literal rfl)

/-- curl is started with a JSON request for this caller's address as its data. -/
structure IsRequest (caller : RpcCaller) (command : List Text) (c : RpcCall) (payload : Text) :
    Prop where
  command : command = ["curl".toList, "-X".toList, "POST".toList, "-H".toList,
    "Content-type: application/json".toList, "--data".toList, payload,
    caller.ip ++ ":".toList ++ caller.port]
  decoded : RpcCall.decode payload = some c
  opening : payload.head? = some '\x7b'
  printable : ∀ ch ∈ payload, Printable ch

theorem RpcCall.isRequest (caller : RpcCaller) (c : RpcCall) :
    IsRequest caller (caller.command c.payload) c c.payload where
  command := rfl
  decoded := RpcCall.decode_frame c
  opening := rfl
  printable := c.printable_payload

/-- The address the command line or the configuration file gives. -/
def Configured (files : Text → Except JavaException Properties) (args : List Text)
    (caller : RpcCaller) : Prop :=
  ∃ settings, resolve files args = .ok (some settings) ∧ settings.ip = some caller.ip ∧
    settings.port = some caller.port

theorem lines_true (rpc : RPC) : Lines lib rpc (fun _ => True) (fun _ => True) := by
  refine ⟨⟨⟨?_, ?_⟩, ?_, ?_, ?_⟩, ?_, ?_, ?_, ?_, ?_⟩ <;> intros <;> trivial

/-- Whatever the arguments and the answers are, every process that is started, by
    the launch or by the loop, is a curl that posts one request to the configured
    address. The data is a line of printable characters that begins with a brace, so
    curl does not take it for the name of a file. -/
theorem launch_requests (files : Text → Except JavaException Properties) (args : List Text)
    (node : Nat → CurlRun) :
    (∀ command answer,
      Event.curl command answer ∈ ((main lib files args).run ⟨node, [], none⟩).2.events →
        ∃ caller c payload, Configured files args caller ∧ IsRequest caller command c payload) ∧
    ∀ signer v, (main lib files args).run ⟨node, [], none⟩ = (.ok (some signer), v) →
      ∀ turns command answer, Event.curl command answer ∈ transcript v (run signer turns) →
        ∃ caller c payload, Configured files args caller ∧ IsRequest caller command c payload := by
  by_cases launch : ∃ settings, resolve files args = .ok (some settings)
  · obtain ⟨settings, resolved⟩ := launch
    have requests : ∀ {command : List Text} {answer : CurlRun},
        (∃ rpc, RPC.new settings.ip settings.port settings.logger = .ok rpc ∧
          Act rpc.rpc (fun _ => True) (.curl command answer)) →
        ∃ caller c payload, Configured files args caller ∧ IsRequest caller command c payload := by
      intro command answer acted
      obtain ⟨rpc, made, act⟩ := acted
      obtain ⟨ip, port, host, service, rfl⟩ := RPC.new_ok_iff.mp made
      cases act with
      | request c answer =>
          exact ⟨⟨ip, port⟩, c, c.payload, ⟨settings, resolved, host, service⟩, c.isRequest _⟩
    have lines : ∀ rpc, RPC.new settings.ip settings.port settings.logger = .ok rpc →
        Lines lib rpc (fun _ => True) (fun _ => True) := fun rpc _ => lines_true rpc
    obtain ⟨launch, loop⟩ := transcript_acts resolved node (fun _ => trivial) lines
    constructor
    · intro command answer member
      exact requests (launch _ member)
    · intro signer v launched turns command answer member
      exact requests (loop signer v launched turns (by simp) _ member)
  · constructor
    · rw [main_idle launch]
      simp
    · intro signer v launched
      obtain ⟨settings, resolved, _⟩ := (main_ok_iff files args _ v signer).mp launched
      exact absurd ⟨settings, resolved⟩ launch

end BlockSigner
