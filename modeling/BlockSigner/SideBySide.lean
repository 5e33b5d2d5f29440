import BlockSigner.TwoRuns
import BlockSigner.Chain.Outcome

/-! # Two signers side by side

Two computations that meet the same node. What an observer sees of them is the
payloads handed to curl and the lines of the log. The clock reading of a call
appears in one line and comes from neither of them; it is followed through both by
a relation of its own.
-/

namespace BlockSigner

variable {lib : Libraries} {T : Int → Int → Prop}

/-! ## What an observer sees -/

/-- curl did the same at related clock readings. -/
structure SameRun (T : Int → Int → Prop) (run run' : CurlRun) : Prop where
  process : run.process = run'.process
  clock : T run.nanoTime run'.nanoTime

/-- The line that ends with the time of a call. -/
def timedLine (front : Text) (nanoTime : Int) : Text :=
  front ++ " | time of call = ".toList
    ++ (ToString.toString (TimeUnit.nanoseconds.toNanos nanoTime)).toList ++ " (nanos) \x7d".toList

/-- One line, but for the time of a call. -/
inductive SameLine (T : Int → Int → Prop) : Text → Text → Prop where
  | same : SameLine T message message
  | timed : T nanoTime nanoTime' →
      SameLine T (timedLine front nanoTime) (timedLine front nanoTime')

inductive SameEvent (T : Int → Int → Prop) : Event → Event → Prop where
  | curl : SameRun T answer answer' → SameEvent T (.curl command answer) (.curl command answer')
  | log : SameLine T message message' → SameEvent T (.log message) (.log message')

/-- The same is to come, and the same was seen. -/
structure SameWorld (T : Int → Int → Prop) (w w' : World) : Prop where
  node : ∀ i, SameRun T (w.node i) (w'.node i)
  events : List.Forall₂ (SameEvent T) w.events w'.events
  lastSubmittedHash : w.lastSubmittedHash = w'.lastSubmittedHash

theorem SameRun.refl (answer : CurlRun) : SameRun Eq answer answer := ⟨rfl, rfl⟩

theorem SameEvent.refl (event : Event) : SameEvent Eq event event := by
  cases event with
  | curl command answer => exact .curl (.refl answer)
  | log message => exact .log .same

theorem SameWorld.refl (w : World) : SameWorld Eq w w where
  node i := .refl (w.node i)
  events := List.forall₂_same.mpr fun event _ => .refl event
  lastSubmittedHash := rfl

theorem SameLine.prepend (front : Text) {message message' : Text} (same : SameLine T message message') :
    SameLine T (front ++ message) (front ++ message') := by
  cases same with
  | same => exact .same
  | @timed nanoTime nanoTime' front' clock =>
      have moved : ∀ t, front ++ timedLine front' t = timedLine (front ++ front') t := by
        intro t
        simp only [timedLine, List.append_assoc]
      rw [moved, moved]
      exact .timed clock

/-- With equal clock readings nothing differs. -/
theorem SameEvent.eq {event event' : Event} (same : SameEvent Eq event event') : event = event' := by
  cases same with
  | @curl answer answer' command run =>
      obtain ⟨nanoTime, process⟩ := answer
      obtain ⟨nanoTime', process'⟩ := answer'
      rw [show nanoTime = nanoTime' from run.clock, show process = process' from run.process]
  | log line =>
      cases line with
      | same => rfl
      | timed clock => rw [clock]

theorem SameWorld.emit {w w' : World} (same : SameWorld T w w') {message message' : Text}
    (line : SameLine T message message') :
    SameWorld T (w.emit (.log message)) (w'.emit (.log message')) where
  node := same.node
  events := List.rel_append same.events (.cons (.log line) .nil)
  lastSubmittedHash := same.lastSubmittedHash

theorem SameWorld.curl {w w' : World} (same : SameWorld T w w') (command : List Text) :
    SameWorld T (w.curl command) (w'.curl command) where
  node i := same.node (i + 1)
  events := List.rel_append same.events (.cons (.curl (same.node 0)) .nil)
  lastSubmittedHash := same.lastSubmittedHash

theorem SameWorld.verbosely {w w' : World} (same : SameWorld T w w') (logger : Logger)
    {message message' : Text} (line : SameLine T message message') :
    SameWorld T (logger.verbosely message w) (logger.verbosely message' w') := by
  unfold Logger.verbosely
  split
  · exact same.emit line
  · exact same

/-! ## One call -/

/-- The clock matters to a call through its sign alone. -/
def KeepsSign (T : Int → Int → Prop) : Prop := ∀ {t t' : Int}, T t t' → (t < 0 ↔ t' < 0)

/-- One response, but for the time of the call. -/
structure SameResponse (T : Int → Int → Prop) (response response' : InternalRpcResult) : Prop where
  output : response.output = response'.output
  line : SameLine T response.toString response'.toString

theorem outcome_refl (outcome : Except JavaException InternalRpcResult) :
    TwoRuns.Outcome (SameResponse T) outcome outcome := by
  cases outcome with
  | ok response => exact .ok ⟨rfl, .same⟩
  | error e => exact .error

theorem successful_same (signs : KeepsSign T) (output : Text) {t t' : Int} (clock : T t t') :
    TwoRuns.Outcome (SameResponse T)
      (InternalRpcResult.successful (some output) t (some .nanoseconds))
      (InternalRpcResult.successful (some output) t' (some .nanoseconds)) := by
  by_cases negative : t < 0
  · rw [InternalRpcResult.successful_of_neg _ negative,
      InternalRpcResult.successful_of_neg _ ((signs clock).mp negative)]
    exact .error
  · have negative' : ¬ t' < 0 := fun h => negative ((signs clock).mpr h)
    simp only [InternalRpcResult.successful, dif_neg negative, dif_neg negative']
    apply TwoRuns.Outcome.ok
    refine ⟨rfl, ?_⟩
    change SameLine T
      (timedLine ("InternalRpcResult \x7b successful | output = ".toList ++ output) t)
      (timedLine ("InternalRpcResult \x7b successful | output = ".toList ++ output) t')
    exact .timed clock

theorem resultOf_same (signs : KeepsSign T) (caller : RpcCaller) {answer answer' : CurlRun}
    (same : SameRun T answer answer') :
    TwoRuns.Outcome (SameResponse T) (caller.resultOf lib false answer)
      (caller.resultOf lib false answer') := by
  cases process : answer.process with
  | raised e =>
      simp only [RpcCaller.resultOf, ← same.process, process]
      exact outcome_refl _
  | exited status stdout =>
      rw [RpcCaller.resultOf_exited process, RpcCaller.resultOf_exited (same.process ▸ process)]
      by_cases accepted : RpcCaller.Accepted lib status (RpcCaller.outputOf false stdout)
      · obtain ⟨exited, nonempty, members, object, absent⟩ := accepted
        rw [RpcCaller.classify_object nonempty object, RpcCaller.classify_object nonempty object,
          if_pos ⟨exited, absent⟩, if_pos ⟨exited, absent⟩]
        exact successful_same signs _ same.clock
      · rw [RpcCaller.classify_of_not_accepted accepted answer.nanoTime answer'.nanoTime]
        exact outcome_refl _

namespace RPC

variable (rpc : RPC) {answer answer' : CurlRun}

theorem answer_same (signs : KeepsSign T) (same : SameRun T answer answer') :
    rpc.answer lib answer = rpc.answer lib answer' := by
  have outcome : TwoRuns.Outcome (SameResponse T) (rpc.rpc.resultOf lib false answer)
      (rpc.rpc.resultOf lib false answer') := resultOf_same signs rpc.rpc same
  simp only [RPC.answer]
  generalize rpc.rpc.resultOf lib false answer = first at outcome ⊢
  generalize rpc.rpc.resultOf lib false answer' = second at outcome ⊢
  cases outcome with
  | ok response =>
      change resultText lib _ = resultText lib _
      rw [resultText, resultText, response.output]
  | error => rfl

theorem bytesAnswer_same (signs : KeepsSign T) (same : SameRun T answer answer') :
    rpc.bytesAnswer lib answer = rpc.bytesAnswer lib answer' := by
  rw [RPC.bytesAnswer, RPC.bytesAnswer, rpc.answer_same signs same]

theorem record_same (signs : KeepsSign T) (method : RpcMethod) (params : Text) {w w' : World}
    (same : SameWorld T w w') :
    SameWorld T (rpc.record lib method params w) (rpc.record lib method params w') := by
  have payload : SameLine T (payloadLine method (RpcPayload.frame method params))
      (payloadLine method (RpcPayload.frame method params)) := .same
  have sent := (same.verbosely rpc.logger payload).curl
    (rpc.rpc.command (RpcPayload.frame method params))
  have outcome : TwoRuns.Outcome (SameResponse T) (rpc.rpc.resultOf lib false (w.node 0))
      (rpc.rpc.resultOf lib false (w'.node 0)) := resultOf_same signs rpc.rpc (same.node 0)
  unfold record
  generalize rpc.rpc.resultOf lib false (w.node 0) = first at outcome ⊢
  generalize rpc.rpc.resultOf lib false (w'.node 0) = second at outcome ⊢
  cases outcome with
  | ok response => exact sent.verbosely rpc.logger (response.line.prepend _)
  | error => exact sent

end RPC

/-! ## Paired computations -/

/-- Run side by side in worlds that look the same. -/
abbrev SideBySide {α β : Type} (T : Int → Int → Prop) (Q : α → β → Prop) (x : Exec α) (y : Exec β) :
    Prop :=
  TwoRuns.Paired (SameWorld T) Q x y

namespace SideBySide

variable {α β γ δ : Type} {Q : α → β → Prop} {P : γ → δ → Prop}

theorem bind_eq_andThen (x : Exec α) (f : α → Exec γ) : x >>= f = TwoRuns.andThen x f := by
  funext w
  change (x >>= f).run w = TwoRuns.andThen x f w
  cases ran : x.run w with
  | mk result w' =>
      have ran' : x w = (result, w') := ran
      cases result with
      | ok a =>
          rw [Exec.bind_ok ran]
          simp only [TwoRuns.andThen, ran']
          rfl
      | error e =>
          rw [Exec.bind_error ran]
          simp only [TwoRuns.andThen, ran']

theorem bind {x : Exec α} {y : Exec β} {f : α → Exec γ} {g : β → Exec δ}
    (first : SideBySide T Q x y) (rest : ∀ a b, Q a b → SideBySide T P (f a) (g b)) :
    SideBySide T P (x >>= f) (y >>= g) := by
  rw [bind_eq_andThen, bind_eq_andThen]
  exact first.andThen rest

/-- The rest of one computation, for each result they share. -/
theorem bind_same {x y : Exec α} {f : α → Exec γ} {g : α → Exec δ} (first : SideBySide T Eq x y)
    (rest : ∀ a, SideBySide T P (f a) (g a)) : SideBySide T P (x >>= f) (y >>= g) := by
  apply first.bind
  rintro a _ rfl
  exact rest a

theorem pure {a : α} {b : β} (related : Q a b) : SideBySide T Q (Pure.pure a) (Pure.pure b) :=
  TwoRuns.Paired.result (.ok related)

theorem throw (e : JavaException) : SideBySide T Q (MonadExcept.throw e) (MonadExcept.throw e) :=
  TwoRuns.Paired.result .error

theorem lift (result : Except JavaException α) :
    SideBySide T Eq (liftM result : Exec α) (liftM result : Exec α) :=
  TwoRuns.Paired.result (.refl result)

theorem log (logger : Logger) (message : Text) :
    SideBySide T Eq (logger.log message) (logger.log message) :=
  fun _ _ same => ⟨.ok rfl, same.emit .same⟩

/-- A line, and then a result. -/
theorem log_then (logger : Logger) (message : Text) {a : α} {b : β} (related : Q a b) :
    SideBySide T Q (logger.log message >>= fun _ => Pure.pure a)
      (logger.log message >>= fun _ => Pure.pure b) := by
  apply bind_same (log logger message)
  intro _
  exact pure related

theorem getLastSubmittedHash :
    SideBySide T Eq Exec.getLastSubmittedHash Exec.getLastSubmittedHash := by
  intro w w' same
  refine ⟨?_, same⟩
  change TwoRuns.Outcome Eq (.ok w.lastSubmittedHash) (.ok w'.lastSubmittedHash)
  exact .ok same.lastSubmittedHash

theorem setLastSubmittedHash (hash : Bytes) :
    SideBySide T Eq (Exec.setLastSubmittedHash hash) (Exec.setLastSubmittedHash hash) :=
  fun _ _ same => ⟨.ok rfl, same.node, same.events, rfl⟩

/-- Any method of the node, by what it returns and what it records. -/
theorem method (signs : KeepsSign T) {rpc : RPC} {method : RpcMethod} {params : Text}
    {x : Exec α} {returned : CurlRun → Except JavaException α}
    (runs : ∀ w, x.run w = (returned (w.node 0), rpc.record lib method params w))
    (determined : ∀ {answer answer'}, SameRun T answer answer' → returned answer = returned answer') :
    SideBySide T Eq x x := by
  intro w w' same
  change TwoRuns.Outcome Eq (x.run w).1 (x.run w').1 ∧ SameWorld T (x.run w).2 (x.run w').2
  rw [runs w, runs w', determined (same.node 0)]
  exact ⟨.refl _, rpc.record_same signs method params same⟩

theorem getSeed (signs : KeepsSign T) (rpc : RPC) :
    SideBySide T Eq (rpc.getSeed lib) (rpc.getSeed lib) :=
  method signs (rpc.getSeed_run lib) (rpc.bytesAnswer_same signs)

theorem submitSeed (signs : KeepsSign T) (rpc : RPC) (seed publicKey coinbase : Bytes) :
    SideBySide T Eq (rpc.submitSeed lib seed publicKey coinbase)
      (rpc.submitSeed lib seed publicKey coinbase) :=
  method signs (rpc.submitSeed_run lib seed publicKey coinbase) (rpc.bytesAnswer_same signs)

theorem submitSignature (signs : KeepsSign T) (rpc : RPC) (signature hash : Bytes) :
    SideBySide T Eq (rpc.submitSignature lib signature hash)
      (rpc.submitSignature lib signature hash) :=
  method signs (rpc.submitSignature_run lib signature hash) (rpc.answer_same signs)

theorem tryCatch_eq_catching (x : Exec α) (handler : JavaException → Exec α) :
    tryCatch x handler = TwoRuns.catching x handler := by
  funext w
  change (tryCatch x handler).run w = TwoRuns.catching x handler w
  cases ran : x.run w with
  | mk result w' =>
      have ran' : x w = (result, w') := ran
      rw [Exec.tryCatch_run, ran]
      simp only [TwoRuns.catching, ran']
      cases result with
      | ok a => rfl
      | error e => rfl

theorem tryCatch {x y : Exec α} {handler handler' : JavaException → Exec α}
    (body : SideBySide T Eq x y) (caught : ∀ e, SideBySide T Eq (handler e) (handler' e)) :
    SideBySide T Eq (MonadExcept.tryCatch x handler) (MonadExcept.tryCatch y handler') := by
  rw [tryCatch_eq_catching, tryCatch_eq_catching]
  exact body.catching caught

theorem call (signs : KeepsSign T) (rpc : RPC) (tx : Transaction) :
    SideBySide T Eq (rpc.call lib tx) (rpc.call lib tx) :=
  method signs (rpc.call_run lib tx) (rpc.bytesAnswer_same signs)

end SideBySide

end BlockSigner
