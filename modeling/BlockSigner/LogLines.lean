import BlockSigner.Transcript

/-! # The lines of the log

A line of the log is one line: responses are read line by line and joined, and
what is taken from a JSON element is its printed text, in which control
characters are escaped.
-/

namespace BlockSigner

variable {lib : Libraries}

open Json (OneLine)

/-! ## Where error texts come from -/

/-- The text of an error attribute of some response. -/
def Reported (lib : Libraries) (error : Text) : Prop :=
  ∃ text members name, lib.parse text = .ok (.obj members) ∧
    (JsonStringParser.mk members).attributeToString name = some error

theorem errorResult_error {caller : RpcCaller} {status : Int} {parser : JsonStringParser}
    {error : Text} {response : InternalRpcResult}
    (made : RpcCaller.errorResult lib caller status parser = .ok response)
    (failed : response.error = some error) :
    error = caller.getCurlError status ∨ Reported lib error := by
  cases content : parser.attributeToString "error".toList with
  | none =>
      rw [RpcCaller.errorResult_of_noContent content] at made
      cases made
      cases failed
      exact .inl rfl
  | some content' =>
      cases read : JsonStringParser.new lib (some content') with
      | error e =>
          rw [RpcCaller.errorResult_of_unreadable content read] at made
          cases made
      | ok fields =>
          rw [RpcCaller.errorResult_of_object content read] at made
          cases made
          cases failed
          have object := (JsonStringParser.new_eq_ok read).2
          unfold RpcCaller.errorText
          cases data : (JsonStringParser.mk fields.stringAsJson).attributeToString "data".toList with
          | some data' => exact .inr ⟨_, _, _, object, data⟩
          | none =>
              cases message : (JsonStringParser.mk fields.stringAsJson).attributeToString
                  "message".toList with
              | some message' => exact .inr ⟨_, _, _, object, message⟩
              | none => exact .inl rfl

/-- An unsuccessful response has its text from the exception, from a table, or
    from the response. -/
theorem resultOf_error {caller : RpcCaller} {answer : CurlRun} {response : InternalRpcResult}
    {error : Text} (made : caller.resultOf lib false answer = .ok response)
    (failed : response.error = some error) :
    (∃ e, answer.process = .raised e ∧ error = e.toString) ∨ error = RpcCaller.unknownError ∨
      (∃ status, error = caller.getCurlError status) ∨ Reported lib error := by
  cases process : answer.process with
  | raised e =>
      simp only [RpcCaller.resultOf, process] at made
      split at made
      · cases made
        cases failed
        exact .inl ⟨e, rfl, rfl⟩
      · cases made
  | exited status stdout =>
      rw [RpcCaller.resultOf_exited process] at made
      by_cases empty : RpcCaller.outputOf false stdout = []
      · rw [empty, RpcCaller.classify_nil] at made
        cases made
        cases failed
        exact .inr (.inl rfl)
      · cases read : JsonStringParser.new lib (some (RpcCaller.outputOf false stdout)) with
        | error e =>
            simp only [RpcCaller.classify, empty, if_false, read] at made
            split at made <;> cases made
        | ok parser =>
            have parsed := (JsonStringParser.new_eq_ok read).2
            rw [RpcCaller.classify_object empty parsed] at made
            split at made
            · by_cases clock : answer.nanoTime < 0
              · rw [InternalRpcResult.successful_of_neg _ clock] at made
                cases made
              · obtain ⟨result, making, _, _, noError⟩ :=
                  InternalRpcResult.successful_of_nonneg (RpcCaller.outputOf false stdout)
                    (Int.not_lt.mp clock) .nanoseconds
                rw [making] at made
                cases made
                rw [noError] at failed
                cases failed
            · rcases errorResult_error made failed with table | reported
              · exact .inr (.inr (.inl ⟨status, table⟩))
              · exact .inr (.inr (.inr reported))

/-! ## One line each -/

theorem oneLine_of_printable {t : Text} (printable : ∀ c ∈ t, Printable c) : OneLine t := by
  intro c member
  have shown := (printable c member).1
  apply Text.not_terminator
  · rintro rfl
    simp at shown
  · rintro rfl
    simp at shown

theorem OneLine.of_subset {t t' : Text} (line : OneLine t') (subset : t ⊆ t') : OneLine t :=
  fun c member => line c (subset member)

theorem cleanElement_subset (t : Text) : JsonStringParser.cleanElement t ⊆ t := by
  have front : ∀ p s : Text, Text.dropPrefix p s ⊆ s := by
    intro p s
    unfold Text.dropPrefix
    split
    · exact List.drop_subset _ s
    · exact List.Subset.refl s
  have back : ∀ p s : Text, Text.dropSuffix p s ⊆ s := by
    intro p s
    unfold Text.dropSuffix
    split
    · exact List.take_subset _ s
    · exact List.Subset.refl s
  exact List.Subset.trans (front _ _) (List.Subset.trans (back _ _) (front _ _))

/-- What is reported is printed by Gson, which escapes line breaks. -/
theorem Reported.oneLine (gson : GsonContract lib) {error : Text} (reported : Reported lib error) :
    OneLine error := by
  obtain ⟨text, members, name, parsed, found⟩ := reported
  unfold JsonStringParser.attributeToString at found
  cases present : Json.get members name with
  | none =>
      rw [present] at found
      cases found
  | some value =>
      simp only [present] at found
      split at found
      · cases found
      · cases found
        have wellFormed : value.WellFormed := (gson.wellFormed parsed).get present
        exact OneLine.of_subset (Json.print_oneLine value wellFormed) (cleanElement_subset _)

theorem oneLine_readAll (stdout : Text) : OneLine (Text.readAll stdout) := by
  intro c member
  rw [Text.readAll_eq_filter, List.mem_filter] at member
  simpa using member.2

theorem oneLine_toDigits (n : Nat) : OneLine (Nat.toDigits 10 n) := by
  intro c member
  have digit : c.isDigit := Nat.isDigit_of_mem_toDigits (by simp) (Nat.le_refl 10) member
  apply Text.not_terminator
  · rintro rfl
    cases digit
  · rintro rfl
    cases digit

theorem oneLine_toString (n : Int) : OneLine (ToString.toString n).toList := by
  rw [Int.toString_eq_repr, Int.repr_eq_if]
  split
  · rw [Nat.toList_repr]
    exact oneLine_toDigits _
  · rw [String.toList_append, Nat.toList_repr]
    exact OneLine.append (Text.forall_literal rfl) (oneLine_toDigits _)

theorem oneLine_waiting {letters : List Char}
    (holds : letters.all (fun c => decide (Text.isTerminator c = false)) = true) :
    OneLine ((String.ofList letters).toList ++ (ToString.toString submitSeedSleepTimeMillis).toList
      ++ " ms".toList) := by
  have digits : OneLine (ToString.toString submitSeedSleepTimeMillis).toList := by
    rw [Nat.toString_eq_repr, Nat.toList_repr]
    exact oneLine_toDigits _
  exact (OneLine.append (Text.forall_literal holds) digits).append (Text.forall_literal rfl)

theorem getCurlError_oneLine {caller : RpcCaller} (ip : OneLine caller.ip)
    (port : OneLine caller.port) (status : Int) : OneLine (caller.getCurlError status) := by
  unfold RpcCaller.getCurlError
  split
  · exact ((OneLine.append (Text.forall_literal rfl) ip).append (Text.forall_literal rfl)).append port
  · exact Text.forall_literal rfl
  · exact Text.forall_literal rfl
  · exact OneLine.append (Text.forall_literal rfl) ip
  · exact Text.forall_literal rfl
  · exact Text.forall_literal rfl
  · exact Text.forall_literal rfl
  · exact Text.forall_literal rfl
  · exact OneLine.append (Text.forall_literal rfl) (oneLine_toString status)

/-- The exceptions of curl have texts of one line. -/
def PlainlyRaised (answer : CurlRun) : Prop :=
  ∀ e, answer.process = .raised e → OneLine e.toString

theorem response_oneLine (gson : GsonContract lib) {caller : RpcCaller} (ip : OneLine caller.ip)
    (port : OneLine caller.port) {answer : CurlRun} (plain : PlainlyRaised answer)
    {response : InternalRpcResult} (made : caller.resultOf lib false answer = .ok response) :
    OneLine response.toString := by
  rcases response.consistent with ⟨success, output, _⟩ | ⟨success, _, error, _⟩
  · obtain ⟨output, present⟩ := Option.isSome_iff_exists.mp output
    obtain ⟨members, object, _⟩ := RpcCaller.resultOf_output made present
    obtain ⟨stdout, _, rfl⟩ := object.exited
    rw [InternalRpcResult.toString, if_pos success, present]
    exact (((OneLine.append (Text.forall_literal rfl) (oneLine_readAll stdout)).append (Text.forall_literal rfl)).append
      (oneLine_toString _)).append (Text.forall_literal rfl)
  · obtain ⟨error, failed⟩ := Option.isSome_iff_exists.mp error
    have line : OneLine error := by
      rcases resultOf_error made failed with ⟨e, raised, rfl⟩ | rfl | ⟨status, rfl⟩ | reported
      · exact plain e raised
      · exact Text.forall_literal rfl
      · exact getCurlError_oneLine ip port status
      · exact reported.oneLine gson
    rw [InternalRpcResult.toString, success, if_neg Bool.false_ne_true, failed]
    exact (OneLine.append (Text.forall_literal rfl) line).append (Text.forall_literal rfl)

theorem lines_oneLine (gson : GsonContract lib) (stack : ∀ e, OneLine (lib.stackTrace e)) {rpc : RPC}
    (ip : OneLine rpc.rpc.ip) (port : OneLine rpc.rpc.port) :
    Lines lib rpc PlainlyRaised OneLine where
  payload c := oneLine_of_printable (printable_append (printable_append
    (RpcMethod.printable c.method) (Text.forall_literal rfl)) c.printable_payload)
  response method _ _ plain made := (oneLine_of_printable (printable_append
    (RpcMethod.printable method) (Text.forall_literal rfl))).append (response_oneLine gson ip port plain made)
  noSeed := oneLine_waiting rfl
  noBlock := oneLine_waiting rfl
  submitted hash := oneLine_of_printable (printable_append (Text.forall_literal rfl) (printable_encode hash))
  alreadySubmitted hash :=
    oneLine_of_printable (printable_append (Text.forall_literal rfl) (printable_encode hash))
  caught e := OneLine.append (Text.forall_literal rfl) (stack e)
  retrieving registry := oneLine_of_printable
    (printable_append (printable_append (Text.forall_literal rfl) (printable_encode registry.raw)) (Text.forall_literal rfl))
  found coinbase := oneLine_of_printable (printable_append (Text.forall_literal rfl) (printable_encode coinbase.raw))
  producing := Text.forall_literal rfl

/-- Whatever the node answers, each line that a launch or the loop writes to the
    log is one line, with verbose logging or without. -/
theorem launch_log_oneLine (gson : GsonContract lib) (stack : ∀ e, OneLine (lib.stackTrace e))
    {files : Text → Except JavaException Properties} {args : List Text} {settings : Settings}
    (resolved : resolve files args = .ok (some settings))
    (ip : ∀ text, settings.ip = some text → OneLine text)
    (port : ∀ text, settings.port = some text → OneLine text)
    {node : Nat → CurlRun} (plain : ∀ i, PlainlyRaised (node i)) :
    (∀ message, Event.log message ∈ ((main lib files args).run ⟨node, [], none⟩).2.events →
      OneLine message) ∧
    ∀ signer v, (main lib files args).run ⟨node, [], none⟩ = (.ok (some signer), v) →
      ∀ turns : List Turn, (∀ turn ∈ turns, ∀ i, PlainlyRaised (turn i)) →
        ∀ message, Event.log message ∈ transcript v (run signer turns) → OneLine message := by
  have line : ∀ {message : Text},
      (∃ rpc, RPC.new settings.ip settings.port settings.logger = .ok rpc ∧
        Act rpc.rpc OneLine (.log message)) → OneLine message := by
    intro message acted
    obtain ⟨_, _, act⟩ := acted
    cases act with
    | line holds => exact holds
  have lines : ∀ rpc, RPC.new settings.ip settings.port settings.logger = .ok rpc →
      Lines lib rpc PlainlyRaised OneLine := by
    intro rpc made
    obtain ⟨host, service, hostGiven, serviceGiven, rfl⟩ := RPC.new_ok_iff.mp made
    exact lines_oneLine gson stack (ip host hostGiven) (port service serviceGiven)
  obtain ⟨launch, loop⟩ := transcript_acts resolved node plain lines
  constructor
  · intro message member
    exact line (launch _ member)
  · intro signer v launched turns served message member
    exact line (loop signer v launched turns served _ member)

/-- The reference libraries with a stack trace of one line. -/
def Reference.traced : Libraries :=
  { referenceLibraries with stackTrace := fun _ => "[BlockSigner.main(BlockSigner.java:79)]".toList }

/-- The last line of a launch from the command line, with a node that knows the
    coinbase address. -/
theorem launch_log_oneLine_commandLine :
    ∃ events message,
      ((main Reference.traced (fun _ => .error ⟨.io, none⟩) (Reference.launch .leftOut).args).run
        ⟨fun _ => Reference.registryAnswer, [], none⟩).2.events = events ++ [.log message] ∧
      OneLine message := by
  have gson : GsonContract Reference.traced := ⟨Reference.gson.accepts, Reference.gson.wellFormed⟩
  have trace : OneLine "[BlockSigner.main(BlockSigner.java:79)]".toList := Text.forall_literal rfl
  have ip : ∀ text, (Reference.launch .leftOut).commandLine.ip = some text → OneLine text := by
    intro text given
    cases given
    exact Text.forall_literal rfl
  have port : ∀ text, (Reference.launch .leftOut).commandLine.port = some text → OneLine text := by
    intro text given
    cases given
    exact Text.forall_literal rfl
  have plain : ∀ _ : Nat, PlainlyRaised Reference.registryAnswer := by
    intro _ e raised
    cases raised
  have lines := (launch_log_oneLine gson (fun _ => trace)
    (resolve_args (fun _ => .error ⟨.io, none⟩) (Reference.launch .leftOut)) ip port plain).1
  have logged : ((main Reference.traced (fun _ => .error ⟨.io, none⟩)
      (Reference.launch .leftOut).args).run ⟨fun _ => Reference.registryAnswer, [], none⟩).2.events =
      _ ++ [.log producingLine] := rfl
  exact ⟨_, _, logged, lines _ (by rw [logged]; simp)⟩

end BlockSigner
