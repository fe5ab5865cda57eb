import DomainSteward.Wire.Http

/-! Faults that explain themselves. A call that meets one fails with the code, the reason and the
message of the explanation, but not with what it says about causes, although the reason of the first
cause comes before that of the whole where an explanation is read as one. Nor does the code of the
answer stand in for a code of zero. -/
namespace DomainSteward.Faults
open Json (Tree)

/-! ## What is read of an explanation -/

/-- What a record holds in a field. -/
def member? (name : String) (members : List (Option String × Tree)) : Option Tree :=
  (Tree.named name members).head?

/-- An object that explains an outcome as the API does: it also says in a word whether it is a
fault, and under what code. -/
structure IsStatus (members : List (Option String × Tree)) (s : StatusBody) : Prop where
  reads : StatusBody.ofTree? (.object members) = some s
  word : ((member? "status" members).bind Tree.text?).isSome
  oneWord : (Tree.named "status" members).length ≤ 1
  coded : (member? "code" members).isSome

/-- The members of an object. -/
def members? : Tree → Option (List (Option String × Tree))
  | .object members => some members
  | _ => none

/-- A body that explains an outcome as the API does. -/
def Explains (body : String) (s : StatusBody) : Prop :=
  ∃ members ∈ (Tree.parse? body).bind members?, IsStatus members s

instance (members : List (Option String × Tree)) (s : StatusBody) :
    Decidable (IsStatus members s) :=
  decidable_of_iff (StatusBody.ofTree? (.object members) = some s ∧
      ((member? "status" members).bind Tree.text?).isSome ∧
      (Tree.named "status" members).length ≤ 1 ∧ (member? "code" members).isSome)
    ⟨fun ⟨reads, word, oneWord, coded⟩ => ⟨reads, word, oneWord, coded⟩,
      fun ⟨reads, word, oneWord, coded⟩ => ⟨reads, word, oneWord, coded⟩⟩

instance (body : String) (s : StatusBody) : Decidable (Explains body s) :=
  inferInstanceAs (Decidable (∃ members ∈ (Tree.parse? body).bind members?, IsStatus members s))

/-- An explanation without what it is about and what caused it. -/
def bare (s : StatusBody) : StatusBody := { s with details := none }

variable {members : List (Option String × Tree)} {names : List String} {fields : List (Option Tree)}
  {s : StatusBody} {body : String}

/-- Members with whole names that name none of the fields twice. -/
def Orderly (names : List String) (members : List (Option String × Tree)) : Prop :=
  (∀ m ∈ members, m.1.isSome = true) ∧ ∀ name ∈ names, (Tree.named name members).length ≤ 1

theorem record_iff : (Tree.object members).record? names = some fields ↔
    Orderly names members ∧ names.map (fun name => member? name members) = fields := by
  have checked : (members.all (fun m => m.1.isSome) &&
      names.all (fun name => decide ((Tree.named name members).length ≤ 1))) = true ↔
        Orderly names members := by
    simp only [Bool.and_eq_true, List.all_eq_true, decide_eq_true_eq, Orderly]
  rw [Tree.record?]
  by_cases orderly : Orderly names members
  · rw [if_pos (checked.mpr orderly), Option.some.injEq]
    exact (and_iff_right orderly).symm
  · rw [if_neg (mt checked.mp orderly)]
    simp [orderly]

/-- What an explanation is read from. -/
theorem status_read (read : StatusBody.ofTree? (.object members) = some s) :
    Orderly ["code", "reason", "message", "details"] members ∧
      Tree.orDefault? 0 Tree.uint16? (member? "code" members) = some s.code ∧
      Tree.orDefault? "" Tree.text? (member? "reason" members) = some s.reason ∧
      Tree.orDefault? "" Tree.text? (member? "message" members) = some s.message := by
  unfold StatusBody.ofTree? at read
  obtain ⟨fields, record, read⟩ := Option.bind_eq_some_iff.mp read
  obtain ⟨orderly, rfl⟩ := record_iff.mp record
  obtain ⟨code, codeRead, read⟩ := Option.bind_eq_some_iff.mp read
  obtain ⟨reason, reasonRead, read⟩ := Option.bind_eq_some_iff.mp read
  obtain ⟨message, messageRead, read⟩ := Option.bind_eq_some_iff.mp read
  obtain ⟨details, -, read⟩ := Option.bind_eq_some_iff.mp read
  cases read
  exact ⟨orderly, codeRead, reasonRead, messageRead⟩

theorem fault_read (status : IsStatus members s) :
    StatusBody.ofFault? (.object members) = some (bare s) := by
  obtain ⟨orderly, code, reason, message⟩ := status_read status.reads
  obtain ⟨word, said⟩ := Option.isSome_iff_exists.mp status.word
  obtain ⟨tree, coded⟩ := Option.isSome_iff_exists.mp status.coded
  -- Both readers refuse a field that is named twice, but only the second one asks for the word.
  have record : (Tree.object members).record? ["status", "message", "reason", "code"] =
      some [member? "status" members, member? "message" members, member? "reason" members,
        member? "code" members] := by
    refine record_iff.mpr ⟨⟨orderly.1, ?_⟩, rfl⟩
    have single := orderly.2
    simp only [List.forall_mem_cons] at single ⊢
    simp [single, status.oneWord]
  have code : tree.uint16? = some s.code := by
    rw [coded] at code
    exact code
  unfold StatusBody.ofFault?
  simp only [record, Option.bind_eq_bind, Option.bind_some, said, message, reason, coded, code]
  rfl

theorem explains_parsed (explains : Explains body s) :
    ∃ members, Tree.parse? body = some (.object members) ∧ IsStatus members s := by
  obtain ⟨members, found, status⟩ := explains
  obtain ⟨tree, parsed, object⟩ := Option.bind_eq_some_iff.mp found
  cases tree with
  | object _ =>
    cases object
    exact ⟨members, parsed, status⟩
  | _ => cases object

theorem fault_kept {code : Nat} (explains : Explains body s) :
    StatusBody.ofFault code body = bare s := by
  obtain ⟨members, parsed, status⟩ := explains_parsed explains
  rw [StatusBody.ofFault, parsed, Option.bind_some, fault_read status, Option.getD_some]

theorem body_kept {code : UInt16} (explains : Explains body s) :
    StatusBody.ofBody code body = { s with code := if s.code = 0 then code else s.code } := by
  obtain ⟨members, parsed, status⟩ := explains_parsed explains
  rw [StatusBody.ofBody, parsed, Option.bind_some, status.reads]
  by_cases zero : s.code = 0 <;> simp [zero]

/-! ## What a call fails with -/

/-- The reason of the first cause. -/
def causeReason? (s : StatusBody) : Option String :=
  ((s.details.bind (·.causes.head?)).bind (·.reason)).filter (fun r => !r.isEmpty)

/-- The reason of the whole, of which there may be none. -/
def wholeReason (s : StatusBody) : String :=
  if s.reason = "" then "TransportError" else s.reason

/-- The first cause has no other reason than the whole. -/
def WholeReasonHolds (s : StatusBody) : Prop :=
  ∀ reason, causeReason? s = some reason → reason = wholeReason s

section

variable {r : Request} {code : UInt16}

theorem reason_of_http : (CallFailure.http r s).reason = (causeReason? s).getD (wholeReason s) := by
  simp only [CallFailure.reason, CallFailure.http, Option.bind_some, StatusBody.mostSpecificReason?,
    causeReason?, wholeReason]
  cases ((s.details.bind (·.causes.head?)).bind (·.reason)).filter (fun r => !r.isEmpty) with
  | some cause => rfl
  | none => by_cases empty : s.reason = "" <;> simp [empty]

theorem message_of_http : (CallFailure.http r s).message = r.describe ++ ": " ++
    if s.message = "" then "HTTP " ++ toString s.code.toNat ++ ": " else s.message := by
  by_cases empty : s.message = "" <;>
    simp [CallFailure.message, CallFailure.http, Option.filter, empty]

theorem fiber_error_of_http : (CallFailure.http r s).toFiberError =
    if s.code = 401 ∨ s.code = 403 then .notAuthorized s.code (CallFailure.http r s).message
    else .api (some s.code) (CallFailure.http r s).reason (CallFailure.http r s).message := by
  have status : (CallFailure.http r s).statusCode = some s.code := rfl
  simp [CallFailure.toFiberError, CallFailure.isNotAuthorized, status]

/-- Without its causes an explanation gives the same reason exactly if the first has no other. -/
theorem same_reason_iff : (CallFailure.http r (bare s)).reason =
    (CallFailure.http r { s with code }).reason ↔ WholeReasonHolds s := by
  have without : (CallFailure.http r (bare s)).reason = wholeReason s := reason_of_http
  have whole : (CallFailure.http r { s with code }).reason =
      (causeReason? s).getD (wholeReason s) := reason_of_http
  rw [without, whole, WholeReasonHolds]
  cases causeReason? s with
  | none => simp
  | some reason => simp [eq_comm]

/-- Two numbers that are written alike are one. -/
private theorem same_digits_iff {m n : Nat} : m.repr = n.repr ↔ m = n := by
  refine ⟨fun same => ?_, congrArg Nat.repr⟩
  have digits : Nat.toDigits 10 m = Nat.toDigits 10 n := String.ofList_inj.mp same
  calc
    m = Nat.ofDigitChars 10 (Nat.toDigits 10 m) 0 :=
      (Nat.ofDigitChars_toDigits (by decide) (by decide)).symm
    _ = Nat.ofDigitChars 10 (Nat.toDigits 10 n) 0 := by rw [digits]
    _ = n := Nat.ofDigitChars_toDigits (by decide) (by decide)

theorem same_message_iff : (CallFailure.http r (bare s)).message =
    (CallFailure.http r { s with code }).message ↔ s.code = code ∨ s.message ≠ "" := by
  rw [message_of_http, message_of_http, String.append_right_inj, bare]
  by_cases empty : s.message = ""
  · rw [if_pos empty, if_pos empty, String.append_left_inj, String.append_right_inj]
    rw [or_iff_left (not_not_intro empty)]
    exact same_digits_iff.trans UInt16.toNat_inj
  · simp [empty]

theorem same_fiber_error_iff : (CallFailure.http r (bare s)).toFiberError =
    (CallFailure.http r { s with code }).toFiberError ↔
      s.code = code ∧ (s.code = 401 ∨ s.code = 403 ∨ WholeReasonHolds s) := by
  by_cases same : s.code = code
  · subst same
    have message : (CallFailure.http r (bare s)).message = (CallFailure.http r s).message :=
      same_message_iff.mpr (.inl rfl)
    have reason : (CallFailure.http r (bare s)).reason = (CallFailure.http r s).reason ↔
        WholeReasonHolds s := same_reason_iff
    show (CallFailure.http r (bare s)).toFiberError = (CallFailure.http r s).toFiberError ↔ _
    rw [fiber_error_of_http, fiber_error_of_http, message, bare, ← or_assoc]
    by_cases refused : s.code = 401 ∨ s.code = 403
    · rw [if_pos refused, if_pos refused]
      exact iff_of_true rfl ⟨rfl, .inl refused⟩
    · rw [if_neg refused, if_neg refused, FiberError.api.injEq, ← reason, bare]
      simp [refused]
  · refine iff_of_false (fun agreed => ?_) fun agreed => same agreed.1
    rw [fiber_error_of_http, fiber_error_of_http, bare] at agreed
    split at agreed <;> split at agreed <;> simp_all

/-- A call fails with the code, the reason and the message that a fault explains. -/
theorem reply_of_fault {code : Nat} (fault : Response.isFault code = true)
    (explains : Explains body s) :
    Response.ofReply r (.answer code body) = .failure (.http r (bare s)) := by
  rw [Response.ofReply, if_pos fault, fault_kept explains]

/-- No fault has the code zero. -/
private theorem fault_code {code : Nat} (fault : Response.isFault code = true) :
    UInt16.ofNat code ≠ 0 := by
  have range : 400 ≤ code ∧ code < 600 := by simpa [Response.isFault] using fault
  intro zero
  have none := congrArg UInt16.toNat zero
  rw [UInt16.toNat_ofNat', Nat.mod_eq_of_lt (by omega), UInt16.toNat_zero] at none
  omega

end

/-- A call that meets a fault fails with the code, the reason and the message of the body that
explains it, and with nothing of what the body says about causes. Read with its causes, and under
the code of the answer if its own is zero, the body gives another code exactly if its own is zero,
another reason exactly if the first cause has another than the whole, and another message exactly if
it has neither a code nor a message. A fiber ends with another error exactly if the code is zero, or
the reason is another and the fault is no lack of authorization. -/
theorem faults_lose_causes_and_the_code_of_the_answer (r : Request) (code : Nat) (body : String)
    (s : StatusBody) (fault : Response.isFault code = true) (explains : Explains body s) :
    ∃ f g : CallFailure, Response.ofReply r (.answer code body) = .failure f ∧
      g = .http r (.ofBody (UInt16.ofNat code) body) ∧ f = .http r (bare s) ∧
      (f.statusCode = g.statusCode ↔ s.code ≠ 0) ∧
      (f.reason = g.reason ↔ WholeReasonHolds s) ∧
      (f.message = g.message ↔ s.code ≠ 0 ∨ s.message ≠ "") ∧
      (f.toFiberError = g.toFiberError ↔
        s.code ≠ 0 ∧ (s.code = 401 ∨ s.code = 403 ∨ WholeReasonHolds s)) := by
  have own : s.code = (if s.code = 0 then UInt16.ofNat code else s.code) ↔ s.code ≠ 0 := by
    by_cases zero : s.code = 0
    · simp [zero, Ne.symm (fault_code fault)]
    · simp [zero]
  refine ⟨.http r (bare s), .http r (.ofBody (UInt16.ofNat code) body),
    reply_of_fault fault explains, rfl, rfl, ?_⟩
  rw [body_kept explains]
  refine ⟨?_, same_reason_iff, ?_, ?_⟩
  · rw [← own]
    exact Option.some_inj
  · rw [same_message_iff, own]
  · rw [same_fiber_error_iff, own]

/-! ## A pod that is refused -/

/-- What a server answers that is asked for a pod with a volume which there is not. -/
def refusal : String :=
  "\x7b\"status\":\"Failure\",\"message\":\"no such volume\",\"reason\":\"Invalid\"," ++
    "\"details\":\x7b\"causes\":[\x7b\"reason\":\"FieldValueNotFound\"\x7d]\x7d,\"code\":422\x7d"

/-- What the answer explains. -/
def refused : StatusBody :=
  { code := 422
    reason := "Invalid"
    message := "no such volume"
    details := some { causes := [{ reason := some "FieldValueNotFound" }] } }

/-- The call that meets it. -/
def creation : Request := ⟨.pod, some "ns1", .create {}⟩

theorem refusal_explains : Explains refusal refused := by decide +kernel

theorem refusal_loses_its_cause : Response.isFault 422 = true ∧ Explains refusal refused ∧
    ∃ f g : CallFailure, Response.ofReply creation (.answer 422 refusal) = .failure f ∧
      g = .http creation (.ofBody 422 refusal) ∧ f = .http creation (bare refused) ∧
      (f.statusCode = g.statusCode ↔ refused.code ≠ 0) ∧
      (f.reason = g.reason ↔ WholeReasonHolds refused) ∧
      (f.message = g.message ↔ refused.code ≠ 0 ∨ refused.message ≠ "") ∧
      (f.toFiberError = g.toFiberError ↔ refused.code ≠ 0 ∧
        (refused.code = 401 ∨ refused.code = 403 ∨ WholeReasonHolds refused)) :=
  ⟨rfl, refusal_explains,
    faults_lose_causes_and_the_code_of_the_answer creation 422 refusal refused rfl refusal_explains⟩

/-- The pod is reported as invalid for no cause, although the answer names one. -/
theorem cause_of_refusal_is_not_reported : Response.isFault 422 = true ∧ Explains refusal refused ∧
    ∃ f g : CallFailure, Response.ofReply creation (.answer 422 refusal) = .failure f ∧
      g = .http creation (.ofBody 422 refusal) ∧
      f.reason = "Invalid" ∧ g.reason = "FieldValueNotFound" ∧
      f.toFiberError ≠ g.toFiberError := by
  have other : ¬ WholeReasonHolds refused := fun whole => absurd (whole _ rfl) (by decide)
  have uncertain : ¬ (refused.code = 401 ∨ refused.code = 403 ∨ WholeReasonHolds refused) :=
    not_or.mpr ⟨by decide, not_or.mpr ⟨by decide, other⟩⟩
  refine ⟨rfl, refusal_explains, .http creation (bare refused),
    .http creation (.ofBody 422 refusal), reply_of_fault rfl refusal_explains, rfl, rfl, ?_, ?_⟩
  · rw [body_kept refusal_explains]
    rfl
  · rw [body_kept refusal_explains]
    exact fun same => uncertain (same_fiber_error_iff.mp same).2

end DomainSteward.Faults
