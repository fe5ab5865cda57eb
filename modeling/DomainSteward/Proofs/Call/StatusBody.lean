import DomainSteward.Proofs.Json.Writing
import DomainSteward.Proofs.Wire.Faults

/-! Explanations of an outcome survive the way to their reader, whatever the text and the order
of their members and whatever stands beside them. -/
namespace DomainSteward.StatusBodies
open Json (Tree)
open Grammar Writing Acceptance

/-! ## What an explanation is written as -/

def textMembers (name : String) : Option String → List (Option String × Tree)
  | some s => [(some name, .text (some s))]
  | none => []

def causeTree (c : StatusCause) : Tree :=
  .object (textMembers "reason" c.reason ++ textMembers "message" c.message ++
    textMembers "field" c.field)

def detailsTree (d : StatusDetails) : Tree :=
  .object (textMembers "name" d.name ++ textMembers "kind" d.kind ++
    [(some "causes", .list (d.causes.map causeTree))])

def detailsMembers : Option StatusDetails → List (Option String × Tree)
  | some d => [(some "details", detailsTree d)]
  | none => []

/-- The members of a written explanation. -/
def ownMembers (s : StatusBody) : List (Option String × Tree) :=
  [(some "code", .number (.ofInt s.code.toNat)), (some "reason", .text (some s.reason)),
    (some "message", .text (some s.message))] ++ detailsMembers s.details

theorem text_written (name : String) (s : Option String) :
    List.Forall₂ Written (StatusBody.textField? name s) (textMembers name s) := by
  cases s with
  | none => exact .nil
  | some s => exact .cons (.mk (text_spelled s)) .nil

theorem cause_spelled (c : StatusCause) : Spelled (StatusBody.writeCause c).chars (causeTree c) :=
  object_spelled (List.rel_append (List.rel_append (text_written _ _) (text_written _ _))
    (text_written _ _))

theorem details_spelled (d : StatusDetails) :
    Spelled (StatusBody.writeDetails d).chars (detailsTree d) := by
  have causes : List.Forall₂ (fun value tree => Spelled value.chars tree)
      (d.causes.map StatusBody.writeCause) (d.causes.map causeTree) := by
    rw [List.forall₂_map_left_iff, List.forall₂_map_right_iff, List.forall₂_same]
    exact fun c _ => cause_spelled c
  exact object_spelled (List.rel_append (List.rel_append (text_written _ _) (text_written _ _))
    (.cons (.mk (list_spelled causes)) .nil))

theorem body_spells (s : StatusBody) : Spells s.write.render (.object (ownMembers s)) := by
  refine render_spells (object_spelled (List.rel_append ?_ ?_))
  · exact .cons (.mk (integer_spelled _)) (.cons (.mk (text_spelled _))
      (.cons (.mk (text_spelled _)) .nil))
  · cases s.details with
    | none => exact .nil
    | some d => exact .cons (.mk (details_spelled d)) .nil

/-! ## What is read of it -/

theorem cause_read (c : StatusCause) : StatusCause.ofTree? (causeTree c) = some c := by
  obtain ⟨_ | reason, _ | message, _ | field⟩ := c <;> rfl

theorem causes_read (causes : List StatusCause) :
    Tree.listOf? StatusCause.ofTree? (.list (causes.map causeTree)) = some causes := by
  show (causes.map causeTree).mapM StatusCause.ofTree? = some causes
  induction causes with
  | nil => rfl
  | cons c rest ih => simp [cause_read, ih]

theorem text_read (s : Option String) :
    Tree.orDefault? none (Tree.nullable? Tree.text?) (s.map fun s => .text (some s)) = some s := by
  cases s <;> rfl

theorem details_read (d : StatusDetails) : StatusDetails.ofTree? (detailsTree d) = some d := by
  have record : (detailsTree d).record? ["name", "kind", "causes"] =
      some [d.name.map fun s => .text (some s), d.kind.map fun s => .text (some s),
        some (.list (d.causes.map causeTree))] := by
    obtain ⟨_ | name, _ | kind, causes⟩ := d <;> rfl
  have causes : Tree.orDefault? [] (Tree.listOf? StatusCause.ofTree?)
      (some (.list (d.causes.map causeTree))) = some d.causes := causes_read d.causes
  simp only [StatusDetails.ofTree?, record, text_read, causes, Option.bind_eq_bind,
    Option.bind_some, Option.pure_def]

theorem code_read (code : UInt16) : Tree.uint16? (.number (.ofInt code.toNat)) = some code := by
  have small : (code.toNat : Int) < 65536 := by
    have := code.toNat_lt
    omega
  have integer : (Number.ofInt code.toNat).int? = some (code.toNat : Int) := rfl
  rw [Tree.uint16?, integer, Option.bind_eq_bind, Option.bind_some,
    if_pos ⟨Int.natCast_nonneg _, small⟩, Int.toNat_natCast, UInt16.ofNat_toNat]
  rfl

/-- The names that an explanation knows. -/
def knownNames : List String := ["code", "reason", "message", "details"]

theorem own_record (s : StatusBody) : (Tree.object (ownMembers s)).record? knownNames =
    some [some (.number (.ofInt s.code.toNat)), some (.text (some s.reason)),
      some (.text (some s.message)), s.details.map detailsTree] := by
  obtain ⟨code, reason, message, _ | details⟩ := s <;> rfl

theorem own_read (s : StatusBody) : StatusBody.ofTree? (.object (ownMembers s)) = some s := by
  have code : Tree.orDefault? 0 Tree.uint16? (some (.number (.ofInt s.code.toNat))) =
      some s.code := by
    rw [Tree.orDefault?, code_read]
  have text (s : String) : Tree.orDefault? "" Tree.text? (some (.text (some s))) = some s := rfl
  have details : Tree.orDefault? none (Tree.nullable? StatusDetails.ofTree?)
      (s.details.map detailsTree) = some s.details := by
    cases s.details with
    | none => rfl
    | some d => exact congrArg (Option.map some) (details_read d)
  have record := own_record s
  unfold knownNames at record
  refine Option.bind_eq_some_iff.mpr ⟨_, record, ?_⟩
  refine Option.bind_eq_some_iff.mpr ⟨_, code, ?_⟩
  refine Option.bind_eq_some_iff.mpr ⟨_, text s.reason, ?_⟩
  refine Option.bind_eq_some_iff.mpr ⟨_, text s.message, ?_⟩
  exact Option.bind_eq_some_iff.mpr ⟨_, details, rfl⟩

/-! ## What stands beside it -/

variable {names : List String} {name : String} {own foreign members : List (Option String × Tree)}

/-- Members with whole names, of which none is among the names. -/
def Foreign (names : List String) (foreign : List (Option String × Tree)) : Prop :=
  ∀ m ∈ foreign, ∃ name, name ∉ names ∧ m.1 = some name

theorem named_kept (mixed : members.Perm (own ++ foreign)) (strange : Foreign names foreign)
    (known : name ∈ names) : (Tree.named name members).Perm (Tree.named name own) := by
  have none : Tree.named name foreign = [] := by
    unfold Tree.named
    rw [List.map_eq_nil_iff, List.filter_eq_nil_iff]
    intro m member
    obtain ⟨other, unknown, same⟩ := strange m member
    have apart : other ≠ name := fun same => unknown (same ▸ known)
    simp [same, apart]
  have kept := (mixed.filter fun m => m.1 = some name).map (·.2)
  rw [List.filter_append, List.map_append] at kept
  rw [← List.append_nil (Tree.named name own), ← none]
  exact kept

/-- A record is the same in any order of its members and beside members that it does not know. -/
theorem record_kept (mixed : members.Perm (own ++ foreign)) (strange : Foreign names foreign)
    (orderly : Faults.Orderly names own) :
    (Tree.object members).record? names = (Tree.object own).record? names := by
  have same : ∀ name ∈ names, Tree.named name members = Tree.named name own := by
    intro name known
    have few := orderly.2 name known
    have kept := named_kept mixed strange known
    -- Of what a name occurs in once there is only one order.
    match Tree.named name own, few, kept with
    | [], _, kept => exact kept.eq_nil
    | [value], _, kept => exact List.perm_singleton.mp kept
  refine (Faults.record_iff.mpr ⟨⟨fun m member => ?_, fun name known => ?_⟩, ?_⟩).trans
    (Faults.record_iff.mpr ⟨orderly, rfl⟩).symm
  · rcases List.mem_append.mp (mixed.mem_iff.mp member) with mine | other
    · exact orderly.1 m mine
    · obtain ⟨name, -, whole⟩ := strange m other
      rw [whole, Option.isSome_some]
  · rw [same name known]
    exact orderly.2 name known
  · exact List.map_congr_left fun name known => congrArg List.head? (same name known)

theorem explanation_kept {s : StatusBody} (mixed : members.Perm (ownMembers s ++ foreign))
    (strange : Foreign knownNames foreign) : StatusBody.ofTree? (.object members) = some s := by
  have orderly := (Faults.record_iff.mp (own_record s)).1
  have record := record_kept mixed strange orderly
  unfold knownNames at record
  rw [StatusBody.ofTree?, record]
  exact own_read s

/-- A written explanation is the text of an object. Every text of an object that has the members of
that one in some order, and whatever others beside them that are not called by a name that
explanations know, is read as the same explanation, under the code of the answer if its own is
zero. -/
theorem written_explanation_survives (s : StatusBody) :
    ∃ own, (∀ tree, Spells s.write.render tree ↔ tree = .object own) ∧
      ∀ (code : UInt16) (body : String) (members foreign : List (Option String × Tree)),
        Spells body (.object members) → members.Perm (own ++ foreign) →
          Foreign knownNames foreign → StatusBody.ofBody code body =
            { s with code := if s.code = 0 then code else s.code } := by
  have written := parse_iff.mpr (body_spells s)
  refine ⟨ownMembers s, fun tree => ?_, fun code body members foreign spelled mixed strange => ?_⟩
  · rw [← parse_iff, written, Option.some_inj, eq_comm]
  · rw [StatusBody.ofBody, parse_iff.mpr spelled, Option.bind_some, explanation_kept mixed strange]
    by_cases zero : s.code = 0 <;> simp [zero]

/-! ## A pod that is refused -/

/-- What is wrong with a pod. -/
def refusal : StatusBody :=
  { reason := "Invalid"
    message := "no volume \"data\""
    details := some { name := some "web-0", causes := [{ reason := some "FieldValueNotFound" }] } }

/-- How a server says it. -/
def refusalText : String :=
  "\x7b\"kind\":\"Status\",\"metadata\":\x7b\x7d,\"status\":\"Failure\",\"details\":\x7b" ++
    "\"name\":\"web-0\",\"causes\":[\x7b\"reason\":\"FieldValueNotFound\"\x7d]\x7d," ++
    "\"message\":\"no volume \\\"data\\\"\",\"reason\":\"Invalid\",\"code\":0\x7d"

/-- What a server says of every outcome. -/
def kindMembers : List (Option String × Tree) :=
  [(some "kind", .text (some "Status")), (some "metadata", .object []),
    (some "status", .text (some "Failure"))]

/-- What it says of a pod that is refused, its own words backwards. -/
def refusalFields : List (String × Json) :=
  [("kind", .text "Status"), ("metadata", .object []), ("status", .text "Failure"),
    ("details", StatusBody.writeDetails (refusal.details.getD {})),
    ("message", .text refusal.message), ("reason", .text refusal.reason), ("code", .ofInt 0)]

theorem refusal_spelled :
    Spells refusalText (.object (kindMembers ++ (ownMembers refusal).reverse)) := by
  have text : (Json.object refusalFields).render = refusalText := by decide +kernel
  rw [← text]
  exact render_spells (object_spelled
    (.cons (.mk (text_spelled _)) (.cons (.mk (object_spelled .nil)) (.cons (.mk (text_spelled _))
      (.cons (.mk (details_spelled _)) (.cons (.mk (text_spelled _)) (.cons (.mk (text_spelled _))
        (.cons (.mk (integer_spelled _)) .nil))))))))

theorem refusal_survives : ∃ own, Spells refusal.write.render (.object own) ∧
    (kindMembers ++ own.reverse).Perm (own ++ kindMembers) ∧ Foreign knownNames kindMembers ∧
      Spells refusalText (.object (kindMembers ++ own.reverse)) ∧
        StatusBody.ofBody 422 refusalText = { refusal with code := 422 } := by
  obtain ⟨own, written, survives⟩ := written_explanation_survives refusal
  have same : own = ownMembers refusal := by
    have := (written _).mp (body_spells refusal)
    simpa using this.symm
  have spelled : Spells refusalText (.object (kindMembers ++ own.reverse)) := same ▸ refusal_spelled
  have mixed : (kindMembers ++ own.reverse).Perm (own ++ kindMembers) :=
    List.perm_append_comm.trans (own.reverse_perm.append_right _)
  have strange : Foreign knownNames kindMembers := by
    simp [Foreign, kindMembers, knownNames]
  exact ⟨own, (written _).mpr rfl, mixed, strange, spelled,
    survives 422 _ _ _ spelled mixed strange⟩

end DomainSteward.StatusBodies
