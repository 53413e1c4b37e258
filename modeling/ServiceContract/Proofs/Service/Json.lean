import ServiceContract.Proofs.Json.RoundTrip
import ServiceContract.Proofs.Number.Spelling
import ServiceContract.Proofs.Validation.Clean
import ServiceContract.Service.Json

/-!
# Services as readable values

The object of a service is seven levels deep, each of its objects has distinct keys, and the only
integers in it are the codes of responses.  So a reader takes it if the codes are short
(`readable_toJson`), and those of an accepted document are (`hasShortCodes_of_accepted`).
-/

namespace ServiceContract.Service

open Json (Value Members IsShort)

/-! ### Elements -/

theorem readable_textOrNull (depth : Nat) (t : Option Text) : (textOrNull t).Readable depth := by
  cases t with
  | none => exact .null depth
  | some s => exact .string depth s

theorem readable_boundOrNull (depth : Nat) (x : Option Number.Binary64) :
    (boundOrNull x).Readable depth := by
  cases x with
  | none => exact .null depth
  | some x => exact .float depth x

theorem readable_map {α : Type} {f : α → Value} {xs : List α} {depth : Nat}
    (h : ∀ x ∈ xs, (f x).Readable depth) : (Value.array (xs.map f)).Readable (depth + 1) :=
  .array (List.forall_mem_map.2 h)

theorem Import.readable_toJson (depth : Nat) (i : Import) : i.toJson.Readable (depth + 1) := by
  refine .object (List.nodup_singleton _) ?_
  exact List.forall_mem_singleton.2 (.string _ _)

theorem Header.readable_toJson (depth : Nat) (h : Header) : h.toJson.Readable (depth + 1) := by
  refine .object (by simp [Members.keys, Text.ofString]) ?_
  simp only [List.forall_mem_cons]
  exact ⟨.string _ _, .string _ _, .bool _ _, readable_textOrNull _ _, readable_textOrNull _ _,
    List.forall_mem_nil _⟩

theorem EnumValue.readable_toJson (depth : Nat) (v : EnumValue) :
    v.toJson.Readable (depth + 1) := by
  refine .object (by simp [Members.keys, Text.ofString]) ?_
  simp only [List.forall_mem_cons]
  exact ⟨.string _ _, readable_textOrNull _ _, List.forall_mem_nil _⟩

theorem Enum.readable_toJson (depth : Nat) (e : Enum) : e.toJson.Readable (depth + 3) := by
  refine .object (by simp [Members.keys, Text.ofString]) ?_
  simp only [List.forall_mem_cons]
  exact ⟨.string _ _, .string _ _, readable_textOrNull _ _,
    readable_map fun v _ => v.readable_toJson depth, List.forall_mem_nil _⟩

theorem UnionMember.readable_toJson (depth : Nat) (m : UnionMember) :
    m.toJson.Readable (depth + 1) := by
  refine .object (by simp [Members.keys, Text.ofString]) ?_
  simp only [List.forall_mem_cons]
  exact ⟨.string _ _, readable_textOrNull _ _, List.forall_mem_nil _⟩

theorem Union.readable_toJson (depth : Nat) (u : Union) : u.toJson.Readable (depth + 3) := by
  refine .object (by simp [Members.keys, Text.ofString]) ?_
  simp only [List.forall_mem_cons]
  exact ⟨.string _ _, .string _ _, readable_textOrNull _ _,
    readable_map fun m _ => m.readable_toJson depth, List.forall_mem_nil _⟩

theorem Field.readable_toJson (depth : Nat) (f : Field) : f.toJson.Readable (depth + 1) := by
  refine .object (by simp [Members.keys, Text.ofString]) ?_
  simp only [List.forall_mem_cons]
  exact ⟨.string _ _, .string _ _, .bool _ _, readable_textOrNull _ _, readable_textOrNull _ _,
    readable_textOrNull _ _, readable_boundOrNull _ _, readable_boundOrNull _ _,
    List.forall_mem_nil _⟩

theorem Model.readable_toJson (depth : Nat) (m : Model) : m.toJson.Readable (depth + 3) := by
  refine .object (by simp [Members.keys, Text.ofString]) ?_
  simp only [List.forall_mem_cons]
  exact ⟨.string _ _, .string _ _, readable_textOrNull _ _,
    readable_map fun f _ => f.readable_toJson depth, List.forall_mem_nil _⟩

/-! ### Operations -/

theorem Parameter.readable_toJson (depth : Nat) (p : Parameter) :
    p.toJson.Readable (depth + 1) := by
  refine .object (by simp [Members.keys, Text.ofString]) ?_
  simp only [List.forall_mem_cons]
  exact ⟨.string _ _, .string _ _, .string _ _, .bool _ _, readable_textOrNull _ _,
    readable_textOrNull _ _, readable_boundOrNull _ _, readable_boundOrNull _ _,
    List.forall_mem_nil _⟩

theorem Body.readable_toJson (depth : Nat) (b : Body) : b.toJson.Readable (depth + 1) := by
  refine .object (by simp [Members.keys, Text.ofString]) ?_
  simp only [List.forall_mem_cons]
  exact ⟨.string _ _, readable_textOrNull _ _, List.forall_mem_nil _⟩

theorem Response.readable_toJson (depth : Nat) {r : Response} (h : IsShort r.code) :
    r.toJson.Readable (depth + 1) := by
  refine .object (by simp [Members.keys, Text.ofString]) ?_
  simp only [List.forall_mem_cons]
  exact ⟨.int _ h, .string _ _, readable_textOrNull _ _, List.forall_mem_nil _⟩

theorem readable_body (depth : Nat) (b : Option Body) :
    ((b.map Body.toJson).getD .null).Readable (depth + 1) := by
  cases b with
  | none => exact .null (depth + 1)
  | some b => exact b.readable_toJson depth

theorem Operation.readable_toJson (depth : Nat) {op : Operation}
    (h : ∀ x ∈ op.responses, IsShort x.code) : op.toJson.Readable (depth + 3) := by
  refine .object (by simp [Members.keys, Text.ofString]) ?_
  simp only [List.forall_mem_cons]
  exact ⟨.string _ _, .string _ _, readable_textOrNull _ _, readable_body (depth + 1) _,
    readable_map fun p _ => p.readable_toJson depth,
    readable_map fun x hx => Response.readable_toJson depth (h x hx), List.forall_mem_nil _⟩

theorem Resource.readable_toJson (depth : Nat) {r : Resource}
    (h : ∀ op ∈ r.operations, ∀ x ∈ op.responses, IsShort x.code) :
    r.toJson.Readable (depth + 5) := by
  refine .object (by simp [Members.keys, Text.ofString]) ?_
  simp only [List.forall_mem_cons]
  exact ⟨.string _ _, .string _ _, .string _ _, readable_textOrNull _ _,
    readable_map fun op hop => Operation.readable_toJson depth (h op hop), List.forall_mem_nil _⟩

/-! ### Whole services -/

/-- The codes of all responses are integers that a reader takes. -/
def HasShortCodes (s : Service) : Prop :=
  ∀ r ∈ s.resources, ∀ op ∈ r.operations, ∀ x ∈ op.responses, IsShort x.code

/-- The object of a service with short codes is readable. -/
theorem readable_toJson {s : Service} (h : s.HasShortCodes) :
    s.toJson.Readable Json.depthLimit := by
  change s.toJson.Readable (989 + 1)
  refine .object (by simp [Members.keys, Text.ofString]) ?_
  simp only [List.forall_mem_cons]
  exact ⟨.string _ _, .string _ _, .string _ _, .string _ _, .string _ _,
    readable_textOrNull _ _, readable_textOrNull _ _,
    readable_map fun i _ => i.readable_toJson 987,
    readable_map fun x _ => x.readable_toJson 987,
    readable_map fun e _ => e.readable_toJson 985,
    readable_map fun u _ => u.readable_toJson 985,
    readable_map fun m _ => m.readable_toJson 985,
    readable_map fun r hr => Resource.readable_toJson 983 (h r hr), List.forall_mem_nil _⟩

/-- An accepted document has no code that was too long to be read. -/
theorem hasShortCodes_of_accepted {c : Configuration} {fetch : Fetch} {text : Text} {s : Service}
    (h : (validate c fetch text).outcome = .ok (.accepted s)) : s.HasShortCodes := by
  obtain ⟨_, d, -, -, -, -, hb, -⟩ := validate_eq_accepted_iff.1 h
  intro r hr op hop x hx
  obtain ⟨_, -, _, -, hop₀⟩ := exists_operation_of_build hb hr hop
  obtain ⟨_, _, _, _, _, -, -, -, -, hresponses, rfl⟩ := buildOperation_eq_ok_iff.1 hop₀
  obtain ⟨_, -, hx₀⟩ := Outcome.exists_of_mem_mapM hresponses hx
  obtain ⟨_, _, hcode, -, rfl⟩ := buildResponse_eq_ok_iff.1 hx₀
  exact Number.natAbs_lt_of_readInteger hcode

end ServiceContract.Service
