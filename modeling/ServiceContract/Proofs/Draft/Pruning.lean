import ServiceContract.Proofs.Draft.Distinct
import ServiceContract.Proofs.Shuffle

/-!
# Documents without the parts that are ignored

The keys that an element of a document does not have, values of a wrong kind where objects should
stand, and containers of a wrong kind are passed over in silence, except in fields, parameters,
operations and responses, which warn about them.  `Draft.prune` takes away what is passed over and
leaves alone what is warned about.  The pruned document is read to the same draft, or fails in the
same way (`ofJson_prune`): each reader asks for its own keys only, and of a container for the
objects in it only.
-/

namespace ServiceContract

namespace Json

/-- What is kept of the value of a key, if anything is. -/
abbrev Part := Value → Option Value

/-- The value is kept as it is. -/
def Part.whole : Part := some

/-- Of an array the objects in it are kept, each of them pruned; other values are not kept. -/
def Part.objects (prune : Members → Members) : Part
  | .array items => some (.array (items.filterMap fun item =>
      item.members?.map fun inner => .object (prune inner)))
  | _ => none

/-- Of an object the members that are objects are kept, each of them pruned; other values are not
kept. -/
def Part.namedObjects (prune : Members → Members) : Part
  | .object members => some (.object (members.filterMap fun (name, value) =>
      value.members?.map fun inner => (name, .object (prune inner))))
  | _ => none

namespace Members

/-- The members whose keys are in the table, with what is kept of their values. -/
def keep (table : List (Text × Part)) (o : Members) : Members :=
  o.filterMap fun (key, value) =>
    ((table.lookup key).bind fun part => part value).map fun kept => (key, kept)

variable {table : List (Text × Part)} {o : Members} {key : Text}

theorem get?_eq_none_of_notMem (h : key ∉ o.keys) : o.get? key = none := by
  cases hv : o.get? key with
  | none => rfl
  | some v => exact absurd (List.mem_map_of_mem (mem_of_get? hv)) h

/-- A key that stands once keeps the part of its value that the table names. -/
theorem get?_keep (h : o.keys.Nodup) (key : Text) :
    (o.keep table).get? key = (table.lookup key).bind fun part => (o.get? key).bind part := by
  induction o with
  | nil => cases table.lookup key <;> rfl
  | cons member rest ih =>
    obtain ⟨k, v⟩ := member
    obtain ⟨hk, hrest⟩ := List.nodup_cons.1 h
    have ih := ih hrest
    unfold keep at ih ⊢
    rw [List.filterMap_cons, get?_cons]
    dsimp only
    by_cases heq : key = k
    · subst heq
      -- a key that is taken away does not come back further on
      rw [if_pos rfl]
      rw [get?_eq_none_of_notMem hk] at ih
      cases hpart : table.lookup key with
      | none => simpa [hpart] using ih
      | some part =>
        cases hkept : part v with
        | none => simpa [hpart, hkept] using ih
        | some kept => simp [hkept, get?_cons]
    · rw [if_neg heq, ← ih]
      cases (table.lookup k).bind fun part => part v with
      | none => rfl
      | some kept =>
        dsimp only [Option.map_some]
        rw [get?_cons, if_neg heq]

theorem get?_keep_whole (h : o.keys.Nodup) (hkey : table.lookup key = some Part.whole) :
    (o.keep table).get? key = o.get? key := by
  rw [get?_keep h, hkey]
  exact Option.bind_fun_some (o.get? key)

end Members

theorem Value.Distinct.keys_nodup {o : Members} (h : (Value.object o).Distinct) : o.keys.Nodup := by
  obtain ⟨hkeys, -, -⟩ := h
  exact hkeys

end Json

namespace Draft

open Json Members Outcome

/-! ### Pruning -/

/-- What is kept of an import. -/
def importParts : List (Text × Part) := [("uri", Part.whole)]

/-- What is kept of a header. -/
def headerParts : List (Text × Part) :=
  [("name", Part.whole), ("type", Part.whole), ("required", Part.whole), ("default", Part.whole),
   ("description", Part.whole)]

/-- What is kept of a value of an enum. -/
def enumValueParts : List (Text × Part) :=
  [("name", Part.whole), ("description", Part.whole)]

/-- What is kept of an enum. -/
def enumParts : List (Text × Part) :=
  [("description", Part.whole), ("values", Part.objects (keep enumValueParts))]

/-- What is kept of a member of a union. -/
def unionMemberParts : List (Text × Part) :=
  [("type", Part.whole), ("description", Part.whole)]

/-- What is kept of a union. -/
def unionParts : List (Text × Part) :=
  [("description", Part.whole), ("types", Part.objects (keep unionMemberParts))]

/-- What is kept of a model.  Fields warn about what they have too much. -/
def modelParts : List (Text × Part) :=
  [("description", Part.whole), ("fields", Part.objects id)]

/-- What is kept of the body of an operation. -/
def bodyParts : List (Text × Part) :=
  [("type", Part.whole), ("description", Part.whole)]

/-- The value of a key of an operation.  A body that is no object still is one, and parameters that
are no array are warned about. -/
def pruneMember (key : Text) : Value → Value
  | .object inner => .object (if key = "body" then keep bodyParts inner else inner)
  | .array items => if key = "parameters" then
      .array (items.filterMap fun item => item.members?.map Value.object) else .array items
  | v => v

/-- An operation, which warns about keys that it does not have. -/
def pruneOperation (o : Members) : Members :=
  o.map fun (key, value) => (key, pruneMember key value)

/-- What is kept of a resource. -/
def resourceParts : List (Text × Part) :=
  [("path", Part.whole), ("description", Part.whole), ("operations", Part.objects pruneOperation)]

/-- What is kept of a document. -/
def documentParts : List (Text × Part) :=
  [("name", Part.whole), ("key", Part.whole), ("namespace", Part.whole),
   ("description", Part.whole), ("base_url", Part.whole),
   ("imports", Part.objects (keep importParts)), ("headers", Part.objects (keep headerParts)),
   ("enums", Part.namedObjects (keep enumParts)), ("unions", Part.namedObjects (keep unionParts)),
   ("models", Part.namedObjects (keep modelParts)),
   ("resources", Part.namedObjects (keep resourceParts))]

/-- The document without everything that is passed over in silence. -/
def prune (o : Members) : Members := o.keep documentParts

/-! ### What readers find -/

section

variable {prune : Members → Members} {table : List (Text × Part)} {o : Members} {key : Text}

theorem filterMap_members?_objects (prune : Members → Members) (items : List Value) :
    (items.filterMap fun item => item.members?.map fun inner =>
      Value.object (prune inner)).filterMap Value.members? =
        (items.filterMap Value.members?).map prune := by
  rw [List.filterMap_filterMap, List.map_filterMap]
  congr 1
  funext item
  cases item.members? with
  | none => rfl
  | some inner => rfl

theorem objectsOf_keep (h : o.keys.Nodup) (hkey : table.lookup key = some (Part.objects prune)) :
    objectsOf (o.keep table) key = (objectsOf o key).map prune := by
  unfold objectsOf
  rw [get?_keep h, hkey]
  cases o.get? key with
  | none => rfl
  | some v =>
    cases v with
    | array items => exact filterMap_members?_objects prune items
    | _ => rfl

theorem namedObjectsOf_keep (h : o.keys.Nodup)
    (hkey : table.lookup key = some (Part.namedObjects prune)) :
    namedObjectsOf (o.keep table) key =
      (namedObjectsOf o key).map fun entry => (entry.1, prune entry.2) := by
  unfold namedObjectsOf
  rw [get?_keep h, hkey]
  cases o.get? key with
  | none => rfl
  | some v =>
    cases v with
    | object members =>
      show (members.filterMap _).filterMap _ = (members.filterMap _).map _
      rw [List.filterMap_filterMap, List.map_filterMap]
      congr 1
      funext ⟨name, value⟩
      dsimp only
      cases value.members? with
      | none => rfl
      | some inner => rfl
    | _ => rfl

section

variable {α ε : Type} (h : (Value.object o).Distinct)
include h

theorem map_objectsOf_keep (hkey : table.lookup key = some (Part.objects prune))
    {f : Members → α}
    (hf : ∀ inner, (Value.object inner).Distinct → f (prune inner) = f inner) :
    (objectsOf (o.keep table) key).map f = (objectsOf o key).map f := by
  rw [objectsOf_keep h.keys_nodup hkey, List.map_map]
  exact List.map_congr_left fun inner hinner => hf inner (distinct_of_mem_objectsOf h hinner)

theorem mapM_objectsOf_keep (hkey : table.lookup key = some (Part.objects prune))
    {f : Members → Except ε α}
    (hf : ∀ inner, (Value.object inner).Distinct → f (prune inner) = f inner) :
    (objectsOf (o.keep table) key).mapM f = (objectsOf o key).mapM f := by
  rw [objectsOf_keep h.keys_nodup hkey, List.mapM_map]
  exact mapM_congr_left fun inner hinner => hf inner (distinct_of_mem_objectsOf h hinner)

theorem map_namedObjectsOf_keep (hkey : table.lookup key = some (Part.namedObjects prune))
    {f : Text → Members → α}
    (hf : ∀ name inner, (Value.object inner).Distinct → f name (prune inner) = f name inner) :
    (namedObjectsOf (o.keep table) key).map (fun (name, inner) => f name inner) =
      (namedObjectsOf o key).map fun (name, inner) => f name inner := by
  rw [namedObjectsOf_keep h.keys_nodup hkey, List.map_map]
  exact List.map_congr_left fun entry hentry =>
    hf entry.1 entry.2 (distinct_of_mem_namedObjectsOf h hentry)

theorem mapM_namedObjectsOf_keep (hkey : table.lookup key = some (Part.namedObjects prune))
    {f : Text → Members → Except ε α}
    (hf : ∀ name inner, (Value.object inner).Distinct → f name (prune inner) = f name inner) :
    (namedObjectsOf (o.keep table) key).mapM (fun (name, inner) => f name inner) =
      (namedObjectsOf o key).mapM fun (name, inner) => f name inner := by
  rw [namedObjectsOf_keep h.keys_nodup hkey, List.mapM_map]
  exact mapM_congr_left fun entry hentry =>
    hf entry.1 entry.2 (distinct_of_mem_namedObjectsOf h hentry)

end

end

/-! ### Elements -/

section

variable {o : Members} (h : (Value.object o).Distinct)
include h

theorem textOf_keep {table : List (Text × Part)} {key : Text}
    (hkey : table.lookup key = some Part.whole) : textOf (o.keep table) key = textOf o key :=
  textOf_congr (get?_keep_whole h.keys_nodup hkey)

theorem typeOf_keep {table : List (Text × Part)}
    (hkey : table.lookup ("type" : Text) = some Part.whole) : typeOf (o.keep table) = typeOf o :=
  typeOf_congr (get?_keep_whole h.keys_nodup hkey)

theorem importOf_keep : importOf (o.keep importParts) = importOf o := by
  unfold importOf
  rw [textOf_keep h rfl]

theorem headerOf_keep : headerOf (o.keep headerParts) = headerOf o := by
  unfold headerOf
  rw [textOf_keep h rfl, textOf_keep h rfl, typeOf_keep h rfl,
    requiredOf_congr (get?_keep_whole h.keys_nodup rfl),
    defaultOf_congr (get?_keep_whole h.keys_nodup rfl)]

theorem enumValueOf_keep : enumValueOf (o.keep enumValueParts) = enumValueOf o := by
  unfold enumValueOf
  rw [textOf_keep h rfl, textOf_keep h rfl]

theorem enumOf_keep (name : Text) : enumOf name (o.keep enumParts) = enumOf name o := by
  unfold enumOf
  rw [textOf_keep h rfl, map_objectsOf_keep h rfl fun _ hvalue => enumValueOf_keep hvalue]

theorem unionMemberOf_keep : unionMemberOf (o.keep unionMemberParts) = unionMemberOf o := by
  unfold unionMemberOf
  rw [textOf_keep h rfl, typeOf_keep h rfl]

theorem unionOf_keep (name : Text) : unionOf name (o.keep unionParts) = unionOf name o := by
  unfold unionOf
  rw [textOf_keep h rfl, map_objectsOf_keep h rfl fun _ hmember => unionMemberOf_keep hmember]

theorem modelOf_keep (name : Text) : modelOf name (o.keep modelParts) = modelOf name o := by
  unfold modelOf
  rw [textOf_keep h rfl, objectsOf_keep h.keys_nodup rfl, List.map_id]

end

/-! ### Operations -/

section

variable (o : Members)

theorem get?_pruneOperation (key : Text) :
    (pruneOperation o).get? key = (o.get? key).map (pruneMember key) := by
  unfold pruneOperation
  induction o with
  | nil => rfl
  | cons member rest ih =>
    obtain ⟨k, v⟩ := member
    rw [List.map_cons, get?_cons, get?_cons]
    by_cases hk : key = k
    · rw [if_pos hk, if_pos hk, hk, Option.map_some]
    · rw [if_neg hk, if_neg hk, ih]

theorem kind_pruneMember (key : Text) (v : Value) : (pruneMember key v).kind = v.kind := by
  cases v with
  | array items =>
    rw [pruneMember]
    by_cases hkey : key = "parameters"
    · rw [if_pos hkey]
      rfl
    · rw [if_neg hkey]
  | _ => rfl

theorem pruneMember_of_ne {key : Text} (hbody : key ≠ "body") (hparameters : key ≠ "parameters")
    (v : Value) : pruneMember key v = v := by
  unfold pruneMember
  split
  · rw [if_neg hbody]
  · rw [if_neg hparameters]
  · rfl

theorem get?_pruneOperation_of_ne {key : Text} (hbody : key ≠ "body")
    (hparameters : key ≠ "parameters") : (pruneOperation o).get? key = o.get? key := by
  rw [get?_pruneOperation]
  cases o.get? key with
  | none => rfl
  | some v => rw [Option.map_some, pruneMember_of_ne hbody hparameters]

/-- Warnings are about the keys and the kinds of their values, and pruning changes neither. -/
theorem warnings_pruneOperation (table : Table) :
    table.warnings (pruneOperation o) = table.warnings o := by
  unfold Table.warnings pruneOperation
  rw [List.filterMap_map]
  congr 1
  funext ⟨key, v⟩
  show table.warning? key (pruneMember key v) = table.warning? key v
  rw [Table.warning?, kind_pruneMember, ← Table.warning?]

theorem objectsOf_pruneOperation :
    objectsOf (pruneOperation o) "parameters" = objectsOf o "parameters" := by
  unfold objectsOf
  rw [get?_pruneOperation]
  cases o.get? "parameters" with
  | none => rfl
  | some v =>
    cases v with
    | array items =>
      exact (filterMap_members?_objects id items).trans (List.map_id _)
    | _ => rfl

variable {o}

theorem bodyOf_pruneOperation (h : (Value.object o).Distinct) :
    bodyOf ((pruneOperation o).get? "body") = bodyOf (o.get? "body") := by
  rw [get?_pruneOperation]
  have hbody := h.getD "body"
  cases hv : o.get? "body" with
  | none => rfl
  | some v =>
    rw [hv] at hbody
    cases v with
    | object inner =>
      show some (Body.mk (typeOf (keep bodyParts inner)) (textOf (keep bodyParts inner) _)) =
        some (Body.mk (typeOf inner) (textOf inner _))
      rw [typeOf_keep hbody rfl, textOf_keep hbody rfl]
    | _ => rfl

theorem operationOf_pruneOperation (h : (Value.object o).Distinct) (path : Text) :
    operationOf path (pruneOperation o) = operationOf path o := by
  have hother : ∀ key : Text, key ≠ "body" → key ≠ "parameters" →
      (pruneOperation o).get? key = o.get? key :=
    fun _ hbody hparameters => get?_pruneOperation_of_ne o hbody hparameters
  unfold operationOf
  rw [objectsOf_pruneOperation, warnings_pruneOperation, bodyOf_pruneOperation h,
    textOf_congr (hother "method" (by decide) (by decide)),
    textOf_congr (hother "path" (by decide) (by decide)),
    textOf_congr (hother "description" (by decide) (by decide)),
    hother "responses" (by decide) (by decide)]

end

/-! ### Documents -/

section

variable {o : Members}

theorem resourceOf_keep (h : (Value.object o).Distinct) (name : Text) :
    resourceOf name (o.keep resourceParts) = resourceOf name o := by
  unfold resourceOf resourcePathOf
  rw [textOf_keep h rfl, textOf_keep h rfl]
  dsimp only
  rw [mapM_objectsOf_keep h rfl fun _ hop => operationOf_pruneOperation hop _]

/-- A document and the document without what is passed over in silence are read to the same draft,
or fail in the same way. -/
theorem ofJson_prune (h : (Value.object o).Distinct) : ofJson (prune o) = ofJson o := by
  unfold ofJson prune
  rw [mapM_namedObjectsOf_keep h rfl fun name _ hmodel => modelOf_keep hmodel name,
    mapM_namedObjectsOf_keep h rfl fun name _ hresource => resourceOf_keep hresource name,
    map_objectsOf_keep h rfl fun _ himport => importOf_keep himport,
    map_objectsOf_keep h rfl fun _ hheader => headerOf_keep hheader,
    map_namedObjectsOf_keep h rfl fun name _ henum => enumOf_keep henum name,
    map_namedObjectsOf_keep h rfl fun name _ hunion => unionOf_keep hunion name,
    textOf_keep h rfl, textOf_keep h rfl, textOf_keep h rfl, textOf_keep h rfl, textOf_keep h rfl]

end

/-- A document with keys and entries to take away. -/
def litteredDocument : Text :=
  "\x7b\"enums\":\x7b\"a\":\x7b\"values\":[null,\x7b\"name\":\"b\",\"x\":null\x7d]\x7d," ++
    "\"c\":null\x7d,\"models\":[],\"resources\":\x7b\"pet\":\x7b\"x\":null,\"operations\":[\x7b\"x\":null," ++
      "\"body\":\x7b\"x\":null\x7d,\"parameters\":[null,\x7b\"x\":null\x7d]\x7d]\x7d\x7d\x7d"

def litteredMembers : Members :=
  [("enums", .object [("a", .object [("values", .array [.null,
      .object [("name", .string "b"), ("x", .null)]])]), ("c", .null)]),
   ("models", .array []),
   ("resources", .object [("pet", .object [("x", .null), ("operations", .array [.object
      [("x", .null), ("body", .object [("x", .null)]),
       ("parameters", .array [.null, .object [("x", .null)]])]])])])]

/-- What is left of it.  An operation and its parameters warn about the keys that they do not
have. -/
def tidiedMembers : Members :=
  [("enums", .object [("a", .object [("values", .array [.object [("name", .string "b")]])])]),
   ("resources", .object [("pet", .object [("operations", .array [.object
      [("x", .null), ("body", .object []), ("parameters", .array [.object [("x", .null)]])]])])])]

theorem readDocument_littered : readDocument litteredDocument = .ok litteredMembers := by cbv

theorem ofJson_tidiedMembers : (Value.object litteredMembers).Distinct ∧
    prune litteredMembers = tidiedMembers ∧ ofJson tidiedMembers = ofJson litteredMembers := by
  have hdistinct : (Value.object litteredMembers).Distinct :=
    distinct_of_readDocument readDocument_littered
  have hprune : prune litteredMembers = tidiedMembers := by rfl
  have hsame := ofJson_prune hdistinct
  rw [hprune] at hsame
  exact ⟨hdistinct, hprune, hsame⟩

end Draft

end ServiceContract
