import ServiceContract.Proofs.Validation.Configuration

/-!
# Namespaces that follow from keys

A document that gives no namespace gets one from the configuration: the key of the service with low
lines for the hyphens, between two texts that depend on the configuration alone.  For arbitrary
texts that would forget which low lines were hyphens before.  The key of an accepted service holds
no low line, whether the document gives it or it is made from the name (`lowLine_not_mem_key`), so
the hyphens can be put back (`Text.replace_replace`), and the namespace tells the key
(`defaultNamespaces_eq_iff`).
-/

namespace ServiceContract

variable {c : Configuration} {fetch fetch' : Fetch} {s s' : Service}

/-- A replacement by what the text did not hold can be taken back. -/
theorem Text.replace_replace {old new : CodePoint} {t : Text} (h : new ∉ t) :
    replace new old (replace old new t) = t := by
  unfold replace
  rw [List.map_map]
  refine (List.map_congr_left fun c hc => ?_).trans (List.map_id t)
  by_cases hold : c = old
  · simp [hold]
  · have hnew : c ≠ new := fun heq => h (heq ▸ hc)
    simp [hold, hnew]

theorem Text.replace_eq_iff {old new : CodePoint} {t u : Text} (ht : new ∉ t) (hu : new ∉ u) :
    replace old new t = replace old new u ↔ t = u := by
  refine ⟨fun h => ?_, fun h => h ▸ rfl⟩
  rw [← replace_replace ht, h, replace_replace hu]

/-- In one configuration, keys without low lines have different namespaces. -/
theorem Configuration.applicationNamespace_eq_iff {k k' : Text} (h : CodePoint.char '_' ∉ k)
    (h' : CodePoint.char '_' ∉ k') :
    c.applicationNamespace k = c.applicationNamespace k' ↔ k = k' := by
  unfold applicationNamespace
  rw [List.append_cancel_right_eq, List.append_cancel_right_eq, List.append_cancel_left_eq,
    Text.replace_eq_iff h h']

/-! ### Keys of accepted services -/

namespace UrlKey

theorem lowLine_not_mem_of_isRun {t : Text} (h : IsRun t) : CodePoint.char '_' ∉ t := by
  intro hmem
  have hclass := h.2 _ hmem
  revert hclass
  decide

theorem WellFormed.lowLine_not_mem {t : Text} (h : WellFormed t) : CodePoint.char '_' ∉ t := by
  induction h with
  | run h => exact lowLine_not_mem_of_isRun h
  | hyphen h _ ih =>
    rw [List.mem_append, List.mem_cons]
    rintro (hmem | heq | hmem)
    · exact lowLine_not_mem_of_isRun h hmem
    · cases heq
    · exact ih hmem

end UrlKey

/-- The key of an accepted service is well formed or empty, be it given or made from the name. -/
theorem key_of_accepted {text : Text} (h : (validate c fetch text).outcome = .ok (.accepted s)) :
    UrlKey.WellFormed s.key ∨ s.key = [] := by
  obtain ⟨_, d, -, -, -, hrules, hb, -⟩ := validate_eq_accepted_iff.1 h
  obtain ⟨key, _, _, _, _, _, _, _, hk, -, -, -, -, -, -, -, rfl⟩ := Service.build_eq_ok_iff.1 hb
  rcases Service.keyOf_eq_ok_iff.1 hk with hgiven | ⟨-, name, -, rfl⟩
  · exact Or.inl (Service.wellFormed_of_given hrules.key hgiven)
  · exact UrlKey.wellFormed_generate_or_eq_nil name

theorem lowLine_not_mem_key {text : Text}
    (h : (validate c fetch text).outcome = .ok (.accepted s)) : CodePoint.char '_' ∉ s.key := by
  rcases key_of_accepted h with hwell | hnil
  · exact hwell.lowLine_not_mem
  · rw [hnil]
    exact List.not_mem_nil

/-! ### Namespaces -/

theorem nameSpace_of_accepted {text : Text} {members : Json.Members}
    (hm : readDocument text = .ok members)
    (h : (validate c fetch text).outcome = .ok (.accepted s))
    (hnone : ¬ members.Gives "namespace") :
    s.nameSpace = c.applicationNamespace s.key := by
  rw [← Service.isSome_given?_textOf_iff, Option.not_isSome_iff_eq_none] at hnone
  have hself := congrArg Service.nameSpace (configured_of_accepted hm h)
  rw [hnone] at hself
  exact hself.symm

/-- Two services that are accepted under one configuration, from documents that give no namespace or
an empty one, have the same namespace exactly when they have the same key. -/
theorem defaultNamespaces_eq_iff {text text' : Text} {members members' : Json.Members}
    (h : (validate c fetch text).outcome = .ok (.accepted s))
    (h' : (validate c fetch' text').outcome = .ok (.accepted s'))
    (hm : readDocument text = .ok members) (hm' : readDocument text' = .ok members')
    (hnone : ¬ members.Gives "namespace") (hnone' : ¬ members'.Gives "namespace") :
    s.nameSpace = s'.nameSpace ↔ s.key = s'.key := by
  rw [nameSpace_of_accepted hm h hnone, nameSpace_of_accepted hm' h' hnone']
  exact Configuration.applicationNamespace_eq_iff (lowLine_not_mem_key h) (lowLine_not_mem_key h')

/-- A document without a key and with an empty namespace. -/
def petStoreDocument : Text := "\x7b\"name\": \"petStore\", \"namespace\": \"\"\x7d"

/-- A document with the key that the first one gets, and a namespace that is no text. -/
def keyedDocument : Text :=
  "\x7b\"name\": \"?\", \"key\": \"pet-store\", \"namespace\": []\x7d"

/-- The service of the name that either document is accepted as. -/
def petStoreService (name : Text) : Service where
  name := name
  key := "pet-store"
  nameSpace := "com.example.pet_store.v0"
  organization := "example"
  version := "0.0.1-dev"
  description := none
  baseUrl := none
  imports := []
  headers := []
  enums := []
  unions := []
  models := []
  resources := []

theorem readDocument_petStoreDocument : readDocument petStoreDocument =
    .ok [("name", .string "petStore"), ("namespace", .string "")] := by cbv

theorem readDocument_keyedDocument : readDocument keyedDocument =
    .ok [("name", .string "?"), ("key", .string "pet-store"), ("namespace", .array [])] := by cbv

theorem keyedDocument_namespace :
    (validate {} unreachable petStoreDocument).outcome =
      .ok (.accepted (petStoreService "petStore")) ∧
    (validate {} unreachable keyedDocument).outcome = .ok (.accepted (petStoreService "?")) ∧
    ((petStoreService "petStore").nameSpace = (petStoreService "?").nameSpace ↔
      (petStoreService "petStore").key = (petStoreService "?").key) := by
  have hempty : ¬ Json.Members.Gives [("name", .string "petStore"), ("namespace", .string "")]
      "namespace" := by
    rintro ⟨t, ht, hne⟩
    cases ht
    exact hne rfl
  have harray : ¬ Json.Members.Gives
      [("name", .string "?"), ("key", .string "pet-store"), ("namespace", .array [])]
      "namespace" := by
    rintro ⟨t, ht, -⟩
    cases ht
  have haccepted : (validate {} unreachable petStoreDocument).outcome =
      .ok (.accepted (petStoreService "petStore")) := by decide +kernel
  have haccepted' : (validate {} unreachable keyedDocument).outcome =
      .ok (.accepted (petStoreService "?")) := by decide +kernel
  exact ⟨haccepted, haccepted', defaultNamespaces_eq_iff haccepted haccepted'
    readDocument_petStoreDocument readDocument_keyedDocument hempty harray⟩

end ServiceContract
