import Mathlib.Data.List.TakeWhile
import ServiceContract.Proofs.Text.Pieces
import ServiceContract.Uri.Host

/-!
# Which hosts are in order

A host is in order when no character of it is a compatibility form of a delimiter and it is written
without brackets or `IsAddressed` behind its user name (`isHost_iff`).  What stands in brackets, or
in their place, is an IPv6 address or an address of a later version (`bracketFault?_eq_none_iff`):
neither can be taken for the other, nor for an IPv4 address.
-/

namespace ServiceContract.Uri

variable {t : Text}

/-! ### Addresses -/

theorem isIPv4_eq_false_of_mem (h : .char ':' ∈ t) : isIPv4 t = false := by
  rw [← Bool.not_eq_true]
  intro hipv4
  unfold isIPv4 at hipv4
  dsimp only at hipv4
  rw [Bool.and_eq_true, List.all_eq_true] at hipv4
  rw [← Text.intercalate_pieces (CodePoint.char '.') t,
    Text.mem_intercalate_iff (by decide)] at h
  obtain ⟨octet, hoctet, hcolon⟩ := h
  have hdigits := hipv4.2 octet hoctet
  simp only [isOctet, Bool.and_eq_true, List.all_eq_true] at hdigits
  have hdigit := hdigits.1.1.1.2 _ hcolon
  revert hdigit
  decide

/-- An IPv6 address has colons. -/
theorem colon_mem_of_isIPv6 (h : isIPv6 t = true) : .char ':' ∈ t := by
  by_contra hcolon
  have haddress : .char ':' ∉ t.takeWhile (· != .char '%') := fun hmem =>
    hcolon ((List.takeWhile_prefix _).subset hmem)
  have hpieces := Text.pieces_intercalate (List.cons_ne_nil _ [])
    (List.forall_mem_singleton.2 haddress)
  rw [List.intercalate_singleton] at hpieces
  unfold isIPv6 at h
  dsimp only at h
  rw [hpieces] at h
  simp at h

theorem isGroup_eq_false_of_mem {c : CodePoint} (hc : c.isHexDigit = false) (h : c ∈ t) :
    isGroup t = false := by
  rw [← Bool.not_eq_true]
  intro hgroup
  simp only [isGroup, Bool.and_eq_true, List.all_eq_true] at hgroup
  rw [hgroup.2 c h] at hc
  cases hc

theorem areGroups_cons_eq_false {first : Text} {others : List Text} (hne : first ≠ [])
    (h : isGroup first = false) : areGroups (first :: others) = false := by
  have hkept : (first :: others).takeWhile (fun piece => !List.isEmpty piece) =
      first :: others.takeWhile (fun piece => !List.isEmpty piece) :=
    List.takeWhile_cons_of_pos (by simpa using hne)
  have hall : ∀ rest, (first :: rest).all isGroup = false := fun rest => by
    rw [List.all_cons, h, Bool.false_and]
  unfold areGroups
  dsimp only
  rw [hkept, List.isEmpty_cons, if_neg Bool.false_ne_true]
  dsimp only
  rw [hall, hall, Bool.and_false, Bool.and_false, Bool.false_and, ite_self, ite_self]

/-- No IPv6 address starts with a letter that is no digit. -/
theorem isIPv6_cons_eq_false {c : CodePoint} (hc : c.isHexDigit = false)
    (hcolon : c ≠ ':') (hpercent : c ≠ '%') : isIPv6 (c :: t) = false := by
  rw [← Bool.not_eq_true]
  intro h
  have hkept : (c :: t).takeWhile (· != .char '%') = c :: t.takeWhile (· != .char '%') :=
    List.takeWhile_cons_of_pos (by simpa using hpercent)
  unfold isIPv6 at h
  dsimp only at h
  rw [hkept] at h
  obtain ⟨first, others, hpieces⟩ : ∃ first others,
      Text.pieces (.char ':') (c :: t.takeWhile (· != .char '%')) = (c :: first) :: others := by
    rw [Text.pieces, if_neg hcolon]
    split
    · rename_i first others _
      exact ⟨first, others, rfl⟩
    · exact ⟨[], [], rfl⟩
  rw [hpieces] at h
  simp only [Bool.and_eq_true, decide_eq_true_eq] at h
  obtain ⟨⟨-, hlength⟩, hany⟩ := h
  have hgroup := isGroup_eq_false_of_mem hc (List.mem_cons_self (l := first))
  obtain ⟨groups, hgroups, hare⟩ := Option.any_eq_true _ _ |>.1 hany
  -- the last piece is another one than the first
  have hcons : ∃ others', groups = (c :: first) :: others' := by
    unfold withoutIPv4 at hgroups
    obtain ⟨second, rest, rfl⟩ : ∃ second rest, others = second :: rest :=
      List.exists_cons_of_ne_nil (by rintro rfl; simp at hlength)
    split at hgroups
    · split_ifs at hgroups
      · obtain rfl := Option.some.inj hgroups
        exact ⟨_, rfl⟩
      · obtain rfl := Option.some.inj hgroups
        exact ⟨_, rfl⟩
    · obtain rfl := Option.some.inj hgroups
      exact ⟨_, rfl⟩
  obtain ⟨others', rfl⟩ := hcons
  rw [areGroups_cons_eq_false (List.cons_ne_nil _ _) hgroup] at hare
  cases hare

theorem head?_of_isLaterVersion (h : isLaterVersion t = true) : t.head? = some (.char 'v') := by
  unfold isLaterVersion at h
  split at h
  · rfl
  · cases h

/-- What may stand in brackets. -/
theorem bracketFault?_eq_none_iff :
    bracketFault? t = none ↔ isIPv6 t = true ∨ isLaterVersion t = true := by
  unfold bracketFault?
  by_cases hv : t.head? = some (.char 'v')
  · obtain ⟨rest, rfl⟩ := List.head?_eq_some_iff.1 hv
    have hipv6 : isIPv6 (.char 'v' :: rest) = false :=
      isIPv6_cons_eq_false (by decide) (by decide) (by decide)
    rw [if_pos hv, hipv6]
    cases isLaterVersion (.char 'v' :: rest) <;> simp
  · have hlater : isLaterVersion t = false := by
      rw [← Bool.not_eq_true]
      exact fun h => hv (head?_of_isLaterVersion h)
    rw [if_neg hv, hlater]
    cases hipv6 : isIPv6 t with
    | false => cases isIPv4 t <;> simp
    | true =>
      have hipv4 := isIPv4_eq_false_of_mem (colon_mem_of_isIPv6 hipv6)
      rw [hipv4]
      simp

/-! ### Hosts -/

/-- The text can stand in brackets. -/
def IsBracketable (t : Text) : Prop := isIPv6 t = true ∨ isLaterVersion t = true

/-- An address with its port, where brackets are in use: in brackets, or without them in front of
the first colon.  The closing bracket may be missing. -/
inductive IsAddressed : Text → Prop
  | bare {host rest : Text} (hbracket : .char '[' ∉ host ++ rest) (hcolon : .char ':' ∉ host)
      (hrest : rest = [] ∨ rest.head? = some (.char ':')) (h : IsBracketable host) :
      IsAddressed (host ++ rest)
  | unclosed {host : Text} (hbracket : .char ']' ∉ host) (h : IsBracketable host) :
      IsAddressed (.char '[' :: host)
  | bracketed {host port : Text} (hbracket : .char ']' ∉ host) (h : IsBracketable host)
      (hport : port = [] ∨ port.head? = some (.char ':')) :
      IsAddressed (.char '[' :: (host ++ .char ']' :: port))

theorem addressFault?_append {before bracketed : Text} (h : .char '[' ∉ before) :
    addressFault? (before ++ .char '[' :: bracketed) =
      if before.isEmpty &&
          (bracketed.drop ((bracketed.takeWhile (· != .char ']')).length + 1)).head?.all
            (· == .char ':')
      then bracketFault? (bracketed.takeWhile (· != .char ']')) else some .strayBracket := by
  unfold addressFault?
  dsimp only
  rw [Text.takeWhile_bne_append h (Or.inr rfl), List.drop_left]

theorem addressFault?_of_not_mem (h : .char '[' ∉ t) :
    addressFault? t = bracketFault? (t.takeWhile (· != .char ':')) := by
  unfold addressFault?
  dsimp only
  rw [Text.takeWhile_bne_of_not_mem h, List.drop_length]

theorem head?_all_beq_iff {c : CodePoint} :
    t.head?.all (· == c) = true ↔ t = [] ∨ t.head? = some c := by
  cases t <;> simp

theorem addressFault?_eq_none_iff : addressFault? t = none ↔ IsAddressed t := by
  constructor
  · intro h
    obtain ⟨before, rest, rfl, hbefore, hrest⟩ :=
      Text.exists_append_of_separator (CodePoint.char '[') t
    rcases hrest with rfl | hrest
    · rw [List.append_nil] at h ⊢
      rw [addressFault?_of_not_mem hbefore] at h
      obtain ⟨host, port, rfl, hhost, hport⟩ :=
        Text.exists_append_of_separator (CodePoint.char ':') before
      rw [Text.takeWhile_bne_append hhost hport] at h
      exact .bare hbefore hhost hport (bracketFault?_eq_none_iff.1 h)
    · obtain ⟨bracketed, rfl⟩ := List.head?_eq_some_iff.1 hrest
      rw [addressFault?_append hbefore] at h
      obtain ⟨host, tail, rfl, hhost, htail⟩ :=
        Text.exists_append_of_separator (CodePoint.char ']') bracketed
      rw [Text.takeWhile_bne_append hhost htail, ← List.drop_drop, List.drop_left] at h
      split_ifs at h with hcondition
      rw [Bool.and_eq_true, List.isEmpty_iff, head?_all_beq_iff] at hcondition
      obtain ⟨rfl, hport⟩ := hcondition
      have hbracketable := bracketFault?_eq_none_iff.1 h
      rcases htail with rfl | htail
      · rw [List.append_nil]
        exact .unclosed hhost hbracketable
      · obtain ⟨port, rfl⟩ := List.head?_eq_some_iff.1 htail
        exact .bracketed hhost hbracketable hport
  · intro h
    cases h with
    | @bare host rest hbracket hcolon hrest h =>
      rw [addressFault?_of_not_mem hbracket, Text.takeWhile_bne_append hcolon hrest]
      exact bracketFault?_eq_none_iff.2 h
    | @unclosed host hbracket h =>
      rw [← List.nil_append (_ :: _), addressFault?_append List.not_mem_nil,
        Text.takeWhile_bne_of_not_mem hbracket, List.drop_of_length_le (Nat.le_succ _)]
      exact bracketFault?_eq_none_iff.2 h
    | @bracketed host port hbracket h hport =>
      rw [← List.nil_append (_ :: _), addressFault?_append List.not_mem_nil,
        Text.takeWhile_bne_append hbracket (Or.inr rfl), ← List.drop_drop, List.drop_left]
      rw [List.drop_one, List.tail_cons, List.isEmpty_nil, Bool.true_and,
        if_pos (head?_all_beq_iff.2 hport)]
      exact bracketFault?_eq_none_iff.2 h

/-- The text stands behind the last at sign of the host. -/
def IsBehindUser (address host : Text) : Prop :=
  .char '@' ∉ address ∧ ∃ user, host = user ++ address ∧
    (user = [] ∨ user.getLast? = some (.char '@'))

theorem isBehindUser_iff {address host : Text} :
    IsBehindUser address host ↔ address = (host.reverse.takeWhile (· != .char '@')).reverse := by
  constructor
  · rintro ⟨hat, user, rfl, huser⟩
    have hback : user.reverse = [] ∨ user.reverse.head? = some (.char '@') := by
      rwa [List.reverse_eq_nil_iff, List.head?_reverse]
    rw [List.reverse_append, Text.takeWhile_bne_append (by simpa using hat) hback,
      List.reverse_reverse]
  · rintro rfl
    obtain ⟨xs, ys, hsplit, hxs, hys⟩ :=
      Text.exists_append_of_separator (CodePoint.char '@') host.reverse
    have hhost : host = ys.reverse ++ xs.reverse := by
      rw [← List.reverse_append, ← hsplit, List.reverse_reverse]
    rw [hsplit, Text.takeWhile_bne_append hxs hys]
    refine ⟨by simpa using hxs, ys.reverse, hhost, ?_⟩
    rwa [List.reverse_eq_nil_iff, List.getLast?_reverse]

/-- The host, with its user name and its port, is in order. -/
structure IsHost (host : Text) : Prop where
  plain : ∀ c ∈ host, c ∉ disguisedDelimiters
  addressed : (.char '[' ∈ host ∨ .char ']' ∈ host) →
    (.char '[' ∈ host ∧ .char ']' ∈ host) ∧ ∃ address, IsBehindUser address host ∧
      IsAddressed address

theorem bracketsFault?_eq_none_iff {host : Text} : bracketsFault? host = none ↔
    (.char '[' ∈ host ∨ .char ']' ∈ host) →
      (.char '[' ∈ host ∧ .char ']' ∈ host) ∧ ∃ address, IsBehindUser address host ∧
        IsAddressed address := by
  simp only [isBehindUser_iff, exists_eq_left, ← addressFault?_eq_none_iff]
  unfold bracketsFault?
  by_cases hopen : .char '[' ∈ host
  · by_cases hclose : .char ']' ∈ host
    · rw [List.contains_iff_mem.2 hopen, List.contains_iff_mem.2 hclose]
      simp [hopen, hclose]
    · have hcontains : List.contains host (.char ']') = false := by simpa using hclose
      rw [List.contains_iff_mem.2 hopen, hcontains]
      simp [hopen, hclose]
  · have hcontains : List.contains host (.char '[') = false := by simpa using hopen
    by_cases hclose : .char ']' ∈ host
    · rw [hcontains, List.contains_iff_mem.2 hclose]
      simp [hopen, hclose]
    · have hcontains' : List.contains host (.char ']') = false := by simpa using hclose
      rw [hcontains, hcontains']
      simp [hopen, hclose]

theorem isHost_iff {host : Text} : IsHost host ↔
    bracketsFault? host = none ∧ host.any disguisedDelimiters.contains = false := by
  rw [bracketsFault?_eq_none_iff, List.any_eq_false]
  simp only [List.contains_iff_mem]
  exact ⟨fun h => ⟨h.addressed, h.plain⟩, fun h => ⟨h.2, h.1⟩⟩

end ServiceContract.Uri
