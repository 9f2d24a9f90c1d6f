/-!
# Greedy patterns

A pattern describes texts, and it can be matched against the beginning of a text. The matcher goes
from left to right and takes as much as it can; where what is behind fails, it goes back and takes
less. It finds a match exactly if the pattern describes some beginning of the text. The match that it
finds is the one it tries first, and it depends on the pattern whether this is the longest one.
-/

namespace UnitCalc.Text

/-- A pattern, where characters are given by their kind. -/
inductive Pattern where
  /-- One character of a kind. -/
  | one (kind : Char → Bool)
  /-- Any number of characters of a kind. -/
  | many (kind : Char → Bool)
  /-- One pattern and another behind it. -/
  | seq (first second : Pattern)
  /-- One of two patterns; the first one is tried first. -/
  | either (first second : Pattern)
  /-- A pattern or nothing; the pattern is tried first. -/
  | optional (inner : Pattern)

namespace Pattern

/-- At least one character of a kind. -/
def atLeastOne (kind : Char → Bool) : Pattern := .seq (.one kind) (.many kind)

/-- The texts that a pattern describes. -/
def Describes : Pattern → List Char → Prop
  | .one kind, cs => ∃ c, kind c = true ∧ cs = [c]
  | .many kind, cs => ∀ c ∈ cs, kind c = true
  | .seq p q, cs => ∃ as bs, p.Describes as ∧ q.Describes bs ∧ cs = as ++ bs
  | .either p q, cs => p.Describes cs ∨ q.Describes cs
  | .optional p, cs => cs = [] ∨ p.Describes cs

/-- Of the beginnings of a text that a pattern describes, one that no other is longer than, and what
is behind it. -/
structure IsLongest (p : Pattern) (cs word behind : List Char) : Prop where
  append : word ++ behind = cs
  describes : p.Describes word
  longest : ∀ other, other <+: cs → p.Describes other → other.length ≤ word.length

theorem IsLongest.unique {p : Pattern} {cs word behind word' behind' : List Char}
    (h : p.IsLongest cs word behind) (h' : p.IsLongest cs word' behind') :
    word = word' ∧ behind = behind' := by
  have hlength : word.length = word'.length := by
    refine Nat.le_antisymm (h'.longest _ ⟨behind, h.append⟩ h.describes) ?_
    exact h.longest _ ⟨behind', h'.append⟩ h'.describes
  exact List.append_inj (h.append.trans h'.append.symm) hlength

/-! ## Matching -/

section Matching

variable {α : Type}

/-- Takes as many characters of a kind as there are, and gives them back one by one while what is
behind fails. -/
def matchMany (kind : Char → Bool) (behind : List Char → Option α) : List Char → Option α
  | [] => behind []
  | c :: cs =>
    if kind c then (matchMany kind behind cs).or (behind (c :: cs)) else behind (c :: cs)

/-- Matches a pattern, and then what is behind it; the first success counts. -/
def match? : Pattern → (behind : List Char → Option α) → List Char → Option α
  | .one _, _, [] => none
  | .one kind, behind, c :: cs => if kind c then behind cs else none
  | .many kind, behind, cs => matchMany kind behind cs
  | .seq p q, behind, cs => p.match? (q.match? behind) cs
  | .either p q, behind, cs => (p.match? behind cs).or (q.match? behind cs)
  | .optional p, behind, cs => (p.match? behind cs).or (behind cs)

variable {kind : Char → Bool} {behind : List Char → Option α} {as bs cs : List Char} {a : α}

theorem exists_of_matchMany (h : matchMany kind behind cs = some a) :
    ∃ as bs, cs = as ++ bs ∧ (∀ c ∈ as, kind c = true) ∧ behind bs = some a := by
  induction cs with
  | nil => exact ⟨[], [], rfl, by simp, h⟩
  | cons c cs ih =>
    rw [matchMany] at h
    split at h
    · rename_i hc
      rcases Option.or_eq_some_iff.mp h with hmany | ⟨_, hnone⟩
      · obtain ⟨as, bs, rfl, has, hbehind⟩ := ih hmany
        exact ⟨c :: as, bs, rfl, List.forall_mem_cons.mpr ⟨hc, has⟩, hbehind⟩
      · exact ⟨[], c :: cs, rfl, by simp, hnone⟩
    · exact ⟨[], c :: cs, rfl, by simp, h⟩

/-- The matcher is sound: it takes a text that the pattern describes. -/
theorem exists_of_match? {p : Pattern} (h : p.match? behind cs = some a) :
    ∃ as bs, cs = as ++ bs ∧ p.Describes as ∧ behind bs = some a := by
  induction p generalizing behind cs with
  | one kind =>
    cases cs with
    | nil => cases h
    | cons c cs =>
      rw [match?] at h
      split at h
      · rename_i hc
        exact ⟨[c], cs, rfl, ⟨c, hc, rfl⟩, h⟩
      · cases h
  | many kind => exact exists_of_matchMany h
  | seq p q ihp ihq =>
    obtain ⟨as, rest, rfl, has, hrest⟩ := ihp h
    obtain ⟨bs, rest, rfl, hbs, hbehind⟩ := ihq hrest
    exact ⟨as ++ bs, rest, (List.append_assoc _ _ _).symm, ⟨as, bs, has, hbs, rfl⟩, hbehind⟩
  | either p q ihp ihq =>
    rcases Option.or_eq_some_iff.mp h with hp | ⟨_, hq⟩
    · obtain ⟨as, bs, hcs, has, hbehind⟩ := ihp hp
      exact ⟨as, bs, hcs, .inl has, hbehind⟩
    · obtain ⟨as, bs, hcs, has, hbehind⟩ := ihq hq
      exact ⟨as, bs, hcs, .inr has, hbehind⟩
  | optional p ih =>
    rcases Option.or_eq_some_iff.mp h with hp | ⟨_, hnone⟩
    · obtain ⟨as, bs, hcs, has, hbehind⟩ := ih hp
      exact ⟨as, bs, hcs, .inr has, hbehind⟩
    · exact ⟨[], cs, rfl, .inl rfl, hnone⟩

theorem isSome_matchMany (has : ∀ c ∈ as, kind c = true) (hbehind : (behind bs).isSome = true) :
    (matchMany kind behind (as ++ bs)).isSome = true := by
  induction as with
  | nil =>
    cases bs with
    | nil => exact hbehind
    | cons c bs =>
      rw [List.nil_append, matchMany]
      split
      · rw [Option.isSome_or, hbehind, Bool.or_true]
      · exact hbehind
  | cons c as ih =>
    obtain ⟨hc, has⟩ := List.forall_mem_cons.mp has
    rw [List.cons_append, matchMany, if_pos hc, Option.isSome_or, ih has, Bool.true_or]

/-- The matcher is complete: where the pattern describes a beginning of the text with which it can
go on, it finds one. -/
theorem isSome_match? {p : Pattern} (has : p.Describes as) (hbehind : (behind bs).isSome = true) :
    (p.match? behind (as ++ bs)).isSome = true := by
  induction p generalizing behind as bs with
  | one kind =>
    obtain ⟨c, hc, rfl⟩ := has
    rw [List.singleton_append, match?, if_pos hc]
    exact hbehind
  | many kind => exact isSome_matchMany has hbehind
  | seq p q ihp ihq =>
    obtain ⟨as, as', hp, hq, rfl⟩ := has
    rw [List.append_assoc]
    exact ihp hp (ihq hq hbehind)
  | either p q ihp ihq =>
    rw [match?, Option.isSome_or, Bool.or_eq_true]
    exact has.imp (ihp · hbehind) (ihq · hbehind)
  | optional p ih =>
    rw [match?, Option.isSome_or, Bool.or_eq_true]
    rcases has with rfl | hp
    · exact .inr hbehind
    · exact .inl (ih hp hbehind)

/-- Nothing is found exactly where the pattern describes no beginning of the text. -/
theorem match?_eq_none_iff {p : Pattern} :
    p.match? some cs = none ↔ ∀ word, word <+: cs → ¬ p.Describes word := by
  rw [Option.eq_none_iff_forall_ne_some]
  constructor
  · rintro hnone word ⟨bs, rfl⟩ hword
    have hfound : (p.match? some (word ++ bs)).isSome = true := isSome_match? hword rfl
    obtain ⟨rest, hrest⟩ := Option.isSome_iff_exists.mp hfound
    exact hnone rest hrest
  · rintro hnone rest hrest
    obtain ⟨as, bs, rfl, has, _⟩ := exists_of_match? hrest
    exact hnone as (List.prefix_append as bs) has

/-- Nothing is given back where what is behind all characters of the kind succeeds. -/
theorem matchMany_eq (h : (behind (cs.dropWhile kind)).isSome = true) :
    matchMany kind behind cs = behind (cs.dropWhile kind) := by
  induction cs with
  | nil => rfl
  | cons c cs ih =>
    rw [matchMany]
    by_cases hc : kind c = true
    · rw [List.dropWhile_cons_of_pos hc] at h ⊢
      rw [if_pos hc, ih h, Option.or_of_isSome h]
    · rw [List.dropWhile_cons_of_neg hc, if_neg hc]

end Matching

end Pattern

end UnitCalc.Text
