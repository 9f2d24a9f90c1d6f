import UnitCalc.Proofs.Text.Decomposition

/-!
# The normal form is a normal form

Composing undoes decomposing: what is composed has, decomposed again and with its marks in order,
the same letters and marks as before. So a text and its normal form have one decomposition, and
the normal form is its own normal form.
-/

namespace UnitCalc.Text

variable {m n base last : Nat} {ns ms marks rest : List Nat}

/-! ## The order of marks -/

/-- Whether a character stays before the next one: no mark of a smaller class follows. -/
def Stays (n m : Nat) : Prop := combiningClass m = 0 ∨ combiningClass n ≤ combiningClass m

/-- Whether no mark has to move. -/
def MarksOrdered : List Nat → Prop := List.IsChain Stays

theorem stays_iff : Stays n m ↔ ¬ (combiningClass m ≠ 0 ∧ combiningClass m < combiningClass n) := by
  unfold Stays
  omega

theorem insertMark_of_stays (h : Stays n m) : insertMark n (m :: rest) = n :: m :: rest :=
  if_neg (stays_iff.mp h)

theorem insertMark_of_moves (hne : combiningClass m ≠ 0)
    (hlt : combiningClass m < combiningClass n) :
    insertMark n (m :: rest) = m :: insertMark n rest :=
  if_pos ⟨hne, hlt⟩

theorem insertMark_perm (n : Nat) (ns : List Nat) : (insertMark n ns).Perm (n :: ns) := by
  induction ns with
  | nil => exact .refl _
  | cons m rest ih =>
    unfold insertMark
    split
    · exact (ih.cons m).trans (.swap ..)
    · exact .refl _

theorem orderMarks_perm (ns : List Nat) : (orderMarks ns).Perm ns := by
  induction ns with
  | nil => exact .refl _
  | cons n rest ih => exact (insertMark_perm n _).trans (ih.cons n)

theorem insertMark_of_ordered (h : MarksOrdered (n :: ns)) : insertMark n ns = n :: ns := by
  cases ns with
  | nil => rfl
  | cons m rest => exact insertMark_of_stays (List.isChain_cons_cons.mp h).1

theorem orderMarks_of_ordered (h : MarksOrdered ns) : orderMarks ns = ns := by
  induction ns with
  | nil => rfl
  | cons n rest ih =>
    show insertMark n (orderMarks rest) = n :: rest
    rw [ih h.tail, insertMark_of_ordered h]

theorem ordered_insertMark (h : MarksOrdered ns) (n : Nat) : MarksOrdered (insertMark n ns) := by
  induction ns with
  | nil => exact .singleton n
  | cons m rest ih =>
    by_cases hstays : Stays n m
    · rw [insertMark_of_stays hstays]
      exact List.isChain_cons_cons.mpr ⟨hstays, h⟩
    · rw [stays_iff, not_not] at hstays
      rw [insertMark_of_moves hstays.1 hstays.2]
      have hrest := ih h.tail
      cases rest with
      | nil => exact List.isChain_cons_cons.mpr ⟨.inr (Nat.le_of_lt hstays.2), hrest⟩
      | cons k rest =>
        by_cases hnext : Stays n k
        · rw [insertMark_of_stays hnext] at hrest ⊢
          exact List.isChain_cons_cons.mpr ⟨.inr (Nat.le_of_lt hstays.2), hrest⟩
        · rw [stays_iff, not_not] at hnext
          rw [insertMark_of_moves hnext.1 hnext.2] at hrest ⊢
          exact List.isChain_cons_cons.mpr ⟨(List.isChain_cons_cons.mp h).1, hrest⟩

theorem ordered_orderMarks (ns : List Nat) : MarksOrdered (orderMarks ns) := by
  induction ns with
  | nil => exact .nil
  | cons n rest ih => exact ordered_insertMark ih n

/-- Two marks of different classes can be inserted in either order. -/
theorem insertMark_comm (hne : combiningClass m ≠ 0) (hlt : combiningClass m < combiningClass n)
    (ns : List Nat) : insertMark n (insertMark m ns) = insertMark m (insertMark n ns) := by
  have hstays : Stays m n := .inr (Nat.le_of_lt hlt)
  induction ns with
  | nil =>
    show insertMark n [m] = insertMark m [n]
    rw [insertMark_of_moves hne hlt, insertMark_of_stays hstays]
    rfl
  | cons k rest ih =>
    by_cases hm : Stays m k
    · rw [insertMark_of_stays hm, insertMark_of_moves hne hlt]
      by_cases hn : Stays n k
      · rw [insertMark_of_stays hn, insertMark_of_stays hstays]
      · rw [stays_iff, not_not] at hn
        rw [insertMark_of_moves hn.1 hn.2, insertMark_of_stays hm]
    · rw [stays_iff, not_not] at hm
      have hk := Nat.lt_trans hm.2 hlt
      rw [insertMark_of_moves hm.1 hm.2, insertMark_of_moves hm.1 hk,
        insertMark_of_moves hm.1 hk, insertMark_of_moves hm.1 hm.2, ih]

/-- What stands before a text does not look into it. -/
theorem orderMarks_append_congr (h : orderMarks ns = orderMarks ms) (before : List Nat) :
    orderMarks (before ++ ns) = orderMarks (before ++ ms) := by
  simp only [orderMarks, List.foldr_append] at h ⊢
  rw [h]

/-- A mark can stand before or behind marks of smaller classes. -/
theorem orderMarks_move
    (h : ∀ m ∈ marks, combiningClass m ≠ 0 ∧ combiningClass m < combiningClass n)
    (rest : List Nat) : orderMarks (n :: (marks ++ rest)) = orderMarks (marks ++ n :: rest) := by
  induction marks with
  | nil => rfl
  | cons m marks ih =>
    obtain ⟨hne, hlt⟩ := h m List.mem_cons_self
    calc orderMarks (n :: (m :: marks ++ rest))
        = insertMark n (insertMark m (orderMarks (marks ++ rest))) := rfl
      _ = insertMark m (orderMarks (n :: (marks ++ rest))) := insertMark_comm hne hlt _
      _ = insertMark m (orderMarks (marks ++ n :: rest)) := by
        rw [ih fun k hk => h k (List.mem_cons_of_mem _ hk)]

/-! ## Composing undoes decomposing -/

theorem flatMap_decomposed (h : ∀ m ∈ ns, Settled m) : ns.flatMap decomposed = ns := by
  rw [List.flatMap_congr fun m hm => decomposed_of_settled (h m hm)]
  simp

/-- What is kept while a text is composed behind its base: the kept characters are marks up to
the last class, and what comes next is in order behind them. -/
structure Kept (marks : List Nat) (last : Nat) (rest : List Nat) : Prop where
  settled : ∀ m ∈ marks ++ rest, Settled m
  classes : ∀ m ∈ marks, combiningClass m ≠ 0 ∧ combiningClass m ≤ last
  ordered : MarksOrdered rest
  next : ∀ n, rest.head? = some n → combiningClass n = 0 ∨ last ≤ combiningClass n
  empty : marks = [] → last = 0

theorem Kept.start (hsettled : ∀ m ∈ rest, Settled m) (hordered : MarksOrdered rest) :
    Kept [] 0 rest where
  settled := hsettled
  classes := by simp
  ordered := hordered
  next _ _ := .inr (Nat.zero_le _)
  empty _ := rfl

/-- A character joins the base. -/
theorem Kept.join (h : Kept marks last (n :: rest))
    (hfree : marks.isEmpty ∨ last < combiningClass n) : Kept marks last rest where
  settled m hm := h.settled m (by
    rw [List.mem_append, List.mem_cons]
    exact (List.mem_append.mp hm).imp_right .inr)
  classes := h.classes
  ordered := h.ordered.tail
  next m hm := by
    obtain ⟨rest, rfl⟩ := List.head?_eq_some_iff.mp hm
    rcases (List.isChain_cons_cons.mp h.ordered).1 with hzero | hle
    · exact .inl hzero
    · rcases hfree with hempty | hlt
      · rw [h.empty (List.isEmpty_iff.mp hempty)]
        exact .inr (Nat.zero_le _)
      · exact .inr (Nat.le_trans (Nat.le_of_lt hlt) hle)
  empty := h.empty

/-- A mark is kept. -/
theorem Kept.keep (h : Kept marks last (n :: rest)) (hne : combiningClass n ≠ 0) :
    Kept (marks ++ [n]) (combiningClass n) rest where
  settled m hm := h.settled m (by simpa using hm)
  classes m hm := by
    rcases List.mem_append.mp hm with hm | hm
    · have hle := (h.next n rfl).resolve_left hne
      exact ⟨(h.classes m hm).1, Nat.le_trans (h.classes m hm).2 hle⟩
    · rw [List.mem_singleton.mp hm]
      exact ⟨hne, Nat.le_refl _⟩
  ordered := h.ordered.tail
  next m hm := by
    obtain ⟨rest, rfl⟩ := List.head?_eq_some_iff.mp hm
    exact (List.isChain_cons_cons.mp h.ordered).1
  empty hempty := by simp at hempty

theorem orderMarks_composeBehind (h : Kept marks last rest) :
    orderMarks ((composeBehind base marks last rest).flatMap decomposed) =
      orderMarks (decomposed base ++ (marks ++ rest)) := by
  induction rest generalizing base marks last with
  | nil =>
    have hsettled : ∀ m ∈ marks, Settled m := by simpa using h.settled
    rw [composeBehind, List.flatMap_cons, flatMap_decomposed hsettled, List.append_nil]
  | cons n rest ih =>
    have hn : decomposed n = [n] := decomposed_of_settled (h.settled n (by simp))
    rw [composeBehind]
    split
    · rename_i composite hcomposite
      split at hcomposite
      · rename_i hfree
        rw [ih (h.join hfree), decomposed_of_composePair? hcomposite, hn, List.append_assoc,
          List.singleton_append]
        refine orderMarks_append_congr (orderMarks_move (fun m hm => ?_) rest) _
        obtain ⟨hne, hle⟩ := h.classes m hm
        rcases hfree with hempty | hlt
        · rw [List.isEmpty_iff.mp hempty] at hm
          cases hm
        · exact ⟨hne, Nat.lt_of_le_of_lt hle hlt⟩
      · cases hcomposite
    · split
      · have hsettled : ∀ m ∈ marks, Settled m :=
          fun m hm => h.settled m (List.mem_append_left _ hm)
        have hstart : Kept [] 0 rest :=
          .start (fun m hm => h.settled m (by simp [hm])) h.ordered.tail
        rw [List.cons_append, List.flatMap_cons, List.flatMap_append, flatMap_decomposed hsettled]
        refine orderMarks_append_congr (orderMarks_append_congr ?_ _) _
        rw [ih hstart, hn]
        rfl
      · rename_i hne
        rw [ih (h.keep hne), List.append_assoc, List.singleton_append]

/-- Composing a decomposed text with its marks in order keeps its decomposition. -/
theorem orderMarks_compose (hsettled : ∀ n ∈ ns, Settled n) (hordered : MarksOrdered ns) :
    orderMarks ((compose ns).flatMap decomposed) = ns := by
  induction ns with
  | nil => rfl
  | cons n rest ih =>
    have hn : decomposed n = [n] := decomposed_of_settled (hsettled n List.mem_cons_self)
    have hrest : ∀ m ∈ rest, Settled m := fun m hm => hsettled m (List.mem_cons_of_mem _ hm)
    rw [compose]
    split
    · rw [orderMarks_composeBehind (.start hrest hordered.tail), hn]
      exact orderMarks_of_ordered hordered
    · rw [List.flatMap_cons, hn, List.singleton_append]
      show insertMark n (orderMarks ((compose rest).flatMap decomposed)) = n :: rest
      rw [ih hrest hordered.tail, insertMark_of_ordered hordered]

/-! ## Characters -/

/-- What the tables hold are code points of characters. -/
theorem isValidChar_of_mem_steps : ∀ step ∈ steps, step.1.isValidChar ∧
    ∀ m ∈ step.2, m.isValidChar := by
  decide +kernel

theorem isValidChar_of_mem_decompose {depth : Nat} (h : n.isValidChar)
    (hm : m ∈ decompose depth n) : m.isValidChar := by
  induction depth generalizing n with
  | zero =>
    rw [decompose, List.mem_singleton] at hm
    rwa [hm]
  | succ depth ih =>
    rw [decompose] at hm
    split at hm
    · rename_i parts hparts
      obtain ⟨part, hpart, hm⟩ := List.mem_flatMap.mp hm
      refine ih ?_ hm
      rcases decomposeOnce?_cases hparts with ⟨hsyllable, hletters⟩ | hstep
      · rw [hletters] at hpart
        obtain ⟨_, hlt⟩ := isLetterBlock_of_mem hsyllable.index_lt hpart
        exact .inl (Nat.lt_trans hlt (by decide))
      · exact (isValidChar_of_mem_steps _ hstep).2 part hpart
    · rw [List.mem_singleton.mp hm]
      exact h

theorem isValidChar_of_composePair? (h : composePair? m n = some base) : base.isValidChar := by
  rcases mem_of_composePair? h with hhangul | hpair
  · unfold composeHangul? hangulFirst hangulCount hangulLead hangulVowel hangulTail at hhangul
    left
    split at hhangul
    · obtain rfl := Option.some.inj hhangul
      omega
    · split at hhangul
      · obtain rfl := Option.some.inj hhangul
        omega
      · cases hhangul
  · exact (isValidChar_of_mem_steps _ (mem_steps_of_pair (List.mem_append_left _ hpair))).1

theorem toNat_ofNat (h : n.isValidChar) : (Char.ofNat n).toNat = n := by
  unfold Char.ofNat
  rw [dif_pos h]
  rfl

theorem isValidChar_of_mem_composeBehind (hbase : base.isValidChar)
    (hmarks : ∀ m ∈ marks, m.isValidChar) (hrest : ∀ m ∈ rest, m.isValidChar) :
    ∀ m ∈ composeBehind base marks last rest, m.isValidChar := by
  induction rest generalizing base marks last with
  | nil => exact List.forall_mem_cons.mpr ⟨hbase, hmarks⟩
  | cons n rest ih =>
    obtain ⟨hn, hrest⟩ := List.forall_mem_cons.mp hrest
    rw [composeBehind]
    split
    · rename_i composite hcomposite
      split at hcomposite
      · exact ih (isValidChar_of_composePair? hcomposite) hmarks hrest
      · cases hcomposite
    · split
      · exact List.forall_mem_append.mpr
          ⟨List.forall_mem_cons.mpr ⟨hbase, hmarks⟩, ih hn (by simp) hrest⟩
      · exact ih hbase (List.forall_mem_append.mpr ⟨hmarks, by simpa using hn⟩) hrest

theorem isValidChar_of_mem_compose (h : ∀ m ∈ ns, m.isValidChar) :
    ∀ m ∈ compose ns, m.isValidChar := by
  induction ns with
  | nil => exact h
  | cons n rest ih =>
    obtain ⟨hn, hrest⟩ := List.forall_mem_cons.mp h
    rw [compose]
    split
    · exact isValidChar_of_mem_composeBehind hn (by simp) hrest
    · exact List.forall_mem_cons.mpr ⟨hn, ih hrest⟩

/-! ## The normal form -/

/-- The decomposition of a text, with the marks in order. -/
def decomposition (cs : List Char) : List Nat :=
  orderMarks (cs.flatMap fun c => decomposed c.toNat)

theorem normalForm_eq (cs : List Char) : normalForm cs =
    if cs.all (·.toNat < 0x300) then cs else (compose (decomposition cs)).map Char.ofNat :=
  rfl

theorem mem_decomposition {cs : List Char} :
    n ∈ decomposition cs ↔ ∃ c ∈ cs, n ∈ decomposed c.toNat := by
  rw [decomposition, (orderMarks_perm _).mem_iff, List.mem_flatMap]

/-- A text and its normal form have one decomposition. -/
theorem decomposition_normalForm (cs : List Char) :
    decomposition (normalForm cs) = decomposition cs := by
  rw [normalForm_eq]
  split
  · rfl
  · have hvalid : ∀ n ∈ compose (decomposition cs), n.isValidChar := by
      refine isValidChar_of_mem_compose fun n hn => ?_
      obtain ⟨c, _, hn⟩ := mem_decomposition.mp hn
      exact isValidChar_of_mem_decompose c.valid hn
    have hsettled : ∀ n ∈ decomposition cs, Settled n := by
      intro n hn
      obtain ⟨c, _, hn⟩ := mem_decomposition.mp hn
      exact settled_of_mem_decomposed hn
    have hcodes : ((compose (decomposition cs)).map Char.ofNat).flatMap
        (fun c => decomposed c.toNat) = (compose (decomposition cs)).flatMap decomposed := by
      rw [List.flatMap_map]
      refine List.flatMap_congr fun n hn => ?_
      rw [toNat_ofNat (hvalid n hn)]
    rw [decomposition, hcodes]
    exact orderMarks_compose hsettled (ordered_orderMarks _)

/-- The normal form of a text is its own normal form. -/
theorem normalForm_normalForm (cs : List Char) : normalForm (normalForm cs) = normalForm cs := by
  by_cases hlow : cs.all (·.toNat < 0x300) = true
  · rw [normalForm_eq cs, if_pos hlow, normalForm_eq cs, if_pos hlow]
  · rw [normalForm_eq (normalForm cs), decomposition_normalForm]
    split
    · rfl
    · rw [normalForm_eq cs, if_neg hlow]

end UnitCalc.Text
