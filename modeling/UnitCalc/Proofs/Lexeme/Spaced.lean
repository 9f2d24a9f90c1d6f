import UnitCalc.Proofs.Lexeme.Cut
import UnitCalc.Proofs.Number.Scanning
import UnitCalc.Proofs.Registry.LongestMatch

/-!
# Lexemes with blanks between them

A lexeme that stands next to other characters is found again when blanks or the end of the text
come right behind it: what a scan looks at behind a lexeme can only prolong it. Which lexeme is
found depends besides only on the lexeme before, so that the lexemes of a text, with blanks between
any two, are the lexemes of the text that they make up.
-/

namespace UnitCalc.Expr.Lexeme

open UnitCalc.Text UnitCalc.Number

/-! ## What blanks end -/

/-- No blank lies among the letters. -/
theorem blankRanges_letterRanges :
    ∀ letters ∈ letterRanges, ∀ range ∈ blankRanges,
      letters.2 < range.1 ∨ range.2 < letters.1 := by
  decide +kernel

theorem isLetter_of_isBlank {c : Char} (h : isBlank c = true) : isLetter c = false := by
  simp only [isBlank, Ranges.contains, List.any_eq_true, Bool.and_eq_true, decide_eq_true_eq] at h
  obtain ⟨range, hrange, hstart, hend⟩ := h
  simp only [isLetter, Ranges.contains, List.any_eq_false, Bool.and_eq_true, decide_eq_true_eq]
  rintro letters hletters ⟨hfirst, hlast⟩
  rcases blankRanges_letterRanges letters hletters range hrange with h | h <;> omega

/-- Whether a text holds no blanks. -/
def withoutBlanks (text : String) : Bool := text.toList.all fun c => !isBlank c

/-- What begins a text and has no blanks ends before the first blank. -/
theorem prefix_of_startsBlank {key : String} {cs behind : List Char}
    (h : key.toList <+: cs ++ behind) (hkey : withoutBlanks key = true)
    (hbehind : StartsBlank behind) : key.toList <+: cs := by
  have hword : ∀ c ∈ key.toList, isBlank c = false := by simpa [withoutBlanks] using hkey
  generalize key.toList = word at h hword ⊢
  by_cases hle : word.length ≤ cs.length
  · exact List.prefix_of_prefix_length_le h (List.prefix_append cs behind) hle
  · obtain ⟨more, rfl⟩ := List.prefix_of_prefix_length_le (List.prefix_append cs behind) h
      (Nat.le_of_not_le hle)
    rw [List.prefix_append_right_inj] at h
    cases more with
    | nil => simp
    | cons c more =>
      obtain ⟨others, rfl⟩ := h
      have hblank := hbehind c rfl
      rw [hword c (by simp)] at hblank
      cases hblank

/-! ## Scanners -/

section Scanners

variable {K : Type} {r : Registry K} {afterOperand : Bool} {c : Char}
  {cs word rest behind : List Char}

theorem arrow_isPrefixOf_iff :
    arrow.isPrefixOf (c :: cs) = true ↔ c = '-' ∧ cs.head? = some '>' := by
  rw [List.isPrefixOf_iff_prefix, arrow, List.cons_prefix_cons,
    List.singleton_prefix_iff_head?_eq_some, eq_comm]

theorem not_arrow_again (h : ¬ arrow.isPrefixOf (c :: (word ++ rest)) = true)
    (hbehind : StartsBlank behind) : ¬ arrow.isPrefixOf (c :: (word ++ behind)) = true := by
  rw [arrow_isPrefixOf_iff] at h ⊢
  cases word with
  | nil =>
    rintro ⟨_, hhead⟩
    exact absurd (hbehind '>' hhead) (by decide)
  | cons d word => exact h

/-- A run of letters ends where blanks or the end follow. -/
theorem letters_again (h : (word ++ rest).takeWhile isLetter = word)
    (hbehind : StartsBlank behind) :
    (word ++ behind).takeWhile isLetter = word ∧ (word ++ behind).dropWhile isLetter = behind := by
  have hword : ∀ d ∈ word, isLetter d = true := by
    rw [← h]
    exact fun d hd => List.all_eq_true.mp List.all_takeWhile d hd
  exact span_eq hword fun d hd => isLetter_of_isBlank (hbehind d hd)

theorem takeNumeral?_cons : takeNumeral? afterOperand (c :: cs) =
    if afterOperand && c == '+' then none else Numeral.scan (c :: cs) := by
  unfold takeNumeral?
  split
  · rename_i numeral rest hscan
    obtain ⟨happend, hne⟩ := Numeral.scan_append hscan
    obtain ⟨d, ds, rfl⟩ := List.exists_cons_of_ne_nil hne
    rw [List.cons_append] at happend
    obtain ⟨rfl, rfl⟩ := List.cons.inj happend
    simp [hscan]
  · rename_i hscan
    simp [hscan]

theorem takeNumeral?_again
    (h : takeNumeral? afterOperand (c :: cs) = some (c :: word, rest))
    (hbehind : StartsBlank behind) :
    takeNumeral? afterOperand (c :: (word ++ behind)) = some (c :: word, behind) := by
  rw [takeNumeral?_cons] at h ⊢
  split at h
  · cases h
  · rename_i hsign
    rw [if_neg hsign]
    exact Numeral.scan_again h hbehind

theorem takeNumeral?_none_again (h : takeNumeral? afterOperand (c :: (word ++ rest)) = none)
    (hbehind : StartsBlank behind) : takeNumeral? afterOperand (c :: (word ++ behind)) = none := by
  rw [takeNumeral?_cons] at h ⊢
  split at h
  · rename_i hsign
    rw [if_pos hsign]
  · rename_i hsign
    rw [if_neg hsign]
    exact Numeral.scan_none_again (List.cons_ne_nil c word) h hbehind

/-- The next lexeme starts with the character that is next. -/
theorem exists_takeNext (r : Registry K) (afterOperand : Bool) (c : Char) (cs : List Char) :
    ∃ word rest, takeNext r afterOperand c cs = (c :: word, rest) ∧ word ++ rest = cs := by
  obtain ⟨happend, hne⟩ := takeNext_append r afterOperand c cs
  obtain ⟨d, word, hword⟩ := List.exists_cons_of_ne_nil hne
  rw [hword, List.cons_append] at happend
  obtain ⟨rfl, hrest⟩ := List.cons.inj happend
  exact ⟨word, _, Prod.ext hword rfl, hrest⟩

/-- A spelling is taken if it is the longest one and not empty. -/
theorem takeUnit?_eq_some_iff : takeUnit? r cs = some (word, rest) ↔
    word ≠ [] ∧ word ++ rest = cs ∧ Registry.IsLongest r.keys cs (String.ofList word) := by
  constructor
  · intro h
    obtain ⟨happend, hne⟩ := takeUnit?_append h
    refine ⟨hne, happend, ?_⟩
    unfold takeUnit? at h
    split at h
    · rename_i found hfound
      split at h
      · cases h
      · cases h
        rw [String.ofList_toList]
        exact Registry.longestMatch?_eq_some_iff.mp hfound
    · cases h
  · rintro ⟨hne, rfl, hlongest⟩
    unfold takeUnit?
    rw [Registry.longestMatch?_eq_some_iff.mpr hlongest]
    simp [hne]

theorem takeUnit?_eq_none_iff :
    takeUnit? r cs = none ↔ ∀ key ∈ r.keys, key.toList <+: cs → key = "" := by
  have hbest := Registry.isBest_longestMatch? r cs
  unfold takeUnit?
  split
  · rename_i found hfound
    have hlongest := Registry.longestMatch?_eq_some_iff.mp hfound
    constructor
    · intro h key hkey hprefix
      have hle := hlongest.longest key hkey hprefix
      split at h
      · rename_i hempty
        rw [String.isEmpty_iff.mp hempty] at hle
        exact String.length_eq_zero_iff.mp (Nat.le_zero.mp hle)
      · cases h
    · intro h
      rw [h found hlongest.mem hlongest.isPrefix]
      rfl
  · rename_i hnone
    rw [hnone] at hbest
    exact iff_of_true rfl fun key hkey hprefix => absurd hprefix (hbest key hkey)

variable (hkeys : ∀ key ∈ r.keys, withoutBlanks key = true)
include hkeys

/-- With blanks or the end behind it, a spelling is the longest one still. -/
theorem takeUnit?_again (h : takeUnit? r (word ++ rest) = some (word, rest))
    (hbehind : StartsBlank behind) : takeUnit? r (word ++ behind) = some (word, behind) := by
  obtain ⟨hne, _, hlongest⟩ := takeUnit?_eq_some_iff.mp h
  refine takeUnit?_eq_some_iff.mpr ⟨hne, rfl, hlongest.mem, ?_, ?_⟩
  · rw [String.toList_ofList]
    exact List.prefix_append word behind
  · intro key hkey hprefix
    have hword := prefix_of_startsBlank hprefix (hkeys key hkey) hbehind
    exact hlongest.longest key hkey (hword.trans (List.prefix_append word rest))

theorem takeUnit?_none_again (h : takeUnit? r (word ++ rest) = none)
    (hbehind : StartsBlank behind) : takeUnit? r (word ++ behind) = none := by
  rw [takeUnit?_eq_none_iff] at h ⊢
  intro key hkey hprefix
  have hword := prefix_of_startsBlank hprefix (hkeys key hkey) hbehind
  exact h key hkey (hword.trans (List.prefix_append word rest))

/-- One step: the next lexeme is found again where blanks or the end follow. -/
theorem takeNext_again (h : takeNext r afterOperand c (word ++ rest) = (c :: word, rest))
    (hbehind : StartsBlank behind) :
    takeNext r afterOperand c (word ++ behind) = (c :: word, behind) := by
  -- The scanners are tried in turn, and each takes the same in both texts, or nothing in both.
  unfold takeNext at h ⊢
  split at h
  case h_1 split hnumeral =>
    subst h
    rw [takeNumeral?_again hnumeral hbehind]
  case h_2 hnumeral =>
    rw [takeNumeral?_none_again hnumeral hbehind]
    simp only
    by_cases harrow : arrow.isPrefixOf (c :: (word ++ rest)) = true
    · rw [if_pos harrow] at h
      cases h
      rfl
    rw [if_neg harrow] at h
    rw [if_neg (not_arrow_again harrow hbehind)]
    by_cases hoperator : operators.contains c = true
    · rw [if_pos hoperator] at h ⊢
      cases h
      rfl
    rw [if_neg hoperator] at h ⊢
    by_cases hletter : isLetter c = true
    · rw [if_pos hletter] at h ⊢
      have hrun : (word ++ rest).takeWhile isLetter = word :=
        (List.cons.inj (Prod.mk.inj h).1).2
      obtain ⟨htake, hdrop⟩ := letters_again hrun hbehind
      rw [htake, hdrop]
    rw [if_neg hletter] at h ⊢
    split at h
    case h_1 split hunit =>
      subst h
      rw [← List.cons_append] at hunit ⊢
      rw [takeUnit?_again hkeys hunit hbehind]
    case h_2 hunit =>
      cases h
      rw [← List.cons_append] at hunit ⊢
      rw [takeUnit?_none_again hkeys hunit hbehind]
      rfl

end Scanners

/-! ## Spaced words -/

/-- A text in front of words, each of which has one behind it. -/
def spread (before : String) : List (String × String) → String
  | [] => before
  | (word, behind) :: pieces => before ++ word ++ spread behind pieces

/-- Whether a text holds nothing but blanks. -/
def onlyBlanks (text : String) : Bool := text.toList.all isBlank

/-- Blanks in front of words and behind each, and at least one between any two. -/
structure AreSpaced (before : String) (pieces : List (String × String)) : Prop where
  before : onlyBlanks before = true
  behind : ∀ piece ∈ pieces, onlyBlanks piece.2 = true
  between : ∀ piece ∈ pieces.dropLast, piece.2 ≠ ""

section Spaced

variable {before behind word : String} {pieces : List (String × String)}

theorem isBlank_of_onlyBlanks {text : String} (h : onlyBlanks text = true) :
    ∀ c ∈ text.toList, isBlank c = true :=
  fun c hc => List.all_eq_true.mp h c hc

theorem areSpaced_nil (hbefore : onlyBlanks before = true) : AreSpaced before [] :=
  ⟨hbefore, by simp, by simp⟩

theorem AreSpaced.cons (hbefore : onlyBlanks before = true) (h : AreSpaced behind pieces)
    (hne : pieces ≠ [] → behind ≠ "") : AreSpaced before ((word, behind) :: pieces) where
  before := hbefore
  behind := List.forall_mem_cons.mpr ⟨h.before, h.behind⟩
  between := by
    cases pieces with
    | nil => simp
    | cons next pieces =>
      exact List.forall_mem_cons.mpr ⟨hne (List.cons_ne_nil _ _), h.between⟩

theorem AreSpaced.tail (h : AreSpaced before ((word, behind) :: pieces)) :
    AreSpaced behind pieces where
  before := h.behind _ List.mem_cons_self
  behind := fun piece hpiece => h.behind piece (List.mem_cons_of_mem _ hpiece)
  between := fun piece hpiece => h.between piece (by
    cases pieces with
    | nil => cases hpiece
    | cons next pieces => exact List.mem_cons_of_mem _ hpiece)

/-- What is behind a word starts with a blank or is empty. -/
theorem AreSpaced.startsBlank (h : AreSpaced before ((word, behind) :: pieces)) :
    StartsBlank (spread behind pieces).toList := by
  have hblank := isBlank_of_onlyBlanks h.tail.before
  cases pieces with
  | nil => exact fun c hc => hblank c (List.mem_of_mem_head? hc)
  | cons piece pieces =>
    have hne : behind.toList ≠ [] := by
      simpa using h.between (word, behind) List.mem_cons_self
    obtain ⟨c, cs, hcs⟩ := List.exists_cons_of_ne_nil hne
    intro d hd
    rw [spread, String.toList_append, String.toList_append, hcs] at hd
    cases hd
    exact hblank c (by simp [hcs])

end Spaced

section Scan

variable {K : Type} {r : Registry K}

theorem scanFrom_of_blank {fuel : Nat} {afterOperand : Bool} {position : Nat} {cs : List Char}
    (h : ∀ c ∈ cs, isBlank c = true) : scanFrom r fuel afterOperand position cs = [] := by
  cases fuel with
  | zero => rfl
  | succ fuel => rw [scanFrom, List.dropWhile_eq_nil_iff.mpr h]

theorem scanFrom_succ {fuel : Nat} {afterOperand : Bool} {position : Nat}
    {cs word rest rest' : List Char} {c : Char} (h : cs.dropWhile isBlank = c :: rest)
    (hnext : takeNext r afterOperand c rest = (word, rest')) :
    scanFrom r (fuel + 1) afterOperand position cs =
      ⟨String.ofList word, position + (cs.takeWhile isBlank).length⟩ ::
        scanFrom r fuel (endsOperand word)
          (position + (cs.takeWhile isBlank).length + word.length) rest' := by
  rw [scanFrom, h]
  simp only [hnext]

/-- The whole scan: the lexemes of a text are found again with blanks between them. -/
theorem map_text_scanFrom_spread (hkeys : ∀ key ∈ r.keys, withoutBlanks key = true)
    {fuel more : Nat} {afterOperand : Bool} {position place : Nat} {cs : List Char}
    {before : String} {pieces : List (String × String)} (hspaced : AreSpaced before pieces)
    (hwords : pieces.map (·.1) = (scanFrom r fuel afterOperand position cs).map (·.text))
    (hmore : (spread before pieces).toList.length ≤ more) :
    (scanFrom r more afterOperand place (spread before pieces).toList).map (·.text) =
      pieces.map (·.1) := by
  -- The first text counts only by its lexemes, one for each word; whether a lexeme ends an operand
  -- is seen from its text, so both scans go on in the same way.
  induction pieces generalizing fuel more afterOperand position place cs before with
  | nil =>
    rw [spread, scanFrom_of_blank (isBlank_of_onlyBlanks hspaced.before)]
    rfl
  | cons piece pieces ih =>
    obtain ⟨text, behind⟩ := piece
    cases fuel with
    | zero => cases hwords
    | succ fuel =>
      cases hcs : cs.dropWhile isBlank with
      | nil =>
        rw [scanFrom, hcs] at hwords
        cases hwords
      | cons c rest =>
        obtain ⟨word, rest', hnext, rfl⟩ := exists_takeNext r afterOperand c rest
        rw [scanFrom_succ hcs hnext, List.map_cons, List.map_cons] at hwords
        obtain ⟨htext, hwords⟩ := List.cons.inj hwords
        have hc := not_isBlank_of_dropWhile hcs
        have hspread : (spread before ((text, behind) :: pieces)).toList =
            before.toList ++ c :: (word ++ (spread behind pieces).toList) := by
          rw [show text = String.ofList (c :: word) from htext]
          simp [spread]
        have hdrop : (before.toList ++ c :: (word ++ (spread behind pieces).toList)).dropWhile
            isBlank = c :: (word ++ (spread behind pieces).toList) := by
          rw [List.dropWhile_append_of_pos (isBlank_of_onlyBlanks hspaced.before),
            List.dropWhile_cons_of_neg (by simp [hc])]
        have hnext' := takeNext_again hkeys hnext hspaced.startsBlank
        rw [hspread] at hmore ⊢
        simp only [List.length_append, List.length_cons] at hmore
        cases more with
        | zero => omega
        | succ more =>
          rw [scanFrom_succ hdrop hnext']
          exact congrArg₂ _ htext.symm (ih hspaced.tail hwords (by omega))

/-- The text that the lexemes of a text make up with blanks between them has the same ones. -/
theorem map_text_scan_spread (hkeys : ∀ key ∈ r.keys, withoutBlanks key = true)
    {text before : String} {pieces : List (String × String)} (hspaced : AreSpaced before pieces)
    (hwords : pieces.map (·.1) = (scan r text).map (·.text)) :
    (scan r (spread before pieces)).map (·.text) = (scan r text).map (·.text) := by
  rw [← hwords]
  exact map_text_scanFrom_spread hkeys hspaced hwords (Nat.le_refl _)

/-- Words with single blanks between them. -/
def singly : List String → List (String × String)
  | [] => []
  | [word] => [(word, "")]
  | word :: words => (word, " ") :: singly words

theorem map_singly (words : List String) : (singly words).map (·.1) = words := by
  fun_induction singly words with
  | case1 => rfl
  | case2 => rfl
  | case3 word words _ ih => rw [List.map_cons, ih]

theorem spread_singly (before : String) (words : List String) :
    spread before (singly words) = before ++ " ".intercalate words := by
  fun_induction singly words generalizing before with
  | case1 => simp [spread]
  | case2 => simp [spread]
  | case3 word words hne ih =>
    rw [spread, ih, String.intercalate_cons_of_ne_nil hne]
    simp [String.append_assoc]

theorem areSpaced_singly {before : String} (hbefore : onlyBlanks before = true)
    (words : List String) :
    AreSpaced before (singly words) := by
  have hspace : onlyBlanks " " = true := by decide
  fun_induction singly words generalizing before with
  | case1 => exact areSpaced_nil hbefore
  | case2 => exact .cons hbefore (areSpaced_nil rfl) (absurd rfl)
  | case3 word words _ ih => exact .cons hbefore (ih hspace) fun _ => by decide

end Scan

end UnitCalc.Expr.Lexeme
