import UnitCalc.Console
import UnitCalc.Standard

/-!
# Lines at the prompt

At the prompt every line is answered on its own. What is printed for a line depends on the line only,
without the blanks around it, and an error is printed where a value would be. So a conversation prints
what its lines contribute, one after another, up to a farewell or the end of the input.
-/

namespace UnitCalc.Console

variable {K : Type} [Scalar K]

/-! ## What is said of a conversation -/

/-- A line without the blanks around it. -/
def stripped (line : String) : String := String.ofList (Text.trim line.toList)

/-- What an input contributes to the output, apart from its prompt: nothing if it is blank, and else
the text of its value or the message of its fault. -/
def contribution (r : Registry K) (display : Display) (input : String) : Output :=
  if input = "" then .empty
  else
    match calculate r input >>= display.render with
    | .ok text => .out (text ++ "\n")
    | .error f => .err ("error: " ++ f.message ++ "\n")

/-- An input that is blank, or is calculated and shown without a breakdown. -/
def EndsReported (r : Registry K) (display : Display) (input : String) : Prop :=
  input ≠ "" → ∀ f, calculate r input >>= display.render = .error f → f.isReported = true

instance (r : Registry K) (display : Display) (input : String) :
    Decidable (EndsReported r display input) :=
  decidable_of_iff
    (input = "" ∨ (match calculate r input >>= display.render with
      | .ok _ => true
      | .error f => f.isReported) = true) <| by
    unfold EndsReported
    cases calculate r input >>= display.render <;> simp [Decidable.or_iff_not_imp_left]

/-- The lines before the first farewell. -/
def answered (lines : List String) : List String :=
  lines.takeWhile fun line => !farewells.contains (stripped line)

/-- What is printed for a line that is answered. -/
def turn (r : Registry K) (display : Display) (line : String) : Output :=
  (Output.out prompt).append (contribution r display (stripped line))

/-- What is printed for lines that are answered: the prompt and the contribution of each. -/
def turns (r : Registry K) (display : Display) (lines : List String) : Output where
  stdout := String.join (lines.map fun line =>
    prompt ++ (contribution r display (stripped line)).stdout)
  stderr := String.join (lines.map fun line => (contribution r display (stripped line)).stderr)

/-- What a conversation prints: the turns up to the first farewell, and one more prompt, which is
followed by a line break at the end of the input. -/
def transcript (r : Registry K) (display : Display) (lines : List String) : Output :=
  (turns r display (answered lines)).append
    (.out (if answered lines = lines then prompt ++ "\n" else prompt))

/-! ## One line -/

section Conversations

variable {r : Registry K} {display : Display} {line : String} {lines before : List String}

theorem turns_nil : turns r display [] = .empty := rfl

theorem turns_cons :
    turns r display (line :: lines) = (turn r display line).append (turns r display lines) := by
  simp [turns, turn, Output.append, Output.out, String.append_assoc]

theorem map_append_append (a b : Output) (rest : Except Breakdown Output) :
    (rest.map (b.append ·)).map (a.append ·) = rest.map ((a.append b).append ·) := by
  cases rest with
  | ok c => exact congrArg Except.ok (Output.append_assoc a b c).symm
  | error cause => rfl

theorem reply_eq {input : String} (hne : input ≠ "") (h : EndsReported r display input) :
    reply r display input = .ok (contribution r display input) := by
  unfold reply contribution
  rw [if_neg hne, show calculateText r display input = calculate r input >>= display.render from rfl]
  split
  · rename_i text htext
    rw [htext]
  · rename_i cause hcause
    cases h hne _ hcause
  · rename_i f hf
    rw [hf]

theorem ofText_eq : Line.ofText line = if stripped line = "" then .blank
    else if stripped line ∈ farewells then .farewell else .expression (stripped line) := by
  show (if (stripped line).isEmpty then Line.blank
    else if farewells.contains (stripped line) then .farewell
    else .expression (stripped line)) = _
  simp only [String.isEmpty_iff, List.contains_iff_mem]

theorem respond_farewell (h : stripped line ∈ farewells) :
    respond r display line = .ok none := by
  have hne : stripped line ≠ "" := fun hblank => absurd h (by rw [hblank]; decide)
  rw [respond, ofText_eq, if_neg hne, if_pos h]

/-- The response to a line that is no farewell is what the line contributes. -/
theorem respond_eq (hgoes : stripped line ∉ farewells)
    (h : EndsReported r display (stripped line)) :
    respond r display line = .ok (some (contribution r display (stripped line))) := by
  rw [respond, ofText_eq]
  by_cases hblank : stripped line = ""
  · rw [if_pos hblank, contribution, if_pos hblank]
  · rw [if_neg hblank, if_neg hgoes]
    dsimp only
    rw [reply_eq hblank h]
    rfl

theorem converse_farewell (h : stripped line ∈ farewells) :
    converse r display (line :: lines) = .ok (.out prompt) := by
  rw [converse, respond_farewell h]
  rfl

/-- One step: a line that is no farewell is answered, and the conversation goes on as it would
without the line. -/
theorem converse_cons (hgoes : stripped line ∉ farewells)
    (h : EndsReported r display (stripped line)) :
    converse r display (line :: lines) =
      (converse r display lines).map ((turn r display line).append ·) := by
  rw [converse, respond_eq hgoes h, turn, ← map_append_append]
  cases converse r display lines <;> rfl

/-- A run: lines that are no farewells are answered one after another, and the conversation goes on
as it would without them. -/
theorem converse_append (hgo : ∀ line ∈ before, stripped line ∉ farewells)
    (h : ∀ line ∈ before, EndsReported r display (stripped line)) :
    converse r display (before ++ lines) =
      (converse r display lines).map ((turns r display before).append ·) := by
  induction before with
  | nil =>
    simp only [List.nil_append, turns_nil, Output.empty_append]
    exact (congrFun Except.map_id _).symm
  | cons line before ih =>
    rw [List.forall_mem_cons] at hgo h
    rw [List.cons_append, converse_cons hgo.1 h.1, ih hgo.2 h.2, turns_cons, map_append_append]

theorem answered_farewell (h : stripped line ∈ farewells) : answered (line :: lines) = [] :=
  List.takeWhile_cons_of_neg (by simpa using h)

theorem answered_cons (hgoes : stripped line ∉ farewells) :
    answered (line :: lines) = line :: answered lines :=
  List.takeWhile_cons_of_pos (by simpa using hgoes)

theorem transcript_nil : transcript r display [] = .out (prompt ++ "\n") := by
  rw [transcript, show answered [] = [] from rfl, turns_nil, if_pos rfl, Output.empty_append]

theorem transcript_farewell (h : stripped line ∈ farewells) :
    transcript r display (line :: lines) = .out prompt := by
  rw [transcript, answered_farewell h, if_neg (List.cons_ne_nil line lines).symm, turns_nil,
    Output.empty_append]

theorem transcript_cons (hgoes : stripped line ∉ farewells) :
    transcript r display (line :: lines) =
      (turn r display line).append (transcript r display lines) := by
  simp only [transcript, answered_cons hgoes, turns_cons, Output.append_assoc, List.cons.injEq,
    true_and]

/-- A conversation prints its transcript. -/
theorem converse_eq (h : ∀ line ∈ answered lines, EndsReported r display (stripped line)) :
    converse r display lines = .ok (transcript r display lines) := by
  induction lines with
  | nil => rw [converse, transcript_nil]
  | cons line lines ih =>
    by_cases hline : stripped line ∈ farewells
    · rw [converse_farewell hline, transcript_farewell hline]
    · rw [answered_cons hline, List.forall_mem_cons] at h
      rw [converse_cons hline h.1, ih h.2, transcript_cons hline]
      rfl

end Conversations

/-! ## Lines of an input -/

section Lines

/-- The input that consists of some lines, each with a line break behind it. -/
def unlines (lines : List String) : String := String.join (lines.map (· ++ "\n"))

theorem linesFrom_append {cs : List Char} (h : '\n' ∉ cs) (line rest : List Char) :
    linesFrom line (cs ++ rest) = linesFrom (cs.reverse ++ line) rest := by
  induction cs generalizing line with
  | nil => rfl
  | cons c cs ih =>
    rw [List.mem_cons, not_or] at h
    rw [List.cons_append, linesFrom, if_neg (Ne.symm h.1), ih h.2, List.reverse_cons,
      List.append_assoc]
    rfl

/-- The lines of an input that consists of some lines are these lines. -/
theorem linesOf_unlines {lines : List String} (h : ∀ line ∈ lines, '\n' ∉ line.toList) :
    linesOf (unlines lines) = lines := by
  induction lines with
  | nil => rfl
  | cons line lines ih =>
    rw [List.forall_mem_cons] at h
    have hbreak : ("\n" : String).toList = ['\n'] := rfl
    rw [linesOf, unlines, List.map_cons, String.join_cons, String.toList_append,
      String.toList_append, List.append_assoc, linesFrom_append h.1, hbreak, List.singleton_append,
      linesFrom, if_pos rfl, List.append_nil, List.reverse_reverse, String.ofList_toList]
    exact congrArg (line :: ·) (ih h.2)

end Lines

/-! ## Conversations -/

/-- The prompt is what no arguments ask for, and `--si` alone. For every registry and all arguments
that ask for it: an input is read as its lines, whichever they are. If the lines up to the first
farewell end without a breakdown, the program prints the prompts and the contributions of these lines,
in order, and exits with status 0. Lines that are answered, with a value or with a fault, only put
their turns in front of what the lines behind them lead to. The log, which there is at the level
`debug` alone, is no part of what is printed here. -/
theorem prompt_answers_lines_alone (r : Registry K) :
    Request.ofArguments [] = .prompt .native ∧ Request.ofArguments ["--si"] = .prompt .si ∧
    (∀ lines, (∀ line ∈ lines, '\n' ∉ line.toList) → linesOf (unlines lines) = lines) ∧
    ∀ arguments display, Request.ofArguments arguments = .prompt display →
      (∀ input, (∀ line ∈ answered (linesOf input), EndsReported r display (stripped line)) →
        run r arguments input = .ok ⟨0, transcript r display (linesOf input)⟩) ∧
      ∀ before after, (∀ line ∈ before, stripped line ∉ farewells) →
        (∀ line ∈ before, EndsReported r display (stripped line)) →
        converse r display (before ++ after) =
          (converse r display after).map ((turns r display before).append ·) := by
  refine ⟨by decide, by decide, fun _ => linesOf_unlines, fun arguments display hprompt => ?_⟩
  refine ⟨fun input hreported => ?_, fun _ _ => converse_append⟩
  simp only [run, hprompt, converse_eq hreported]
  rfl

/-- A unit of length so large that some amounts of it have no finite value in meters. -/
def far : UnitRecord Float :=
  ⟨.length, "far", "far", "far", Scalar.ofDecimal 1 200, false, []⟩

/-- The registry of this unit. -/
def farRegistry : Registry Float := (Registry.empty.register far).toOption.getD .empty

/-- A value, a blank line, a value that cannot be shown in meters, a fault, another value, and a
farewell with a line behind it. A line with a fault adds to what is printed for any other lines. -/
theorem run_farRegistry :
    run farRegistry ["--si"]
        (unlines ["1 + 2 ", "\t", "1e200 far", "1/0", "1e-200 far", " exit", "4"]) = .ok ⟨0,
      ">>> 3\n>>> >>> >>> >>> 1 m\n>>> ",
      "error: convert has no finite result (inf)\nerror: division by zero\n"⟩ ∧
    ∀ after, converse farRegistry .si ("1e200 far" :: after) =
      (converse farRegistry .si after).map
        (Output.append ⟨">>> ", "error: convert has no finite result (inf)\n"⟩ ·) := by
  obtain ⟨_, hsi, hlines, hprompt⟩ := prompt_answers_lines_alone farRegistry
  obtain ⟨hrun, hframe⟩ := hprompt ["--si"] .si hsi
  have hinput := hlines ["1 + 2 ", "\t", "1e200 far", "1/0", "1e-200 far", " exit", "4"] (by decide)
  have htranscript :
      transcript farRegistry .si ["1 + 2 ", "\t", "1e200 far", "1/0", "1e-200 far", " exit", "4"] =
        ⟨">>> 3\n>>> >>> >>> >>> 1 m\n>>> ",
          "error: convert has no finite result (inf)\nerror: division by zero\n"⟩ := by
    decide +kernel
  have hturns : turns farRegistry .si ["1e200 far"] =
      ⟨">>> ", "error: convert has no finite result (inf)\n"⟩ := by
    decide +kernel
  refine ⟨?_, fun after => ?_⟩
  · have hresult := hrun _ (by rw [hinput]; decide +kernel)
    rwa [hinput, htranscript] at hresult
  · rw [← hturns]
    exact hframe ["1e200 far"] after (by decide) (by decide +kernel)

end UnitCalc.Console
