import UnitCalc.Script.Template

/-!
# Operators on script values

What the arithmetic operators do to values of two kinds. Quantities take plain numbers as
operands on either side, and on their right side whatever can be taken for a number on their
left; dimensions take everything that holds three numbers.
-/

namespace UnitCalc.Script.Value

/-- A plain number that comes of an operation. -/
def ofNumber (x : Except PlainFault Plain) : Except Error Value :=
  (ofPlain x).map .plain

/-- A quantity that comes of an operation. -/
def ofResult (q : Except (Fault Plain) (Quantity Plain)) : Except Error Value :=
  (ofFault q).map .quantity

/-- The dimension of plain numbers with the value of a quantity's partner. -/
def asQuantity (v : Value) : Except Error (Quantity Plain) :=
  v.toDouble.map .ofValue

/-! ## Sums -/

/-- The sum of two values. -/
def add (v w : Value) : Except Error Value :=
  match v, w with
  | .quantity q, w =>
    match w.quantity? with
    | some r => do ofResult (q.add (← r))
    | none => .error (.unsupported "+" v.kind w.kind)
  | v, .quantity r => do ofResult ((← v.asQuantity).add r)
  | .plain x, .plain y => ofNumber (x.add y)
  | .tuple xs, w =>
    match w.tuple? with
    | some ys => .ok (.tuple (xs ++ ys))
    | none => .error (.notJoinable v.kind w.kind)
  | .text s, .text t => .ok (.text (s ++ t))
  | .text _, w => .error (.notJoinable v.kind w.kind)
  | v, w => .error (.unsupported "+" v.kind w.kind)

/-- The difference of two values. -/
def sub (v w : Value) : Except Error Value :=
  match v, w with
  | .quantity q, w =>
    match w.quantity? with
    | some r => do ofResult (q.sub (← r))
    | none => .error (.unsupported "-" v.kind w.kind)
  | v, .quantity r => do ofResult ((← v.asQuantity).sub r)
  | .plain x, .plain y => ofNumber (x.sub y)
  | v, w => .error (.unsupported "-" v.kind w.kind)

/-! ## Repetition -/

/-- The numbers that can be an index or count elements, up to their sign. -/
def indexBound : Int := Int.pow 2 63

/-- The length up to which a repeated sequence is held. -/
def lengthLimit : Int := Int.pow 10 9

/-- A list repeated; a count below zero counts as zero. -/
def replicated {α : Type} (count : Int) (xs : List α) : List α :=
  if xs.isEmpty then [] else (List.replicate count.toNat xs).flatten

/-- The number of repetitions that a value is. -/
def repetitions (v : Value) : Except Error Int :=
  match v with
  | .plain x =>
    match x.integer? with
    | some n =>
      if -indexBound ≤ n ∧ n < indexBound then .ok n else .error .countTooLarge
    | none => .error (.notACount v.kind)
  | v => .error (.notACount v.kind)

/-- A sequence repeated. -/
def repeated (v w : Value) : Except Error Value := do
  match v with
  | .tuple xs =>
    let n ← w.repetitions
    if n * xs.length < lengthLimit then return .tuple (replicated n xs) else .error .noMemory
  | .text s =>
    let n ← w.repetitions
    if n * s.length < lengthLimit then
      return .text (String.ofList (replicated n s.toList))
    else if n * s.length < indexBound then .error .noMemory
    else .error .repeatedTooLong
  | v => .error (.unsupported "*" v.kind w.kind)

/-! ## Products -/

/-- So many of a unit. -/
def ofUnit (v : Value) (u : Unit Plain) : Except Error Value := do
  ofResult (u.quantity.scale (← v.toDouble))

/-- A quantity times a value that stands on either side of it. -/
def scaled (q : Quantity Plain) (factor : Value) (unsupported : Error) : Except Error Value :=
  match factor.number? with
  | some x => do ofResult (q.scale (← x))
  | none => .error unsupported

/-- The product of two values. -/
def mul (v w : Value) : Except Error Value :=
  let unsupported := Error.unsupported "*" v.kind w.kind
  match v, w with
  | .dimension d, w => do
    return .dimension (← finiteDimension (d.mul? (← w.toDimension)))
  | .quantity q, .quantity r => ofResult (q.mul r)
  | .unit _, .unit _ => .error unsupported
  | v, .unit u => v.ofUnit u
  | .tuple _, w => repeated v w
  | .text _, w => repeated v w
  | v, .tuple _ => repeated w v
  | v, .text _ => repeated w v
  | .quantity q, w => scaled q w unsupported
  | v, .quantity r => scaled r v unsupported
  | .plain x, .plain y => ofNumber (x.mul y)
  | _, _ => .error unsupported

/-- The quotient of two values. -/
def div (v w : Value) : Except Error Value :=
  match v, w with
  | .dimension d, w => do
    return .dimension (← finiteDimension (d.div? (← w.toDimension)))
  | v, .dimension e => do
    return .dimension (← finiteDimension ((← v.toDimension).div? e))
  | .quantity q, w =>
    match w.quantity? with
    | some r => do ofResult (q.div (← r))
    | none => .error (.unsupported "/" v.kind w.kind)
  | v, .quantity r => do ofResult ((← v.asQuantity).div r)
  | .plain x, .plain y => ofNumber (x.div y)
  | v, w => .error (.unsupported "/" v.kind w.kind)

/-- The remainder of two values. A text is filled in with the value on its right. -/
def mod (v w : Value) : Except Error Value :=
  match v, w with
  | .quantity q, w =>
    match w.quantity? with
    | some r => do ofResult (q.mod (← r))
    | none => .error (.unsupported "%" v.kind w.kind)
  | .plain x, .plain y => ofNumber (x.mod y)
  | .text s, w => (Template.fill s w).map .text
  | v, w => .error (.unsupported "%" v.kind w.kind)

/-! ## Powers -/

/-- The name of the operator for powers. -/
def powerName : String := "** or pow()"

/-- The power of two values. -/
def pow (v w : Value) : Except Error Value :=
  match v, w with
  | .dimension d, w =>
    match w.number? with
    | some n => do return .dimension (← finiteDimension (d.pow? (← n)))
    | none => .error (.notAnExponent w.kind)
  | .quantity q, .quantity n => ofResult (q.pow n)
  | .quantity q, w => do ofResult (q.powScalar (← w.toDouble))
  | .plain x, .plain y => ofNumber (x.pow y)
  | v, w => .error (.unsupported powerName v.kind w.kind)

/-- The power of two values, reduced by a modulus. Only integers have one, and a double
anywhere is refused as such. -/
def powMod (v w modulus : Value) : Except Error Value :=
  let hasDouble := [v, w, modulus].any fun x => x.kind == "float"
  match v, w, modulus with
  | v, w, .nothing => v.pow w
  | .dimension _, _, _ => .error .noModulus
  | .quantity _, _, _ => .error (.arity (.named "Quantity.__pow__" ["self", "n"]) 3)
  | .plain x, .plain y, .plain m => ofNumber (x.powMod y m)
  | v, w, modulus =>
    if hasDouble then .error (.plain .modularDoubles)
    else .error (.unsupportedModulus v.kind w.kind modulus.kind)

/-! ## Signs -/

/-- The value of opposite sign. -/
def neg (v : Value) : Except Error Value :=
  match v with
  | .quantity q => .ok (.quantity q.neg)
  | .plain x => .ok (.plain x.neg)
  | v => .error (.badOperand "unary -" v.kind)

/-- The value itself, if it can have a sign. -/
def pos (v : Value) : Except Error Value :=
  match v with
  | .quantity _ => .ok v
  | .plain x => .ok (.plain x.pos)
  | v => .error (.badOperand "unary +" v.kind)

/-- The magnitude of a value. -/
def abs (v : Value) : Except Error Value :=
  match v with
  | .quantity q => .ok (.quantity q.abs)
  | .plain x => .ok (.plain x.abs)
  | v => .error (.badOperand "abs()" v.kind)

end UnitCalc.Script.Value
